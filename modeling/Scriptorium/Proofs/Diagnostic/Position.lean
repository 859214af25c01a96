import Mathlib.Data.List.Infix
import Scriptorium.Proofs.Diagnostic.Grammar

/-! Positions as a compiler writes them, in one of several dialects. Whatever the dialect, a position
is read back if its file stands clear of the numbers behind it; and a line that begins with a
position has no other place to cut in front of its end than those within the file. -/

namespace Scriptorium

open Text

/-! ### Dialects -/

/-- How a position is written. Where a range ends is written down, and never read. -/
inductive Dialect
  /-- `FILE(l,c)`. -/
  | pair
  /-- `FILE(l,c,el,ec)`. -/
  | quad (endLine endColumn : UInt32)
  /-- `FILE(l,c)-(el,ec)`. -/
  | range (endLine endColumn : UInt32)
  /-- `FILE:l:c`. -/
  | colons

def commaSeparated (ns : List UInt32) : Text := [','].intercalate (ns.map fun n => decimal n.toNat)

def parenthesised (ns : List UInt32) : Text := '(' :: (commaSeparated ns ++ [')'])

namespace Position

/-- What is written behind the file. -/
def numbers (p : Position) : Dialect → Text
  | .pair => parenthesised [p.line, p.column]
  | .quad el ec => parenthesised [p.line, p.column, el, ec]
  | .range el ec => parenthesised [p.line, p.column] ++ '-' :: parenthesised [el, ec]
  | .colons => ':' :: (decimal p.line.toNat ++ ':' :: decimal p.column.toNat)

def write (p : Position) (y : Dialect) : Text := p.file.getD [] ++ p.numbers y

/-- A file name that stands clear of the numbers behind it. -/
structure FileName (f : Text) : Prop where
  ne_nil : f ≠ []
  trimmed : trim f = f
  noRange : ¬[')', '-', '('] <:+: f
  noRangeEnd : ¬[')', '-'] <:+ f

instance (f : Text) : Decidable (FileName f) :=
  decidable_of_iff (f ≠ [] ∧ trim f = f ∧ ¬[')', '-', '('] <:+: f ∧ ¬[')', '-'] <:+ f)
    ⟨fun ⟨h₁, h₂, h₃, h₄⟩ => ⟨h₁, h₂, h₃, h₄⟩, fun ⟨h₁, h₂, h₃, h₄⟩ => ⟨h₁, h₂, h₃, h₄⟩⟩

end Position

/-! ### Numbers -/

theorem mem_commaSeparated {ns : List UInt32} {c : Char} (h : c ∈ commaSeparated ns) :
    c = ',' ∨ c.isDigit = true := by
  induction ns with
  | nil => simp [commaSeparated] at h
  | cons n ns ih =>
    cases ns with
    | nil =>
      rw [commaSeparated, List.map_singleton, List.intercalate_singleton] at h
      exact .inr (isDigit_of_mem_decimal h)
    | cons m ns =>
      rw [commaSeparated, List.map_cons, List.map_cons, List.intercalate_cons_cons,
        List.mem_append, List.mem_append, List.mem_singleton] at h
      rcases h with (h | h) | h
      · exact .inr (isDigit_of_mem_decimal h)
      · exact .inl h
      · exact ih h

theorem splitOn_commaSeparated {ns : List UInt32} (h : ns ≠ []) :
    (commaSeparated ns).splitOn ',' = ns.map fun n => decimal n.toNat := by
  refine List.splitOn_intercalate ',' (fun l hl => ?_) (by simpa using h)
  obtain ⟨n, -, rfl⟩ := List.mem_map.mp hl
  exact not_mem_decimal (by decide)

namespace Position

variable {p : Position} {y : Dialect} {c : Char} {ns : List UInt32}

theorem mem_numbers (h : c ∈ p.numbers y) : c.isDigit = true ∨ c ∈ ['(', ')', ',', '-', ':'] := by
  have hparens (ns : List UInt32) (h : c ∈ parenthesised ns) :
      c.isDigit = true ∨ c ∈ ['(', ')', ',', '-', ':'] := by
    simp only [parenthesised, List.mem_cons, List.mem_append, List.not_mem_nil, or_false] at h
    rcases h with rfl | h | rfl
    · exact .inr (by decide)
    · exact (mem_commaSeparated h).symm.imp_right fun h => by simp [h]
    · exact .inr (by decide)
  cases y with
  | pair => exact hparens _ h
  | quad el ec => exact hparens _ h
  | range el ec =>
    simp only [numbers, List.mem_append, List.mem_cons] at h
    rcases h with h | rfl | h
    · exact hparens _ h
    · exact .inr (by decide)
    · exact hparens _ h
  | colons =>
    simp only [numbers, List.mem_append, List.mem_cons] at h
    rcases h with rfl | h | rfl | h
    · exact .inr (by decide)
    · exact .inl (isDigit_of_mem_decimal h)
    · exact .inr (by decide)
    · exact .inl (isDigit_of_mem_decimal h)

theorem not_blank_of_mem_numbers (h : c ∈ p.numbers y) : isBlank c = false := by
  have hmarks : ∀ c ∈ ['(', ')', ',', '-', ':'], isBlank c = false := by simp [isBlank]
  exact (mem_numbers h).elim not_blank_of_isDigit (hmarks c)

/-! ### Reading back -/

/-- Neither the file nor the numbers behind it let a range begin too early. -/
theorem no_range (ns : List UInt32) (hfile : ∀ f ∈ p.file, FileName f) :
    ¬[')', '-', '('] <:+: p.file.getD [] ++ (parenthesised ns ++ ['-']) := by
  rintro ⟨a, b, h⟩
  have hfree : '(' ∉ commaSeparated ns ++ [')', '-'] := fun hmem => by
    rcases List.mem_append.mp hmem with hmem | hmem
    · exact absurd (mem_commaSeparated hmem) (by decide)
    · simp at hmem
  have hfront : [')', '-', '('] <:+: p.file.getD [] ∨ [')', '-'] <:+ p.file.getD [] :=
    range_in_front (by simpa [parenthesised] using h) hfree
  cases hf : p.file with
  | none => simp [hf] at hfront
  | some f =>
    rw [hf, Option.getD_some] at hfront
    exact hfront.elim (hfile f hf).noRange (hfile f hf).noRangeEnd

theorem readParenthesised?_numbers (hfile : ∀ f ∈ p.file, FileName f)
    (hns : ns = [p.line, p.column] ∨ ∃ el ec, ns = [p.line, p.column, el, ec]) :
    readParenthesised? (p.file.getD [] ++ '(' :: commaSeparated ns) = some p := by
  have hfree : '(' ∉ commaSeparated ns := fun hmem => absurd (mem_commaSeparated hmem) (by decide)
  have htrim (n : UInt32) : trim (decimal n.toNat) = decimal n.toNat :=
    trim_of_blank_free fun _ hc => not_blank_of_isDigit (isDigit_of_mem_decimal hc)
  refine readParenthesised?_eq_some_iff.mpr ⟨_, _, decimal p.line.toNat, decimal p.column.toNat,
    rfl, hfree, ?_, by rw [htrim, readWord?_decimal], by rw [htrim, readWord?_decimal], ?_⟩
  · rcases hns with rfl | ⟨el, ec, rfl⟩
    · exact .inl (splitOn_commaSeparated (by simp))
    · exact .inr ⟨_, _, splitOn_commaSeparated (by simp)⟩
  · cases hf : p.file with
    | none => rfl
    | some f => simp [(hfile f hf).trimmed, (hfile f hf).ne_nil]

theorem numbers_eq_cons (p : Position) (y : Dialect) :
    ∃ c s, p.numbers y = c :: s ∧ (c = '(' ∨ c = ':' ∧ y = .colons) := by
  cases y with
  | pair | quad el ec | range el ec => exact ⟨_, _, rfl, .inl rfl⟩
  | colons => exact ⟨_, _, rfl, .inr ⟨rfl, rfl⟩⟩

theorem write_eq_cons (hfile : ∀ f ∈ p.file, FileName f) :
    ∃ c s, p.write y = c :: s ∧ isBlank c = false := by
  obtain ⟨x, q, hnumbers, -⟩ := p.numbers_eq_cons y
  cases hf : p.file with
  | none =>
    have hx : isBlank x = false := not_blank_of_mem_numbers (p := p) (y := y) (by simp [hnumbers])
    exact ⟨x, q, by simp [write, hf, hnumbers], hx⟩
  | some f =>
    obtain ⟨c, s, rfl⟩ := List.exists_cons_of_ne_nil (hfile f hf).ne_nil
    exact ⟨c, s ++ p.numbers y, by simp [write, hf],
      (trim_eq_self_iff.mp (hfile _ hf).trimmed).1 c (by simp)⟩

theorem trim_write (hfile : ∀ f ∈ p.file, FileName f) :
    trim (p.write y) = p.write y := by
  refine trim_eq_self_iff.mpr ⟨fun c hc => ?_, fun c hc => ?_⟩
  · obtain ⟨x, s, hwrite, hx⟩ := write_eq_cons (y := y) hfile
    obtain rfl : x = c := by simpa [hwrite] using hc
    exact hx
  · obtain ⟨x, q, hnumbers, -⟩ := p.numbers_eq_cons y
    have hne : p.numbers y ≠ [] := hnumbers ▸ List.cons_ne_nil x q
    rw [write, List.getLast?_append_of_ne_nil _ hne] at hc
    exact not_blank_of_mem_numbers (List.mem_of_getLast? hc)

/-- A position is read back whatever the dialect it is written in. -/
theorem read?_write (hfile : ∀ f ∈ p.file, FileName f)
    (hcolons : y = .colons → p.file.isSome) : read? (p.write y) = some p := by
  have hcut (ns : List UInt32) :
      cutRange (p.file.getD [] ++ parenthesised ns) = p.file.getD [] ++ parenthesised ns :=
    cutRange_of_not_infix fun h =>
      no_range ns hfile (List.append_assoc _ _ ['-'] ▸ List.infix_append_of_infix_left h)
  have hlast (s : Text) (ns : List UInt32) : (s ++ parenthesised ns).getLast? = some ')' := by
    rw [parenthesised, ← List.cons_append, ← List.append_assoc, List.getLast?_concat]
  have hdrop (ns : List UInt32) :
      (p.file.getD [] ++ parenthesised ns).dropLast = p.file.getD [] ++ '(' :: commaSeparated ns := by
    rw [parenthesised, ← List.cons_append, ← List.append_assoc, List.dropLast_concat]
  unfold read?
  rw [trim_write hfile]
  dsimp only
  cases y with
  | pair =>
    rw [write, numbers, if_pos (hlast _ _), hcut, hdrop]
    exact readParenthesised?_numbers hfile (.inl rfl)
  | quad el ec =>
    rw [write, numbers, if_pos (hlast _ _), hcut, hdrop]
    exact readParenthesised?_numbers hfile (.inr ⟨el, ec, rfl⟩)
  | range el ec =>
    have hrange : cutRange (p.write (.range el ec)) =
        p.file.getD [] ++ parenthesised [p.line, p.column] := by
      have hfirst := cutRange_first (b := commaSeparated [el, ec] ++ [')'])
        (a := p.file.getD [] ++ '(' :: commaSeparated [p.line, p.column])
        (by simpa [parenthesised] using no_range [p.line, p.column] hfile)
      simpa [write, numbers, parenthesised] using hfirst
    have hend : (p.write (.range el ec)).getLast? = some ')' := by
      simpa [write, numbers] using
        hlast (p.file.getD [] ++ (parenthesised [p.line, p.column] ++ ['-'])) [el, ec]
    rw [if_pos hend, hrange, hdrop]
    exact readParenthesised?_numbers hfile (.inl rfl)
  | colons =>
    obtain ⟨f, hf⟩ := Option.isSome_iff_exists.mp (hcolons rfl)
    have hwrite : p.write .colons =
        p.file.getD [] ++ ':' :: (decimal p.line.toNat ++ [':']) ++ decimal p.column.toNat := by
      simp [write, numbers]
    have hend : (p.write .colons).getLast? ≠ some ')' := fun h => by
      rw [hwrite, List.getLast?_append_of_ne_nil _ (decimal_ne_nil _)] at h
      exact not_mem_decimal (by decide) (List.mem_of_getLast? h)
    rw [if_neg hend]
    exact readColons?_eq_some_iff.mpr ⟨f, decimal p.line.toNat, decimal p.column.toNat,
      by simp [write, numbers, hf], not_mem_decimal (by decide), not_mem_decimal (by decide),
      (hfile f hf).ne_nil, readWord?_decimal _, readWord?_decimal _, hf⟩

theorem render_eq_write (p : Position) : p.render = p.write .pair := by
  simp [render, write, numbers, parenthesised, commaSeparated]

theorem trimEnd_render {d : Diagnostic} (hp : d.position = some p) :
    trimEnd d.render = p.write .pair ++ ':' :: ' ' :: d.trimmedBody := by
  have hrender : d.render = (p.write .pair ++ ':' :: ' ' :: d.severity.word ++ d.codePart) ++
      ':' :: ' ' :: d.message := by
    simp [Diagnostic.render, Diagnostic.locationPart, hp, render_eq_write]
  rw [hrender, trimEnd_append_cons (by decide), Diagnostic.trimmedBody]
  simp

/-- In front of the end of a position a line can be cut within the file only. -/
theorem cut_in_file {s a b : Text} (h : p.write y ++ ':' :: ' ' :: s = a ++ ':' :: ' ' :: b)
    (hlt : a.length < (p.write y).length) : ∃ c, p.file.getD [] = a ++ ':' :: ' ' :: c ∧
      b = c ++ p.numbers y ++ ':' :: ' ' :: s := by
  have hblank : ' ' ∉ p.numbers y := fun hmem =>
    absurd (not_blank_of_mem_numbers hmem) (by decide)
  obtain ⟨c, hwrite, rfl⟩ := colon_before_colon h.symm hlt
  obtain ⟨c, hfile, rfl⟩ := colon_in_front hwrite.symm hblank
  exact ⟨c, hfile, rfl⟩

end Position

end Scriptorium
