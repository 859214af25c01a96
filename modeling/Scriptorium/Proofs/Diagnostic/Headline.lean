import Mathlib.Data.Nat.Digits.Defs
import Scriptorium.Proofs.Diagnostic.Grammar

/-! The grammar of a line that opens a diagnostic, down to its words and numerals, and each reader
against its part of the grammar. Reading accepts what the grammar describes and nothing else; where
a line can be cut into a location and a body in several places, the leftmost one counts. -/

namespace Scriptorium

open Text

/-! ### Words -/

namespace Severity

variable {w : Text} {v : Severity}

/-- The words for a severity, in any case of their letters. -/
inductive Word : Text → Severity → Prop
  | error {w : Text} (h : w.map Char.toLower = "error".toList) : Word w .error
  | warning {w : Text} (h : w.map Char.toLower = "warning".toList) : Word w .warning
  | info {w : Text} (h : w.map Char.toLower = "info".toList) : Word w .info
  | information {w : Text} (h : w.map Char.toLower = "information".toList) : Word w .info
  | note {w : Text} (h : w.map Char.toLower = "note".toList) : Word w .info

theorem ofWord?_eq_some_iff : ofWord? w = some v ↔ Word w v := by
  constructor
  · intro h
    obtain ⟨l₁, l₂, hwords, -⟩ := List.lookup_eq_some_iff.mp h
    have hmem : (w.map Char.toLower, v) ∈ words := by simp [hwords]
    simp only [words, List.mem_cons, Prod.mk.injEq, List.not_mem_nil, or_false] at hmem
    rcases hmem with ⟨hw, rfl⟩ | ⟨hw, rfl⟩ | ⟨hw, rfl⟩ | ⟨hw, rfl⟩ | ⟨hw, rfl⟩
    · exact .error hw
    · exact .warning hw
    · exact .info hw
    · exact .information hw
    · exact .note hw
  · intro h
    cases h with
    | error h | warning h | info h | information h | note h =>
      rw [ofWord?, h]
      rfl

end Severity

/-! ### Numerals -/

namespace Text

variable {s : Text} {n : UInt32} {c : Char}

/-- Decimal digits with a value below `2 ^ 32`, and a plus sign in front of them or none. -/
def Numeral (s : Text) (n : UInt32) : Prop :=
  ∃ digits, (s = digits ∨ s = '+' :: digits) ∧ digits ≠ [] ∧ (∀ c ∈ digits, c.isDigit = true) ∧
    Nat.ofDigits 10 (digits.reverse.map digitValue) = n.toNat

theorem readDigits_eq_ofDigits (s : Text) :
    readDigits s = Nat.ofDigits 10 (s.reverse.map digitValue) := by
  rw [Nat.ofDigits_eq_foldr, List.foldr_map, List.foldr_reverse, readDigits]
  congr 1
  funext n c
  exact Nat.add_comm _ _

theorem readNat?_eq_some_iff {k : Nat} : readNat? s = some k ↔
    s ≠ [] ∧ (∀ c ∈ s, c.isDigit = true) ∧ Nat.ofDigits 10 (s.reverse.map digitValue) = k := by
  have hrefused : (s.isEmpty || !s.all Char.isDigit) = true ↔
      ¬(s ≠ [] ∧ ∀ c ∈ s, c.isDigit = true) := by
    rw [Bool.or_eq_true, List.isEmpty_iff, Bool.not_eq_true', ← Bool.not_eq_true, List.all_eq_true,
      not_and_or, not_not]
  rw [← readDigits_eq_ofDigits, readNat?, ← and_assoc]
  by_cases h : s ≠ [] ∧ ∀ c ∈ s, c.isDigit = true
  · rw [if_neg (mt hrefused.mp (not_not_intro h)), Option.some.injEq]
    exact (and_iff_right h).symm
  · rw [if_pos (hrefused.mpr h)]
    exact iff_of_false (by simp) fun hand => h hand.1

theorem eq_dropPlus_or (s : Text) : s = dropPlus s ∨ s = '+' :: dropPlus s := by
  unfold dropPlus
  split
  · exact .inr rfl
  · exact .inl rfl

theorem readWord?_eq_some_iff : readWord? s = some n ↔ Numeral s n := by
  have hword {k : Nat} : (if k < UInt32.size then some (UInt32.ofNat k) else none) = some n ↔
      k = n.toNat := by
    constructor
    · intro h
      split at h
      · next hk =>
        obtain rfl := Option.some.inj h
        simp [Nat.mod_eq_of_lt hk]
      · simp at h
    · rintro rfl
      rw [if_pos n.toNat_lt, UInt32.ofNat_toNat]
  simp only [readWord?, Option.bind_eq_some_iff, hword, readNat?_eq_some_iff]
  constructor
  · rintro ⟨k, ⟨hne, hdigits, hvalue⟩, hk⟩
    exact ⟨dropPlus s, eq_dropPlus_or s, hne, hdigits, hvalue.trans hk⟩
  · rintro ⟨digits, hs, hne, hdigits, hvalue⟩
    have hdrop : dropPlus s = digits := by
      rcases hs with rfl | rfl
      · exact dropPlus_of_notMem fun hplus => absurd (hdigits '+' hplus) (by decide)
      · rfl
    exact ⟨n.toNat, hdrop ▸ ⟨hne, hdigits, hvalue⟩, rfl⟩

theorem Numeral.notMem (h : Numeral s n) (hdigit : c.isDigit = false) (hplus : c ≠ '+') : c ∉ s := by
  obtain ⟨digits, hs, -, hdigits, -⟩ := h
  have hfree : c ∉ digits := fun hc => by simp [hdigits c hc] at hdigit
  rcases hs with rfl | rfl
  · exact hfree
  · simp [hplus, hfree]

theorem Numeral.ne_nil (h : Numeral s n) : s ≠ [] := by
  obtain ⟨digits, rfl | rfl, hne, -⟩ := h
  · exact hne
  · exact List.cons_ne_nil _ _

end Text

/-! ### Locations -/

namespace Position

variable {s v inside : Text} {line column : UInt32} {p : Position}

/-- What is left of a text that is cut just behind the `)` of its first `)-(`, if it has one. -/
inductive Cut : Text → Text → Prop
  | whole {s : Text} (h : ¬[')', '-', '('] <:+: s) : Cut s s
  | range {a b : Text} (h : ¬[')', '-', '('] <:+: a ++ [')', '-']) :
      Cut (a ++ ')' :: '-' :: '(' :: b) (a ++ [')'])

/-- `l,c` or `l,c,x,y`. -/
inductive Numbers : Text → UInt32 → UInt32 → Prop
  | pair {l c : Text} {line column : UInt32} (hl : Numeral (trim l) line)
      (hc : Numeral (trim c) column) : Numbers (l ++ ',' :: c) line column
  | quad {l c x y : Text} {line column : UInt32} (hl : Numeral (trim l) line)
      (hc : Numeral (trim c) column) (hx : ',' ∉ x) (hy : ',' ∉ y) :
      Numbers (l ++ ',' :: (c ++ ',' :: (x ++ ',' :: y))) line column

/-- A text that, trimmed, is `FILE(l,c)`, `FILE(l,c,x,y)`, either of these with a range behind it, or
`FILE:l:c`. -/
inductive Location (s : Text) : Position → Prop
  | parenthesised {file inside : Text} {line column : UInt32}
      (hend : (trim s).getLast? = some ')') (hcut : Cut (trim s) (file ++ '(' :: inside ++ [')']))
      (hfree : '(' ∉ inside) (hnumbers : Numbers inside line column) :
      Location s ⟨if trim file = [] then none else some (trim file), line, column⟩
  | colons {file l c : Text} {line column : UInt32} (hs : trim s = file ++ ':' :: l ++ ':' :: c)
      (hne : file ≠ []) (hl : Numeral l line) (hc : Numeral c column) :
      Location s ⟨some file, line, column⟩

theorem cut_cutRange (s : Text) : Cut s (cutRange s) := by
  induction s with
  | nil => exact .whole (by simp)
  | cons c s ih =>
    by_cases hp : [')', '-', '('] <+: c :: s
    · obtain ⟨b, hb⟩ := hp
      rw [← hb]
      exact .range (a := []) (by decide)
    · rw [cutRange_cons, if_neg hp]
      generalize hv : cutRange s = v at ih
      cases ih with
      | whole h => exact .whole fun hi => (List.infix_cons_iff.mp hi).elim hp h
      | @range a b h =>
        refine .range (a := c :: a) fun hi => (List.infix_cons_iff.mp hi).elim (fun hfront => ?_) h
        exact hp (hfront.trans ⟨'(' :: b, by simp⟩)

theorem cut_iff : Cut s v ↔ cutRange s = v := by
  constructor
  · intro h
    cases h with
    | whole h => exact cutRange_of_not_infix h
    | range h => exact cutRange_first h
  · rintro rfl
    exact cut_cutRange s

/-- A range that is cut leaves the `)` at the end. -/
theorem Cut.getLast? (h : Cut s v) (hs : s.getLast? = some ')') : v.getLast? = some ')' := by
  cases h with
  | whole h => exact hs
  | range h => exact List.getLast?_concat

theorem numbers_iff : Numbers inside line column ↔
    ∃ l c, (inside.splitOn ',' = [l, c] ∨ ∃ x y, inside.splitOn ',' = [l, c, x, y]) ∧
      Numeral (trim l) line ∧ Numeral (trim c) column := by
  have hpart {s : Text} {n : UInt32} (h : Numeral (trim s) n) : s.splitOn ',' = [s] :=
    List.splitOn_eq_singleton fun hmem => h.notMem (by decide) (by decide) (mem_trim hmem (by decide))
  constructor
  · intro h
    cases h with
    | @pair l c _ _ hl hc =>
      refine ⟨l, c, .inl ?_, hl, hc⟩
      rw [List.splitOn_append_cons_self, hpart hl, hpart hc]
      rfl
    | @quad l c x y _ _ hl hc hx hy =>
      refine ⟨l, c, .inr ⟨x, y, ?_⟩, hl, hc⟩
      rw [List.splitOn_append_cons_self, List.splitOn_append_cons_self,
        List.splitOn_append_cons_self, hpart hl, hpart hc, List.splitOn_eq_singleton hx,
        List.splitOn_eq_singleton hy]
      rfl
  · rintro ⟨l, c, hparts, hl, hc⟩
    have hjoin : [','].intercalate (inside.splitOn ',') = inside := List.intercalate_splitOn ','
    rcases hparts with hparts | ⟨x, y, hparts⟩
    · rw [← hjoin, hparts]
      simpa using Numbers.pair hl hc
    · have hx : ',' ∉ x := not_mem_of_mem_splitOn (s := inside) (by simp [hparts])
      have hy : ',' ∉ y := not_mem_of_mem_splitOn (s := inside) (by simp [hparts])
      rw [← hjoin, hparts]
      simpa using Numbers.quad hl hc hx hy

theorem read?_eq_some_iff : read? s = some p ↔ Location s p := by
  constructor
  · intro h
    obtain ⟨file, line, column⟩ := p
    unfold read? at h
    dsimp only at h
    split at h
    · next hend =>
      obtain ⟨front, inside, l, c, hdrop, hfree, hparts, hl, hc, hfile⟩ :=
        readParenthesised?_eq_some_iff.mp h
      dsimp only at hl hc hfile
      have hlast : cutRange (trim s) = front ++ '(' :: inside ++ [')'] := by
        obtain ⟨v, hv⟩ := List.getLast?_eq_some_iff.mp ((cut_cutRange (trim s)).getLast? hend)
        rw [hv, List.dropLast_concat] at hdrop
        rw [hv, hdrop]
      have hnumbers : Numbers inside line column :=
        numbers_iff.mpr ⟨l, c, hparts, readWord?_eq_some_iff.mp hl, readWord?_eq_some_iff.mp hc⟩
      simp only [List.isEmpty_iff] at hfile
      rw [hfile]
      exact .parenthesised hend (cut_iff.mpr hlast) hfree hnumbers
    · obtain ⟨front, l, c, hs, -, -, hne, hl, hc, hfile⟩ := readColons?_eq_some_iff.mp h
      dsimp only at hl hc hfile
      rw [hfile]
      exact .colons hs hne (readWord?_eq_some_iff.mp hl) (readWord?_eq_some_iff.mp hc)
  · intro h
    unfold read?
    dsimp only
    cases h with
    | @parenthesised file inside line column hend hcut hfree hnumbers =>
      obtain ⟨l, c, hparts, hl, hc⟩ := numbers_iff.mp hnumbers
      rw [if_pos hend, cut_iff.mp hcut, List.dropLast_concat]
      exact readParenthesised?_eq_some_iff.mpr ⟨file, inside, l, c, rfl, hfree, hparts,
        readWord?_eq_some_iff.mpr hl, readWord?_eq_some_iff.mpr hc, by simp [List.isEmpty_iff]⟩
    | @colons file l c line column hs hne hl hc =>
      have hend : (trim s).getLast? ≠ some ')' := fun hlast => by
        rw [hs, List.getLast?_append_of_ne_nil _ (List.cons_ne_nil _ _),
          List.getLast?_cons_of_ne_nil hc.ne_nil] at hlast
        exact hc.notMem (by decide) (by decide) (List.mem_of_getLast? hlast)
      rw [if_neg hend]
      exact readColons?_eq_some_iff.mpr ⟨file, l, c, hs, hl.notMem (by decide) (by decide),
        hc.notMem (by decide) (by decide), hne, readWord?_eq_some_iff.mpr hl,
        readWord?_eq_some_iff.mpr hc, rfl⟩

end Position

/-! ### Lines -/

namespace Diagnostic

variable {bare : Bool} {line a b : Text} {d : Diagnostic}

/-- The line, but for blanks in front, is a body. -/
def Bare (line : Text) (d : Diagnostic) : Prop :=
  Body (trimStart line) d.severity d.code d.message ∧ d.position = none

/-- The line is a location and a body with a separator between them. -/
structure Located (line a b : Text) (d : Diagnostic) : Prop where
  cut : line = a ++ ':' :: ' ' :: b
  location : ∃ p, Position.Location a p ∧ d.position = some p
  body : Body b d.severity d.code d.message

/-- What a line opens: a body alone, where that is allowed, goes before a location and a body, and
of those the leftmost. -/
inductive Opens (bare : Bool) (line : Text) (d : Diagnostic) : Prop
  | alone (hbare : bare = true) (h : Bare line d)
  | located {a b : Text} (hbare : bare = true → ∀ d', ¬Bare line d') (h : Located line a b d)
      (hfirst : ∀ a' b' d', Located line a' b' d' → a.length ≤ a'.length)

theorem located_iff : Located line a b d ↔ line = a ++ ':' :: ' ' :: b ∧ readCut? a b = some d := by
  simp only [readCut?_eq_some_iff, Position.read?_eq_some_iff]
  constructor
  · rintro ⟨hcut, ⟨p, hlocation, hposition⟩, hbody⟩
    exact ⟨hcut, p, hlocation, hposition, hbody⟩
  · rintro ⟨hcut, p, hlocation, hposition, hbody⟩
    exact ⟨hcut, ⟨p, hlocation, hposition⟩, hbody⟩

theorem readLocated?_eq_some_iff : readLocated? [] line = some d ↔
    ∃ a b, Located line a b d ∧ ∀ a' b' d', Located line a' b' d' → a.length ≤ a'.length := by
  constructor
  · intro h
    obtain ⟨a, b, hline, hread, hfirst⟩ := exists_readCut? h
    refine ⟨a, b, located_iff.mpr ⟨hline, hread⟩, fun a' b' d' h' => ?_⟩
    obtain ⟨hline', hread'⟩ := located_iff.mp h'
    by_contra hlt
    simp only [List.reverse_nil, List.nil_append] at hfirst
    simp [hfirst a' b' hline' (by omega)] at hread'
  · rintro ⟨a, b, h, hfirst⟩
    obtain ⟨rfl, hread⟩ := located_iff.mp h
    refine readLocated?_of_first hread fun a' b' hline' hlt => ?_
    cases hread' : readCut? a' b' with
    | none => rfl
    | some d' =>
      have hle := hfirst a' b' d' (located_iff.mpr ⟨hline', hread'⟩)
      omega

theorem readLocated?_eq_none_iff :
    readLocated? [] line = none ↔ ∀ a b d, ¬Located line a b d := by
  constructor
  · intro h a b d hlocated
    obtain ⟨hline, hread⟩ := located_iff.mp hlocated
    have hnone := readCut?_eq_none h hline
    simp [hread] at hnone
  · intro h
    cases hread : readLocated? [] line with
    | none => rfl
    | some d =>
      obtain ⟨a, b, hlocated, -⟩ := readLocated?_eq_some_iff.mp hread
      exact absurd hlocated (h a b d)

theorem readHeadline?_eq (bare : Bool) (line : Text) : readHeadline? bare line =
    (if bare then readBody? none (trimStart line) else none).or (readLocated? [] line) := by
  rw [readHeadline?]
  cases if bare then readBody? none (trimStart line) else none <;> rfl

theorem readAlone?_eq_none_iff : (if bare then readBody? none (trimStart line) else none) = none ↔
    (bare = true → ∀ d, ¬Bare line d) := by
  cases bare with
  | false => simp
  | true =>
    rw [if_pos rfl, Option.eq_none_iff_forall_ne_some]
    simp only [ne_eq, readBody?_eq_some_iff, Bare, forall_const]

theorem readHeadline?_eq_some_iff : readHeadline? bare line = some d ↔ Opens bare line d := by
  rw [readHeadline?_eq, Option.or_eq_some_iff, readAlone?_eq_none_iff, readLocated?_eq_some_iff]
  constructor
  · rintro (h | ⟨hbare, a, b, h, hfirst⟩)
    · cases bare with
      | false => simp at h
      | true => exact .alone rfl (readBody?_eq_some_iff.mp h)
    · exact .located hbare h hfirst
  · intro h
    cases h with
    | alone hbare h =>
      rw [if_pos hbare]
      exact .inl (readBody?_eq_some_iff.mpr h)
    | @located a b hbare h hfirst => exact .inr ⟨hbare, a, b, h, hfirst⟩

/-- A line is read as what it opens, down to the words that count as severities, and it is refused
exactly if it neither is a body that may stand alone nor can be cut anywhere into a location and a
body. -/
theorem headline_accepts_grammar :
    (∀ w v, Severity.ofWord? w = some v ↔ Severity.Word w v) ∧
      ∀ bare line, (∀ d, readHeadline? bare line = some d ↔ Opens bare line d) ∧
        (readHeadline? bare line = none ↔
          (bare = true → ∀ d, ¬Bare line d) ∧ ∀ a b d, ¬Located line a b d) := by
  refine ⟨fun _ _ => Severity.ofWord?_eq_some_iff, fun bare line => ⟨fun _ =>
    readHeadline?_eq_some_iff, ?_⟩⟩
  rw [readHeadline?_eq, Option.or_eq_none_iff, readAlone?_eq_none_iff, readLocated?_eq_none_iff]

/-- The first separator is in the file. -/
example : readHeadline? true "C: a.fs(1,2)-(3,4): Error FS1: x: y".toList =
    some ⟨.error, some "FS1".toList, "x: y".toList, some ⟨some "C: a.fs".toList, 1, 2⟩⟩ := by decide

end Diagnostic

end Scriptorium
