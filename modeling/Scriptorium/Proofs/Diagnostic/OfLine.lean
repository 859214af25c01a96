import Scriptorium.Proofs.Diagnostic.Position

/-! What a diagnostic that was read from a line looks like. Its texts are cut out of the line, and
trimmed: so what is rendered of it again is one line, which begins with a character that is not
blank, and ends with one as well unless the message is empty. -/

namespace Scriptorium

open Text

namespace Position

variable {s f : Text} {p : Position}

theorem cutRange_isPrefix (s : Text) : cutRange s <+: s := by
  induction s with
  | nil => exact List.prefix_rfl
  | cons c s ih =>
    rw [cutRange_cons]
    split
    · next hrange =>
      obtain ⟨rest, hrest⟩ := hrange
      exact ⟨'-' :: '(' :: rest, by simpa using hrest⟩
    · exact (List.prefix_cons_inj c).mpr ih

/-- A file that is named at all begins with a character that is not blank. -/
theorem file_eq_cons (h : read? s = some p) (hf : p.file = some f) :
    ∃ c a, f = c :: a ∧ isBlank c = false := by
  unfold read? at h
  dsimp only at h
  split at h
  · obtain ⟨file, -, -, -, -, -, -, -, -, hfile⟩ := readParenthesised?_eq_some_iff.mp h
    rw [hf] at hfile
    split at hfile
    · simp at hfile
    · next hne =>
      obtain rfl := Option.some.inj hfile
      exact trim_eq_cons (by simpa using hne)
  · obtain ⟨file, l, c, hs, -, -, hne, -, -, hfile⟩ := readColons?_eq_some_iff.mp h
    obtain rfl : file = f := by simpa [hf] using hfile.symm
    obtain ⟨x, a, rfl⟩ := List.exists_cons_of_ne_nil hne
    obtain ⟨y, b, hcons, hy⟩ := trim_eq_cons (s := s) (by simp [hs])
    obtain rfl : y = x := by simpa [hcons] using congrArg List.head? hs
    exact ⟨y, a, rfl, hy⟩

theorem file_subset (h : read? s = some p) (hf : p.file = some f) : f ⊆ s := by
  rcases file_of_read? h hf with ⟨file, inside, hcut, rfl⟩ | ⟨rest, hrest⟩
  · have hfile : file ⊆ cutRange (trim s) := hcut ▸ List.subset_append_left _ _
    have hcut : cutRange (trim s) ⊆ s :=
      List.Subset.trans (cutRange_isPrefix _).subset (trim_subset s)
    exact List.Subset.trans (trim_subset file) (List.Subset.trans hfile hcut)
  · exact List.Subset.trans (hrest ▸ List.subset_append_left _ _) (trim_subset s)

end Position

namespace Diagnostic

variable {line s m : Text} {d : Diagnostic} {v : Severity} {code : Option Text}

/-- What reading the line guarantees of the diagnostic that it opens. -/
structure OfLine (line : Text) (d : Diagnostic) : Prop where
  code : ∀ c ∈ d.code, c ≠ [] ∧ ':' ∉ c ∧ ∀ x ∈ c, isBlank x = false
  trimmed : trim d.message = d.message
  message : d.message ⊆ line
  file : ∀ p ∈ d.position, ∀ f ∈ p.file, (∃ c a, f = c :: a ∧ isBlank c = false) ∧ f ⊆ line

/-! ### Reading -/

theorem Body.message_subset (h : Body s v code m) : trim m = m ∧ m ⊆ s := by
  cases h with
  | plain m hw =>
    exact ⟨trim_trim m, fun c hc => by simp [trim_subset m hc]⟩
  | coded m hw hcolon hne hblank =>
    exact ⟨trim_trim m, fun c hc => by simp [trim_subset m hc]⟩

theorem Body.code_wellFormed (h : Body s v code m) :
    ∀ c ∈ code, c ≠ [] ∧ ':' ∉ c ∧ ∀ x ∈ c, isBlank x = false := by
  cases h with
  | plain m hw => simp
  | coded m hw hcolon hne hblank =>
    intro c hc
    obtain rfl := Option.some.inj hc
    exact ⟨hne, fun hmem => hcolon (trim_subset _ hmem), hblank⟩

theorem ofLine_of_readLocated? (h : readLocated? [] line = some d) : d.OfLine line := by
  obtain ⟨a, b, rfl, hcut, -⟩ := exists_readCut? h
  obtain ⟨p, hlocation, hposition, hbody⟩ := readCut?_eq_some_iff.mp hcut
  obtain ⟨htrim, hsubset⟩ := hbody.message_subset
  refine ⟨hbody.code_wellFormed, htrim, fun c hc => by simp [hsubset hc], fun p' hp' f hf => ?_⟩
  obtain rfl : p = p' := by simpa [hposition] using hp'
  exact ⟨Position.file_eq_cons hlocation hf, fun c hc => by
    simp [show c ∈ a from Position.file_subset hlocation hf hc]⟩

theorem ofLine_of_readHeadline? {bare : Bool} (h : readHeadline? bare line = some d) :
    d.OfLine line := by
  unfold readHeadline? at h
  split at h
  · next e hbare =>
    obtain rfl := Option.some.inj h
    split at hbare
    · obtain ⟨hbody, hposition⟩ := readBody?_eq_some_iff.mp hbare
      obtain ⟨htrim, hsubset⟩ := hbody.message_subset
      exact ⟨hbody.code_wellFormed, htrim, List.Subset.trans hsubset (trimStart_suffix line).subset,
        by simp [hposition]⟩
    · simp at hbare
  · exact ofLine_of_readLocated? h

/-! ### Rendering -/

/-- The rendering of a diagnostic is not indented, unless its file is. -/
theorem render_eq_cons
    (h : ∀ p ∈ d.position, ∀ f ∈ p.file, ∃ c a, f = c :: a ∧ isBlank c = false) :
    ∃ c a, d.render = c :: a ∧ isBlank c = false := by
  cases hp : d.position with
  | none =>
    obtain ⟨c, a, hword, hc⟩ := d.severity.word_eq_cons
    exact ⟨c, a ++ d.codePart ++ ": ".toList ++ d.message, by simp [render, locationPart, hp, hword], hc⟩
  | some p =>
    cases hf : p.file with
    | none => exact ⟨'(', _, by simp [render, locationPart, hp, Position.render, hf]; rfl, by decide⟩
    | some f =>
      obtain ⟨c, a, rfl, hc⟩ := h p hp f hf
      exact ⟨c, _, by simp [render, locationPart, hp, Position.render, hf]; rfl, hc⟩

namespace OfLine

theorem render_eq_cons (h : d.OfLine line) : ∃ c a, d.render = c :: a ∧ isBlank c = false :=
  Diagnostic.render_eq_cons fun p hp f hf => (h.file p hp f hf).1

theorem newline_notMem_render (h : d.OfLine line) (hline : '\n' ∉ line) : '\n' ∉ d.render := by
  have hword : '\n' ∉ d.severity.word := d.severity.newline_notMem_word
  have hcode : '\n' ∉ d.codePart := newline_notMem_codePart fun c hc => (h.code c hc).2.2
  have hmessage : '\n' ∉ d.message := fun hmem => hline (h.message hmem)
  have hlocation : '\n' ∉ d.locationPart := by
    cases hp : d.position with
    | none => simp [locationPart, hp]
    | some p =>
      have hnumbers : '\n' ∉ p.numbers .pair := fun hmem =>
        absurd (Position.not_blank_of_mem_numbers hmem) (by decide)
      have hfile : '\n' ∉ p.file.getD [] := by
        cases hf : p.file with
        | none => simp
        | some f => exact fun hmem => hline ((h.file p hp f hf).2 hmem)
      simp [locationPart, hp, Position.render_eq_write, Position.write, hnumbers, hfile]
  simp [render, hlocation, hword, hcode, hmessage]

theorem trimEnd_render (h : d.OfLine line) :
    trimEnd d.render = d.render ∨ trimEnd d.render ++ [' '] = d.render := by
  by_cases hm : d.message = []
  · right
    have hrender : d.render = (d.locationPart ++ d.severity.word ++ d.codePart) ++ ':' :: [' '] := by
      simp [render, hm]
    rw [hrender, trimEnd_append_cons (by decide)]
    simp [trimEnd, isBlank]
  · left
    rw [trimEnd_eq_self_iff, render, List.getLast?_append_of_ne_nil _ hm]
    exact (trim_eq_self_iff.mp h.trimmed).2

end OfLine

end Diagnostic

end Scriptorium
