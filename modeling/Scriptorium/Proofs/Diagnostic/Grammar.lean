import Scriptorium.Diagnostic.Headline
import Scriptorium.Proofs.Text.Cut
import Scriptorium.Proofs.Text.Trim

/-! The grammar of headlines. A body is read exactly if it is one, a location tells where its file
stands, and of all the places where a line could be cut into a location and a body the leftmost
counts, however far the line is indented. -/

namespace Scriptorium

open Text

/-! ### Severity words -/

namespace Severity

variable {w s q rest : Text} {v : Severity} {c x : Char}

theorem isAlpha_of_isLower_toLower (h : c.toLower.isLower = true) : c.isAlpha = true := by
  unfold Char.toLower at h
  split at h
  · next hupper => exact Bool.or_eq_true_iff.mpr (.inl (decide_eq_true hupper))
  · exact Bool.or_eq_true_iff.mpr (.inr h)

theorem isAlpha_of_ofWord? (h : ofWord? w = some v) (hc : c ∈ w) : c.isAlpha = true := by
  have hlower : ∀ x ∈ words, ∀ c ∈ x.1, c.isLower = true := by simp [words]
  obtain ⟨l₁, l₂, hl, -⟩ := List.lookup_eq_some_iff.mp h
  exact isAlpha_of_isLower_toLower (hlower (_, v) (by simp [hl]) _ (List.mem_map_of_mem hc))

theorem ofWord?_word (v : Severity) : ofWord? v.word = some v := by
  cases v <;> decide

theorem word_eq_cons (v : Severity) : ∃ c s, v.word = c :: s ∧ isBlank c = false := by
  cases v <;> exact ⟨_, _, rfl, by decide⟩

theorem newline_notMem_word (v : Severity) : '\n' ∉ v.word := by cases v <;> decide

theorem takeWhile_word (hw : ofWord? w = some v) (hc : c.isAlpha = false) :
    (w ++ c :: s).takeWhile Char.isAlpha = w := by
  rw [List.takeWhile_append_of_pos fun _ => isAlpha_of_ofWord? hw,
    List.takeWhile_cons_of_neg (by simp [hc]), List.append_nil]

theorem dropWhile_word (hw : ofWord? w = some v) (hc : c.isAlpha = false) :
    (w ++ c :: s).dropWhile Char.isAlpha = c :: s := by
  rw [List.dropWhile_append_of_pos fun _ => isAlpha_of_ofWord? hw,
    List.dropWhile_cons_of_neg (by simp [hc])]

/-- A severity word stands at the front, with a colon or a blank behind it. -/
def Announced (s : Text) : Prop :=
  ∃ w v c rest, ofWord? w = some v ∧ (c = ':' ∨ c = ' ') ∧ s = w ++ c :: rest

theorem announced_iff : Announced s ↔ (ofWord? (s.takeWhile Char.isAlpha)).isSome ∧
    ((s.dropWhile Char.isAlpha).head? = some ':' ∨ (s.dropWhile Char.isAlpha).head? = some ' ') := by
  constructor
  · rintro ⟨w, v, c, rest, hw, hc, rfl⟩
    have halpha : c.isAlpha = false := by rcases hc with rfl | rfl <;> decide
    rw [takeWhile_word hw halpha, dropWhile_word hw halpha, hw]
    simpa using hc
  · rintro ⟨hw, hc⟩
    obtain ⟨v, hv⟩ := Option.isSome_iff_exists.mp hw
    obtain ⟨c, hhead, hmark⟩ :
        ∃ c, (s.dropWhile Char.isAlpha).head? = some c ∧ (c = ':' ∨ c = ' ') := by
      rcases hc with hc | hc
      · exact ⟨_, hc, .inl rfl⟩
      · exact ⟨_, hc, .inr rfl⟩
    obtain ⟨rest, hrest⟩ := List.head?_eq_some_iff.mp hhead
    exact ⟨_, v, c, rest, hv, hmark, by rw [← hrest, List.takeWhile_append_dropWhile]⟩

instance : Decidable (Announced s) := decidable_of_iff _ announced_iff.symm

theorem not_announced_nil : ¬Announced [] := by decide

/-- Behind a word at the front of a text, whatever stands in front of a character that is no letter
goes on at least as far as the word. -/
theorem word_in_front (hw : ofWord? w = some v) (hc : c.isAlpha = false)
    (h : w ++ x :: rest = s ++ c :: q) :
    (∃ n, s = w ++ x :: n ∧ rest = n ++ c :: q) ∨ w = s ∧ x = c ∧ rest = q := by
  rcases List.append_eq_append_iff.mp h with ⟨m, rfl, hm⟩ | ⟨m, rfl, hm⟩
  · cases m with
    | nil => exact .inr (by simpa using hm)
    | cons y m =>
      obtain ⟨rfl, rfl⟩ : x = y ∧ rest = m ++ c :: q := by simpa using hm
      exact .inl ⟨m, rfl, rfl⟩
  · cases m with
    | nil => exact .inr (by simpa [eq_comm] using hm)
    | cons y m =>
      obtain ⟨rfl, -⟩ : c = y ∧ q = m ++ x :: rest := by simpa using hm
      simp [isAlpha_of_ofWord? hw (c := c) (by simp)] at hc

theorem announced_append_cons_iff (hc : c.isAlpha = false) :
    Announced (s ++ c :: q) ↔ Announced s ∨ (ofWord? s).isSome ∧ (c = ':' ∨ c = ' ') := by
  constructor
  · rintro ⟨w, v, d, rest, hw, hd, heq⟩
    rcases word_in_front hw hc heq.symm with ⟨n, rfl, -⟩ | ⟨rfl, rfl, -⟩
    · exact .inl ⟨w, v, d, n, hw, hd, rfl⟩
    · exact .inr ⟨by simp [hw], hd⟩
  · rintro (⟨w, v, d, rest, hw, hd, rfl⟩ | ⟨hs, hc⟩)
    · exact ⟨w, v, d, rest ++ c :: q, hw, hd, by simp⟩
    · obtain ⟨v, hv⟩ := Option.isSome_iff_exists.mp hs
      exact ⟨s, v, c, q, hv, hc, rfl⟩

end Severity

/-! ### Bodies -/

namespace Diagnostic

variable {s a b : Text} {p : Option Position} {d : Diagnostic}

/-- The bodies of headlines. -/
inductive Body : Text → Severity → Option Text → Text → Prop
  | plain {w : Text} {v : Severity} (m : Text) (hw : Severity.ofWord? w = some v) :
      Body (w ++ ':' :: m) v none (trim m)
  | coded {w : Text} {v : Severity} {code : Text} (m : Text) (hw : Severity.ofWord? w = some v)
      (hcolon : ':' ∉ code) (hne : trim code ≠ []) (hblank : ∀ c ∈ trim code, isBlank c = false) :
      Body (w ++ ' ' :: (code ++ ':' :: m)) v (some (trim code)) (trim m)

/-- What is rendered behind a location, without the blanks at its end. -/
def trimmedBody (d : Diagnostic) : Text :=
  d.severity.word ++ d.codePart ++ ':' :: trimEnd (' ' :: d.message)

theorem newline_notMem_codePart (h : ∀ c ∈ d.code, ∀ x ∈ c, isBlank x = false) :
    '\n' ∉ d.codePart := by
  cases hc : d.code with
  | none => simp [codePart, hc]
  | some c =>
    have hblank : '\n' ∉ c := fun hmem => absurd (h c hc _ hmem) (by decide)
    simp [codePart, hc, hblank]

theorem trimStart_trimmedBody (d : Diagnostic) : trimStart d.trimmedBody = d.trimmedBody := by
  obtain ⟨c, s, hword, hc⟩ := d.severity.word_eq_cons
  rw [trimmedBody, hword, List.cons_append, List.cons_append, trimStart_cons_of_not hc]

theorem body_trimmedBody
    (hcode : ∀ c ∈ d.code, c ≠ [] ∧ ':' ∉ c ∧ ∀ x ∈ c, isBlank x = false) :
    Body d.trimmedBody d.severity d.code (trim d.message) := by
  have hmessage : trim (trimEnd (' ' :: d.message)) = trim d.message := by
    rw [trim_trimEnd, trim_cons_of_blank (by decide)]
  rw [← hmessage]
  cases hc : d.code with
  | none =>
    have hplain := Body.plain (trimEnd (' ' :: d.message)) (Severity.ofWord?_word d.severity)
    simpa [trimmedBody, codePart, hc] using hplain
  | some c =>
    obtain ⟨hne, hcolon, hblank⟩ := hcode c hc
    have htrim : trim c = c := trim_of_blank_free hblank
    have hcoded := Body.coded (trimEnd (' ' :: d.message)) (Severity.ofWord?_word d.severity)
      hcolon (by rwa [htrim]) (by rwa [htrim])
    rw [htrim] at hcoded
    simpa [trimmedBody, codePart, hc] using hcoded

theorem Body.announced {v : Severity} {code : Option Text} {m : Text} (h : Body s v code m) :
    Severity.Announced s := by
  cases h with
  | plain m hw => exact ⟨_, _, _, _, hw, .inl rfl, rfl⟩
  | coded m hw => exact ⟨_, _, _, _, hw, .inr rfl, rfl⟩

theorem readBody?_eq_some_iff :
    readBody? p s = some d ↔ Body s d.severity d.code d.message ∧ d.position = p := by
  constructor
  · intro h
    have hs : s.takeWhile Char.isAlpha ++ s.dropWhile Char.isAlpha = s :=
      List.takeWhile_append_dropWhile
    unfold readBody? at h
    split at h
    · next v m hw hrest =>
      obtain rfl := Option.some.inj h
      rw [hrest] at hs
      exact ⟨hs ▸ .plain m hw, rfl⟩
    · next v rest hw hrest =>
      rw [hrest] at hs
      split at h
      · next code x m hspan =>
        obtain ⟨rfl, rfl, hcolon⟩ := span_eq_cons_iff.mp hspan
        dsimp only at h
        split at h
        · simp at h
        · next hcode =>
          obtain rfl := Option.some.inj h
          obtain ⟨hne, hblank⟩ : trim code ≠ [] ∧ ∀ c ∈ trim code, isBlank c = false := by
            simpa using hcode
          exact ⟨hs ▸ .coded m hw hcolon hne hblank, rfl⟩
      · simp at h
    · simp at h
  · rintro ⟨h, rfl⟩
    obtain ⟨v, code, m, p⟩ := d
    dsimp only at h
    unfold readBody?
    cases h with
    | plain m hw =>
      rw [Severity.takeWhile_word hw (by decide), Severity.dropWhile_word hw (by decide), hw]
      rfl
    | @coded w _ code m hw hcolon hne hblank =>
      have hspan : (code ++ ':' :: m).span (· ≠ ':') = (code, ':' :: m) :=
        span_eq_cons_iff.mpr ⟨rfl, rfl, hcolon⟩
      have hcode : ((trim code).isEmpty || (trim code).any isBlank) = false := by
        simpa using ⟨hne, hblank⟩
      rw [Severity.takeWhile_word hw (by decide), Severity.dropWhile_word hw (by decide), hw]
      simp only [hspan, hcode]
      rfl

theorem readBody?_of_not_announced (h : ¬Severity.Announced s) : readBody? p s = none := by
  cases hread : readBody? p s with
  | none => rfl
  | some d => exact absurd (readBody?_eq_some_iff.mp hread).1.announced h

end Diagnostic

/-! ### Locations -/

namespace Position

variable {s a b f : Text} {c : Char} {p : Position}

theorem cutRange_cons (c : Char) (s : Text) :
    cutRange (c :: s) = if [')', '-', '('] <+: c :: s then [')'] else c :: cutRange s := by
  rw [cutRange.eq_def]
  split
  · next rest heq => rw [if_pos ⟨rest, heq.symm⟩]
  · next d t hno heq =>
    obtain ⟨rfl, rfl⟩ : c = d ∧ s = t := by simpa using heq
    rw [if_neg]
    rintro ⟨rest, hrest⟩
    obtain ⟨rfl, rfl⟩ : ')' = c ∧ '-' :: '(' :: rest = s := by simpa using hrest
    exact hno rest rfl rfl
  · next heq => simp at heq

theorem cutRange_of_not_infix (h : ¬[')', '-', '('] <:+: s) : cutRange s = s := by
  induction s with
  | nil => rfl
  | cons c s ih =>
    rw [cutRange_cons, if_neg fun hp => h hp.isInfix, ih fun hi => h (List.infix_cons hi)]

theorem length_cutRange_le (s : Text) : (cutRange s).length ≤ s.length := by
  induction s with
  | nil => exact Nat.le_refl _
  | cons c s ih =>
    rw [cutRange_cons]
    split
    · simp
    · simpa using ih

/-- Whatever comes behind it, a range is cut at the first place where one is. -/
theorem cutRange_append (h : [')', '-', '('] <:+: a) :
    ∃ x y, a = x ++ ')' :: '-' :: '(' :: y ∧ ∀ b, cutRange (a ++ b) = x ++ [')'] := by
  induction a with
  | nil => simp at h
  | cons c a ih =>
    by_cases hp : [')', '-', '('] <+: c :: a
    · obtain ⟨y, hy⟩ := hp
      refine ⟨[], y, hy.symm, fun b => ?_⟩
      rw [List.cons_append, cutRange_cons, if_pos]
      · rfl
      · exact ⟨y ++ b, by rw [← List.append_assoc, hy, List.cons_append]⟩
    · have ha : [')', '-', '('] <:+: a := (List.infix_cons_iff.mp h).resolve_left hp
      obtain ⟨x, y, rfl, hcut⟩ := ih ha
      refine ⟨c :: x, y, rfl, fun b => ?_⟩
      rw [List.cons_append, cutRange_cons, if_neg, hcut, List.cons_append]
      intro hpb
      exact hp (List.prefix_of_prefix_length_le hpb (List.prefix_append (c :: _) b)
        (by simp; omega))

theorem cutRange_first (h : ¬[')', '-', '('] <:+: a ++ [')', '-']) :
    cutRange (a ++ ')' :: '-' :: '(' :: b) = a ++ [')'] := by
  obtain ⟨x, y, heq, hcut⟩ :=
    cutRange_append (a := a ++ [')', '-', '(']) (List.suffix_append a _).isInfix
  rcases List.eq_nil_or_concat y with rfl | ⟨z, d, rfl⟩
  · obtain rfl : a = x := List.append_cancel_right heq
    simpa using hcut b
  · have hx : a ++ [')', '-'] = x ++ [')', '-', '('] ++ z := by
      have hlast : (a ++ [')', '-']) ++ ['('] = (x ++ [')', '-', '('] ++ z) ++ [d] := by
        simpa using heq
      exact (List.append_inj' hlast rfl).1
    exact absurd (hx ▸ List.infix_append x _ z) h

theorem readParenthesised?_eq_some_iff : readParenthesised? s = some p ↔
    ∃ file inside l c, s = file ++ '(' :: inside ∧ '(' ∉ inside ∧
      (inside.splitOn ',' = [l, c] ∨ ∃ x y, inside.splitOn ',' = [l, c, x, y]) ∧
      readWord? (trim l) = some p.line ∧ readWord? (trim c) = some p.column ∧
      p.file = if (trim file).isEmpty then none else some (trim file) := by
  constructor
  · intro h
    unfold readParenthesised? at h
    split at h
    · simp at h
    · next file inside hcut =>
      obtain ⟨rfl, hfree⟩ := cutLast?_eq_some_iff.mp hcut
      split at h
      · next l c hparts =>
        split at h
        · next line column hline hcolumn =>
          obtain rfl := Option.some.inj h
          exact ⟨file, inside, l, c, rfl, hfree, .inl hparts, hline, hcolumn, rfl⟩
        · simp at h
      · next l c x y hparts =>
        split at h
        · next line column hline hcolumn =>
          obtain rfl := Option.some.inj h
          exact ⟨file, inside, l, c, rfl, hfree, .inr ⟨x, y, hparts⟩, hline, hcolumn, rfl⟩
        · simp at h
      · simp at h
  · rintro ⟨file, inside, l, c, rfl, hfree, hparts, hl, hc, hfile⟩
    obtain ⟨pf, pl, pc⟩ := p
    dsimp only at hl hc hfile
    unfold readParenthesised?
    rw [cutLast?_append hfree]
    rcases hparts with hparts | ⟨x, y, hparts⟩ <;> simp only [hparts, hl, hc, hfile]

theorem readColons?_eq_some_iff : readColons? s = some p ↔
    ∃ file l c, s = file ++ ':' :: l ++ ':' :: c ∧ ':' ∉ l ∧ ':' ∉ c ∧ file ≠ [] ∧
      readWord? l = some p.line ∧ readWord? c = some p.column ∧ p.file = some file := by
  constructor
  · intro h
    unfold readColons? at h
    split at h
    · simp at h
    · next rest c hcut =>
      obtain ⟨rfl, hc⟩ := cutLast?_eq_some_iff.mp hcut
      split at h
      · simp at h
      · next file l hcut =>
        obtain ⟨rfl, hl⟩ := cutLast?_eq_some_iff.mp hcut
        split at h
        · next line column hline hcolumn =>
          split at h
          · simp at h
          · next hne =>
            obtain rfl := Option.some.inj h
            exact ⟨file, l, c, rfl, hl, hc, by simpa using hne, hline, hcolumn, rfl⟩
        · simp at h
  · rintro ⟨file, l, c, rfl, hl, hc, hne, hline, hcolumn, hfile⟩
    obtain ⟨pf, pl, pc⟩ := p
    dsimp only at hline hcolumn hfile
    unfold readColons?
    rw [cutLast?_append hc]
    dsimp only
    rw [cutLast?_append hl]
    simp [hline, hcolumn, hne, hfile]

theorem read?_append_of_blank {indent : Text} (h : ∀ c ∈ indent, isBlank c = true) :
    read? (indent ++ s) = read? s := by
  unfold read?
  rw [trim_append_of_blank h]

/-- The file of a location stands in front of the numbers: of the last opening parenthesis that is
left after a range is cut, or of a colon. -/
theorem file_of_read? (h : read? s = some p) (hf : p.file = some f) :
    (∃ file inside, cutRange (trim s) = file ++ '(' :: inside ∧ f = trim file) ∨
      ∃ rest, trim s = f ++ ':' :: rest := by
  unfold read? at h
  dsimp only at h
  split at h
  · obtain ⟨file, inside, -, -, hcut, -, -, -, -, hfile⟩ := readParenthesised?_eq_some_iff.mp h
    have hne : cutRange (trim s) ≠ [] := fun hnil => by simp [hnil] at hcut
    refine .inl ⟨file, inside ++ [(cutRange (trim s)).getLast hne], ?_, ?_⟩
    · rw [← List.cons_append, ← List.append_assoc, ← hcut, List.dropLast_append_getLast]
    · rw [hf] at hfile
      split at hfile
      · simp at hfile
      · exact Option.some.inj hfile
  · obtain ⟨file, l, c, hs, -, -, -, -, -, hfile⟩ := readColons?_eq_some_iff.mp h
    obtain rfl : file = f := by simpa [hf] using hfile.symm
    exact .inr ⟨l ++ ':' :: c, by simpa using hs⟩

theorem length_file_lt (h : read? s = some p) (hf : p.file = some f) : f.length < s.length := by
  have htrim := length_trim_le s
  rcases file_of_read? h hf with ⟨file, inside, hcut, rfl⟩ | ⟨rest, hrest⟩
  · have hfile := length_trim_le file
    have hrange := length_cutRange_le (trim s)
    rw [hcut, List.length_append, List.length_cons] at hrange
    omega
  · rw [hrest, List.length_append, List.length_cons] at htrim
    omega

end Position

/-! ### Places to cut a line -/

namespace Diagnostic

variable {before indent s a b : Text} {c : Char} {d : Diagnostic}

/-- The diagnostic of a line that is cut into a location and a body. -/
def readCut? (location body : Text) : Option Diagnostic :=
  (Position.read? location).bind fun p => readBody? (some p) body

theorem readCut?_eq_some_iff : readCut? a b = some d ↔
    ∃ p, Position.read? a = some p ∧ d.position = some p ∧ Body b d.severity d.code d.message := by
  simp only [readCut?, Option.bind_eq_some_iff, readBody?_eq_some_iff, and_comm]

theorem readLocated?_cons_cons (before : Text) (c x : Char) (s : Text) :
    readLocated? before (c :: x :: s) =
      ((if c = ':' ∧ x = ' ' then readCut? before.reverse s else none).or
        (readLocated? (c :: before) (x :: s))) := by
  rw [readLocated?]
  by_cases h : c = ':' ∧ x = ' '
  · simp only [if_pos h, readCut?]
    cases Position.read? before.reverse with
    | none => rfl
    | some p =>
      dsimp only [Option.bind_some]
      cases readBody? (some p) s <;> rfl
  · simp only [if_neg h]
    rfl

theorem readCut?_eq_none (h : readLocated? before s = none) (hs : s = a ++ ':' :: ' ' :: b) :
    readCut? (before.reverse ++ a) b = none := by
  induction s generalizing before a with
  | nil => simp at hs
  | cons c s ih =>
    cases s with
    | nil =>
      have hlen := congrArg List.length hs
      simp at hlen
      omega
    | cons x s =>
      rw [readLocated?_cons_cons, Option.or_eq_none_iff] at h
      cases a with
      | nil =>
        obtain ⟨rfl, rfl, rfl⟩ : c = ':' ∧ x = ' ' ∧ s = b := by simpa using hs
        simpa using h.1
      | cons y a =>
        obtain ⟨rfl, htail⟩ : c = y ∧ x :: s = a ++ ':' :: ' ' :: b := by simpa using hs
        simpa using ih h.2 htail

/-- What is found comes from a cut that reads, and no cut in front of it does. -/
theorem exists_readCut? (h : readLocated? before s = some d) :
    ∃ a b, s = a ++ ':' :: ' ' :: b ∧ readCut? (before.reverse ++ a) b = some d ∧
      ∀ a' b', s = a' ++ ':' :: ' ' :: b' → a'.length < a.length →
        readCut? (before.reverse ++ a') b' = none := by
  induction s generalizing before with
  | nil => simp [readLocated?] at h
  | cons c s ih =>
    cases s with
    | nil => simp [readLocated?] at h
    | cons x s =>
      rw [readLocated?_cons_cons, Option.or_eq_some_iff] at h
      rcases h with h | ⟨hfirst, h⟩
      · split at h
        · next hcut =>
          obtain ⟨rfl, rfl⟩ := hcut
          exact ⟨[], s, rfl, by simpa using h, fun a' b' _ hlt => by simp at hlt⟩
        · simp at h
      · obtain ⟨a, b, hs, hread, hfront⟩ := ih h
        refine ⟨c :: a, b, by rw [hs]; rfl, by simpa using hread, fun a' b' hs' hlt => ?_⟩
        cases a' with
        | nil =>
          obtain ⟨rfl, rfl, rfl⟩ : c = ':' ∧ x = ' ' ∧ s = b' := by simpa using hs'
          simpa using hfirst
        | cons y a' =>
          obtain ⟨rfl, htail⟩ : c = y ∧ x :: s = a' ++ ':' :: ' ' :: b' := by simpa using hs'
          simpa using hfront a' b' htail (by simpa using hlt)

theorem readLocated?_of_first (h : readCut? a b = some d)
    (hfirst : ∀ a' b', a ++ ':' :: ' ' :: b = a' ++ ':' :: ' ' :: b' → a'.length < a.length →
      readCut? a' b' = none) :
    readLocated? [] (a ++ ':' :: ' ' :: b) = some d := by
  cases hread : readLocated? [] (a ++ ':' :: ' ' :: b) with
  | none => simpa [h] using readCut?_eq_none hread rfl
  | some d' =>
    obtain ⟨a', b', heq, h', hfront⟩ := exists_readCut? hread
    simp only [List.reverse_nil, List.nil_append] at h' hfront
    rcases Nat.lt_trichotomy a'.length a.length with hlt | hlen | hlt
    · simp [hfirst a' b' heq hlt] at h'
    · obtain ⟨rfl, hb⟩ := List.append_inj heq hlen.symm
      obtain rfl : b = b' := by simpa using hb
      exact h'.symm.trans h
    · simp [hfront a b rfl hlt] at h

/-! ### Indentation -/

theorem readLocated?_cons_of_ne (h : c ≠ ':') (before s : Text) :
    readLocated? before (c :: s) = readLocated? (c :: before) s := by
  cases s with
  | nil => rw [readLocated?, readLocated?]
  | cons x s => rw [readLocated?_cons_cons, if_neg fun hc => h hc.1, Option.none_or]

theorem readLocated?_append_of_blank (h : ∀ c ∈ indent, isBlank c = true) (before s : Text) :
    readLocated? (before ++ indent.reverse) s = readLocated? before s := by
  induction s generalizing before with
  | nil => rw [readLocated?, readLocated?]
  | cons c s ih =>
    cases s with
    | nil => rw [readLocated?, readLocated?]
    | cons x s =>
      have hcut : readCut? (before ++ indent.reverse).reverse s = readCut? before.reverse s := by
        rw [readCut?, List.reverse_append, List.reverse_reverse, Position.read?_append_of_blank h,
          readCut?]
      rw [readLocated?_cons_cons, readLocated?_cons_cons, hcut, ← List.cons_append, ih]

/-- No separator begins with a blank. -/
theorem readLocated?_pass (h : ∀ c ∈ indent, isBlank c = true) (before s : Text) :
    readLocated? before (indent ++ s) = readLocated? (indent.reverse ++ before) s := by
  induction indent generalizing before with
  | nil => rfl
  | cons c indent ih =>
    have hc : c ≠ ':' := by
      rintro rfl
      exact absurd (h ':' List.mem_cons_self) (by decide)
    rw [List.cons_append, readLocated?_cons_of_ne hc, ih fun x hx => h x (List.mem_cons_of_mem c hx)]
    simp

theorem readLocated?_indent (h : ∀ c ∈ indent, isBlank c = true) (s : Text) :
    readLocated? [] (indent ++ s) = readLocated? [] s := by
  rw [readLocated?_pass h, List.append_nil]
  exact readLocated?_append_of_blank h [] s

/-- Once it is settled whether a body may stand alone, indentation says nothing. -/
theorem readHeadline?_indent (h : ∀ c ∈ indent, isBlank c = true) (bare : Bool) (s : Text) :
    readHeadline? bare (indent ++ s) = readHeadline? bare s := by
  rw [readHeadline?, trimStart_append_of_blank h, readLocated?_indent h, readHeadline?]

theorem readHeadline?_trimEnd (bare : Bool) (line : Text) :
    readHeadline? bare (trimEnd line) = readHeadline? bare (trim line) := by
  obtain ⟨indent, hblank, hsplit⟩ := exists_indent (trimEnd line)
  rw [trimStart_trimEnd] at hsplit
  rw [hsplit, readHeadline?_indent hblank]

end Diagnostic

end Scriptorium
