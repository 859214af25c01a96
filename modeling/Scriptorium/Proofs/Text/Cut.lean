import Mathlib.Data.List.Basic
import Mathlib.Data.List.TakeDrop
import Mathlib.Data.List.TakeWhile
import Scriptorium.Text.Numeral

/-! Cutting text apart where it was put together: at the first separator, at the last one, in front
of what holds none. A decimal numeral is made of digits, so it holds no separator, and it reads
back. -/

namespace Scriptorium.Text

variable {c x sep : Char} {s a b p q : Text}

/-! ### Separators -/

theorem span_eq_cons_iff :
    s.span (· ≠ sep) = (a, x :: b) ↔ x = sep ∧ s = a ++ sep :: b ∧ sep ∉ a := by
  rw [List.span_eq_takeWhile_dropWhile, Prod.mk.injEq]
  constructor
  · rintro ⟨rfl, hdrop⟩
    have hs : s.takeWhile (· ≠ sep) ++ x :: b = s := hdrop ▸ List.takeWhile_append_dropWhile
    have hne : s.dropWhile (· ≠ sep) ≠ [] := hdrop ▸ List.cons_ne_nil x b
    have hhead : (s.dropWhile (· ≠ sep)).head hne = x := by simp only [hdrop, List.head_cons]
    obtain rfl : x = sep := by
      simpa only [hhead, decide_eq_false_iff_not, not_not] using List.head_dropWhile_not _ hne
    exact ⟨rfl, hs.symm, fun hmem => by simpa using List.mem_takeWhile_imp hmem⟩
  · rintro ⟨rfl, rfl, hfree⟩
    have ha : ∀ c ∈ a, decide (c ≠ x) = true := fun c hc => by
      simpa using fun h : c = x => hfree (h ▸ hc)
    rw [List.takeWhile_append_of_pos ha, List.dropWhile_append_of_pos ha]
    simp

theorem span_of_notMem (h : sep ∉ s) : s.span (· ≠ sep) = (s, []) := by
  have hall : ∀ c ∈ s, decide (c ≠ sep) = true := fun c hc => by
    simpa using fun he : c = sep => h (he ▸ hc)
  rw [List.span_eq_takeWhile_dropWhile, List.takeWhile_eq_self_iff.mpr hall,
    List.dropWhile_eq_nil_iff.mpr hall]

/-- There is one way to cut a text at its first separator. -/
theorem append_cons_inj_of_first (h : a ++ sep :: b = p ++ sep :: q) (ha : sep ∉ a) (hp : sep ∉ p) :
    a = p ∧ b = q := by
  have hspan : (p ++ sep :: q).span (· ≠ sep) = (a, sep :: b) := span_eq_cons_iff.mpr ⟨rfl, h.symm, ha⟩
  rw [span_eq_cons_iff.mpr ⟨rfl, rfl, hp⟩] at hspan
  simpa [eq_comm] using hspan

theorem cutLast?_eq_some_iff : cutLast? sep s = some (a, b) ↔ s = a ++ sep :: b ∧ sep ∉ b := by
  unfold cutLast?
  constructor
  · intro h
    split at h
    · next behind x before hspan =>
      obtain ⟨rfl, rfl⟩ : before.reverse = a ∧ behind.reverse = b := by simpa using h
      obtain ⟨-, hs, hfree⟩ := span_eq_cons_iff.mp hspan
      refine ⟨?_, by simpa using hfree⟩
      simpa using congrArg List.reverse hs
    · simp at h
  · rintro ⟨rfl, hfree⟩
    have hspan : (a ++ sep :: b).reverse.span (· ≠ sep) = (b.reverse, sep :: a.reverse) :=
      span_eq_cons_iff.mpr ⟨rfl, by simp, by simpa using hfree⟩
    rw [hspan]
    simp

theorem cutLast?_append (h : sep ∉ b) : cutLast? sep (a ++ sep :: b) = some (a, b) :=
  cutLast?_eq_some_iff.mpr ⟨rfl, h⟩

theorem cutLast?_eq_none_iff : cutLast? sep s = none ↔ sep ∉ s := by
  constructor
  · intro h hmem
    obtain ⟨b, a, hrev, hfree⟩ := List.eq_append_cons_of_mem (List.mem_reverse.mpr hmem)
    obtain rfl : s = a.reverse ++ sep :: b.reverse := by simpa using congrArg List.reverse hrev
    simp [cutLast?_append (a := a.reverse) (b := b.reverse) (by simpa using hfree)] at h
  · intro h
    unfold cutLast?
    rw [span_of_notMem (by simpa using h)]

theorem not_mem_of_mem_splitOn (h : a ∈ s.splitOn sep) : sep ∉ a := by
  induction s generalizing a with
  | nil =>
    obtain rfl : a = [] := by simpa using h
    exact List.not_mem_nil
  | cons x s ih =>
    rw [List.splitOn_cons_eq_if_modifyHead] at h
    split at h
    · rcases List.mem_cons.mp h with rfl | h
      · exact List.not_mem_nil
      · exact ih h
    · next hx =>
      cases hs : s.splitOn sep with
      | nil => exact absurd hs (List.splitOn_ne_nil sep s)
      | cons part parts =>
        rw [hs, List.modifyHead_cons] at h
        rw [hs] at ih
        rcases List.mem_cons.mp h with rfl | h
        · have hx : sep ≠ x := fun he => hx (by simp [he])
          simpa [hx] using ih List.mem_cons_self
        · exact ih (List.mem_cons_of_mem part h)

theorem mem_intercalate {ls : List Text} (h : c ∈ [sep].intercalate ls) :
    c = sep ∨ ∃ l ∈ ls, c ∈ l := by
  induction ls with
  | nil => simp at h
  | cons l ls ih =>
    cases ls with
    | nil => exact .inr ⟨l, List.mem_cons_self, by simpa using h⟩
    | cons m ls =>
      rw [List.intercalate_cons_cons, List.mem_append, List.mem_append, List.mem_singleton] at h
      rcases h with (h | h) | h
      · exact .inr ⟨l, List.mem_cons_self, h⟩
      · exact .inl h
      · exact (ih h).imp_right fun ⟨n, hn, hc⟩ => ⟨n, List.mem_cons_of_mem l hn, hc⟩

theorem unlines_cons (s : Text) (ls : List Text) :
    unlines (s :: ls) = s ++ ls.flatMap ('\n' :: ·) := by
  induction ls generalizing s with
  | nil => simp [unlines]
  | cons l ls ih =>
    rw [unlines, List.intercalate_cons_cons, ← unlines, ih, List.flatMap_cons]
    simp

theorem newline_unlines {ls : List Text} (h : ls ≠ []) :
    '\n' :: unlines ls = ls.flatMap ('\n' :: ·) := by
  obtain ⟨l, ls, rfl⟩ := List.exists_cons_of_ne_nil h
  rw [unlines_cons, List.flatMap_cons, List.cons_append]

theorem unlines_flatMap {α : Type} (xs : List α) {f : α → List Text} (h : ∀ x, f x ≠ []) :
    unlines (xs.flatMap f) = unlines (xs.map fun x => unlines (f x)) := by
  have hblocks (xs : List α) : (xs.flatMap f).flatMap ('\n' :: ·) =
      (xs.map fun x => unlines (f x)).flatMap ('\n' :: ·) := by
    rw [List.flatMap_assoc, List.flatMap_map]
    simp only [newline_unlines (h _)]
  cases xs with
  | nil => rfl
  | cons x xs =>
    obtain ⟨l, ls, hx⟩ := List.exists_cons_of_ne_nil (h x)
    rw [List.flatMap_cons, hx, List.cons_append, unlines_cons, List.flatMap_append, hblocks,
      List.map_cons, unlines_cons, hx, unlines_cons, List.append_assoc]

/-- A colon and a blank stand in front of whatever behind them holds no blank. -/
theorem colon_in_front (h : a ++ ':' :: ' ' :: b = p ++ q) (hq : ' ' ∉ q) :
    ∃ c, p = a ++ ':' :: ' ' :: c ∧ b = c ++ q := by
  rcases List.append_eq_append_iff.mp h with ⟨m, rfl, hm⟩ | ⟨m, rfl, rfl⟩
  · match m, hm with
    | [], hm =>
      obtain rfl : ':' :: ' ' :: b = q := by simpa using hm
      simp at hq
    | [x], hm =>
      obtain ⟨rfl, rfl⟩ : ':' = x ∧ ' ' :: b = q := by simpa using hm
      simp at hq
    | x :: y :: m, hm =>
      obtain ⟨rfl, rfl, rfl⟩ : ':' = x ∧ ' ' = y ∧ b = m ++ q := by simpa using hm
      exact ⟨m, rfl, rfl⟩
  · simp at hq

/-- Of two separators in one text the first stands in front of the second. -/
theorem colon_before_colon (h : a ++ ':' :: ' ' :: b = p ++ ':' :: ' ' :: q)
    (hlt : a.length < p.length) : ∃ c, p = a ++ ':' :: ' ' :: c ∧ b = c ++ ':' :: ' ' :: q := by
  rcases List.append_eq_append_iff.mp h with ⟨m, rfl, hm⟩ | ⟨m, rfl, hm⟩
  · match m, hm with
    | [], _ => simp at hlt
    | [x], hm => simp at hm
    | x :: y :: m, hm =>
      obtain ⟨rfl, rfl, rfl⟩ : ':' = x ∧ ' ' = y ∧ b = m ++ ':' :: ' ' :: q := by simpa using hm
      exact ⟨m, rfl, rfl⟩
  · rw [List.length_append] at hlt
    omega

/-- A range that begins in a text with a parenthesis, where no other follows, begins in front of
that one or right in it. -/
theorem range_in_front (h : a ++ ')' :: '-' :: '(' :: b = p ++ '(' :: q) (hq : '(' ∉ q) :
    [')', '-', '('] <:+: p ∨ [')', '-'] <:+ p := by
  rcases List.append_eq_append_iff.mp h with ⟨m, rfl, hm⟩ | ⟨m, rfl, hm⟩
  · match m, hm with
    | [], hm => simp at hm
    | [x], hm => simp at hm
    | [x, y], hm =>
      obtain ⟨rfl, rfl, -⟩ : ')' = x ∧ '-' = y ∧ b = q := by simpa using hm
      exact .inr (List.suffix_append a _)
    | x :: y :: z :: m, hm =>
      obtain ⟨rfl, rfl, rfl, -⟩ : ')' = x ∧ '-' = y ∧ '(' = z ∧ b = m ++ '(' :: q := by
        simpa using hm
      exact .inl ⟨a, m, by simp⟩
  · cases m with
    | nil => simp at hm
    | cons x m =>
      obtain ⟨-, rfl⟩ : '(' = x ∧ q = m ++ ')' :: '-' :: '(' :: b := by simpa using hm
      simp at hq

/-! ### Endings and fields -/

theorem dropSuffix?_eq_some_iff {suffix : Text} : dropSuffix? suffix s = some a ↔ s = a ++ suffix := by
  unfold dropSuffix?
  constructor
  · intro h
    obtain ⟨r, hr, rfl⟩ := Option.map_eq_some_iff.mp h
    have hs := congrArg List.reverse (List.isPrefixOf?_eq_some_iff_append_eq.mp hr)
    simpa using hs.symm
  · rintro rfl
    have hr : suffix.reverse.isPrefixOf? (a ++ suffix).reverse = some a.reverse :=
      List.isPrefixOf?_eq_some_iff_append_eq.mpr (by simp)
    rw [hr, Option.map_some, List.reverse_reverse]

theorem dropSuffix?_eq_none_iff {suffix : Text} : dropSuffix? suffix s = none ↔ ¬suffix <:+ s := by
  rw [Option.eq_none_iff_forall_ne_some]
  simp only [ne_eq, dropSuffix?_eq_some_iff]
  exact ⟨fun h ⟨a, ha⟩ => h a ha.symm, fun h a ha => h ⟨a, ha.symm⟩⟩

theorem afterSeparators?_append {isSep : Char → Bool} {n : Nat} (ha : ∀ c ∈ a, isSep c = false)
    (hx : isSep x = true) :
    afterSeparators? isSep (n + 1) (a ++ x :: b) = afterSeparators? isSep n b := by
  induction a with
  | nil => rw [List.nil_append, afterSeparators?, if_pos hx]
  | cons c a ih =>
    have hc : ¬isSep c = true := by simp [ha c List.mem_cons_self]
    rw [List.cons_append, afterSeparators?, if_neg hc]
    exact ih fun d hd => ha d (List.mem_cons_of_mem c hd)

theorem afterSeparators?_of_free {isSep : Char → Bool} {n : Nat} (ha : ∀ c ∈ a, isSep c = false) :
    afterSeparators? isSep (n + 1) a = none := by
  induction a with
  | nil => rfl
  | cons c a ih =>
    have hc : ¬isSep c = true := by simp [ha c List.mem_cons_self]
    rw [afterSeparators?, if_neg hc]
    exact ih fun d hd => ha d (List.mem_cons_of_mem c hd)

/-! ### Numerals -/

theorem isDigit_of_mem_decimal {n : Nat} (h : c ∈ decimal n) : c.isDigit = true :=
  Nat.isDigit_of_mem_toDigits (by decide) (by decide) h

theorem not_mem_decimal {n : Nat} (h : c.isDigit = false) : c ∉ decimal n := fun hc => by
  simp [isDigit_of_mem_decimal hc] at h

theorem decimal_ne_nil (n : Nat) : decimal n ≠ [] := Nat.toDigits_ne_nil

theorem not_blank_of_isDigit (h : c.isDigit = true) : isBlank c = false := by
  have hbounds : 48 ≤ c.toNat ∧ c.toNat ≤ 57 := by
    simpa [Char.isDigit, UInt32.le_iff_toNat_le] using h
  simp [isBlank]
  omega

theorem readNat?_decimal (n : Nat) : readNat? (decimal n) = some n := by
  have hall : (decimal n).all Char.isDigit = true :=
    List.all_eq_true.mpr fun _ => isDigit_of_mem_decimal
  have hne : (decimal n).isEmpty = false := by
    rw [List.isEmpty_eq_false_iff]
    exact decimal_ne_nil n
  have hread : readDigits (decimal n) = n := Nat.ofDigitChars_ten_toDigits
  rw [readNat?, hall, hne, hread]
  rfl

theorem dropPlus_of_notMem (h : '+' ∉ s) : dropPlus s = s := by
  unfold dropPlus
  split
  · simp at h
  · rfl

theorem readWord?_decimal (n : UInt32) : readWord? (decimal n.toNat) = some n := by
  rw [readWord?, dropPlus_of_notMem (not_mem_decimal (by decide)), readNat?_decimal,
    Option.bind_some, if_pos n.toNat_lt, UInt32.ofNat_toNat]

end Scriptorium.Text
