import Mathlib.Data.List.DropRight
import Scriptorium.Text.Basic

/-! Trimming. A text is its own trimmed form if neither its first nor its last character is blank,
and trimming at the end does not see what stands in front of a character that is not blank. -/

namespace Scriptorium.Text

variable {c : Char} {s a b : Text}

/-! ### At the start -/

theorem trimStart_cons_of_blank (h : isBlank c = true) : trimStart (c :: s) = trimStart s :=
  List.dropWhile_cons_of_pos h

theorem trimStart_cons_of_not (h : isBlank c = false) : trimStart (c :: s) = c :: s :=
  List.dropWhile_cons_of_neg (by simp [h])

theorem trimStart_append_of_blank (h : ∀ c ∈ a, isBlank c = true) :
    trimStart (a ++ s) = trimStart s := List.dropWhile_append_of_pos h

theorem trimStart_append_cons (h : isBlank c = false) :
    trimStart (a ++ c :: s) = trimStart a ++ c :: s := by
  induction a with
  | nil => exact trimStart_cons_of_not h
  | cons x a ih =>
    cases hx : isBlank x with
    | false =>
      rw [List.cons_append, trimStart_cons_of_not hx, trimStart_cons_of_not hx, List.cons_append]
    | true => rw [List.cons_append, trimStart_cons_of_blank hx, ih, trimStart_cons_of_blank hx]

theorem exists_indent (s : Text) : ∃ a, (∀ c ∈ a, isBlank c = true) ∧ s = a ++ trimStart s :=
  ⟨s.takeWhile isBlank, fun _ => List.mem_takeWhile_imp, List.takeWhile_append_dropWhile.symm⟩

theorem trimStart_suffix (s : Text) : trimStart s <:+ s := List.dropWhile_suffix _

theorem trimStart_eq_self_iff : trimStart s = s ↔ ∀ c ∈ s.head?, isBlank c = false := by
  cases s with
  | nil => simp [trimStart]
  | cons c s =>
    cases h : isBlank c with
    | false => simp [trimStart_cons_of_not h, h]
    | true =>
      rw [trimStart_cons_of_blank h]
      refine ⟨fun heq => ?_, fun hc => by simpa [h] using hc c rfl⟩
      have hle := (trimStart_suffix s).length_le
      rw [heq, List.length_cons] at hle
      omega

theorem trimStart_trimStart (s : Text) : trimStart (trimStart s) = trimStart s :=
  List.dropWhile_idempotent isBlank s

/-! ### At the end -/

theorem trimEnd_eq_nil_iff : trimEnd s = [] ↔ allBlank s = true := by
  rw [allBlank, List.all_eq_true]
  exact List.rdropWhile_eq_nil_iff

theorem trimEnd_trimEnd (s : Text) : trimEnd (trimEnd s) = trimEnd s :=
  List.rdropWhile_idempotent isBlank s

theorem trimEnd_isPrefix (s : Text) : trimEnd s <+: s := List.rdropWhile_prefix isBlank s

theorem trimEnd_eq_reverse (s : Text) : trimEnd s = (trimStart s.reverse).reverse := rfl

theorem trimEnd_eq_self_iff : trimEnd s = s ↔ ∀ c ∈ s.getLast?, isBlank c = false := by
  rw [trimEnd_eq_reverse, ← List.head?_reverse, ← trimStart_eq_self_iff, ← List.reverse_inj,
    List.reverse_reverse]

/-- Trimming at the end stays behind the last character that is not blank. -/
theorem trimEnd_append_cons (h : isBlank c = false) :
    trimEnd (a ++ c :: s) = a ++ c :: trimEnd s := by
  induction s using List.reverseRecOn with
  | nil =>
    rw [trimEnd_eq_self_iff.mpr (by simp [h])]
    rfl
  | append_singleton s d ih =>
    cases hd : isBlank d with
    | false =>
      have hkeep (x : Text) : trimEnd (x ++ [d]) = x ++ [d] := trimEnd_eq_self_iff.mpr (by simp [hd])
      rw [hkeep, ← List.cons_append, ← List.append_assoc, hkeep]
    | true =>
      have hdrop (x : Text) : trimEnd (x ++ [d]) = trimEnd x := List.rdropWhile_concat_pos _ _ _ hd
      rw [hdrop, ← ih, ← List.cons_append, ← List.append_assoc, hdrop]

theorem trimEnd_cons (h : isBlank c = false) : trimEnd (c :: s) = c :: trimEnd s := by
  simpa using trimEnd_append_cons (a := []) (s := s) h

/-! ### At both ends -/

theorem trim_eq_self_iff :
    trim s = s ↔ (∀ c ∈ s.head?, isBlank c = false) ∧ ∀ c ∈ s.getLast?, isBlank c = false := by
  rw [← trimStart_eq_self_iff, ← trimEnd_eq_self_iff, trim]
  refine ⟨fun h => ?_, fun ⟨hstart, hend⟩ => by rw [hstart, hend]⟩
  -- neither of the two steps made the text shorter
  have hle := (trimEnd_isPrefix (trimStart s)).length_le
  rw [h] at hle
  have hstart : trimStart s = s := (trimStart_suffix s).eq_of_length_le hle
  rw [hstart] at h
  exact ⟨hstart, h⟩

theorem trim_of_blank_free (h : ∀ c ∈ s, isBlank c = false) : trim s = s :=
  trim_eq_self_iff.mpr
    ⟨fun c hc => h c (List.mem_of_head? hc), fun c hc => h c (List.mem_of_getLast? hc)⟩

theorem trim_cons_of_blank (h : isBlank c = true) : trim (c :: s) = trim s := by
  rw [trim, trimStart_cons_of_blank h, trim]

theorem trim_append_of_blank (h : ∀ c ∈ a, isBlank c = true) : trim (a ++ s) = trim s := by
  rw [trim, trimStart_append_of_blank h, trim]

theorem trim_trimEnd (s : Text) : trim (trimEnd s) = trim s := by
  obtain ⟨a, hblank, hs⟩ := exists_indent s
  cases hstart : trimStart s with
  | nil =>
    have hend : trimEnd s = [] := by
      rw [trimEnd_eq_nil_iff, allBlank, List.all_eq_true, hs, hstart, List.append_nil]
      exact hblank
    rw [hend, trim, trim, hstart]
    rfl
  | cons c rest =>
    have hc : isBlank c = false :=
      trimStart_eq_self_iff.mp (trimStart_trimStart s) c (by simp [hstart])
    have hend : trimEnd s = a ++ c :: trimEnd rest := by
      rw [← trimEnd_append_cons hc, ← hstart, ← hs]
    rw [hend, trim_append_of_blank hblank, trim, trimStart_cons_of_not hc, trim, hstart,
      trimEnd_cons hc, trimEnd_cons hc, trimEnd_trimEnd]

theorem trim_trim (s : Text) : trim (trim s) = trim s := by
  rw [trim.eq_1 s, trim_trimEnd, trim, trimStart_trimStart]

theorem trim_subset (s : Text) : trim s ⊆ s :=
  List.Subset.trans (trimEnd_isPrefix _).subset (trimStart_suffix s).subset

theorem mem_trim (h : c ∈ s) (hc : isBlank c = false) : c ∈ trim s := by
  have hstart {x : Text} (hx : c ∈ x) : c ∈ trimStart x := by
    obtain ⟨a, hblank, hsplit⟩ := exists_indent x
    rw [hsplit] at hx
    exact (List.mem_append.mp hx).resolve_left fun hmem => by simp [hblank c hmem] at hc
  rw [trim, trimEnd_eq_reverse, List.mem_reverse]
  exact hstart (List.mem_reverse.mpr (hstart h))

/-- What is left of a text that is not blank begins with a character that is not. -/
theorem trim_eq_cons (h : trim s ≠ []) : ∃ c a, trim s = c :: a ∧ isBlank c = false := by
  obtain ⟨c, a, hs⟩ := List.exists_cons_of_ne_nil h
  exact ⟨c, a, hs, (trim_eq_self_iff.mp (trim_trim s)).1 c (by simp [hs])⟩

theorem trim_eq_nil_iff : trim s = [] ↔ allBlank s = true := by
  have hstart {x : Text} : trimStart x = [] ↔ allBlank x = true := by
    rw [allBlank, List.all_eq_true]
    exact List.dropWhile_eq_nil_iff
  rw [trim, trimEnd_eq_nil_iff, ← hstart, trimStart_trimStart, hstart]

theorem trimStart_trimEnd (s : Text) : trimStart (trimEnd s) = trim s := by
  have hend : trimEnd (trimStart (trimEnd s)) = trimStart (trimEnd s) := by
    rw [trimEnd_eq_self_iff]
    intro c hc
    obtain ⟨front, hfront⟩ := trimStart_suffix (trimEnd s)
    have hne : trimStart (trimEnd s) ≠ [] := fun hnil => by simp [hnil] at hc
    refine trimEnd_eq_self_iff.mp (trimEnd_trimEnd s) c ?_
    rwa [← hfront, List.getLast?_append_of_ne_nil _ hne]
  rw [← hend, ← trim, trim_trimEnd]

theorem length_trim_le (s : Text) : (trim s).length ≤ s.length :=
  (trimEnd_isPrefix _).length_le.trans (trimStart_suffix s).length_le

end Scriptorium.Text
