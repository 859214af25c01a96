import Mathlib.Data.List.Infix
import Scriptorium.Proofs.Text.Cut
import Scriptorium.Proofs.Text.Utf8
import Scriptorium.Text.Slice

/-! Slices and where they may be taken. A byte is the first of its character or continues one, so the
offsets that slices may be taken at are the lengths of the fronts of a text; and an offset that was
found by a search is one of them. -/

namespace Scriptorium

theorem Checked.sub_add (a b : Nat) : sub (a + b) b = pure a := by
  rw [sub, if_pos (Nat.le_add_left b a), Nat.add_sub_cancel]

namespace Text

variable {s m a b : Text} {c : Char} {i j n : Nat} {p : Text → Bool} {q : Char → Bool}

/-! ### Boundaries -/

/-- The first byte of a character tells where it begins, and no other byte of it looks like one. -/
theorem utf8EncodeChar_eq_cons (c : Char) : ∃ b bs, String.utf8EncodeChar c = b :: bs ∧
    continues b = false ∧ ∀ x ∈ bs, continues x = true := by
  have hcontinues (n : Nat) (h : n < 256) :
      continues (UInt8.ofNat n) = (128 ≤ n && n < 192) := by
    have hbyte : (UInt8.ofNat n).toNat = n := by rw [UInt8.toNat_ofNat', Nat.mod_eq_of_lt h]
    simp only [continues, UInt8.le_iff_toNat_le, UInt8.lt_iff_toNat_lt, hbyte]
    rfl
  have hfirst {n : Nat} (h : n < 128 ∨ 192 ≤ n ∧ n < 256) :
      continues (UInt8.ofNat n) = false := by
    rw [hcontinues n (by omega)]
    simp
    omega
  have hfurther (n : Nat) : continues (UInt8.ofNat (n % 64 + 128)) = true := by
    rw [hcontinues _ (by omega)]
    simp
    omega
  unfold String.utf8EncodeChar
  generalize c.val.toNat = n
  dsimp only
  split
  · exact ⟨_, _, rfl, hfirst (by omega), by simp⟩
  split
  · exact ⟨_, _, rfl, hfirst (by omega), List.forall_mem_singleton.mpr (hfurther _)⟩
  split
  · exact ⟨_, _, rfl, hfirst (by omega), List.forall_mem_cons.mpr
      ⟨hfurther _, List.forall_mem_singleton.mpr (hfurther _)⟩⟩
  · exact ⟨_, _, rfl, hfirst (by omega), List.forall_mem_cons.mpr
      ⟨hfurther _, List.forall_mem_cons.mpr ⟨hfurther _, List.forall_mem_singleton.mpr (hfurther _)⟩⟩⟩

theorem isBoundary_zero (s : Text) : isBoundary s 0 = true := by
  cases s with
  | nil => rfl
  | cons c s =>
    obtain ⟨b, bs, hbytes, hb, -⟩ := utf8EncodeChar_eq_cons c
    simp [isBoundary, encode_cons, hbytes, hb]

/-- An offset is no boundary behind the first byte of a character, up to the character's end. -/
theorem isBoundary_cons (c : Char) (s : Text) (n : Nat) : isBoundary (c :: s) n =
    (n == 0 || (c.utf8Size ≤ n && isBoundary s (n - c.utf8Size))) := by
  obtain ⟨b, bs, hbytes, -, hbs⟩ := utf8EncodeChar_eq_cons c
  have hsize : (b :: bs).length = c.utf8Size := hbytes ▸ String.length_utf8EncodeChar c
  cases n with
  | zero => rw [isBoundary_zero]; rfl
  | succ n =>
    by_cases hn : c.utf8Size ≤ n + 1
    · have hlength : (n + 1 == c.utf8Size + (encode s).length) =
          (n + 1 - c.utf8Size == (encode s).length) := by
        rw [Bool.eq_iff_iff, beq_iff_eq, beq_iff_eq]
        omega
      simp only [isBoundary, encode_cons, hbytes, List.length_append,
        List.getElem?_append_right (hsize ▸ hn), hsize, hlength]
      simp [hn]
    · have hlt : n < bs.length := by
        rw [List.length_cons] at hsize
        omega
      have hbyte : (encode (c :: s))[n + 1]? = some bs[n] := by
        rw [encode_cons, hbytes, List.cons_append, List.getElem?_cons_succ,
          List.getElem?_append_left hlt, List.getElem?_eq_getElem hlt]
      simp [isBoundary, hbyte, hbs, hn]

theorem isBoundary_iff : isBoundary s n = true ↔ ∃ a b, s = a ++ b ∧ byteLength a = n := by
  induction s generalizing n with
  | nil =>
    constructor
    · intro h
      obtain rfl : n = 0 := by simpa [isBoundary, encode] using h
      exact ⟨[], [], rfl, rfl⟩
    · rintro ⟨a, b, hnil, rfl⟩
      obtain ⟨rfl, -⟩ := List.append_eq_nil_iff.mp hnil.symm
      exact isBoundary_zero []
  | cons c s ih =>
    rw [isBoundary_cons, Bool.or_eq_true, Bool.and_eq_true, beq_iff_eq, decide_eq_true_eq, ih]
    constructor
    · rintro (rfl | ⟨hle, a, b, rfl, hlength⟩)
      · exact ⟨[], c :: s, rfl, rfl⟩
      · exact ⟨c :: a, b, rfl, by rw [byteLength_cons]; omega⟩
    · rintro ⟨a, b, hs, rfl⟩
      cases a with
      | nil => exact .inl rfl
      | cons x a =>
        obtain ⟨rfl, rfl⟩ : c = x ∧ s = a ++ b := by simpa using hs
        rw [byteLength_cons]
        exact .inr ⟨Nat.le_add_right _ _, a, b, rfl, by omega⟩

/-! ### Slices -/

/-- Of two fronts of a text the one with fewer bytes is the shorter one. -/
theorem prefix_of_byteLength_le {a' b' : Text} (h : a ++ b = a' ++ b')
    (hle : byteLength a ≤ byteLength a') : ∃ m, a' = a ++ m ∧ b = m ++ b' := by
  rcases List.append_eq_append_iff.mp h with ⟨m, rfl, hm⟩ | ⟨m, rfl, rfl⟩
  · exact ⟨m, rfl, hm⟩
  · cases m with
    | nil => exact ⟨[], by simp, rfl⟩
    | cons c m =>
      rw [byteLength_append, byteLength_cons] at hle
      have hpos := c.utf8Size_pos
      omega

theorem slice_append (a m b : Text) :
    slice (a ++ m ++ b) (byteLength a) (byteLength (a ++ m)) = pure m := by
  have hstart : isBoundary (a ++ m ++ b) (byteLength a) = true :=
    isBoundary_iff.mpr ⟨a, m ++ b, List.append_assoc .., rfl⟩
  have hstop : isBoundary (a ++ m ++ b) (byteLength (a ++ m)) = true :=
    isBoundary_iff.mpr ⟨a ++ m, b, rfl, rfl⟩
  have hle : byteLength a ≤ byteLength (a ++ m) := by rw [byteLength_append]; omega
  have hbytes : ((encode (a ++ m ++ b)).take (byteLength (a ++ m))).drop (byteLength a) =
      encode m := by
    rw [encode_append, ← length_encode (a ++ m), List.take_left, encode_append, ← length_encode a,
      List.drop_left]
  rw [slice, hstart, hstop, hbytes, decode_encode]
  simp [hle]

theorem slice_eq_pure_iff : slice s i j = pure m ↔
    ∃ a b, s = a ++ m ++ b ∧ byteLength a = i ∧ byteLength (a ++ m) = j := by
  constructor
  · intro h
    have hends : (i ≤ j && isBoundary s i && isBoundary s j) = true := by
      by_contra hends
      rw [slice, if_neg hends] at h
      cases h
    simp only [Bool.and_eq_true, decide_eq_true_eq] at hends
    obtain ⟨⟨hle, hstart⟩, hstop⟩ := hends
    obtain ⟨a, b, rfl, rfl⟩ := isBoundary_iff.mp hstart
    obtain ⟨a', b', hs, rfl⟩ := isBoundary_iff.mp hstop
    obtain ⟨m', rfl, rfl⟩ := prefix_of_byteLength_le hs hle
    rw [hs, slice_append] at h
    obtain rfl := Except.ok.inj h
    exact ⟨a, b', hs, rfl, rfl⟩
  · rintro ⟨a, b, rfl, rfl, rfl⟩
    exact slice_append a m b

theorem exists_slice_iff : (∃ m, slice s i j = pure m) ↔
    i ≤ j ∧ j ≤ byteLength s ∧ isBoundary s i = true ∧ isBoundary s j = true := by
  simp only [slice_eq_pure_iff, isBoundary_iff]
  constructor
  · rintro ⟨m, a, b, rfl, rfl, rfl⟩
    simp only [byteLength_append]
    exact ⟨by omega, by omega, ⟨a, m ++ b, by simp, rfl⟩, ⟨a ++ m, b, rfl, byteLength_append a m⟩⟩
  · rintro ⟨hle, -, ⟨a, b, rfl, rfl⟩, ⟨a', b', hs, rfl⟩⟩
    obtain ⟨m, rfl, rfl⟩ := prefix_of_byteLength_le hs hle
    exact ⟨m, a, b', hs, rfl, rfl⟩

/-- An offset inside a character. -/
example : slice "né".toList 0 2 = throw .slice := rfl

theorem slice_front (a b : Text) : slice (a ++ b) 0 (byteLength a) = pure a :=
  slice_append [] a b

theorem slice_back (a b : Text) :
    slice (a ++ b) (byteLength a) (byteLength (a ++ b)) = pure b := by
  simpa using slice_append a b []

/-! ### Searches -/

theorem offset?_cons (p : Text → Bool) (c : Char) (s : Text) :
    offset? p (c :: s) = if p (c :: s) then some 0 else (offset? p s).map (c.utf8Size + ·) := rfl

theorem offset?_of_free (h : ∀ c ∈ s, q c = false) : offset? (·.head?.any q) s = none := by
  induction s with
  | nil => rfl
  | cons c s ih =>
    obtain ⟨hc, hs⟩ := List.forall_mem_cons.mp h
    rw [offset?_cons, ih hs, List.head?_cons, Option.any_some, hc]
    rfl

theorem decide_eq_false_of_notMem (h : c ∉ s) : ∀ x ∈ s, decide (x = c) = false :=
  fun x hx => by simpa using fun he : x = c => h (he ▸ hx)

theorem offset?_append (ha : ∀ c ∈ a, q c = false) (hc : q c = true) (b : Text) :
    offset? (·.head?.any q) (a ++ c :: b) = some (byteLength a) := by
  induction a with
  | nil =>
    rw [List.nil_append, offset?_cons, List.head?_cons, Option.any_some, hc]
    rfl
  | cons x a ih =>
    obtain ⟨hx, ha⟩ := List.forall_mem_cons.mp ha
    rw [List.cons_append, offset?_cons, ih ha, List.head?_cons, Option.any_some, hx]
    rfl

theorem lastOffset?_of_free (h : ∀ c ∈ s, q c = false) : lastOffset? (·.head?.any q) s = none := by
  induction s with
  | nil => rfl
  | cons c s ih =>
    obtain ⟨hc, hs⟩ := List.forall_mem_cons.mp h
    rw [lastOffset?, ih hs]
    simp [hc]

theorem lastOffset?_append (hb : ∀ c ∈ b, q c = false) (hc : q c = true) (a : Text) :
    lastOffset? (·.head?.any q) (a ++ c :: b) = some (byteLength a) := by
  induction a with
  | nil =>
    rw [List.nil_append, lastOffset?, lastOffset?_of_free hb]
    simp [hc]
    rfl
  | cons x a ih =>
    rw [List.cons_append, lastOffset?, ih]
    rfl

end Text

end Scriptorium
