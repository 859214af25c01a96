import Mathlib.Data.List.Forall2
import Scriptorium.Text.Lowercase

/-! Texts that differ in case only. The lower case of a text is more than that of its characters one
by one: the capital sigma looks at what surrounds it. But a character and its lower case have case,
and are ignored by case, alike; so texts with the same lower case character by character offer the
same surroundings, and their own lower cases can part only where a word ends and one text has the
capital sigma there and the other has not. The case of ASCII letters never makes a difference. -/

namespace Scriptorium.Text

/-! ### Stretches of letters -/

/-- Drops the bounds that do not exceed `n`, and tells whether `n` is inside. -/
def pass (n : Nat) : Bool → List Nat → Bool × List Nat
  | inside, [] => (inside, [])
  | inside, b :: bs => if n < b then (inside, b :: bs) else pass n (!inside) bs

theorem inBoundsFrom_pass {n m : Nat} (h : n ≤ m) (inside : Bool) (bs : List Nat) :
    inBoundsFrom (pass n inside bs).1 m (pass n inside bs).2 = inBoundsFrom inside m bs := by
  induction bs generalizing inside with
  | nil => rfl
  | cons b bs ih =>
    by_cases hb : n < b
    · rw [pass, if_pos hb]
    · rw [pass, if_neg hb, ih, inBoundsFrom, if_neg (by omega)]

/-- Whether the ascending stretches `ss`, from `n` on, are free of bounds and lie all inside or all
outside, as `want` says. -/
def steady (want : Bool) : Nat → Bool → List Nat → List (Nat × Nat) → Bool
  | _, _, _, [] => true
  | n, inside, bs, (lo, hi) :: ss =>
    match pass lo inside bs with
    | (now, rest) =>
      n ≤ lo && now == want && rest.head?.all (hi < ·) && steady want lo now rest ss

theorem inBoundsFrom_of_steady {want inside : Bool} {n m : Nat} {bs : List Nat}
    {ss : List (Nat × Nat)} {s : Nat × Nat} (h : steady want n inside bs ss = true) (hs : s ∈ ss)
    (hlo : s.1 ≤ m) (hhi : m ≤ s.2) : n ≤ m ∧ inBoundsFrom inside m bs = want := by
  induction ss generalizing n inside bs with
  | nil => simp at hs
  | cons first ss ih =>
    obtain ⟨lo, hi⟩ := first
    have hpass (hm : lo ≤ m) := inBoundsFrom_pass hm inside bs
    rw [steady] at h
    generalize pass lo inside bs = p at h hpass
    obtain ⟨now, rest⟩ := p
    simp only [Bool.and_eq_true, decide_eq_true_eq, beq_iff_eq] at h
    obtain ⟨⟨⟨hn, rfl⟩, hhead⟩, htail⟩ := h
    rcases List.mem_cons.mp hs with rfl | hs
    · refine ⟨Nat.le_trans hn hlo, (hpass hlo).symm.trans ?_⟩
      cases rest with
      | nil => rfl
      | cons b rest =>
        have hb : hi < b := by simpa using hhead
        exact if_pos (Nat.lt_of_le_of_lt hhi hb)
    · obtain ⟨hm, hwant⟩ := ih htail hs
      exact ⟨Nat.le_trans hn hm, (hpass hm).symm.trans hwant⟩

/-- Stretches of letters that have case and are not ignored by it. -/
def letterStretches : List (Nat × Nat) := [
  (0x41, 0x5a), (0x61, 0x7a), (0xc0, 0xd6), (0xd8, 0xf6), (0xf8, 0x1ba), (0x1bc, 0x1bf),
  (0x1c4, 0x293), (0x296, 0x2af), (0x370, 0x373), (0x376, 0x377), (0x37b, 0x37d), (0x37f, 0x37f),
  (0x386, 0x386), (0x388, 0x38a), (0x38c, 0x38c), (0x38e, 0x3a1), (0x3a3, 0x3f5), (0x3f7, 0x481),
  (0x48a, 0x52f), (0x531, 0x556), (0x560, 0x588), (0x10a0, 0x10c5), (0x10c7, 0x10c7),
  (0x10cd, 0x10cd), (0x10d0, 0x10fa), (0x10fd, 0x10ff), (0x13a0, 0x13f5), (0x13f8, 0x13fd),
  (0x1c80, 0x1c8a), (0x1c90, 0x1cba), (0x1cbd, 0x1cbf), (0x1d79, 0x1d9a), (0x1e00, 0x1f15),
  (0x1f18, 0x1f1d), (0x1f20, 0x1f45), (0x1f48, 0x1f4d), (0x1f50, 0x1f57), (0x1f59, 0x1f59),
  (0x1f5b, 0x1f5b), (0x1f5d, 0x1f5d), (0x1f5f, 0x1f7d), (0x1f80, 0x1fb4), (0x1fb6, 0x1fbc),
  (0x1fc2, 0x1fc4), (0x1fc6, 0x1fcc), (0x1fd0, 0x1fd3), (0x1fd6, 0x1fdb), (0x1fe0, 0x1fec),
  (0x1ff2, 0x1ff4), (0x1ff6, 0x1ffc), (0x2126, 0x2126), (0x212a, 0x212d), (0x212f, 0x2134),
  (0x214e, 0x214e), (0x2160, 0x217f), (0x2183, 0x2184), (0x24b6, 0x24e9), (0x2c00, 0x2c7b),
  (0x2c7e, 0x2ce4), (0x2ceb, 0x2cee), (0x2cf2, 0x2cf3), (0x2d00, 0x2d25), (0x2d27, 0x2d27),
  (0x2d2d, 0x2d2d), (0xa640, 0xa66d), (0xa680, 0xa69b), (0xa722, 0xa76f), (0xa771, 0xa787),
  (0xa78b, 0xa78e), (0xa790, 0xa7dc), (0xa7f5, 0xa7f6), (0xab30, 0xab5a), (0xab70, 0xabbf),
  (0xff21, 0xff3a), (0xff41, 0xff5a), (0x10400, 0x1044f), (0x104b0, 0x104d3), (0x104d8, 0x104fb),
  (0x10570, 0x1057a), (0x1057c, 0x1058a), (0x1058c, 0x10592), (0x10594, 0x10595),
  (0x10597, 0x105a1), (0x105a3, 0x105b1), (0x105b3, 0x105b9), (0x105bb, 0x105bc),
  (0x10c80, 0x10cb2), (0x10cc0, 0x10cf2), (0x10d50, 0x10d65), (0x10d70, 0x10d85),
  (0x118a0, 0x118df), (0x16e40, 0x16e7f), (0x16ea0, 0x16eb8), (0x16ebb, 0x16ed3),
  (0x1e900, 0x1e943)]
/-- A stretch holds all code points from `lo` to `hi`. -/
def inStretch (lo hi : Nat) : Bool := letterStretches.any fun s => s.1 ≤ lo && hi ≤ s.2

/-- A letter that has case and is not ignored by it. -/
def IsLetter (c : Char) : Prop := isCased c = true ∧ isCaseIgnorable c = false

theorem steady_casedBounds : steady true 0 false casedBounds letterStretches = true := by
  decide +kernel

theorem steady_caseIgnorableBounds :
    steady false 0 false caseIgnorableBounds letterStretches = true := by
  decide +kernel

theorem isLetter_of_inStretch {c : Char} (h : inStretch c.toNat c.toNat = true) : IsLetter c := by
  obtain ⟨s, hs, hc⟩ := List.any_eq_true.mp h
  simp only [Bool.and_eq_true, decide_eq_true_eq] at hc
  exact ⟨(inBoundsFrom_of_steady steady_casedBounds hs hc.1 hc.2).2,
    (inBoundsFrom_of_steady steady_caseIgnorableBounds hs hc.1 hc.2).2⟩

theorem inStretch_mono {lo hi lo' hi' : Nat} (h : inStretch lo hi = true) (hlo : lo ≤ lo')
    (hhi : hi' ≤ hi) : inStretch lo' hi' = true := by
  obtain ⟨s, hs, hc⟩ := List.any_eq_true.mp h
  simp only [Bool.and_eq_true, decide_eq_true_eq] at hc
  refine List.any_eq_true.mpr ⟨s, hs, ?_⟩
  simp only [Bool.and_eq_true, decide_eq_true_eq]
  exact ⟨Nat.le_trans hc.1 hlo, Nat.le_trans hhi hc.2⟩

theorem isValidChar_of_inStretch {n : Nat} (h : inStretch n n = true) : n.isValidChar := by
  have hvalid : letterStretches.all fun s =>
      s.2 < 0xd800 || (0xe000 ≤ s.1 && s.2 < 0x110000) := by decide +kernel
  obtain ⟨s, hs, hn⟩ := List.any_eq_true.mp h
  have hs := List.all_eq_true.mp hvalid s hs
  simp only [Bool.and_eq_true, Bool.or_eq_true, decide_eq_true_eq] at hn hs
  unfold Nat.isValidChar
  omega

/-! ### Lowering one character -/

/-- A run lies within one stretch and is lowered into one, or its code points one by one do. -/
theorem caseRuns_inStretch : caseRuns.all fun r =>
    (inStretch r.first r.last && inStretch (r.first + r.shift).toNat (r.last + r.shift).toNat) ||
      (List.range' r.first (r.last + 1 - r.first)).all fun n => !r.covers n ||
        (inStretch n n && inStretch (n + r.shift).toNat (n + r.shift).toNat) := by
  decide +kernel

theorem inStretch_of_covers {r : CaseRun} (hr : r ∈ caseRuns) {n : Nat} (h : r.covers n = true) :
    inStretch n n = true ∧ inStretch (n + r.shift).toNat (n + r.shift).toNat = true := by
  have hn : r.first ≤ n ∧ n ≤ r.last := by
    simp only [CaseRun.covers, Bool.and_eq_true, decide_eq_true_eq] at h
    exact h.1
  have hr := List.all_eq_true.mp caseRuns_inStretch r hr
  rw [Bool.or_eq_true, Bool.and_eq_true] at hr
  rcases hr with ⟨hfrom, hto⟩ | hpoints
  · exact ⟨inStretch_mono hfrom hn.1 hn.2, inStretch_mono hto (by omega) (by omega)⟩
  · have hpoint := List.all_eq_true.mp hpoints n (List.mem_range'_1.mpr (by omega))
    simpa [h] using hpoint

theorem toNat_ofNat_of_inStretch {n : Nat} (h : inStretch n n = true) :
    (Char.ofNat n).toNat = n := by
  rw [Char.ofNat, dif_pos (isValidChar_of_inStretch h)]
  rfl

theorem of_ascii {P : Char → Prop} (h : ∀ n < 128, P (Char.ofNat n)) {c : Char}
    (hc : c.toNat < 128) : P c := by
  have hP := h c.toNat hc
  rwa [Char.ofNat_toNat] at hP

theorem isLetter_of_lowerChar_ne {c : Char} (h : lowerChar c ≠ c) :
    IsLetter c ∧ IsLetter (lowerChar c) := by
  by_cases hc : c.toNat < 128
  · have hascii : ∀ n < 128, lowerChar (Char.ofNat n) ≠ Char.ofNat n →
        inStretch (Char.ofNat n).toNat (Char.ofNat n).toNat = true ∧
          inStretch (lowerChar (Char.ofNat n)).toNat (lowerChar (Char.ofNat n)).toNat = true := by
      decide +kernel
    have hstretch := of_ascii (P := fun c => lowerChar c ≠ c →
      inStretch c.toNat c.toNat = true ∧
        inStretch (lowerChar c).toNat (lowerChar c).toNat = true) hascii hc h
    exact ⟨isLetter_of_inStretch hstretch.1, isLetter_of_inStretch hstretch.2⟩
  · rw [lowerChar, if_neg hc] at h ⊢
    cases hfind : caseRuns.find? (·.covers c.toNat) with
    | none => simp [hfind] at h
    | some r =>
      have hcovers : r.covers c.toNat = true := by simpa using List.find?_some hfind
      obtain ⟨hfrom, hto⟩ := inStretch_of_covers (List.mem_of_find?_eq_some hfind) hcovers
      refine ⟨isLetter_of_inStretch hfrom, isLetter_of_inStretch ?_⟩
      rwa [toNat_ofNat_of_inStretch hto]

theorem lower_singleton {c : Char} (hsigma : c ≠ 'Σ') (hdotted : c ≠ 'İ') :
    lower [c] = [lowerChar c] := by
  simp [lower, lowerAfter, hsigma, hdotted]

theorem lower_sigma : lower ['Σ'] = ['σ'] := by decide +kernel

theorem lower_dotted : lower ['İ'] = ['i', '\u0307'] := by decide +kernel

theorem exists_lower_singleton {c : Char} (h : c ≠ 'İ') :
    ∃ x, lower [c] = [x] ∧ isCased x = isCased c ∧ isCaseIgnorable x = isCaseIgnorable c := by
  by_cases hsigma : c = 'Σ'
  · subst hsigma
    exact ⟨'σ', lower_sigma, by decide +kernel, by decide +kernel⟩
  · refine ⟨lowerChar c, lower_singleton hsigma h, ?_⟩
    by_cases hlow : lowerChar c = c
    · rw [hlow]
      exact ⟨rfl, rfl⟩
    · obtain ⟨⟨hcased, hkept⟩, hcased', hkept'⟩ := isLetter_of_lowerChar_ne hlow
      rw [hcased, hkept, hcased', hkept']
      exact ⟨rfl, rfl⟩

/-- Characters with the same lower case have case, and are ignored by case, alike. -/
theorem alike_of_lower_eq {c d : Char} (h : lower [c] = lower [d]) :
    isCased c = isCased d ∧ isCaseIgnorable c = isCaseIgnorable d := by
  by_cases hc : c = 'İ'
  · by_cases hd : d = 'İ'
    · rw [hc, hd]
      exact ⟨rfl, rfl⟩
    · obtain ⟨x, hx, -⟩ := exists_lower_singleton hd
      simp [hc, hx, lower_dotted] at h
  · obtain ⟨x, hx, hcased, hkept⟩ := exists_lower_singleton hc
    by_cases hd : d = 'İ'
    · simp [hd, hx, lower_dotted] at h
    · obtain ⟨y, hy, hcased', hkept'⟩ := exists_lower_singleton hd
      obtain rfl : x = y := by simpa [hx, hy] using h
      exact ⟨hcased.symm.trans hcased', hkept.symm.trans hkept'⟩

/-! ### Texts that differ in case only -/

variable {s t b b' : Text}

/-- The characters of one text have the lower cases of those of the other, one by one. -/
def SameButCase (s t : Text) : Prop := List.Forall₂ (fun c d => lower [c] = lower [d]) s t

instance (s t : Text) : Decidable (SameButCase s t) :=
  inferInstanceAs (Decidable (List.Forall₂ _ s t))

/-- Behind `before`, read backwards, the character at `i` is a capital sigma that ends a word. -/
def FinalSigmaAfter (before s : Text) (i : Nat) : Prop :=
  s[i]? = some 'Σ' ∧ meetsCased ((s.take i).reverse ++ before) = true ∧
    meetsCased (s.drop (i + 1)) = false

/-- The character at `i` is a capital sigma that ends a word. -/
def FinalSigma (s : Text) (i : Nat) : Prop := FinalSigmaAfter [] s i

instance (s : Text) (i : Nat) : Decidable (FinalSigma s i) :=
  inferInstanceAs (Decidable (_ ∧ _ ∧ _))

theorem meetsCased_congr (h : SameButCase s t) : meetsCased s = meetsCased t := by
  induction h with
  | nil => rfl
  | @cons c d s t hcd _ ih =>
    obtain ⟨hcased, hkept⟩ := alike_of_lower_eq hcd
    cases hd : isCaseIgnorable d with
    | true => simpa [meetsCased, hkept, hd] using ih
    | false => simpa [meetsCased, hkept, hd] using hcased

/-- What becomes of `c` behind `before`, read backwards, and in front of `after`. -/
def lowerBetween (before : Text) (c : Char) (after : Text) : Text :=
  if c = 'Σ' ∧ meetsCased before = true ∧ meetsCased after = false then ['ς'] else lower [c]

theorem lowerAfter_cons (b : Text) (c : Char) (s : Text) :
    lowerAfter b (c :: s) = lowerBetween b c s ++ lowerAfter (c :: b) s := by
  by_cases hsigma : c = 'Σ'
  · subst hsigma
    cases hb : meetsCased b <;> cases hs : meetsCased s <;>
      simp [lowerAfter, lowerBetween, lower_sigma, hb, hs]
  · simp [lowerAfter, lowerBetween, lower, hsigma]

/-- In like surroundings two characters part only if one is a capital sigma that ends a word and the
other is not. -/
theorem lowerBetween_eq_iff {c d : Char} (hcd : lower [c] = lower [d])
    (hb : meetsCased b = meetsCased b') (hs : meetsCased s = meetsCased t) :
    lowerBetween b c s = lowerBetween b' d t ↔
      (c = 'Σ' ∧ meetsCased b = true ∧ meetsCased s = false ↔
        d = 'Σ' ∧ meetsCased b' = true ∧ meetsCased t = false) := by
  by_cases hend : meetsCased b' = true ∧ meetsCased t = false
  · have hother {x : Char} (hx : ['σ'] = lower [x]) : ['ς'] ≠ lower [x] := by
      rw [← hx]
      decide
    simp only [lowerBetween, hb, hs, hend, and_true]
    by_cases hc : c = 'Σ' <;> by_cases hd : d = 'Σ'
    · simp [hc, hd]
    · subst hc
      simp [hd, hother (lower_sigma.symm.trans hcd)]
    · subst hd
      simp [hc, (hother (lower_sigma.symm.trans hcd.symm)).symm]
    · simp [hc, hd, hcd]
  · simp only [lowerBetween, hb, hs, hend, and_false, if_false, hcd]

theorem length_lowerBetween {c d : Char} (hcd : lower [c] = lower [d]) :
    (lowerBetween b c s).length = (lowerBetween b' d t).length := by
  have hlength (b : Text) (c : Char) (s : Text) :
      (lowerBetween b c s).length = (lower [c]).length := by
    rw [lowerBetween]
    split
    · next h => rw [h.1, lower_sigma]; rfl
    · rfl
  rw [hlength, hlength, hcd]

theorem lowerAfter_eq_iff (h : SameButCase s t) (hb : SameButCase b b') :
    lowerAfter b s = lowerAfter b' t ↔ ∀ i, FinalSigmaAfter b s i ↔ FinalSigmaAfter b' t i := by
  -- what stands before grows with every character, and stays the same but for case
  induction h generalizing b b' with
  | nil => simp [lowerAfter, FinalSigmaAfter]
  | @cons c d s t hcd hst ih =>
    have hhead := lowerBetween_eq_iff hcd (meetsCased_congr hb) (meetsCased_congr hst)
    have htail := ih (.cons hcd hb)
    rw [lowerAfter_cons, lowerAfter_cons]
    constructor
    · intro heq
      obtain ⟨hfirst, hrest⟩ := List.append_inj heq (length_lowerBetween hcd)
      rintro (_ | i)
      · simpa [FinalSigmaAfter] using hhead.mp hfirst
      · simpa [FinalSigmaAfter] using htail.mp hrest i
    · intro hfinal
      have hfirst := hhead.mpr (by simpa [FinalSigmaAfter] using hfinal 0)
      have hrest := htail.mpr fun i => by simpa [FinalSigmaAfter] using hfinal (i + 1)
      rw [hfirst, hrest]

/-- Texts that differ in case only have the same lower case exactly if the same words of theirs end
in a capital sigma. -/
theorem lower_eq_iff (h : SameButCase s t) :
    lower s = lower t ↔ ∀ i, FinalSigma s i ↔ FinalSigma t i :=
  lowerAfter_eq_iff h .nil

theorem SameButCase.finalSigma_iff (h : SameButCase s t) {i : Nat}
    (hi : s[i]? = some 'Σ' ↔ t[i]? = some 'Σ') : FinalSigma s i ↔ FinalSigma t i := by
  have hbefore : meetsCased (s.take i).reverse = meetsCased (t.take i).reverse :=
    meetsCased_congr (List.forall₂_reverse_iff.mpr (List.forall₂_take i h))
  have hafter : meetsCased (s.drop (i + 1)) = meetsCased (t.drop (i + 1)) :=
    meetsCased_congr (List.forall₂_drop (i + 1) h)
  simp only [FinalSigma, FinalSigmaAfter, List.append_nil, hi, hbefore, hafter]

/-! ### The case of ASCII letters -/

theorem toLower_of_not_ascii {c : Char} (h : ¬c.toNat < 128) : c.toLower = c := by
  have hupper : ¬(c.val ≥ 65 ∧ c.val ≤ 90) := by
    rintro ⟨-, hle⟩
    have : c.toNat ≤ 90 := hle
    omega
  exact dif_neg hupper

theorem lower_toLower (c : Char) : lower [c.toLower] = lower [c] := by
  by_cases hc : c.toNat < 128
  · have hascii : ∀ n < 128, lower [(Char.ofNat n).toLower] = lower [Char.ofNat n] := by
      decide +kernel
    exact of_ascii (P := fun c => lower [c.toLower] = lower [c]) hascii hc
  · rw [toLower_of_not_ascii hc]

theorem toLower_eq_sigma_iff (c : Char) : c.toLower = 'Σ' ↔ c = 'Σ' := by
  by_cases hc : c.toNat < 128
  · have hascii : ∀ n < 128, (Char.ofNat n).toLower = 'Σ' ↔ Char.ofNat n = 'Σ' := by decide +kernel
    exact of_ascii (P := fun c => c.toLower = 'Σ' ↔ c = 'Σ') hascii hc
  · rw [toLower_of_not_ascii hc]

/-- Texts that differ in the case of ASCII letters only. -/
def SameButAscii (s t : Text) : Prop := s.map Char.toLower = t.map Char.toLower

instance (s t : Text) : Decidable (SameButAscii s t) :=
  inferInstanceAs (Decidable (s.map Char.toLower = t.map Char.toLower))

theorem SameButAscii.sameButCase (h : SameButAscii s t) : SameButCase s t := by
  have hchars : List.Forall₂ (fun c d : Char => c.toLower = d.toLower) s t := by
    rw [← List.forall₂_map_right_iff, ← List.forall₂_map_left_iff, List.forall₂_eq_eq_eq]
    exact h
  refine hchars.imp fun c d hcd => ?_
  rw [← lower_toLower c, hcd, lower_toLower]

/-- The case of ASCII letters makes no difference, beside a sigma or elsewhere. -/
theorem SameButAscii.lower_eq (h : SameButAscii s t) : lower s = lower t := by
  have hcase := h.sameButCase
  refine (lower_eq_iff hcase).mpr fun i => hcase.finalSigma_iff ?_
  have hsigma (u : Text) : u[i]? = some 'Σ' ↔ (u.map Char.toLower)[i]? = some 'Σ' := by
    rw [List.getElem?_map, Option.map_eq_some_iff]
    constructor
    · exact fun hu => ⟨'Σ', hu, (toLower_eq_sigma_iff 'Σ').mpr rfl⟩
    · rintro ⟨c, hu, hc⟩
      rw [hu, (toLower_eq_sigma_iff c).mp hc]
  rw [hsigma s, hsigma t, show s.map Char.toLower = t.map Char.toLower from h]

end Scriptorium.Text
