import Mathlib.Tactic.IntervalCases
import Scriptorium.Text.Utf8

/-! Decoding undoes encoding. The decoder stands between characters before and after the bytes of a
character, so one character at a time is read; a byte behind the first adds six bits. -/

namespace Scriptorium.Text

namespace Decoder

variable {decoded : Text} {n missing bits : Nat} {low high : UInt8}

/-! ### Bytes -/

theorem start_of_lt (d : Decoder) (h : n < 128) :
    d.start (UInt8.ofNat n) = d.emit (Char.ofNat n) := by
  interval_cases n <;> rfl

/-- The first of two bytes. The smaller ones would waste the second. -/
theorem start_two (d : Decoder) (hlow : 2 ≤ n) (h : n < 32) :
    d.start (UInt8.ofNat (n + 192)) = ⟨d.decoded, some ⟨1, n, 0x80, 0xbf⟩⟩ := by
  interval_cases n <;> rfl

/-- The first of three bytes. The second must not be so small that two bytes were enough, nor make a
surrogate. -/
theorem start_three (d : Decoder) (h : n < 16) :
    d.start (UInt8.ofNat (n + 224)) =
      ⟨d.decoded, some ⟨2, n, if n = 0 then 0xa0 else 0x80, if n = 13 then 0x9f else 0xbf⟩⟩ := by
  interval_cases n <;> rfl

/-- The first of four bytes. The second must not be so small that three bytes were enough, nor lead
beyond the last character. -/
theorem start_four (d : Decoder) (h : n < 5) :
    d.start (UInt8.ofNat (n + 240)) =
      ⟨d.decoded, some ⟨3, n, if n = 0 then 0x90 else 0x80, if n = 4 then 0x8f else 0xbf⟩⟩ := by
  interval_cases n <;> rfl

theorem feed_six (hlow : low.toNat ≤ n + 128) (hhigh : n + 128 ≤ high.toNat) (h : n < 64) :
    feed ⟨decoded, some ⟨missing, bits, low, high⟩⟩ (UInt8.ofNat (n + 128)) =
      if missing ≤ 1 then ⟨Char.ofNat (64 * bits + n) :: decoded, none⟩
      else ⟨decoded, some ⟨missing - 1, 64 * bits + n, 0x80, 0xbf⟩⟩ := by
  have hbyte : (UInt8.ofNat (n + 128)).toNat = n + 128 := by
    rw [UInt8.toNat_ofNat', Nat.mod_eq_of_lt (by omega)]
  have hbits : (UInt8.ofNat (n + 128) &&& 0x3f).toNat = n := by
    interval_cases n <;> rfl
  have hfits : (low ≤ UInt8.ofNat (n + 128) && UInt8.ofNat (n + 128) ≤ high) = true := by
    simp only [Bool.and_eq_true, decide_eq_true_eq, UInt8.le_iff_toNat_le, hbyte]
    exact ⟨hlow, hhigh⟩
  simp only [feed, hfits, hbits, if_true]
  rfl

theorem feed_tail (h : n < 64) :
    feed ⟨decoded, some ⟨missing, bits, 0x80, 0xbf⟩⟩ (UInt8.ofNat (n + 128)) =
      if missing ≤ 1 then ⟨Char.ofNat (64 * bits + n) :: decoded, none⟩
      else ⟨decoded, some ⟨missing - 1, 64 * bits + n, 0x80, 0xbf⟩⟩ :=
  feed_six (Nat.le_add_left 128 n) (Nat.add_le_add_right (Nat.le_of_lt_succ h) 128) h

theorem feed_start (b : UInt8) : feed ⟨decoded, none⟩ b = start ⟨decoded, none⟩ b := rfl

/-! ### What is decoded already -/

theorem feed_append (decoded front : Text) (pending : Option Partial) (b : UInt8) :
    feed ⟨decoded ++ front, pending⟩ b =
      ⟨(feed ⟨decoded, pending⟩ b).decoded ++ front, (feed ⟨decoded, pending⟩ b).pending⟩ := by
  have hstart (decoded : Text) (pending : Option Partial) :
      start ⟨decoded ++ front, pending⟩ b =
        ⟨(start ⟨decoded, pending⟩ b).decoded ++ front, (start ⟨decoded, pending⟩ b).pending⟩ := by
    unfold start emit
    dsimp only
    repeat' split
    all_goals rfl
  cases pending with
  | none => exact hstart decoded none
  | some p =>
    unfold feed
    dsimp only
    split
    · split <;> rfl
    · exact hstart (replacement :: decoded) none

theorem foldl_feed_append (decoded front : Text) (pending : Option Partial) (bs : Bytes) :
    bs.foldl feed ⟨decoded ++ front, pending⟩ =
      ⟨(bs.foldl feed ⟨decoded, pending⟩).decoded ++ front,
        (bs.foldl feed ⟨decoded, pending⟩).pending⟩ := by
  induction bs generalizing decoded pending with
  | nil => rfl
  | cons b bs ih => rw [List.foldl_cons, feed_append, ih, List.foldl_cons]

theorem finish_append (decoded front : Text) (pending : Option Partial) :
    finish ⟨decoded ++ front, pending⟩ = front.reverse ++ finish ⟨decoded, pending⟩ := by
  cases pending <;> simp [finish]

/-! ### A byte that is a character of its own -/

/-- The byte that comes next in a character in the making is no character of its own. -/
def Tail (d : Decoder) : Prop := ∀ p, d.pending = some p → 0x80 ≤ p.low

theorem tail_start (d : Decoder) (b : UInt8) : (d.start b).Tail := by
  intro p hp
  unfold start emit at hp
  dsimp only at hp
  repeat' split at hp
  all_goals cases hp
  all_goals
    dsimp only
    decide

theorem tail_feed (d : Decoder) (b : UInt8) : (d.feed b).Tail := by
  unfold feed
  split
  · exact tail_start d b
  · dsimp only
    split
    · split
      · rintro p ⟨⟩
      · rintro p ⟨⟩
        exact UInt8.le_refl _
    · exact tail_start _ b

theorem Tail.foldl_feed {d : Decoder} (h : d.Tail) (bs : Bytes) : (bs.foldl feed d).Tail := by
  induction bs generalizing d with
  | nil => exact h
  | cons b bs ih => exact ih (tail_feed d b)

/-- Such a byte breaks off a character in the making. -/
theorem Tail.feed_of_lt {d : Decoder} (h : d.Tail) {b : UInt8} (hb : b < 0x80) :
    d.feed b = ⟨Char.ofNat b.toNat :: d.finish.reverse, none⟩ := by
  obtain ⟨decoded, _ | p⟩ := d
  · rw [feed_start, start, if_pos hb]
    simp [finish, emit]
  · have hlow : ¬p.low ≤ b := fun hle =>
      absurd (UInt8.lt_of_le_of_lt (UInt8.le_trans (h p rfl) hle) hb) (UInt8.lt_irrefl _)
    rw [feed]
    simp [hlow, start, hb, finish, emit]

/-! ### Characters -/

theorem foldl_feed_two (hlow : 128 ≤ n) (h : n < 2048) :
    [UInt8.ofNat (n / 64 % 32 + 192), UInt8.ofNat (n % 64 + 128)].foldl feed ⟨decoded, none⟩ =
      ⟨Char.ofNat n :: decoded, none⟩ := by
  have hbits : 64 * (n / 64 % 32) + n % 64 = n := by omega
  rw [List.foldl_cons, List.foldl_cons, List.foldl_nil, feed_start,
    start_two _ (by omega) (by omega), feed_tail (by omega), if_pos (by decide), hbits]

theorem foldl_feed_three (hlow : 2048 ≤ n) (h : n < 65536) (hvalid : n < 55296 ∨ 57343 < n) :
    [UInt8.ofNat (n / 4096 % 16 + 224), UInt8.ofNat (n / 64 % 64 + 128),
        UInt8.ofNat (n % 64 + 128)].foldl feed ⟨decoded, none⟩ =
      ⟨Char.ofNat n :: decoded, none⟩ := by
  have hbits : 64 * (64 * (n / 4096 % 16) + n / 64 % 64) + n % 64 = n := by omega
  have hsmall : (if n / 4096 % 16 = 0 then 0xa0 else 0x80 : UInt8).toNat ≤ n / 64 % 64 + 128 := by
    split
    · change 0xa0 ≤ _
      omega
    · change 0x80 ≤ _
      omega
  have hlarge : n / 64 % 64 + 128 ≤ (if n / 4096 % 16 = 13 then 0x9f else 0xbf : UInt8).toNat := by
    split
    · change _ ≤ 0x9f
      omega
    · change _ ≤ 0xbf
      omega
  rw [List.foldl_cons, List.foldl_cons, List.foldl_cons, List.foldl_nil, feed_start,
    start_three _ (by omega), feed_six hsmall hlarge (by omega), if_neg (by decide),
    feed_tail (by omega), if_pos (by decide), hbits]

theorem foldl_feed_four (hlow : 65536 ≤ n) (h : n < 1114112) :
    [UInt8.ofNat (n / 262144 % 8 + 240), UInt8.ofNat (n / 4096 % 64 + 128),
        UInt8.ofNat (n / 64 % 64 + 128), UInt8.ofNat (n % 64 + 128)].foldl feed ⟨decoded, none⟩ =
      ⟨Char.ofNat n :: decoded, none⟩ := by
  have hbits : 64 * (64 * (64 * (n / 262144 % 8) + n / 4096 % 64) + n / 64 % 64) + n % 64 = n := by
    omega
  have hsmall : (if n / 262144 % 8 = 0 then 0x90 else 0x80 : UInt8).toNat ≤ n / 4096 % 64 + 128 := by
    split
    · change 0x90 ≤ _
      omega
    · change 0x80 ≤ _
      omega
  have hlarge : n / 4096 % 64 + 128 ≤ (if n / 262144 % 8 = 4 then 0x8f else 0xbf : UInt8).toNat := by
    split
    · change _ ≤ 0x8f
      omega
    · change _ ≤ 0xbf
      omega
  rw [List.foldl_cons, List.foldl_cons, List.foldl_cons, List.foldl_cons, List.foldl_nil, feed_start,
    start_four _ (by omega), feed_six hsmall hlarge (by omega), if_neg (by decide),
    feed_tail (by omega), if_neg (by decide), feed_tail (by omega), if_pos (by decide), hbits]

theorem foldl_feed_encodeChar (c : Char) (decoded : Text) :
    (String.utf8EncodeChar c).foldl feed ⟨decoded, none⟩ = ⟨c :: decoded, none⟩ := by
  have hvalid : c.val.toNat < 55296 ∨ 57343 < c.val.toNat ∧ c.val.toNat < 1114112 := c.valid
  have hback : Char.ofNat c.val.toNat = c := Char.ofNat_toNat c
  unfold String.utf8EncodeChar
  generalize c.val.toNat = n at hvalid hback
  subst hback
  dsimp only
  split
  · exact start_of_lt ⟨decoded, none⟩ (by omega)
  split
  · exact foldl_feed_two (by omega) (by omega)
  split
  · exact foldl_feed_three (by omega) (by omega) (by omega)
  · exact foldl_feed_four (by omega) (by omega)

end Decoder

theorem foldl_feed_encode (s decoded : Text) :
    (encode s).foldl Decoder.feed ⟨decoded, none⟩ = ⟨s.reverse ++ decoded, none⟩ := by
  induction s generalizing decoded with
  | nil => rfl
  | cons c s ih =>
    rw [encode, List.flatMap_cons, List.foldl_append, Decoder.foldl_feed_encodeChar]
    change (encode s).foldl Decoder.feed _ = _
    rw [ih, List.reverse_cons, List.append_assoc]
    rfl

theorem decode_encode_append (s : Text) (bs : Bytes) : decode (encode s ++ bs) = s ++ decode bs := by
  have hframe := Decoder.foldl_feed_append [] s.reverse none bs
  rw [List.nil_append] at hframe
  rw [decode, List.foldl_append, foldl_feed_encode, List.append_nil, hframe, Decoder.finish_append,
    List.reverse_reverse]
  rfl

theorem decode_append_cons_encode (bs : Bytes) {b : UInt8} (hb : b < 0x80) (s : Text) :
    decode (bs ++ b :: encode s) = decode bs ++ Char.ofNat b.toNat :: s := by
  have htail : (bs.foldl Decoder.feed ⟨[], none⟩).Tail :=
    Decoder.Tail.foldl_feed (fun _ hp => absurd hp (by simp)) bs
  rw [decode, List.foldl_append, List.foldl_cons, htail.feed_of_lt hb, foldl_feed_encode]
  simp [Decoder.finish, decode]

theorem decode_encode (s : Text) : decode (encode s) = s := by
  rw [← List.append_nil (encode s), decode_encode_append]
  exact List.append_nil s

theorem decodeStrict?_eq_some_iff {bs : Bytes} {s : Text} :
    decodeStrict? bs = some s ↔ bs = encode s := by
  unfold decodeStrict?
  constructor
  · intro h
    split at h
    · next hback =>
      obtain rfl := Option.some.inj h
      exact hback.symm
    · simp at h
  · rintro rfl
    rw [decode_encode, if_pos rfl]

/-! ### Lengths -/

theorem byteLength_append (a b : Text) : byteLength (a ++ b) = byteLength a + byteLength b := by
  induction a with
  | nil => simp [byteLength]
  | cons c a ih =>
    change c.utf8Size + byteLength (a ++ b) = c.utf8Size + byteLength a + byteLength b
    rw [ih, Nat.add_assoc]

theorem byteLength_cons (c : Char) (s : Text) : byteLength (c :: s) = c.utf8Size + byteLength s := rfl

theorem byteLength_concat (s : Text) (c : Char) : byteLength (s ++ [c]) = byteLength s + c.utf8Size :=
  byteLength_append s [c]

theorem encode_append (a b : Text) : encode (a ++ b) = encode a ++ encode b := List.flatMap_append

theorem encode_cons (c : Char) (s : Text) :
    encode (c :: s) = String.utf8EncodeChar c ++ encode s := List.flatMap_cons

theorem length_encode (s : Text) : (encode s).length = byteLength s := by
  induction s with
  | nil => rfl
  | cons c s ih =>
    rw [encode_cons, List.length_append, ih, String.length_utf8EncodeChar, byteLength_cons]

end Scriptorium.Text
