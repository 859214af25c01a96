import Scriptorium.Diagnostic.Offsets
import Scriptorium.Proofs.Diagnostic.Transcript
import Scriptorium.Proofs.Text.Slice

/-! The readers that work on bytes and those that work on characters read the same. So no slice that
is taken of whatever a compiler prints breaks a rule, and the search for a separator comes to an end,
since each round of it goes on behind the separator that the last one found. -/

namespace Scriptorium.Offsets

open Text

variable {s b line : Text} {n search next : Nat}

/-! ### The body -/

theorem wordEnd_eq (s : Text) :
    (offset? (·.head?.any fun c => !c.isAlpha) s).getD (byteLength s) =
      byteLength (s.takeWhile Char.isAlpha) := by
  have hword : ∀ c ∈ s.takeWhile Char.isAlpha, (!c.isAlpha) = false :=
    fun c hc => by simp [List.mem_takeWhile_imp hc]
  cases hrest : s.dropWhile Char.isAlpha with
  | nil =>
    have hs : s.takeWhile Char.isAlpha = s := by
      simpa [hrest] using List.takeWhile_append_dropWhile (p := Char.isAlpha) (l := s)
    rw [hs] at hword
    rw [hs, offset?_of_free hword]
    rfl
  | cons c rest =>
    have hs : s.takeWhile Char.isAlpha ++ c :: rest = s := by
      rw [← hrest, List.takeWhile_append_dropWhile]
    have hc : (!c.isAlpha) = true := by
      have hhead := List.head_dropWhile_not Char.isAlpha (l := s) (by simp [hrest])
      simpa [hrest] using hhead
    have hfound := offset?_append hword hc rest
    rw [hs] at hfound
    rw [hfound]
    rfl

theorem readCoded?_eq {w : Text} {v : Severity} (hw : Severity.ofWord? w = some v)
    (p : Option Position) (rest : Text) :
    readCoded? v p rest = pure (Diagnostic.readBody? p (w ++ ' ' :: rest)) := by
  rw [Diagnostic.readBody?, Severity.takeWhile_word hw (by decide),
    Severity.dropWhile_word hw (by decide), hw, readCoded?]
  dsimp only
  by_cases hcolon : ':' ∈ rest
  · obtain ⟨code, m, rfl, hfree⟩ := List.eq_append_cons_of_mem hcolon
    have hspan : (code ++ ':' :: m).span (· ≠ ':') = (code, ':' :: m) :=
      span_eq_cons_iff.mpr ⟨rfl, rfl, hfree⟩
    have hfound : offset? (·.head?.any (· = ':')) (code ++ ':' :: m) = some (byteLength code) :=
      offset?_append (decide_eq_false_of_notMem hfree) rfl m
    have hmessage : slice (code ++ ':' :: m) (byteLength code + 1) (byteLength (code ++ ':' :: m)) =
        pure m := by
      have hback := slice_back (code ++ [':']) m
      rwa [byteLength_concat, List.append_assoc] at hback
    simp only [hfound, hspan, slice_front, hmessage, pure_bind]
    split <;> rfl
  · simp only [offset?_of_free (decide_eq_false_of_notMem hcolon), span_of_notMem hcolon]

theorem readBody?_eq (p : Option Position) (s : Text) :
    readBody? p s = pure (Diagnostic.readBody? p s) := by
  have hs : s.takeWhile Char.isAlpha ++ s.dropWhile Char.isAlpha = s :=
    List.takeWhile_append_dropWhile
  have hfront := slice_front (s.takeWhile Char.isAlpha) (s.dropWhile Char.isAlpha)
  have hback := slice_back (s.takeWhile Char.isAlpha) (s.dropWhile Char.isAlpha)
  rw [hs] at hfront hback
  simp only [readBody?, wordEnd_eq, hfront, hback, pure_bind]
  cases hw : Severity.ofWord? (s.takeWhile Char.isAlpha) with
  | none =>
    rw [Diagnostic.readBody?, hw]
  | some v =>
    dsimp only
    split
    · next m hrest =>
      rw [Diagnostic.readBody?, hw, hrest]
      rfl
    · next rest hrest => rw [readCoded?_eq hw, ← hrest, hs]
    · next hplain hcoded =>
      rw [Diagnostic.readBody?, hw]
      split
      · next hrest => exact absurd hrest (hplain _)
      · next hrest => exact absurd hrest (hcoded _)
      · rfl

/-! ### The location -/

theorem cutRange_of_offset?_none (h : offset? ([')', '-', '('].isPrefixOf ·) s = none) :
    Position.cutRange s = s := by
  induction s with
  | nil => rfl
  | cons c s ih =>
    rw [offset?_cons] at h
    split at h
    · simp at h
    · next hprefix =>
      rw [Position.cutRange_cons, if_neg (mt List.isPrefixOf_iff_prefix.mpr hprefix),
        ih (Option.map_eq_none_iff.mp h)]

theorem cutRange_of_offset?_some (h : offset? ([')', '-', '('].isPrefixOf ·) s = some n) :
    ∃ a b, s = a ++ [')'] ++ b ∧ byteLength a = n ∧ Position.cutRange s = a ++ [')'] := by
  induction s generalizing n with
  | nil => simp [offset?] at h
  | cons c s ih =>
    rw [offset?_cons] at h
    rw [Position.cutRange_cons]
    split at h
    · next hprefix =>
      obtain rfl := Option.some.inj h
      obtain ⟨b, hb⟩ := List.isPrefixOf_iff_prefix.mp hprefix
      exact ⟨[], '-' :: '(' :: b, hb.symm, rfl, if_pos ⟨b, hb⟩⟩
    · next hprefix =>
      obtain ⟨k, hk, rfl⟩ := Option.map_eq_some_iff.mp h
      obtain ⟨a, b, rfl, rfl, hcut⟩ := ih hk
      refine ⟨c :: a, b, rfl, rfl, ?_⟩
      rw [if_neg (mt List.isPrefixOf_iff_prefix.mpr hprefix), hcut, List.cons_append]

theorem cutRange_eq (hend : s.getLast? = some ')') : ∃ front,
    Position.cutRange s = front ++ [')'] ∧ cutRange s = pure (front ++ [')']) := by
  unfold cutRange
  split
  · next n hfound =>
    obtain ⟨a, b, rfl, rfl, hcut⟩ := cutRange_of_offset?_some hfound
    have hslice := slice_front (a ++ [')']) b
    rw [byteLength_concat] at hslice
    exact ⟨a, hcut, hslice⟩
  · next hnone =>
    obtain ⟨front, rfl⟩ := List.getLast?_eq_some_iff.mp hend
    exact ⟨front, cutRange_of_offset?_none hnone, rfl⟩

/-- The first two of two or four numbers. -/
def numbers? : List Text → Option (UInt32 × UInt32)
  | [l, c] | [l, c, _, _] =>
    match readWord? (trim l), readWord? (trim c) with
    | some line, some column => some (line, column)
    | _, _ => none
  | _ => none

theorem readNumbers?_eq (numbers : List Text) : readNumbers? numbers = pure (numbers? numbers) := by
  match numbers with
  | [] | [_] | [_, _, _] | _ :: _ :: _ :: _ :: _ :: _ => rfl
  | [l, c] | [l, c, _, _] =>
    simp only [readNumbers?, numbers?, Checked.get, List.getElem?_cons_zero,
      List.getElem?_cons_succ, pure_bind]
    cases readWord? (trim l) <;> cases readWord? (trim c) <;> rfl

theorem readParenthesised?_of_cut {file inside : Text} (hfree : '(' ∉ inside) :
    Position.readParenthesised? (file ++ '(' :: inside) =
      (numbers? (inside.splitOn ',')).map fun (line, column) =>
        ⟨if (trim file).isEmpty then none else some (trim file), line, column⟩ := by
  rw [Position.readParenthesised?, cutLast?_append hfree]
  dsimp only
  split
  · next l c hparts =>
    rw [hparts, numbers?]
    cases readWord? (trim l) <;> cases readWord? (trim c) <;> rfl
  · next l c x y hparts =>
    rw [hparts, numbers?]
    cases readWord? (trim l) <;> cases readWord? (trim c) <;> rfl
  · next htwo hfour =>
    rw [numbers?]
    · rfl
    · exact htwo
    · exact hfour

/-- In bytes as in characters the numbers stand between the last opening parenthesis and the closing
one at the end, and the file in front of them. -/
theorem readParenthesised?_eq (hend : s.getLast? = some ')') :
    readParenthesised? s = pure (Position.readParenthesised? (Position.cutRange s).dropLast) := by
  obtain ⟨front, hcut, hslice⟩ := cutRange_eq hend
  have hlength : byteLength (front ++ [')']) = byteLength front + 1 := byteLength_concat front ')'
  rw [readParenthesised?, hslice, hcut, List.dropLast_concat, pure_bind]
  cases hopening : cutLast? '(' front with
  | none =>
    have hfree : '(' ∉ front ++ [')'] := by simpa using cutLast?_eq_none_iff.mp hopening
    simp only [lastOffset?_of_free (decide_eq_false_of_notMem hfree), Position.readParenthesised?,
      hopening]
  | some parts =>
    obtain ⟨file, inside⟩ := parts
    obtain ⟨rfl, hfree⟩ := cutLast?_eq_some_iff.mp hopening
    have hbehind : '(' ∉ inside ++ [')'] := by simpa using hfree
    have hassoc : file ++ '(' :: inside ++ [')'] = file ++ '(' :: (inside ++ [')']) := by simp
    have hfound : lastOffset? (·.head?.any (· = '(')) (file ++ '(' :: inside ++ [')']) =
        some (byteLength file) :=
      hassoc ▸ lastOffset?_append (decide_eq_false_of_notMem hbehind) rfl file
    have hinside : slice (file ++ '(' :: inside ++ [')']) (byteLength file + 1)
        (byteLength (file ++ '(' :: inside)) = pure inside := by
      have hbetween := slice_append (file ++ ['(']) inside [')']
      rwa [byteLength_concat, List.append_assoc file, List.singleton_append] at hbetween
    have hfile : slice (file ++ '(' :: inside ++ [')']) 0 (byteLength file) = pure file := by
      rw [hassoc, slice_front]
    simp only [hfound, hlength, Checked.sub_add, hinside, hfile, pure_bind, readNumbers?_eq,
      readParenthesised?_of_cut hfree]
    cases numbers? (inside.splitOn ',') <;> rfl

theorem readPosition?_eq (s : Text) : readPosition? s = pure (Position.read? s) := by
  unfold readPosition? Position.read?
  dsimp only
  split
  · next hend => exact readParenthesised?_eq hend
  · rfl

/-- The first part of the range has nothing in front of its closing parenthesis. -/
example : readPosition? ")-()".toList = .ok none := rfl

/-! ### The line -/

theorem located_cons {c : Char} (h : ¬[':', ' '].isPrefixOf (c :: s) = true) (before : Text) :
    Diagnostic.readLocated? before (c :: s) = Diagnostic.readLocated? (c :: before) s := by
  cases s with
  | nil => rfl
  | cons x s =>
    rw [Diagnostic.readLocated?_cons_cons, if_neg, Option.none_or]
    rintro ⟨rfl, rfl⟩
    exact h rfl

theorem located_of_offset?_none (h : offset? ([':', ' '].isPrefixOf ·) s = none) (before : Text) :
    Diagnostic.readLocated? before s = none := by
  induction s generalizing before with
  | nil => rfl
  | cons c s ih =>
    rw [offset?_cons] at h
    split at h
    · simp at h
    · next hprefix => rw [located_cons hprefix, ih (Option.map_eq_none_iff.mp h)]

theorem located_of_offset?_some (h : offset? ([':', ' '].isPrefixOf ·) s = some n) :
    ∃ a b, s = a ++ ':' :: ' ' :: b ∧ byteLength a = n ∧ ∀ before,
      Diagnostic.readLocated? before s =
        (Diagnostic.readCut? (before.reverse ++ a) b).or
          (Diagnostic.readLocated? (' ' :: ':' :: (a.reverse ++ before)) b) := by
  induction s generalizing n with
  | nil => simp [offset?] at h
  | cons c s ih =>
    rw [offset?_cons] at h
    split at h
    · next hprefix =>
      obtain rfl := Option.some.inj h
      obtain ⟨b, hb⟩ := List.isPrefixOf_iff_prefix.mp hprefix
      refine ⟨[], b, hb.symm, rfl, fun before => ?_⟩
      rw [← hb, List.cons_append, List.cons_append, List.nil_append,
        Diagnostic.readLocated?_cons_cons, if_pos ⟨rfl, rfl⟩,
        Diagnostic.readLocated?_cons_of_ne (by decide), List.append_nil]
      rfl
    · next hprefix =>
      obtain ⟨k, hk, rfl⟩ := Option.map_eq_some_iff.mp h
      obtain ⟨a, b, rfl, rfl, hpass⟩ := ih hk
      refine ⟨c :: a, b, rfl, rfl, fun before => ?_⟩
      rw [located_cons hprefix, hpass]
      simp

theorem round_of_none (a : Text) (h : offset? ([':', ' '].isPrefixOf ·) b = none) :
    round (a ++ b) (byteLength a) = pure (.ended none) := by
  simp only [round, slice_back, pure_bind, h]

theorem readAt?_eq (a b : Text) : readAt? (a ++ ':' :: ' ' :: b) (byteLength a) =
    pure (Diagnostic.readCut? a b) := by
  have hbody : slice (a ++ ':' :: ' ' :: b) (byteLength a + 2) (byteLength (a ++ ':' :: ' ' :: b)) =
      pure b := by
    have hback := slice_back (a ++ [':', ' ']) b
    rwa [byteLength_append, List.append_assoc] at hback
  simp only [readAt?, slice_front, hbody, readPosition?_eq, readBody?_eq, pure_bind,
    Diagnostic.readCut?]
  cases Position.read? a <;> rfl

/-- One round tries the line at the first separator behind the offset, and if the line does not read
there, the next round looks behind that separator. -/
theorem round_of_some (a x y : Text)
    (h : offset? ([':', ' '].isPrefixOf ·) (x ++ ':' :: ' ' :: y) = some (byteLength x)) :
    round (a ++ (x ++ ':' :: ' ' :: y)) (byteLength a) =
      pure ((Diagnostic.readCut? (a ++ x) y).elim (.again (byteLength (a ++ x ++ [':', ' '])))
        fun d => .ended (some d)) := by
  have hread := readAt?_eq (a ++ x) y
  rw [List.append_assoc, byteLength_append] at hread
  have hnext : byteLength (a ++ x ++ [':', ' ']) = byteLength a + byteLength x + 2 := by
    rw [byteLength_append, byteLength_append]
    rfl
  simp only [round, slice_back, pure_bind, h, hread, hnext]
  cases Diagnostic.readCut? (a ++ x) y <;> rfl

/-- A round that finds nothing moves on, and stays in the line. -/
theorem lt_and_le_of_round (h : round line search = .ok (.again next)) :
    search < next ∧ next ≤ byteLength line := by
  refine ⟨(lt_of_round h).1, ?_⟩
  obtain ⟨rest, hrest, -⟩ := Checked.exists_of_bind h
  obtain ⟨-, -, hstart, -⟩ := exists_slice_iff.mp ⟨rest, hrest⟩
  obtain ⟨a, b, rfl, rfl⟩ := isBoundary_iff.mp hstart
  cases hfound : offset? ([':', ' '].isPrefixOf ·) b with
  | none =>
    rw [round_of_none a hfound] at h
    cases h
  | some n =>
    obtain ⟨x, y, rfl, rfl, -⟩ := located_of_offset?_some hfound
    rw [round_of_some a x y hfound] at h
    cases hread : Diagnostic.readCut? (a ++ x) y with
    | some d =>
      rw [hread] at h
      cases h
    | none =>
      rw [hread] at h
      obtain rfl := Round.again.inj (Except.ok.inj h)
      have hline : a ++ (x ++ ':' :: ' ' :: y) = a ++ x ++ [':', ' '] ++ y := by simp
      rw [hline, byteLength_append _ y]
      exact Nat.le_add_right _ _

theorem not_endless (line : Text) (f : Nat → Nat) :
    ¬∀ k, round line (f k) = .ok (.again (f (k + 1))) := by
  intro h
  have hgrow (k : Nat) : k ≤ f k := by
    induction k with
    | zero => exact Nat.zero_le _
    | succ k ih => exact Nat.lt_of_le_of_lt ih (lt_and_le_of_round (h k)).1
  have hbeyond := hgrow (byteLength line + 1)
  have hwithin := (lt_and_le_of_round (h (byteLength line))).2
  omega

theorem readLocated?_of_ended {found : Option Diagnostic}
    (h : round line search = .ok (.ended found)) : readLocated? line search = pure found := by
  rw [readLocated?]
  split
  · next h' =>
    cases h.symm.trans h'
    rfl
  · next h' => cases h.symm.trans h'
  · next h' => cases h.symm.trans h'

theorem readLocated?_of_again (h : round line search = .ok (.again next)) :
    readLocated? line search = readLocated? line next := by
  rw [readLocated?]
  split
  · next h' => cases h.symm.trans h'
  · next h' =>
    cases h.symm.trans h'
    rfl
  · next h' => cases h.symm.trans h'

/-- From the offset behind `a` on, the search ends with what is found in the rest of the line. -/
theorem readLocated?_eq (a b : Text) :
    readLocated? (a ++ b) (byteLength a) = pure (Diagnostic.readLocated? a.reverse b) := by
  -- by the length of the rest, as each round takes a separator away
  induction hn : b.length using Nat.strong_induction_on generalizing a b with
  | _ k ih =>
    cases hfound : offset? ([':', ' '].isPrefixOf ·) b with
    | none =>
      rw [readLocated?_of_ended (round_of_none a hfound), located_of_offset?_none hfound]
    | some n =>
      obtain ⟨x, y, rfl, rfl, hpass⟩ := located_of_offset?_some hfound
      have hround := round_of_some a x y hfound
      rw [hpass, List.reverse_reverse]
      cases hread : Diagnostic.readCut? (a ++ x) y with
      | some d =>
        rw [hread] at hround
        exact readLocated?_of_ended hround
      | none =>
        rw [hread] at hround
        have hnext := ih y.length (by simp [← hn]; omega) (a ++ x ++ [':', ' ']) y rfl
        rw [readLocated?_of_again hround]
        simpa using hnext

theorem readHeadline?_eq (bare : Bool) (line : Text) :
    readHeadline? bare line = pure (Diagnostic.readHeadline? bare line) := by
  have hlocated : readLocated? line 0 = pure (Diagnostic.readLocated? [] line) :=
    readLocated?_eq [] line
  unfold readHeadline? Diagnostic.readHeadline?
  cases bare with
  | false => exact hlocated
  | true =>
    simp only [if_true, readBody?_eq, hlocated, pure_bind]
    cases Diagnostic.readBody? none (trimStart line) <;> rfl

/-! ### The transcript -/

theorem push_eq (t : Transcript) (line : Text) : push t line = pure (t.push line) := by
  rw [← Transcript.push_trimEnd, push, Transcript.push, Transcript.headline?, trimEnd_trimEnd]
  split
  · rfl
  · rw [readHeadline?_eq, pure_bind]
    cases Diagnostic.readHeadline? (t.allowsBare (trimEnd line)) (trimEnd line) <;> rfl

theorem read_eq (s : Text) : read s = pure (Transcript.read s) := by
  have hpush : push = fun t line => pure (t.push line) := funext₂ push_eq
  rw [read, hpush, List.foldlM_pure, Transcript.read]

/-- A slice does not panic exactly if its ends are in order, in the text and between characters, and
it is then the text between them. On whatever text and after whatever was read before, the readers
that take slices end without a panic, and they read what the readers read that take none. Every
round of the search for a separator that is not the last one moves on within the line, so no search
goes on forever. -/
theorem slices_in_range :
    (∀ s i j, (∃ m, slice s i j = .ok m) ↔
      i ≤ j ∧ j ≤ byteLength s ∧ isBoundary s i = true ∧ isBoundary s j = true) ∧
    (∀ s i j m, slice s i j = .ok m ↔
      ∃ a b, s = a ++ m ++ b ∧ byteLength a = i ∧ byteLength (a ++ m) = j) ∧
    (∀ p s, readBody? p s = .ok (Diagnostic.readBody? p s)) ∧
    (∀ s, readPosition? s = .ok (Position.read? s)) ∧
    (∀ bare line, readHeadline? bare line = .ok (Diagnostic.readHeadline? bare line)) ∧
    (∀ line search next, round line search = .ok (.again next) →
      search < next ∧ next ≤ byteLength line) ∧
    (∀ line (f : Nat → Nat), ¬∀ k, round line (f k) = .ok (.again (f (k + 1)))) ∧
    (∀ t line, push t line = .ok (t.push line)) ∧
    ∀ s, read s = .ok (Transcript.read s) :=
  ⟨fun _ _ _ => exists_slice_iff, fun _ _ _ _ => slice_eq_pure_iff, readBody?_eq, readPosition?_eq,
    readHeadline?_eq, fun _ _ _ => lt_and_le_of_round, not_endless, push_eq, read_eq⟩

/-- The first separator is behind a character of two bytes, and no location is in front of it. -/
theorem slices_in_range_twice : round "é: )-(: x".toList 0 = .ok (.again 4) ∧ 0 < 4 ∧
    4 ≤ byteLength "é: )-(: x".toList := by
  obtain ⟨-, -, -, -, -, hround, -, -, -⟩ := slices_in_range
  have hagain : round "é: )-(: x".toList 0 = .ok (.again 4) := rfl
  exact ⟨hagain, hround _ _ _ hagain⟩

end Scriptorium.Offsets
