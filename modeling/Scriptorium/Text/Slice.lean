import Scriptorium.Text.Utf8

/-! Slices of a text by offsets in bytes, as its encoding has them. An offset must not fall into a
character, and a slice that breaks a rule ends everything that is done, as does every other panic. -/

namespace Scriptorium

/-! ### Panics -/

inductive Panic
  /-- The ends of a slice are out of order, out of the text, or inside a character. -/
  | slice
  /-- A difference is below zero. -/
  | underflow
  /-- There is no such item in a list. -/
  | index
  deriving DecidableEq

/-- What may panic. -/
abbrev Checked := Except Panic

namespace Checked

def sub (a b : Nat) : Checked Nat := if b ≤ a then pure (a - b) else throw .underflow

def get {α : Type} (xs : List α) (n : Nat) : Checked α :=
  match xs[n]? with
  | some x => pure x
  | none => throw .index

/-- What ends well has ended well in each part. -/
theorem exists_of_bind {α β : Type} {x : Checked α} {f : α → Checked β} {y : β}
    (h : x >>= f = .ok y) : ∃ z, x = .ok z ∧ f z = .ok y := by
  cases x with
  | error e => cases h
  | ok z => exact ⟨z, rfl, h⟩

end Checked

namespace Text

/-! ### Slices -/

/-- Whether a byte of an encoding is not the first one of its character. -/
def continues (b : UInt8) : Bool := 0x80 ≤ b && b < 0xc0

/-- Whether an offset is in front of a character or at the end of the text. -/
def isBoundary (s : Text) (n : Nat) : Bool :=
  match (encode s)[n]? with
  | some b => !continues b
  | none => n == (encode s).length

theorem le_of_isBoundary {s : Text} {n : Nat} (h : isBoundary s n = true) :
    n ≤ (encode s).length := by
  unfold isBoundary at h
  split at h
  · next hbyte => exact Nat.le_of_lt (List.getElem?_eq_some_iff.mp hbyte).1
  · exact Nat.le_of_eq (beq_iff_eq.mp h)

/-- The characters from one offset up to another. -/
def slice (s : Text) (start stop : Nat) : Checked Text :=
  if start ≤ stop && isBoundary s start && isBoundary s stop then
    pure (decode (((encode s).take stop).drop start))
  else throw .slice

theorem le_of_slice {s m : Text} {start stop : Nat} (h : slice s start stop = .ok m) :
    start ≤ (encode s).length := by
  unfold slice at h
  split at h
  · next hends =>
    simp only [Bool.and_eq_true] at hends
    exact le_of_isBoundary hends.1.2
  · cases h

/-! ### Searches -/

/-- The first offset from which on the text is as asked. -/
def offset? (p : Text → Bool) : Text → Option Nat
  | [] => none
  | c :: s => if p (c :: s) then some 0 else (offset? p s).map (c.utf8Size + ·)

/-- The last offset from which on the text is as asked. -/
def lastOffset? (p : Text → Bool) : Text → Option Nat
  | [] => none
  | c :: s =>
    match lastOffset? p s with
    | some n => some (c.utf8Size + n)
    | none => if p (c :: s) then some 0 else none

end Text

end Scriptorium
