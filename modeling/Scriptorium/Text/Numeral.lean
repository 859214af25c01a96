import Scriptorium.Text.Basic

/-! Decimal numerals, read and written, and the hexadecimal numerals of quoted text. -/

namespace Scriptorium.Text

/-! ### Reading -/

def digitValue (c : Char) : Nat := c.toNat - 48

/-- The value of a run of decimal digits. -/
def readDigits (s : Text) : Nat := s.foldl (fun n c => 10 * n + digitValue c) 0

/-- A run of one or more decimal digits. -/
def readNat? (s : Text) : Option Nat :=
  if s.isEmpty || !s.all Char.isDigit then none else some (readDigits s)

/-- Drops one plus sign from the front. -/
def dropPlus : Text → Text
  | '+' :: s => s
  | s => s

/-- A numeral below `2 ^ 32`: one plus sign may stand in front, and so may zeros. -/
def readWord? (s : Text) : Option UInt32 :=
  (readNat? (dropPlus s)).bind fun n => if n < UInt32.size then some (UInt32.ofNat n) else none

/-! ### Writing -/

def decimal (n : Nat) : Text := Nat.toDigits 10 n

/-- A minus sign stands before a negative number, nothing before another. -/
def signedDecimal (n : Int) : Text :=
  if n < 0 then '-' :: decimal n.natAbs else decimal n.natAbs

def hexadecimal (n : Nat) : Text := Nat.toDigits 16 n

end Scriptorium.Text
