import Scriptorium.Text.Numeral

/-! Binary fractions of 53 bits: reading them from decimal and hexadecimal numerals, and writing
them with a fixed number of digits. Everything is exact, and of two nearest numbers the even one is
taken. -/

namespace Scriptorium

/-- `mantissa * 2 ^ exponent` with a sign, or what is no number. -/
inductive Fraction
  | finite (negative : Bool) (mantissa : Nat) (exponent : Int)
  | infinite (negative : Bool)
  | nothing (negative : Bool)

namespace Fraction

/-- The whole number next to a quotient; of two the even one. -/
def divideRound (n d : Nat) : Nat :=
  let q := n / d
  let r := n % d
  if 2 * r < d || (2 * r = d && q % 2 = 0) then q else q + 1

/-- `n * b ^ e` as a quotient of whole numbers. -/
def scaled (n b : Nat) (e : Int) : Nat × Nat :=
  if 0 ≤ e then (n * Nat.pow b e.toNat, 1) else (n, Nat.pow b (-e).toNat)

/-- The fraction next to the quotient of two whole numbers. -/
def ofQuotient (negative : Bool) (n d : Nat) : Fraction :=
  if n = 0 then finite negative 0 0
  else
    let guess : Int := Int.ofNat n.log2 - Int.ofNat d.log2
    let (a, b) := scaled d 2 guess
    let top := if n * b < a then guess - 1 else guess
    let e := max (-1074) (top - 52)
    let (a, b) := scaled d 2 e
    let m := divideRound (n * b) a
    if 1024 ≤ e + m.log2 then infinite negative else finite negative m e

/-! ### Reading -/

def hexValue (c : Char) : Nat := if c.isDigit then c.toNat - 48 else c.toLower.toNat - 87

def isHex (c : Char) : Bool := c.isDigit || ('a' ≤ c.toLower && c.toLower ≤ 'f')

/-- The digits of a numeral with a point in it: their value, how many stand behind the point, and
what follows them. -/
def readDigits (base : Nat) (isDigit : Char → Bool) (s : Text) : Option (Nat × Nat × Text) :=
  let whole := s.takeWhile isDigit
  let (part, rest) : Text × Text := match s.dropWhile isDigit with
    | '.' :: s => (s.takeWhile isDigit, s.dropWhile isDigit)
    | s => ([], s)
  if whole.isEmpty && part.isEmpty then none
  else some ((whole ++ part).foldl (fun n c => base * n + hexValue c) 0, part.length, rest)

/-- The power behind a letter, if there is one, and what follows it. -/
def readPower (letter : Char) (s : Text) : Int × Text :=
  match s with
  | c :: s' =>
    if c.toLower ≠ letter then (0, s)
    else
      let (negative, digits) : Bool × Text := match s' with
        | '-' :: s => (true, s)
        | '+' :: s => (false, s)
        | s => (false, s)
      match digits.takeWhile Char.isDigit with
      | [] => (0, s)
      | ds =>
        let n := min 100000 (Text.readDigits ds)
        (if negative then -Int.ofNat n else n, digits.dropWhile Char.isDigit)
  | [] => (0, s)

/-- What follows a word in any case of letters. -/
def dropWord? (word : String) (s : Text) : Option Text :=
  if (s.take word.length).map Char.toLower = word.toList then some (s.drop word.length) else none

/-- The fraction at the front of a text without blanks, and what follows it. -/
def read (s : Text) : Option (Fraction × Text) :=
  let (negative, s) : Bool × Text := match s with
    | '-' :: s => (true, s)
    | '+' :: s => (false, s)
    | s => (false, s)
  let hexadecimal : Option (Nat × Nat × Text) := match s with
    | '0' :: x :: s => if x = 'x' || x = 'X' then readDigits 16 isHex s else none
    | _ => none
  match dropWord? "infinity" s <|> dropWord? "inf" s, dropWord? "nan" s, hexadecimal with
  | some rest, _, _ => some (infinite negative, rest)
  | _, some rest, _ => some (nothing negative, rest)
  | _, _, some (n, places, rest) =>
    let (power, rest) := readPower 'p' rest
    let (a, b) := scaled n 2 (power - 4 * places)
    some (ofQuotient negative a b, rest)
  | _, _, none =>
    (readDigits 10 Char.isDigit s).map fun (n, places, rest) =>
      let (power, rest) := readPower 'e' rest
      let (a, b) := scaled n 10 (power - places)
      (ofQuotient negative a b, rest)

/-! ### Writing -/

/-- A numeral of at least `count` digits. -/
def padded (count n : Nat) : Text :=
  let s := Text.decimal n
  List.replicate (count - s.length) '0' ++ s

/-- A whole number with a point before its last `places` digits; `point` keeps a point that has
nothing behind it. -/
def pointed (n places : Nat) (point : Bool) : Text :=
  let s := padded (places + 1) n
  let whole := s.take (s.length - places)
  if places = 0 then if point then whole ++ ['.'] else whole
  else whole ++ '.' :: s.drop (s.length - places)

/-- `places` digits behind the point. -/
def fixed (m : Nat) (e : Int) (places : Nat) (point : Bool) : Text :=
  let (a, b) := scaled m 2 e
  pointed (divideRound (a * Nat.pow 10 places) b) places point

/-- The first digits of a number, one before the point and `places` behind it, and its power of
ten. -/
def leading (m : Nat) (e : Int) (places : Nat) : Nat × Int :=
  if m = 0 then (0, 0)
  else
    let (a, b) := scaled m 2 e
    let digits : Int := if b ≤ a then Int.ofNat (Text.decimal (a / b)).length
      else 1 - Int.ofNat (Text.decimal (b / a)).length
    let below (x : Int) : Bool :=
      let (p, q) := scaled 1 10 x
      a * q < p * b
    let power := if below (digits - 1) then digits - 2
      else if below digits then digits - 1 else digits
    let (p, q) := scaled 1 10 (power - places)
    let n := divideRound (a * q) (b * p)
    if Nat.pow 10 (places + 1) ≤ n then (n / 10, power + 1) else (n, power)

def powerText (letter : Char) (power : Int) : Text :=
  letter :: (if power < 0 then '-' else '+') :: padded 2 power.natAbs

/-- One digit before the point, `places` behind it, and a power of ten. -/
def scientific (letter : Char) (m : Nat) (e : Int) (places : Nat) (point : Bool) : Text :=
  let (n, power) := leading m e places
  pointed n places point ++ powerText letter power

/-- Without the zeros at the end of what stands behind a point, and without a bare point. -/
def dropZeros (s : Text) : Text :=
  if !s.contains '.' then s
  else
    match s.reverse.dropWhile (· = '0') with
    | '.' :: s => s.reverse
    | s => s.reverse

/-- The shorter way to write `digits` digits; zeros at the end stay if `point` is set. -/
def general (letter : Char) (m : Nat) (e : Int) (digits : Nat) (point : Bool) : Text :=
  let digits := max 1 digits
  let (n, power) := leading m e (digits - 1)
  let trim (s : Text) : Text := if point then s else dropZeros s
  if -4 ≤ power && power < digits then
    trim (fixed m e (Int.ofNat digits - 1 - power).toNat point)
  else trim (pointed n (digits - 1) point) ++ powerText letter power

/-- In hexadecimal, with a power of two: with so many digits behind the point, or with all that
matter. -/
def hexadecimal (m : Nat) (e : Int) (places : Option Nat) (point : Bool) : Text :=
  let shift := if m = 0 then 0 else 52 - m.log2
  let m := m * Nat.pow 2 shift
  let power : Int := if m = 0 then 0 else e - shift + 52
  let digits (n count : Nat) : Text :=
    let s := Text.hexadecimal n
    List.replicate (count - s.length) '0' ++ s
  let (whole, part) : Nat × Text := match places with
    | none => (m / Nat.pow 2 52,
        ((digits (m % Nat.pow 2 52) 13).reverse.dropWhile (· = '0')).reverse)
    | some n =>
      let r := if n < 13 then divideRound m (Nat.pow 16 (13 - n)) else m * Nat.pow 16 (n - 13)
      (r / Nat.pow 16 n, if n = 0 then [] else digits (r % Nat.pow 16 n) n)
  let behind := if part.isEmpty && !point then [] else '.' :: part
  Text.decimal whole ++ behind ++ 'p' :: (if power < 0 then '-' else '+') ::
    Text.decimal power.natAbs

end Fraction

end Scriptorium
