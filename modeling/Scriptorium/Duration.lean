import Scriptorium.Text.Numeral

/-! Spans of time, exact to the nanosecond, and their text: the largest of the units `s`, `ms`, `µs`
and `ns` in which the span is at least one, and a fraction without trailing zeros. -/

namespace Scriptorium

structure Duration where
  nanoseconds : Nat
  deriving DecidableEq

namespace Duration

def perSecond : Nat := 1000000000

def ofParts (secs nanos : Nat) : Duration := ⟨secs * perSecond + nanos⟩

def secs (d : Duration) : Nat := d.nanoseconds / perSecond

/-- What is left beyond the whole seconds. -/
def nanos (d : Duration) : Nat := d.nanoseconds % perSecond

/-- `whole` and a fraction of `part` in units of `10 ^ -places`. -/
def withFraction (whole part places : Nat) : Text :=
  let digits := Text.decimal part
  let padded := List.replicate (places - digits.length) '0' ++ digits
  let kept := (padded.reverse.dropWhile (· = '0')).reverse
  Text.decimal whole ++ if kept.isEmpty then [] else '.' :: kept

def render (d : Duration) : Text :=
  let n := d.nanoseconds
  if perSecond ≤ n then withFraction (n / perSecond) (n % perSecond) 9 ++ "s".toList
  else if 1000000 ≤ n then withFraction (n / 1000000) (n % 1000000) 6 ++ "ms".toList
  else if 1000 ≤ n then withFraction (n / 1000) (n % 1000) 3 ++ "µs".toList
  else Text.decimal n ++ "ns".toList

end Duration

end Scriptorium
