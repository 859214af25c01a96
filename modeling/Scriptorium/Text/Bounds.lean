import Scriptorium.Text.Basic

/-! A set of characters as the ascending list of the code points at which membership changes: a
character is in the set when the number of bounds that do not exceed it is odd. -/

namespace Scriptorium.Text

def inBoundsFrom (inside : Bool) (n : Nat) : List Nat → Bool
  | [] => inside
  | b :: bs => if n < b then inside else inBoundsFrom (!inside) n bs

def inBounds (bounds : List Nat) (c : Char) : Bool := inBoundsFrom false c.toNat bounds

end Scriptorium.Text
