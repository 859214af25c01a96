import Scriptorium.Text.Basic

/-! The names that variables and functions can have. -/

namespace Scriptorium.Shell

def isNameStart (c : Char) : Bool := c.isAlpha || c = '_'

def isNamePart (c : Char) : Bool := c.isAlphanum || c = '_'

/-- A name has letters, digits and low lines, and no digit in front. -/
def isName (s : Text) : Bool :=
  match s with
  | [] => false
  | c :: rest => isNameStart c && rest.all isNamePart

end Scriptorium.Shell
