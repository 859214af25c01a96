import Scriptorium.Text.Basic

/-! Names of scratch files. A unit name keeps its letters, digits, `_`, `-` and `.`, has `_` in
place of anything else, and is cut to 128 characters; a fresh token behind it keeps apart requests
that share it. -/

namespace Scriptorium.Scratch

def nameLimit : Nat := 128

def isSafe (c : Char) : Bool := c.isAlphanum || c = '_' || c = '-' || c = '.'

/-- A unit name fit for a file name. -/
def sanitize (name : Text) : Text :=
  let safe := (name.take nameLimit).map fun c => if isSafe c then c else '_'
  if safe.isEmpty then "script".toList else safe

/-- The part that the files of one request share. -/
def stem (unitName token : Text) : Text := sanitize unitName ++ '-' :: token

def fileName (stem extension : Text) : Text := stem ++ '.' :: extension

end Scriptorium.Scratch
