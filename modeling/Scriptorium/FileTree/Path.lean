import Scriptorium.Text.Utf8

/-! Paths as text. A path is absolute if it starts with a slash; joining a path to a directory puts
one slash between them, and an absolute path stands for itself. To the system a path is bytes, and
these need not be text. -/

namespace Scriptorium.Path

/-- A path as the system has it. -/
abbrev Raw := Bytes

/-- The bytes of a path that is text. -/
def raw (p : Text) : Raw := Text.encode p

/-- A path as it is printed. Bytes that are no text give way to replacement characters. -/
def display (p : Raw) : Text := Text.decode p

def isAbsolute (p : Text) : Bool := p.head? == some '/'

def endsInSlash (p : Text) : Bool := p.getLast? == some '/'

def join (dir p : Text) : Text :=
  if isAbsolute p || dir.isEmpty then p
  else if endsInSlash dir then dir ++ p
  else dir ++ '/' :: p

/-- The names of a path. A slash at the end asks for a directory, as a dot behind it would. -/
def parts (p : Text) : List Text :=
  (p.splitOn '/').filter (· ≠ []) ++ if endsInSlash p then [['.']] else []

/-- The path without the slashes at its end. -/
def dropSlashes (p : Text) : Text := (p.reverse.dropWhile (· = '/')).reverse

end Scriptorium.Path
