import Scriptorium.FileTree.Basic
import Scriptorium.FileTree.Path

/-! Following a path through a file tree. Every name but the last must be a directory, or a link to
one; the last may be absent. A walk passes at most forty links. -/

namespace Scriptorium.FileTree

/-- Where a walk ends: at an entry, or at a name that its directory does not have. -/
inductive Place
  | taken (l : Location) (e : Entry)
  | free (l : Location)

def nameLimit : Nat := 255

def pathLimit : Nat := 4096

def linkLimit : Nat := 40

/-- Walks from the directory `l`. A link is handed to `follow` with the names behind it; a link at
the very end is followed only if `last` is set. -/
def walkNames (t : FileTree) (last : Bool)
    (follow : Location → List Text → Except IoError Place) :
    Location → List Text → Except IoError Place
  | l, [] => .ok (.taken l .directory)
  | l, name :: rest =>
    if name = ['.'] then walkNames t last follow l rest
    else if name = ['.', '.'] then walkNames t last follow l.tail rest
    else if nameLimit < Text.byteLength name then .error .nameTooLong
    else
      match t.get? (name :: l) with
      | none => if rest.isEmpty then .ok (.free (name :: l)) else .error .notFound
      | some .directory => walkNames t last follow (name :: l) rest
      | some (.link target) =>
        if rest.isEmpty && !last then .ok (.taken (name :: l) (.link target))
        else follow (if Path.isAbsolute target then [] else l) (Path.parts target ++ rest)
      | some e => if rest.isEmpty then .ok (.taken (name :: l) e) else .error .notADirectory

/-- Walks and follows at most `links` links. -/
def walk (t : FileTree) (last : Bool) : (links : Nat) → Location → List Text → Except IoError Place
  | 0 => t.walkNames last fun _ _ => .error .tooManyLinks
  | links + 1 => t.walkNames last (t.walk last links)

/-- The place a path of any length leads to. -/
def follow (t : FileTree) (last : Bool) (path : Text) : Except IoError Place :=
  if path.contains '\x00' then .error .nulInPath
  else if path.isEmpty then .error .notFound
  else t.walk last linkLimit (if Path.isAbsolute path then [] else t.here) (Path.parts path)

/-- The place a path leads to that is handed to the system as a whole. -/
def find (t : FileTree) (last : Bool) (path : Text) : Except IoError Place :=
  if !path.contains '\x00' && pathLimit ≤ Text.byteLength path then .error .nameTooLong
  else t.follow last path

end Scriptorium.FileTree
