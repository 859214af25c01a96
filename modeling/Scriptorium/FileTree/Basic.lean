import Scriptorium.Fault
import Scriptorium.Text.Utf8

/-! A file tree: directories, files, symbolic links and devices, each known by the names that lead
to it from the root, the directory that relative paths start from, and the size at which a file
stops growing, if there is one. -/

namespace Scriptorium

/-- The names on the way from the root, the innermost first. -/
abbrev Location := List Text

inductive Entry
  | directory
  | file (content : Bytes)
  | link (target : Text)
  /-- Takes everything that is written to it and gives nothing back. -/
  | device
  /-- A program that comes with the system. -/
  | program (name : Text)
  deriving DecidableEq

structure FileTree where
  entries : List (Location × Entry) := []
  here : Location := []
  largest : Option Nat := none

namespace FileTree

/-- A root directory and nothing in it. -/
def empty : FileTree := {}

def get? (t : FileTree) (l : Location) : Option Entry :=
  if l.isEmpty then some .directory else t.entries.lookup l

def erase (t : FileTree) (l : Location) : FileTree :=
  { t with entries := t.entries.filter fun x => x.1 != l }

def set (t : FileTree) (l : Location) (e : Entry) : FileTree :=
  { t with entries := (l, e) :: (t.erase l).entries }

/-- The names in a directory, with what they name. -/
def children (t : FileTree) (l : Location) : List (Text × Entry) :=
  t.entries.filterMap fun x =>
    match x.1 with
    | name :: parent => if parent = l then some (name, x.2) else none
    | [] => none

end FileTree

namespace Location

/-- The absolute path of a location. -/
def path (l : Location) : Text :=
  if l.isEmpty then ['/'] else l.reverse.flatMap ('/' :: ·)

end Location

end Scriptorium
