import Scriptorium.FileTree.Walk

/-! What the operating system does for a program with a file tree: reading, writing and removing a
file, making directories and links, and naming the file behind a path. -/

namespace Scriptorium.FileTree

/-! ### Looking -/

/-- The path, free of links, of what exists at `path`. It is found name by name, so the whole path
may have any length. -/
def canonical? (t : FileTree) (path : Text) : Option (Text × Entry) :=
  match t.follow true path with
  | .ok (.taken l e) => some (l.path, e)
  | _ => none

/-- A regular file, behind links if need be. -/
def isFile (t : FileTree) (path : Text) : Bool :=
  match t.find true path with
  | .ok (.taken _ (.file _)) | .ok (.taken _ (.program _)) => true
  | _ => false

def read (t : FileTree) (path : Text) : Except IoError Bytes :=
  match t.find true path with
  | .error e => .error e
  | .ok (.free _) => .error .notFound
  | .ok (.taken _ .directory) => .error .isADirectory
  | .ok (.taken _ (.file content)) => .ok content
  | .ok (.taken _ _) => .ok []

def list? (t : FileTree) (path : Text) : Option (List (Text × Entry)) :=
  match t.find true path with
  | .ok (.taken l .directory) => some (t.children l)
  | _ => none

/-! ### Changing -/

/-- Puts a file at `l`. Content beyond the largest size is cut off, and that is an error. -/
def store (t : FileTree) (l : Location) (content : Bytes) : Except IoError Unit × FileTree :=
  match t.largest with
  | some n =>
    if n < content.length then (.error .tooLarge, t.set l (.file (content.take n)))
    else (.ok (), t.set l (.file content))
  | none => (.ok (), t.set l (.file content))

/-- Creates a file or replaces its content. An error may leave a file that is cut short. -/
def write (t : FileTree) (path : Text) (content : Bytes) : Except IoError Unit × FileTree :=
  if Path.endsInSlash path then
    match t.find true (Path.dropSlashes path) with
    | .error e => (.error e, t)
    | .ok _ => (.error .isADirectory, t)
  else
    match t.find true path with
    | .error e => (.error e, t)
    | .ok (.free l) | .ok (.taken l (.file _)) => t.store l content
    | .ok (.taken _ .directory) => (.error .isADirectory, t)
    | .ok (.taken _ .device) => (.ok (), t)
    | .ok (.taken _ _) => (.error .permissionDenied, t)

/-- Removes a file, or a link itself. -/
def remove (t : FileTree) (path : Text) : Except IoError FileTree :=
  match t.find false path with
  | .error e => .error e
  | .ok (.free _) => .error .notFound
  | .ok (.taken _ .directory) => .error .isADirectory
  | .ok (.taken l _) => .ok (t.erase l)

/-- Puts a new entry at a free place. -/
def place (t : FileTree) (path : Text) (e : Entry) : Except IoError FileTree :=
  match t.find false path with
  | .error err => .error err
  | .ok (.taken ..) => .error .alreadyExists
  | .ok (.free l) => .ok (t.set l e)

def makeDirectory (t : FileTree) (path : Text) : Except IoError FileTree :=
  t.place (if Path.dropSlashes path = [] then path else Path.dropSlashes path) .directory

def makeLink (t : FileTree) (path target : Text) : Except IoError FileTree :=
  t.place path (.link target)

/-- The paths of the directories on the way to `path`, outermost first, and `path` itself. -/
def ancestry (path : Text) : List Text :=
  let names := (path.splitOn '/').filter (· ≠ [])
  let root : Text := if Path.isAbsolute path then ['/'] else []
  (List.range names.length).map fun n => root ++ ['/'].intercalate (names.take (n + 1))

/-- Makes the directories of a list that can be made. -/
def makeEach (t : FileTree) (paths : List Text) : FileTree :=
  paths.foldl (fun t p => (t.makeDirectory p).toOption.getD t) t

/-- Makes a directory and those on the way to it; what exists stays. -/
def makeDirectories (t : FileTree) (path : Text) : FileTree := t.makeEach (ancestry path)

/-- Makes the directories on the way to `path`. -/
def makeParents (t : FileTree) (path : Text) : FileTree := t.makeEach (ancestry path).dropLast

end Scriptorium.FileTree
