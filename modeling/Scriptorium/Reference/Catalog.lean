import Scriptorium.FileTree.Operations
import Scriptorium.Reference.Set

/-! The references every script sees: the libraries of the runtime layout, then the modules loaded
into the host when the catalog was built. A candidate that leads to no regular file is left out,
and so is a module that was made at run time. A request's own references are added to a copy. -/

namespace Scriptorium

/-- A module loaded into the host. -/
structure HostModule where
  path : Text
  /-- Made at run time, so there is no file to refer to. -/
  dynamic : Bool
  deriving DecidableEq

structure CoreDirectory where
  path : Text
  coreLibrary : Text
  metadataLibrary : Text
  deriving DecidableEq

/-- Where the libraries are that every script may refer to. -/
structure Layout where
  runtimeLibrary : Option Text := none
  collectionsLibrary : Option Text := none
  hostUnit : Option Text := none
  supportLibrary : Option Text := none
  coreDirectory : Option CoreDirectory := none
  deriving DecidableEq

namespace Layout

/-- The libraries in the order of the catalog. -/
def candidates (l : Layout) : List Text :=
  [l.runtimeLibrary, l.collectionsLibrary, l.hostUnit, l.supportLibrary].filterMap id ++
    match l.coreDirectory with
    | some d => [Path.join d.path d.coreLibrary, Path.join d.path d.metadataLibrary]
    | none => []

end Layout

/-- The full path of what a candidate leads to, if there is a regular file at that path. A reference
is text, and so is every full path here, because the names in a tree are; a name of other bytes would
make a path that is no reference. -/
def FileTree.reference? (t : FileTree) (candidate : Text) : Option Text :=
  match t.canonical? candidate with
  | some (path, _) => if t.isFile path then some path else none
  | none => none

namespace ReferenceSet

/-- Adds the files that candidates lead to. -/
def insertFiles (s : ReferenceSet) (t : FileTree) (candidates : List Text) : ReferenceSet :=
  s.insertAll (candidates.filterMap t.reference?)

end ReferenceSet

structure Catalog where
  baseline : ReferenceSet

namespace Catalog

/-- Exactly the given references, none of them looked up. -/
def ofReferences (rs : List Text) : Catalog := ⟨.ofList rs⟩

def build (t : FileTree) (layout : Layout) (loaded : List HostModule) : Catalog :=
  let modules := (loaded.filter fun m => !m.dynamic).map HostModule.path
  ⟨ReferenceSet.empty.insertFiles t (layout.candidates ++ modules)⟩

/-- The baseline and behind it the files of a request. -/
def merge (c : Catalog) (t : FileTree) (additional : List Text) : ReferenceSet :=
  c.baseline.insertFiles t additional

end Catalog

end Scriptorium
