import Scriptorium.Scratch.Name
import Scriptorium.World

/-! Staging: the source of a request goes to a file of its own in the scratch directory, and an
output path of the same stem is reserved where the compiler writes one. `Stager.discard` removes
both, and it is owed from the moment the paths are known, so that a source cut short goes too. -/

namespace Scriptorium

structure Stager where
  directory : Text
  sourceExtension : Text
  unitExtension : Text
  /-- Files that could not be removed are reported. -/
  reports : Bool := false

/-- The scratch files of one request. -/
structure Staged where
  source : Text
  output : Option Text
  deriving DecidableEq

namespace Stager

def paths (s : Stager) (unitName token : Text) (withOutput : Bool) : Staged :=
  let path (extension : Text) : Text :=
    Path.join s.directory (Scratch.fileName (Scratch.stem unitName token) extension)
  ⟨path s.sourceExtension, if withOutput then some (path s.unitExtension) else none⟩

/-- Removes the source, then the output. -/
def discard (s : Stager) (f : Staged) (w : World) : World :=
  (f.output.toList).foldl (fun w path => w.discard s.reports path) (w.discard s.reports f.source)

def stage (s : Stager) (unitName source : Text) (withOutput : Bool) : Act Staged := do
  let token ← Act.draw
  let files := s.paths unitName token withOutput
  Act.onHalt (Act.write files.source (Text.encode source) (.notStaged files.source))
    (s.discard files)
  pure files

def describe (s : Stager) : Text :=
  "SourceStager \x7b scratch_dir: ".toList ++ Text.quoted s.directory
    ++ ", source_extension: ".toList ++ Text.quoted s.sourceExtension
    ++ ", unit_extension: ".toList ++ Text.quoted s.unitExtension
    ++ ", cleanup_hook: ".toList
    ++ (if s.reports then "Some(CleanupHook(..))" else "None").toList ++ " \x7d".toList

end Stager

end Scriptorium
