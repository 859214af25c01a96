import Scriptorium.Reference.Set
import Scriptorium.Scratch.Stager

/-! Running a compiler. A backend takes a job, that is the list of arguments and the output path,
and answers with a run; it may look at the interrupt while it works. The arguments of a job are the
fixed flags, the target profile, the output if there is one, the source, and the references. -/

namespace Scriptorium

structure Job where
  arguments : List Text
  source : Text
  output : Option Text
  deriving DecidableEq

structure Backend where
  /-- The compiler writes its unit to the output path. -/
  writesOutput : Bool
  /-- The compiler can run beside itself. -/
  reentrant : Bool
  invoke : Job → Interrupt → Act CompilerRun

namespace Job

def flags : List Text := [
  "--target:library".toList,
  "--optimize+".toList,
  "--tailcalls+".toList,
  "--fullpaths".toList,
  "--noframework".toList,
  "--deterministic-".toList]

/-- Arguments are text, so paths are printed, even those that are not text. -/
def argumentList (profile : Text) (output : Option Path.Raw) (source : Path.Raw)
    (references : ReferenceSet) : List Text :=
  flags ++ ["--targetprofile:".toList ++ profile]
    ++ (output.toList.map Path.display).map ("-o:".toList ++ ·) ++ [Path.display source]
    ++ references.entries.map ("-r:".toList ++ ·)

/-- The job for staged files; an output path is of use only to a compiler that writes one. -/
def ofStaged (profile : Text) (writesOutput : Bool) (f : Staged) (references : ReferenceSet) :
    Job :=
  let output := if writesOutput then f.output else none
  ⟨argumentList profile (output.map Path.raw) (Path.raw f.source) references, f.source, output⟩

end Job

/-! ### A compiler linked into the host -/

/-- A compiler that the host calls as a function. It keeps the unit in memory. -/
structure EntryPoint where
  name : Text
  reentrant : Bool := true
  call : Job → Act (Except IoError CompilerRun)

namespace EntryPoint

/-- The call cannot be stopped, so the interrupt counts before and after it. -/
def backend (e : EntryPoint) : Backend where
  writesOutput := false
  reentrant := e.reentrant
  invoke job interrupt := do
    Act.check interrupt
    match ← e.call job with
    | .error cause => Act.fail (.notRun e.name cause)
    | .ok run =>
      Act.check interrupt
      pure run

def describe (e : EntryPoint) : Text :=
  "InProcessBackend \x7b name: ".toList ++ Text.quoted e.name ++ ", reentrant: ".toList
    ++ (if e.reentrant then "true" else "false").toList ++ " \x7d".toList

end EntryPoint

end Scriptorium
