import Scriptorium.Config
import Scriptorium.Toolchain.Backend
import Scriptorium.Toolchain.Child

/-! A compiler that runs as a process of its own and writes its unit to the output path. What it
prints on its two streams is read as two transcripts, the errors behind the output. It has made a
unit only if it exited with zero and left a regular file at the output path. -/

namespace Scriptorium

structure CompilerProgram where
  program : Text
  /-- Arguments before those of the job. -/
  leading : List Text := []
  /-- Nanoseconds between two looks at the child. -/
  interval : Nat := 10000000
  launcher : Launcher

namespace CompilerProgram

def programVariable : Text := "SCRIPTC_COMPILER".toList

def argumentsVariable : Text := "SCRIPTC_COMPILER_ARGS".toList

/-- The compiler that an environment names, with the words of another variable as arguments. -/
def ofEnvironment? (env : Environment) (launcher : Launcher) : Option CompilerProgram :=
  match (env.lookup programVariable).getD [] with
  | [] => none
  | program => some {
      program
      leading := Text.words ((env.lookup argumentsVariable).getD [])
      launcher }

def withArguments (p : CompilerProgram) (arguments : List Text) : CompilerProgram :=
  { p with leading := p.leading ++ arguments }

/-- What an ended child leaves to its parent. -/
def runOf (c : Child) (status : ExitStatus) (output : Option Text) (t : FileTree) :
    CompilerRun where
  diagnostics := Transcript.read (Text.decode c.output) ++ Transcript.read (Text.decode c.errors)
  exitStatus := status.number
  unit := (output.filter fun path => status = .code 0 && t.isFile path).map .file

def invoke (p : CompilerProgram) (job : Job) (i : Interrupt) : Act CompilerRun := fun w =>
  match p.launcher w.files p.program (p.leading ++ job.arguments) (Child.pace p.interval) with
  | .error e => (.error (.fault (.notRun p.program e)), w)
  | .ok child =>
    match child.wait i p.interval (.notRun p.program) w with
    | (.ended status, w) => (.ok (runOf child status job.output w.files), w)
    | (.killed f, w) => (.error (.fault f), w)
    | (.lost e, w) => (.error (.fault (.notRun p.program e)), w)

def backend (p : CompilerProgram) : Backend where
  writesOutput := true
  reentrant := true
  invoke := p.invoke

end CompilerProgram

end Scriptorium
