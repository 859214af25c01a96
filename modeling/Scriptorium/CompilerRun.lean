import Scriptorium.Bytes
import Scriptorium.Diagnostic.Transcript
import Scriptorium.Text.Quoted

/-! What one run of a compiler left behind, and the verdict on it. A run is a success exactly when
it exited with zero, reported no error, and produced a unit; in every other case the report lists
its diagnostics in the order of emission, or says what happened if there are none. -/

namespace Scriptorium

/-- A compiled unit: written to disk, or kept in memory by the compiler. -/
inductive CompiledUnit
  | file (path : Text)
  | image (bytes : Bytes)
  deriving DecidableEq

namespace CompiledUnit

def describe : CompiledUnit → Text
  | file path => "File(".toList ++ Text.quoted path ++ ")".toList
  | image bytes => "Image(".toList ++ Text.decimal bytes.length ++ " bytes)".toList

end CompiledUnit

structure CompilerRun where
  diagnostics : List Diagnostic
  exitStatus : Int
  unit : Option CompiledUnit
  deriving DecidableEq

inductive Verdict
  | accepted (unit : CompiledUnit)
  | rejected (report : Text)
  deriving DecidableEq

namespace Transcript

/-- Why a run with these diagnostics and this exit status is no success. -/
def report (t : Transcript) (exitStatus : Int) : Text :=
  if t.isEmpty then
    if exitStatus = 0 then "Compilation produced no output unit.".toList
    else "Compilation failed with exit code ".toList ++ Text.signedDecimal exitStatus ++ ['.']
  else Text.trim (Text.unlines (t.map Diagnostic.render))

end Transcript

namespace CompilerRun

def hasErrors (r : CompilerRun) : Bool := r.diagnostics.any Diagnostic.isError

def verdict (r : CompilerRun) : Verdict :=
  match r.unit with
  | some u =>
    if !r.hasErrors && r.exitStatus == 0 then .accepted u
    else .rejected (Transcript.report r.diagnostics r.exitStatus)
  | none => .rejected (Transcript.report r.diagnostics r.exitStatus)

end CompilerRun

end Scriptorium
