import Scriptorium.Duration
import Scriptorium.Text.Quoted

/-! What can go wrong with a request, and how each cause reads. An `IoError` is the answer of the
operating system; a `Fault` is the answer of the service. -/

namespace Scriptorium

inductive IoError
  | notFound
  | badExecutable
  | permissionDenied
  | alreadyExists
  | notADirectory
  | isADirectory
  | tooLarge
  | nameTooLong
  | tooManyLinks
  | nulInPath
  | nulInArgument
  /-- An error that a compiler linked into the host made up, known by its text. -/
  | other (message : Text)
  deriving DecidableEq

namespace IoError

def message : IoError → Text
  | notFound => "No such file or directory (os error 2)".toList
  | badExecutable => "Exec format error (os error 8)".toList
  | permissionDenied => "Permission denied (os error 13)".toList
  | alreadyExists => "File exists (os error 17)".toList
  | notADirectory => "Not a directory (os error 20)".toList
  | isADirectory => "Is a directory (os error 21)".toList
  | tooLarge => "File too large (os error 27)".toList
  | nameTooLong => "File name too long (os error 36)".toList
  | tooManyLinks => "Too many levels of symbolic links (os error 40)".toList
  | nulInPath => "file name contained an unexpected NUL byte".toList
  | nulInArgument => "nul byte found in provided data".toList
  | other message => message

end IoError

inductive Fault
  /-- The compiler turned the script down. -/
  | rejected (report script : Text)
  /-- The unit has no working constructor for the type. -/
  | notConstructed (typeName reason : Text)
  /-- The unit could not be read or mapped. -/
  | notLoaded (reason : Text)
  /-- The source could not be written to the scratch directory. -/
  | notStaged (path : Text) (cause : IoError)
  /-- The compiler could not be run. -/
  | notRun (program : Text) (cause : IoError)
  | cancelled
  | timedOut (timeout : Duration)
  deriving DecidableEq

namespace Fault

def message : Fault → Text
  | rejected report _ => "script compilation failed:\n".toList ++ report
  | notConstructed typeName reason =>
    "failed to instantiate `".toList ++ typeName ++ "`: ".toList ++ reason
  | notLoaded reason => "failed to load compiled unit: ".toList ++ reason
  | notStaged path _ => "failed to stage script source at ".toList ++ Text.quoted path
  | notRun program _ => "failed to run compiler toolchain `".toList ++ program ++ "`".toList
  | cancelled => "compilation cancelled".toList
  | timedOut timeout => "compilation timed out after ".toList ++ timeout.render

/-- The answer of the operating system behind a fault, where there is one. -/
def cause? : Fault → Option IoError
  | notStaged _ cause => some cause
  | notRun _ cause => some cause
  | _ => none

/-- The compiler's report, where the script itself is at fault. -/
def report? : Fault → Option Text
  | rejected report _ => some report
  | _ => none

def isRejection (f : Fault) : Bool := f.report?.isSome

end Fault

end Scriptorium
