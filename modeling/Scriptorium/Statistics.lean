import Scriptorium.Fault

/-! Counters of a service: one for the requests that came in, and one for each way a request can
end. -/

namespace Scriptorium

structure Statistics where
  requests : Nat := 0
  instances : Nat := 0
  emptyUnits : Nat := 0
  compileFailures : Nat := 0
  runtimeFailures : Nat := 0
  interrupted : Nat := 0
  otherFailures : Nat := 0
  deriving DecidableEq

namespace Statistics

def succeeded (s : Statistics) : Nat := s.instances + s.emptyUnits

def countRequest (s : Statistics) : Statistics := { s with requests := s.requests + 1 }

/-- A success, with an instance or from a unit that exports no type. -/
def countSuccess (s : Statistics) (hasInstance : Bool) : Statistics :=
  if hasInstance then { s with instances := s.instances + 1 }
  else { s with emptyUnits := s.emptyUnits + 1 }

def countFault (s : Statistics) : Fault → Statistics
  | .rejected .. => { s with compileFailures := s.compileFailures + 1 }
  | .notConstructed .. | .notLoaded .. => { s with runtimeFailures := s.runtimeFailures + 1 }
  | .cancelled | .timedOut .. => { s with interrupted := s.interrupted + 1 }
  | .notStaged .. | .notRun .. => { s with otherFailures := s.otherFailures + 1 }

def render (s : Statistics) : Text :=
  let line (label : String) (value : Text) : Text := label.toList ++ value ++ ['\n']
  "Script Compilation Statistics:\n".toList
    ++ line "  Requests: " (Text.decimal s.requests)
    ++ line "  Succeeded: " (Text.decimal s.succeeded ++ " (".toList ++ Text.decimal s.instances
      ++ " instances, ".toList ++ Text.decimal s.emptyUnits ++ " empty units)".toList)
    ++ line "  Compile failures: " (Text.decimal s.compileFailures)
    ++ line "  Runtime failures: " (Text.decimal s.runtimeFailures)
    ++ line "  Interrupted: " (Text.decimal s.interrupted)
    ++ line "  Other failures: " (Text.decimal s.otherFailures)

end Statistics

end Scriptorium
