import Scriptorium.Reference.Catalog
import Scriptorium.Request
import Scriptorium.Statistics
import Scriptorium.Toolchain.Invoker
import Scriptorium.Unit.Loader

/-! The service: it merges references, stages the source, has it compiled, judges the run and
constructs an instance, and it looks at the interrupt between these steps. The scratch files are
removed when the request ends, in whatever way it ends. Every request is counted once when it comes
in and once when it is answered; one that panics has no answer. -/

namespace Scriptorium

structure Service where
  catalog : Catalog
  stager : Stager
  invoker : Invoker
  loader : Loader

/-- What a service keeps from one request to the next. -/
structure Session where
  statistics : Statistics := {}
  gate : Gate := .sound

namespace Service

/-- Judges a run and constructs an instance from its unit. -/
def conclude (s : Service) (q : Request) (i : Interrupt) (run : CompilerRun) :
    Step (Option Instance) :=
  match run.verdict with
  | .rejected report => throw (.fault (.rejected report q.source))
  | .accepted u => do
    Step.check i
    Step.mark (.loaded u)
    Step.act (s.loader.materialize u)

def run (s : Service) (q : Request) (o : Options) : Step (Option Instance) := do
  let i ← Step.act (Act.start o)
  let references := s.catalog.merge (← Step.files) q.references
  Step.check i
  let staged ← Step.act (s.stager.stage q.unitName q.source s.invoker.backend.writesOutput)
  Step.mark (.staged staged)
  Step.discarding s.stager staged do
    let run ← s.invoker.invoke staged references i
    s.conclude q i run

/-- The end of a request: its result, what it left behind, and what it did. -/
structure Answer where
  result : Except Halt (Option Instance)
  session : Session
  world : World
  events : List Event

/-- Counts a result. A panic leaves no result to count. -/
def count (t : Statistics) : Except Halt (Option Instance) → Statistics
  | .ok i => t.countSuccess i.isSome
  | .error (.fault f) => t.countFault f
  | .error (.panic _) => t

def compile (s : Service) (x : Session) (w : World) (q : Request) (o : Options) : Answer :=
  match s.run q o ⟨w, x.gate, []⟩ with
  | (r, c) => ⟨r, ⟨count x.statistics.countRequest r, c.gate⟩, c.world, c.events⟩

/-- A service configured and not yet used. -/
def describe (s : Service) : Text :=
  "ScriptCompiler \x7b references: ".toList ++ Text.decimal s.catalog.baseline.size
    ++ ", stager: ".toList ++ s.stager.describe
    ++ ", invoker: ".toList ++ s.invoker.describe ++ ", .. \x7d".toList

end Service

end Scriptorium
