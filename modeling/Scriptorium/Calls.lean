import Scriptorium.Service

/-! A service in use. Its calls come one after another, each into the world of its moment; only the
session goes from one call to the next. Between two calls the world may change in any way, and
compiler and loader need not behave in one call as they did in another. -/

namespace Scriptorium

/-- What a caller asks of a service. -/
inductive Ask
  /-- A source and what it refers to, without a timeout and without a token. -/
  | plain (source : Text) (references : List Text) (unitName : Text)
  | request (q : Request) (o : Options)

namespace Ask

def toRequest : Ask → Request
  | plain source references unitName => Request.withReferences ⟨source, unitName, []⟩ references
  | request q _ => q

def options : Ask → Options
  | plain .. => {}
  | request _ o => o

end Ask

/-- One call: what is asked, the world it meets, and how compiler and loader behave in it. -/
structure Service.Call where
  ask : Ask
  world : World
  compile : Job → Interrupt → Act CompilerRun
  load : CompiledUnit → Act LoadedUnit

namespace Service

/-- The service with compiler and loader as a call meets them. -/
def during (s : Service) (c : Call) : Service :=
  { s with invoker.backend.invoke := c.compile, loader.load := c.load }

def answer (s : Service) (x : Session) (c : Call) : Answer :=
  (s.during c).compile x c.world c.ask.toRequest c.ask.options

/-- The answers to calls one after another. -/
def answers (s : Service) (x : Session) : List Call → List Answer
  | [] => []
  | c :: cs => s.answer x c :: s.answers (s.answer x c).session cs

/-- The session after calls one after another. -/
def after (s : Service) (x : Session) (cs : List Call) : Session :=
  cs.foldl (fun x c => (s.answer x c).session) x

end Service

end Scriptorium
