import Scriptorium.Course

/-! A backend and the profile it compiles for. Calls to a compiler that cannot run beside itself
pass a gate, one at a time; a call that passed it looks at the interrupt first, because it may have
waited. -/

namespace Scriptorium

structure Invoker where
  backend : Backend
  profile : Text

namespace Invoker

def gated (v : Invoker) : Bool := !v.backend.reentrant

/-- Has the compiler do a job. -/
def call (v : Invoker) (job : Job) (i : Interrupt) : Step CompilerRun := do
  Step.mark (.invoked job)
  let run ← Step.act (v.backend.invoke job i)
  Step.mark (.returned run)
  pure run

def invoke (v : Invoker) (f : Staged) (references : ReferenceSet) (i : Interrupt) :
    Step CompilerRun :=
  let job := Job.ofStaged v.profile v.backend.writesOutput f references
  if v.gated then
    Step.throughGate do
      Step.check i
      v.call job i
  else v.call job i

def describe (v : Invoker) : Text :=
  "CompilerInvoker \x7b target_profile: ".toList ++ Text.quoted v.profile ++ ", serialized: ".toList
    ++ (if v.gated then "true" else "false").toList ++ " \x7d".toList

end Invoker

end Scriptorium
