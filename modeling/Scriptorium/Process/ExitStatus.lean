import Scriptorium.Process.Signal

/-! How a process ends: with a status of its own, or by a signal. -/

namespace Scriptorium

inductive ExitStatus
  | code (n : Nat)
  | signal (s : Signal)
  deriving DecidableEq

/-- The status as a number. A process that a signal ended has none of its own. -/
def ExitStatus.number : ExitStatus → Int
  | code n => n
  | signal _ => -1

end Scriptorium
