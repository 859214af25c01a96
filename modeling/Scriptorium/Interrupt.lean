import Scriptorium.Fault

/-! Stopping a request from outside: a timeout, or a token that a caller cancels. The clock counts
nanoseconds and does not count for ever; a deadline that lies beyond its last reading is a panic.
A token is shared by its copies: each cancellation carries the moment from which it holds. -/

namespace Scriptorium

/-! ### Clock and tokens -/

abbrev TokenId := Nat

/-- The clock and the tokens as the world drives them: `drift k` passes before the `k`-th time the
clock is read. -/
structure Signals where
  now : Nat := 0
  readings : Nat := 0
  drift : Nat → Nat := fun _ => 0
  cancellations : List (TokenId × Nat) := []

namespace Signals

/-- The clock stops before this many nanoseconds. -/
def clockEnd : Nat := Nat.pow 2 63 * Duration.perSecond

/-- Lets time pass until the clock is read again. -/
def tick (s : Signals) : Signals :=
  { s with now := s.now + s.drift s.readings, readings := s.readings + 1 }

def wait (s : Signals) (nanoseconds : Nat) : Signals := { s with now := s.now + nanoseconds }

def cancel (s : Signals) (t : TokenId) : Signals :=
  { s with cancellations := (t, s.now) :: s.cancellations }

def isCancelled (s : Signals) (t : TokenId) : Bool :=
  s.cancellations.any fun c => c.1 == t && c.2 ≤ s.now

end Signals

/-! ### Interrupts -/

/-- What a caller asks of one request. -/
structure Options where
  timeout : Option Duration := none
  token : Option TokenId := none

/-- A started request: the moment its time is up, with the timeout that led to it, and its token. -/
structure Interrupt where
  deadline : Option (Nat × Duration) := none
  token : Option TokenId := none

/-- The moment `timeout` from now, if the clock gets there. -/
def Signals.deadline? (s : Signals) (timeout : Duration) : Option Nat :=
  let moment := s.now + timeout.nanoseconds
  if moment < Signals.clockEnd then some moment else none

namespace Interrupt

/-- Never fires. -/
def inert : Interrupt := {}

def isInert (i : Interrupt) : Bool := i.deadline.isNone && i.token.isNone

/-- What stops a request at this moment; a cancelled token goes before a deadline. -/
def fault? (i : Interrupt) (s : Signals) : Option Fault :=
  if i.token.any s.isCancelled then some .cancelled
  else
    match i.deadline with
    | some (moment, timeout) => if moment ≤ s.now then some (.timedOut timeout) else none
    | none => none

end Interrupt

/-- Starts the clock of one request; there is no interrupt if the deadline is out of reach. -/
def Options.start? (o : Options) (s : Signals) : Option Interrupt :=
  match o.timeout with
  | none => some { token := o.token }
  | some d => (s.deadline? d).map fun moment => { deadline := some (moment, d), token := o.token }

end Scriptorium
