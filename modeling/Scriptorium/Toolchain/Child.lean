import Scriptorium.Process.ExitStatus
import Scriptorium.World

/-! Waiting for a child process. Its parent looks at it again and again; if it still runs, the
parent looks at the interrupt, kills the child if that has fired, and sleeps for an interval
otherwise. An interrupt that cannot fire needs no looking, and the parent just waits. What the parent
does is written down. -/

namespace Scriptorium

/-- A child as far as its parent can know it. -/
structure Child where
  /-- How often it is found running. -/
  looks : Nat
  /-- What a look shows after that: how it ended, or that the system cannot tell. -/
  ending : Except IoError ExitStatus
  /-- The files when it has been found running so often. -/
  files : Nat → FileTree
  output : Bytes
  errors : Bytes

/-- How waiting ends. -/
inductive Waited
  | ended (status : ExitStatus)
  /-- The child was killed and its end awaited. -/
  | killed (fault : Fault)
  | lost (cause : IoError)

/-- What a parent does while it waits. -/
inductive Deed
  /-- It looks at the child: that has ended, or still runs, or the system cannot tell. -/
  | looked (found : Except IoError (Option ExitStatus))
  | checked (fault : Option Fault)
  | slept (nanoseconds : Nat)
  | killedGroup
  | killed
  /-- It waits until the child has ended. -/
  | awaited

/-- How waiting ended, what the parent did, and the world after it. -/
structure Attendance where
  waited : Waited
  deeds : List Deed
  world : World

namespace Attendance

/-- What was done before it belongs to it. -/
def after (x : Attendance) (ds : List Deed) : Attendance := { x with deeds := ds ++ x.deeds }

end Attendance

namespace Child

/-- What the child has done to the files after it was found running `n` times. -/
def touch (c : Child) (n : Nat) (w : World) : World := { w with files := c.files n }

/-- A look takes a moment itself. -/
def lookTime : Nat := 50000

/-- The time from one look to the next. -/
def pace (interval : Nat) : Nat := interval + lookTime

/-- A child leads a group of its own, so what it started is killed with it. -/
def termination : List Deed := [.killedGroup, .killed, .awaited]

/-- A child is found running and let run. -/
def round (interval : Nat) : List Deed := [.looked (.ok none), .checked none, .slept interval]

/-- Waits for a child that has been found running `seen` times and will be found so `left` times
more. -/
def watch (c : Child) (i : Interrupt) (interval : Nat) (unseen : IoError → Fault) :
    (seen left : Nat) → World → Attendance
  | seen, 0, w =>
    match c.ending with
    | .ok status => ⟨.ended status, [.looked (.ok (some status))], c.touch seen w⟩
    | .error e => ⟨.killed (unseen e), .looked (.error e) :: termination, c.touch seen w⟩
  | seen, left + 1, w =>
    match Act.check i w with
    | (.error (.fault f), w) =>
      ⟨.killed f, .looked (.ok none) :: .checked (some f) :: termination, c.touch seen w⟩
    | (_, w) =>
      (watch c i interval unseen (seen + 1) left
        { w with signals := w.signals.wait (pace interval) }).after (round interval)

/-- Waits without looking. -/
def await (c : Child) (interval : Nat) (w : World) : Attendance :=
  let w := c.touch c.looks { w with signals := w.signals.wait (c.looks * pace interval) }
  match c.ending with
  | .ok status => ⟨.ended status, [.awaited], w⟩
  | .error e => ⟨.lost e, [.awaited], w⟩

def attend (c : Child) (i : Interrupt) (interval : Nat) (unseen : IoError → Fault) (w : World) :
    Attendance :=
  if i.isInert then c.await interval w else c.watch i interval unseen 0 c.looks w

def wait (c : Child) (i : Interrupt) (interval : Nat) (unseen : IoError → Fault) (w : World) :
    Waited × World :=
  let x := c.attend i interval unseen w
  (x.waited, x.world)

end Child

/-- What starts a program with arguments. A child runs on its own, so how often it is found running
follows from the time between two looks. -/
abbrev Launcher :=
  FileTree → (program : Text) → (arguments : List Text) → (pace : Nat) → Except IoError Child

end Scriptorium
