import Scriptorium.Rehearsal.Shell.Arithmetic
import Scriptorium.Rehearsal.Shell.State

/-! The work of a shell. It changes the state of the shell, calls the system, and ends with a value
or an escape; what comes after it is handed to it, so that all work together is a program. -/

namespace Scriptorium.Shell

def Work (α : Type) : Type := State → (Except Escape α → State → Program) → Program

namespace Work

variable {α β : Type}

instance : Monad Work where
  pure a := fun s next => next (.ok a) s
  bind w f := fun s next => w s fun r s =>
    match r with
    | .ok a => f a s next
    | .error e => next (.error e) s

def escape (e : Escape) : Work α := fun s next => next (.error e) s

def get : Work State := fun s next => next (.ok s) s

def modify (f : State → State) : Work Unit := fun s next => next (.ok ()) (f s)

/-- Changes the state and takes something from it. -/
def update (f : State → α × State) : Work α := fun s next =>
  let (a, s) := f s
  next (.ok a) s

/-- Does some work and shows how it ended. -/
def attempt (w : Work α) : Work (Except Escape α) := fun s next => w s fun r s => next (.ok r) s

/-- Goes on after work as if it had not been left. -/
def resume : Except Escape α → Work α
  | .ok a => pure a
  | .error e => escape e

/-- Asks the system. -/
def call (c : Call) : Work c.Reply := fun s next => .call c fun r => next (.ok r) s

/-- Does some work with a part of the state changed for the while. -/
def around (before after : State → State) (w : Work α) : Work α := do
  modify before
  let r ← attempt w
  modify after
  resume r

/-- How often something is tried before the shell gives up. -/
def patience : Nat := Nat.pow 2 40

/-! ### Printing -/

/-- Adds to what is to be printed. -/
def print (t : Text) : Work Unit := modify fun s => { s with buffer := t.reverseAux s.buffer }

def printLine (t : Text) : Work Unit := print (t ++ ['\n'])

/-- Writes what is to be printed, and tells whether it could be written. -/
def flush : Work Bool := do
  let t ← update fun s => (s.buffer, { s with buffer := [] })
  if t.isEmpty then pure true
  else
    match ← call (.write 1 (toBytes t.reverse)) with
    | .ok () => pure true
    | .error _ => pure false

/-- Writes to the stream for errors. -/
def warn (t : Text) : Work Unit := do
  let _ ← call (.write 2 (toBytes t))

/-- Says what is wrong, and where. -/
def complain (message : Text) : Work Unit := do
  let s ← get
  let command : Text := s.command.elim [] (· ++ ": ".toList)
  warn (s.name ++ ": ".toList ++ Text.decimal s.line ++ ": ".toList ++ command ++ message ++ ['\n'])

/-- Says what is wrong, and stops. -/
def stop (status : Nat) (e : Escape) (message : Text) : Work α := do
  modify fun s => { s with status }
  complain message
  let _ ← flush
  escape e

def fail (message : Text) : Work α := stop 2 .mistake message

def failWith (message : String) (about : Text) : Work α := fail (about ++ message.toList)

/-! ### Variables -/

/-- Gives a variable a value, or takes it away. -/
def setVariable (name : Text) (value : Option Text) (exported : Bool := false) : Work Unit := do
  if (← get).isLasting name then failWith ": is read only" name
  else modify (·.set name value exported)

/-- The number that a text is, which is neither negative nor too large. -/
def number (t : Text) : Work Nat :=
  match (Arithmetic.integer? (some 10) t).filter fun (n : Int) => 0 ≤ n && n < Nat.pow 2 31 with
  | some n => pure n.toNat
  | none => fail ("Illegal number: ".toList ++ t)

/-! ### Files -/

def look : Work FileTree := call .look

/-- Why something cannot be done to a file. -/
def reason (missing : String) : Refusal → Text
  | .file .notFound | .file .notADirectory => missing.toList
  | r => r.reason

/-- The words of the system for what went wrong with a path, in the shell's encoding. -/
def pathOf (t : Text) : Text := Text.decode (toBytes t)

def ofPath (p : Text) : Text := ofBytes (Text.encode p)

/-! ### Signals -/

/-- Takes note of the signals that have come. -/
def notice : Work Unit := do
  let arrived ← call .work
  modify fun s => { s with pending := s.pending ++ arrived.filter (!s.pending.contains ·) }

/-! ### Processes -/

/-- What a process does that has been made, and what its maker does then. -/
def fork (child : Program) : Work Nat := fun s next =>
  .call .fork fun
    | none => child
    | some id => next (.ok id) s

/-- Says how a process of a job ended, if a signal ended it. -/
def announce (status : ExitStatus) : Work Unit :=
  match status with
  | .signal s =>
    if s = Signal.interrupt || s = Signal.pipe then pure () else warn (s.description ++ ['\n'])
  | .code _ => pure ()

/-- Waits once. Tells whether a process has ended. -/
def reap (patient heedful : Bool) (job : Option Nat) : Work Waiting := do
  let w ← call (.wait patient heedful)
  match w with
  | .child id status =>
    let owner := (← get).jobOf? id
    modify (·.settle id status)
    if owner.isSome && owner.map (·.number) = job then announce status
  | _ => pure ()
  pure w

/-- Waits for a job to be done, or for as long as there are processes. -/
def awaitJob (job : Nat) : (fuel : Nat) → Work Unit
  | 0 => pure ()
  | fuel + 1 => do
    if ((← get).job? job).all Job.isDone then pure ()
    else
      match ← reap true false (some job) with
      | .childless => pure ()
      | _ => awaitJob job fuel

/-- Waits for a job and forgets it. -/
def finishJob (job : Nat) : Work Nat := do
  awaitJob job patience
  let s ← get
  modify (·.forget job)
  pure ((s.job? job).elim 0 Job.status)

/-- Takes note of processes that have ended. -/
def reapEnded : (fuel : Nat) → Work Unit
  | 0 => pure ()
  | fuel + 1 => do
    match ← reap false false none with
    | .child .. => reapEnded fuel
    | _ => pure ()

end Work

end Scriptorium.Shell
