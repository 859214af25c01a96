import Scriptorium.Toolchain.Backend

/-! The course of a request: the world as it finds and changes it, the gate before the compiler, and
the list of what it did. A `Step` works on the course and, like an act, ends with a value, a fault
or a panic. -/

namespace Scriptorium

/-- What a request did, in order. -/
inductive Event
  | checked (fault : Option Fault)
  | staged (files : Staged)
  | invoked (job : Job)
  | returned (run : CompilerRun)
  | loaded (unit : CompiledUnit)
  | discarded (files : Staged)
  deriving DecidableEq

/-- The gate before a compiler that cannot run beside itself. A panic behind it leaves it poisoned,
and a poisoned gate opens like any other. -/
inductive Gate
  | sound
  | poisoned
  deriving DecidableEq

/-- A request under way. -/
structure Course where
  world : World
  gate : Gate
  events : List Event

abbrev Step (α : Type) : Type := ExceptT Halt (StateM Course) α

namespace Step

variable {α : Type}

def act (a : Act α) : Step α := fun c =>
  match a c.world with
  | (r, w) => (r, { c with world := w })

def mark (e : Event) : Step Unit := fun c => (.ok (), { c with events := c.events ++ [e] })

def files : Step FileTree := fun c => (.ok c.world.files, c)

def check (i : Interrupt) : Step Unit := fun c =>
  match Act.check i c.world with
  | (.error (.fault f), w) =>
    (.error (.fault f), { c with world := w, events := c.events ++ [.checked (some f)] })
  | (r, w) => (r, { c with world := w, events := c.events ++ [.checked none] })

/-- Removes the files of `s` however `body` ends. -/
def discarding (s : Stager) (f : Staged) (body : Step α) : Step α := fun c =>
  match body c with
  | (r, c) => (r, { c with world := s.discard f c.world, events := c.events ++ [.discarded f] })

/-- Passes the gate. -/
def throughGate (body : Step α) : Step α := fun c =>
  match body c with
  | (.error (.panic m), c) => (.error (.panic m), { c with gate := .poisoned })
  | (r, c) => (r, c)

end Step

end Scriptorium
