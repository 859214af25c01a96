import Scriptorium.CompilerRun
import Scriptorium.FileTree.Operations
import Scriptorium.Interrupt

/-! Everything outside the service that it sees or changes: the files, the clock and the tokens,
the supply of fresh names, the reports on files that could not be removed, and what compilers and
loaders wrote down about being called. An `Act` works on the world and ends with a value, a fault
or a panic. -/

namespace Scriptorium

/-- What compilers and loaders write down. -/
inductive Note
  /-- A compiler was called, and this was the text of the source at that time. -/
  | compilerCalled (arguments : List Text) (source : Option Text) (output : Option Text)
  /-- A unit was loaded, and this was the text of its file at that time. -/
  | unitLoaded (unit : CompiledUnit) (content : Option Text)
  | typeConstructed (typeName : Text)

structure World where
  files : FileTree := {}
  signals : Signals := {}
  /-- The fresh names of this world. They are 32 hexadecimal digits each. -/
  freshName : Nat → Text
  /-- How many of them are in use. -/
  drawn : Nat := 0
  reports : List (Text × IoError) := []
  notes : List Note := []

/-- Why an act ends early. -/
inductive Halt
  | fault (f : Fault)
  | panic (message : Text)

abbrev Act (α : Type) : Type := ExceptT Halt (StateM World) α

namespace World

/-- The bytes of a file as text, or nothing if it cannot be read. -/
def textOf? (w : World) (path : Text) : Option Text :=
  (w.files.read path).toOption.map Text.decode

def note (w : World) (n : Note) : World := { w with notes := w.notes ++ [n] }

/-- Removes a file. One that is not there is no trouble; one that stays is reported, if `report` is
set, and otherwise left alone. -/
def discard (report : Bool) (path : Text) (w : World) : World :=
  match w.files.remove path with
  | .ok t => { w with files := t }
  | .error .notFound => w
  | .error e => if report then { w with reports := w.reports ++ [(path, e)] } else w

end World

namespace Act

def fail {α : Type} (f : Fault) : Act α := throw (.fault f)

def panic {α : Type} (message : Text) : Act α := throw (.panic message)

/-- Draws a fresh name. -/
def draw : Act Text := fun w => (.ok (w.freshName w.drawn), { w with drawn := w.drawn + 1 })

/-- Writes a file; the error is the caller's to name. -/
def write (path : Text) (content : Bytes) (fault : IoError → Fault) : Act Unit := fun w =>
  match w.files.write path content with
  | (.ok (), t) => (.ok (), { w with files := t })
  | (.error e, t) => (.error (.fault (fault e)), { w with files := t })

/-- Runs `cleanup` however `body` ends. -/
def always {α : Type} (body : Act α) (cleanup : World → World) : Act α := fun w =>
  match body w with
  | (r, w) => (r, cleanup w)

/-- Runs `cleanup` if `body` ends early. -/
def onHalt {α : Type} (body : Act α) (cleanup : World → World) : Act α := fun w =>
  match body w with
  | (.ok a, w) => (.ok a, w)
  | (.error h, w) => (.error h, cleanup w)

/-- Starts the clock of one request. -/
def start (o : Options) : Act Interrupt := fun w =>
  match o.start? w.signals with
  | some i => (.ok i, w)
  | none => (.error (.panic "overflow when adding duration to instant".toList), w)

/-- Ends with the interrupt's fault if it has fired. -/
def check (i : Interrupt) : Act Unit := fun w =>
  let w := { w with signals := w.signals.tick }
  match i.fault? w.signals with
  | some f => (.error (.fault f), w)
  | none => (.ok (), w)

end Act

end Scriptorium
