import Scriptorium.Rehearsal.Program
import Scriptorium.Rehearsal.Shell.Command

/-! What a shell remembers from one command to the next: its arguments, variables, functions and
options, how the last command ended, the jobs it has started, what it does about signals, and where
its descriptors led before they were redirected. -/

namespace Scriptorium.Shell

/-- Why a shell leaves what it was doing. -/
inductive Escape
  | mistake
  /-- The command to leave. -/
  | exit
  /-- The end of a shell that had one thing to do. -/
  | done
  deriving DecidableEq

/-- What commands are passed over for. -/
inductive Skip
  | breaking
  | continuing
  /-- Out of a function or a script, with a status or with the last one. -/
  | returning (given : Bool)
  deriving DecidableEq

structure Binding where
  value : Option Text
  exported : Bool := false
  lasting : Bool := false

/-- What a function has changed for itself alone. -/
inductive Local
  | variable (name : Text) (before : Option Binding)
  | options (before : Text)

/-- Where a descriptor led before it was redirected. -/
inductive Kept
  | closed
  /-- It was closed, and nothing is to be done. -/
  | unchanged
  | at (descriptor : Nat)

/-- A program that was found, and which directory of the list it is in. -/
structure Located where
  name : Text
  index : Nat
  /-- Paths start from another directory since then. -/
  stale : Bool := false

structure Job where
  number : Nat
  processes : List (Nat × Option ExitStatus)
  /-- Somebody has asked how it ended. -/
  awaited : Bool := false

def Job.isDone (j : Job) : Bool := j.processes.all (·.2.isSome)

structure State where
  /-- The number of the first shell. -/
  root : Nat := 0
  name : Text
  arguments : List Text := []
  /-- Where the reading of options stands: the next argument, and the next letter in it. -/
  nextOption : Nat := 1
  nextLetter : Option Nat := none
  bindings : List (Text × Binding) := []
  functions : List (Text × Command) := []
  aliases : List (Text × Text) := []
  /-- Programs that need not be looked for again. -/
  located : List Located := []
  /-- The letters of the options that are set. -/
  options : Text := []
  /-- How the last command ended. -/
  status : Nat := 0
  /-- How the last command in a word ended. -/
  substituted : Nat := 0
  /-- The status that a trap or the end of the shell comes back to. -/
  saved : Option Nat := none
  skip : Option Skip := none
  /-- How many loops are to be left. -/
  skipCount : Nat := 0
  loops : Nat := 0
  line : Nat := 0
  /-- The line that is read next. -/
  lastLine : Nat := 1
  /-- The command of the shell that is at work. -/
  command : Option Text := none
  traps : List (Signal × Text) := []
  /-- Signals that have come and wait for their traps. -/
  pending : List Signal := []
  jobs : List Job := []
  /-- The process that was sent into the background last. -/
  background : Option Nat := none
  documents : List Document := []
  nextDocument : Nat := 0
  locals : List (List Local) := []
  redirected : List (List (Nat × Kept)) := []
  /-- What is to be printed, backwards. -/
  buffer : Text := []
  directory : Text
  mask : Nat := 18

namespace State

def has (s : State) (option : Char) : Bool := s.options.contains option

/-! ### Variables -/

def binding? (s : State) (name : Text) : Option Binding := s.bindings.lookup name

def value? (s : State) (name : Text) : Option Text := (s.binding? name).bind (·.value)

def get? (s : State) (name : String) : Option Text := s.value? name.toList

def isLasting (s : State) (name : Text) : Bool := (s.binding? name).any (·.lasting)

def bind (s : State) (name : Text) (b : Option Binding) : State :=
  let others := s.bindings.filter (·.1 ≠ name)
  { s with bindings := b.elim others fun b => (name, b) :: others }

/-- Some variables mean something to the shell. -/
def notice (s : State) (name : Text) : State :=
  if String.ofList name = "OPTIND" then
    let n := ((s.value? name).bind Text.readNat?).getD 1
    { s with nextOption := max 1 n, nextLetter := none }
  else if String.ofList name = "PATH" then { s with located := [] }
  else s

/-- Gives a variable a value, or takes it away. -/
def set (s : State) (name : Text) (value : Option Text) (exported : Bool := false) : State :=
  let old := s.binding? name
  let exported := exported || s.has 'a' || old.any (·.exported)
  let b : Option Binding :=
    if value.isNone && (!exported || old.isSome) then none
    else some { value, exported, lasting := old.any (·.lasting) }
  (s.bind name b).notice name

/-- Notes that a function changes a variable for itself. -/
def remember (s : State) (l : Local) : State :=
  match s.locals with
  | frame :: frames => { s with locals := (l :: frame) :: frames }
  | [] => s

def restoreLocal (s : State) : Local → State
  | .variable name before => (s.bind name before).notice name
  | .options before => { s with options := before }

/-- The variables that the innermost frames have changed, if `count` are left out. -/
def changedSince (s : State) (count : Nat) : List Text :=
  (s.locals.take (s.locals.length - count)).flatten.filterMap fun
    | .variable name _ => some name
    | .options _ => none

/-- Takes back what the innermost frames have changed, until `count` are left. -/
def restoreLocals (s : State) (count : Nat) : State :=
  let inner := s.locals.length - count
  let s' := (s.locals.take inner).foldl (fun s frame => frame.foldl restoreLocal s) s
  { s' with locals := s.locals.drop inner }

/-- The characters that fields end at. -/
def separators (s : State) : Text := (s.get? "IFS").getD " \t\n".toList

/-! ### Names -/

/-- Puts an entry in the place of the one of the same name, or behind all others. -/
def replace {α : Type} (name : α → Text) (new : α) : List α → List α
  | [] => [new]
  | a :: more => if name a = name new then new :: more else a :: replace name new more

/-- Notes where a program is, or that there is none. -/
def locate (s : State) (name : Text) : Option Nat → State
  | some index => { s with located := replace Located.name ⟨name, index, false⟩ s.located }
  | none => { s with located := s.located.filter (·.name ≠ name) }

/-- Names are listed by a number that their bytes make, and then in the order they came. -/
def bucketOf (size : Nat) (name : Text) : Nat :=
  (16 * (name.headD '\x00').toNat + name.foldr (fun c n => c.toNat + n) 0) % size

def listed {α : Type} (size : Nat) (name : α → Text) (entries : List α) : List α :=
  entries.mergeSort fun a b => bucketOf size (name a) ≤ bucketOf size (name b)

/-! ### Directories -/

/-- A path as the shell says it: without dots, and with dots that lead up taken literally. -/
def normalize (s : State) (path : Text) : Text :=
  let isFull := path.head? = some '/'
  let base := if isFull then path else s.directory
  let names := ((if isFull then [] else s.directory.splitOn '/') ++ path.splitOn '/').foldl
    (fun names n =>
      if n.isEmpty || n = ['.'] then names
      else if n = ['.', '.'] then names.tail
      else n :: names) []
  let root : Text := match base with
    | '/' :: '/' :: rest => if rest.head? = some '/' then ['/'] else ['/', '/']
    | _ => ['/']
  root ++ ['/'].intercalate names.reverse

/-! ### Jobs -/

/-- The job that a process belongs to. -/
def jobOf? (s : State) (process : Nat) : Option Job :=
  s.jobs.find? fun j => j.processes.any (·.1 = process)

def job? (s : State) (number : Nat) : Option Job := s.jobs.find? (·.number = number)

/-- Notes how a process has ended. -/
def settle (s : State) (process : Nat) (status : ExitStatus) : State :=
  { s with jobs := s.jobs.map fun j => { j with
      processes := j.processes.map fun p =>
        if p.1 = process then (p.1, some status) else p } }

def forget (s : State) (number : Nat) : State :=
  { s with jobs := s.jobs.filter (·.number ≠ number) }

/-- A new job; one that is done and has been asked about makes room for it. -/
def newJob (s : State) : Nat × State :=
  let s := match (s.jobs.filter fun j => j.isDone && j.awaited).getLast? with
    | some j => s.forget j.number
    | none => s
  let numbers := s.jobs.map (·.number)
  let n := ((List.range (numbers.length + 1)).map (· + 1)).find? (!numbers.contains ·) |>.getD 1
  (n, { s with jobs := ⟨n, [], false⟩ :: s.jobs })

/-- Notes a process of a job. -/
def addProcess (s : State) (number process : Nat) : State :=
  { s with jobs := s.jobs.map fun j =>
      if j.number = number then { j with processes := j.processes ++ [(process, none)] } else j }

end State

/-- The status that a shell gives for the end of a process. -/
def statusOf : ExitStatus → Nat
  | .code n => n
  | .signal s => s + 128

/-- The status of a job is that of its last process. -/
def Job.status (j : Job) : Nat :=
  match j.processes.getLast? with
  | some (_, some status) => statusOf status
  | _ => 0

end Scriptorium.Shell
