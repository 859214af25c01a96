import Scriptorium.Rehearsal.Shell.Evaluation
import Scriptorium.Rehearsal.Shell.Utility
import Scriptorium.Rehearsal.System
import Scriptorium.Toolchain.Child

/-! Starting programs. The shell is the one that matters; the others are those that its scripts
start. A program is found by its path, or by its bare name in the usual directories. It runs in a
system of its own until nobody can write to its streams any more, and the time that took says how
often its parent will find it running. This launcher is for rehearsals, like the scripts that it
runs. -/

namespace Scriptorium.Shell

open Work

/-! ### Programs -/

/-- What becomes of a process that is to run the file at a path. -/
def executable (t : FileTree) (path : Text) : Except IoError Text :=
  match t.find true path with
  | .error e => .error e
  | .ok (.free _) => .error .notFound
  | .ok (.taken _ (.program name)) => .ok name
  | .ok (.taken ..) => .error .permissionDenied

def isMissing (e : IoError) : Bool := e = .notFound || e = .notADirectory

/-- The first of some files that can run, or why none can. -/
def firstExecutable (t : FileTree) : (cause : IoError) → List Text → Except IoError Text
  | cause, [] => .error cause
  | cause, path :: paths =>
    match executable t path with
    | .ok name => .ok name
    | .error e => firstExecutable t (if isMissing e then cause else e) paths

/-- The variables that other programs get. -/
def State.environment (s : State) : List (Text × Text) :=
  s.bindings.filterMap fun (name, b) =>
    if b.exported then b.value.map (name, ·) else none

/-! ### Starting the shell -/

/-- Reads the options of the shell, from at most `n` words: whether a script is among the arguments,
and what is left. -/
def readStartup : (n : Nat) → (given : Bool) → List Text → Work (Bool × List Text)
  | 0, given, ws => pure (given, ws)
  | n + 1, given, ws => do
    let own (cs : Text) : Text := cs.filter fun c => c ≠ 'c' && c ≠ 'l'
    match ws with
    | ['-'] :: rest | ['-', '-'] :: rest => pure (given, rest)
    | ('-' :: cs) :: rest =>
      readStartup n (given || cs.contains 'c') (← Builtin.setLetters true (own cs) rest)
    | ('+' :: cs) :: rest =>
      readStartup n (given || cs.contains 'c') (← Builtin.setLetters false (own cs) rest)
    | ws => pure (given, ws)

/-- What a shell begins with. -/
def initial (environment : List (Text × Text)) : List (Text × Binding) :=
  let plain (name value : String) : Text × Binding := (name.toList, { value := some value.toList })
  let own := [plain "IFS" " \t\n", plain "OPTIND" "1", plain "PS1" "# ", plain "PS2" "> ",
    plain "PS4" "+ ", plain "PPID" "1"]
  let given := environment.filter fun (name, _) =>
    isName name && !own.any fun (n, _) => n = name && n ≠ "PS4".toList
  own ++ given.map fun (name, value) => (name, { value := some value, exported := true })

/-- All the work of a shell. -/
def wholeWork (self : Evaluator) (arguments : List Text) : Work Nat := do
  let root ← call .ownNumber
  let directory := ofPath (← look).here.path
  modify fun s => { s with root, directory }
  setVariable "PWD".toList (some directory) true
  let (given, rest) ← readStartup (arguments.length + 1) false arguments
  let name (ws : List Text) : Work Unit :=
    match ws with
    | [] => pure ()
    | name :: arguments => modify fun s => { s with name, arguments }
  let readsInput := (← get).has 's' || (rest.isEmpty && !given)
  if given then
    match rest with
    | [] => discard (fail "-c requires an argument".toList : Work Unit)
    | script :: rest =>
      name rest
      discard <| self {} (.script script)
  else
    match rest with
    | path :: _ =>
      if readsInput then modify fun s => { s with arguments := rest }
      else
        let t ← Evaluation.readFile path
        name rest
        discard <| self {} (.file t)
    | [] => pure ()
  if readsInput then discard <| self {} (.file (← Evaluation.readAll 0 patience []))
  return (← get).status

def shellProgram (self : Evaluator) (words : List Text) (environment : List (Text × Text)) :
    Program :=
  wholeWork self words.tail
    { name := words.headD [], directory := [], bindings := initial environment }
    (Evaluation.finish self)

/-! ### Evaluation -/

/-- The program of a name, with its words and the variables it gets. -/
def programOf (self : Evaluator) (name : Text) (words : List Text)
    (environment : List (Text × Text)) : Program :=
  match Utility.program? (String.ofList name) words.tail with
  | some p => p
  | none => shellProgram self words environment

/-- The first of some files that can run takes the place of a shell. -/
def become (self : Evaluator) (files words : List Text) : Work Nat := do
  match firstExecutable (← look) .notFound (files.map pathOf) with
  | .ok name => fun s _ => .call .become fun _ => programOf self name words s.environment
  | .error e =>
    let isLost := isMissing e || e = .nameTooLong || e = .tooManyLinks
    stop (if isLost then 127 else 126) .done
      (words.headD [] ++ ": ".toList ++ reason "not found" (.file e))

/-- Does what a shell is given to do, up to a depth. -/
def evaluate : (depth : Nat) → Evaluator
  | 0 => fun _ _ => escape .mistake
  | depth + 1 => fun mode task =>
    match task with
    | .command c => Evaluation.runTask (evaluate depth) mode c
    | .script t => Evaluation.runSource (evaluate depth) mode patience { rest := t } 0
    | .file t => do
      let source : Source := { rest := t.filter (· ≠ '\x00'), isFile := true }
      let status ← Evaluation.runSource (evaluate depth) {} patience source 0
      modify fun s =>
        match s.skip with
        | some (.returning _) => { s with skip := none }
        | _ => s
      pure status
    | .become files words => become (evaluate depth) files words

/-! ### Children -/

/-- How many calls the processes of a system make before nobody waits for them any longer. -/
def callLimit : Nat := 400000

/-- How often a child that does not end is found running. -/
def manyLooks : Nat := 1000000

/-- A system that has run to its end, as the parent of its first process sees it that looks once in
a while. -/
def childOf (before : FileTree) (pace : Nat) (s : System) : Child :=
  let end_ := s.outcome.map (·.1)
  let looks := end_.elim manyLooks fun time => (System.startTime + time + pace - 1) / pace
  { looks
    ending := .ok ((s.outcome.map (·.2)).getD (.signal Signal.kill))
    files n :=
      if n < looks then s.filesAt before (n * pace - System.startTime)
      else { s.files with here := before.here }
    output := s.output.reverse
    errors := s.errors.reverse }

/-! ### Finding programs -/

/-- Where a program without a path is looked for. -/
def directories : List Text := (standardPath.splitOn ':')

/-- The file that a bare name stands for. One that cannot run does not end the search. -/
def search (t : FileTree) (name : Text) : (refused : Bool) → List Text → Except IoError Text
  | refused, [] => .error (if refused then .permissionDenied else .notFound)
  | refused, dir :: dirs =>
    match executable t (Path.join dir name) with
    | .ok found => .ok found
    | .error .permissionDenied => search t name true dirs
    | .error .notFound | .error .notADirectory => search t name refused dirs
    | .error e => .error e

def find (t : FileTree) (program : Text) : Except IoError Text :=
  if program.isEmpty then .error .notFound
  else if program.contains '/' then executable t program
  else search t program false directories

/-- The number of the first process. -/
def firstNumber : Nat := 4242

/-- How deep commands may stand in each other. -/
def depthLimit : Nat := Nat.pow 2 40

def launch : Launcher := fun t program arguments pace =>
  if (program :: arguments).any (·.contains '\x00') then .error .nulInArgument
  else
    (find t program).map fun name =>
      let words := (program :: arguments).map fun w => ofBytes (Text.encode w)
      let environment := [("PATH".toList, standardPath), ("HOME".toList, "/root".toList)]
      let p := programOf (evaluate depthLimit) name words environment
      childOf t pace ((System.start t firstNumber p).run callLimit)

end Scriptorium.Shell
