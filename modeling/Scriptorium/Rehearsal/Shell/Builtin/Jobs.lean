import Scriptorium.Rehearsal.Shell.Builtin.Options

/-! Commands for jobs and signals. -/

namespace Scriptorium.Shell.Builtin

open Work

/-! ### Jobs -/

/-- The job that a word behind a per cent sign names, or the newest one. -/
def findJob (w : Option Text) : Work Job := do
  let jobs := (← get).jobs
  let check (missing : Text) : Option Job → Work Job
    | some j => pure j
    | none => fail missing
  match w with
  | none | some ['%'] | some ['%', '+'] | some ['%', '%'] =>
    check "No current job".toList jobs.head?
  | some ['%', '-'] => check "No previous job".toList jobs.tail.head?
  | some w =>
    let number := if w.head? = some '%' then Text.readNat? w.tail else none
    check ("No such job: ".toList ++ w) (number.bind fun n => jobs.find? (·.number = n))

/-- Waits until something holds; the signal that came first, if one did. -/
def waitUntil (holds : State → Bool) (job : Option Nat) : (fuel : Nat) → Work (Option Signal)
  | 0 => pure none
  | fuel + 1 => do
    if holds (← get) then pure none
    else
      match ← reap true true job with
      | .interrupted =>
        notice
        pure ((← get).pending.getLast?)
      | .childless => pure none
      | _ => waitUntil holds job fuel

def markAwaited (p : Job → Bool) : Work Unit :=
  modify fun s => { s with jobs := s.jobs.map fun j => if p j then { j with awaited := true } else j }

/-- Waits for the jobs that words name; the status is that of the last one. -/
def waitEach : (status : Nat) → List Text → Work Nat
  | status, [] => pure status
  | _, w :: ws => do
    let job ← if w.head? = some '%' then some <$> findJob (some w)
      else do
        let n ← number w
        pure ((← get).jobs.find? fun j => j.processes.getLast?.any (·.1 = n))
    match job with
    | none => waitEach 127 ws
    | some j =>
      let isDone (s : State) : Bool := (s.job? j.number).all Job.isDone
      match ← waitUntil isDone (some j.number) patience with
      | some signal => pure (128 + signal)
      | none =>
        markAwaited (·.number = j.number)
        waitEach (((← get).job? j.number).elim 0 Job.status) ws

def wait : Builtin := fun ws => do
  let (_, ws) ← Options.read {} ws
  if ws.isEmpty then
    match ← waitUntil (·.jobs.all Job.isDone) none patience with
    | some signal => pure (128 + signal)
    | none =>
      markAwaited fun _ => true
      pure 0
  else waitEach 127 ws

/-- How a job is doing. -/
def standing (j : Job) : Text :=
  if !j.isDone then "Running".toList
  else
    match j.processes.getLast? with
    | some (_, some (.signal s)) => s.description
    | some (_, some (.code 0)) | some (_, none) | none => "Done".toList
    | some (_, some (.code n)) => "Done(".toList ++ Text.decimal n ++ [')']

def jobs : Builtin := fun ws => do
  let (os, rest) ← Options.read { bare := "lp" } ws
  reapEnded patience
  let shown ← if rest.isEmpty then pure (← get).jobs else rest.mapM fun w => findJob (some w)
  shown.forM fun j => do
    let all := (← get).jobs
    let process := Text.decimal ((j.processes.head?.map (·.1)).getD 0)
    if os.any (·.1 = 'p') then printLine process
    else
      let sign := if all.head?.any (·.number = j.number) then '+'
        else if all.tail.head?.any (·.number = j.number) then '-' else ' '
      let front := '[' :: Text.decimal j.number ++ [']', ' ', sign, ' ']
      let process := if os.any (·.1 = 'l') then process ++ [' '] else []
      let line := front ++ process ++ standing j
      printLine (line ++ List.replicate (max 1 (33 - line.length)) ' ')
      if j.isDone then modify (·.forget j.number)
  pure 0

def foreground : Builtin := fun ws => do
  let _ ← findJob ws.head?
  fail ("job ".toList ++ ws.headD "(null)".toList ++ " not created under job control".toList)

/-! ### Signals -/

/-- The signal that a word names. -/
def signal? (least : Nat) (w : Text) : Option Signal :=
  match Text.readNat? w with
  | some n => if n ≤ Signal.last then some n else none
  | none => (Signal.ofName? w).filter (least ≤ ·)

def killUsage {α : Type} : Work α :=
  fail ("Usage: kill [-s sigspec | -signum | -sigspec] [pid | job]... or\n".toList
    ++ "kill -l [exitstatus]".toList)

def listSignals (ws : List Text) : Work Nat := do
  match ws with
  | [] =>
    printLine ['0']
    (List.range Signal.last).forM fun n => printLine (Signal.name (n + 1))
    pure 0
  | w :: _ =>
    let n ← number w
    let n := if 128 < n then n - 128 else n
    if 0 < n && n ≤ Signal.last then
      printLine (Signal.name n)
      pure 0
    else fail ("invalid signal number or exit status: ".toList ++ w)

def sendEach (signal : Signal) : List Text → Work Nat :=
  List.foldlM (fun status w => do
    let target : Int ← match w with
      | '%' :: _ => do
        let j ← findJob (some w)
        pure (-Int.ofNat ((j.processes.head?.map (·.1)).getD 0))
      | '-' :: w => do
        let n ← number w
        pure (-Int.ofNat n)
      | w => Int.ofNat <$> number w
    match ← call (.send target signal) with
    | .ok () => pure status
    | .error e =>
      complain (e.reason ++ ['\n'])
      pure 1) 0

def kill : Builtin := fun ws => do
  match ws with
  | [] => killUsage
  | ('-' :: name) :: rest =>
    match signal? 1 name with
    | some signal => if rest.isEmpty then killUsage else sendEach signal rest
    | none =>
      let (os, rest) ← Options.read { bare := "l", taking := "s" } ws
      let lists := os.any (·.1 = 'l')
      let given ← os.foldlM (fun sofar (c, w) =>
        if c = 's' then
          match signal? 1 w with
          | some signal => pure (some signal)
          | none => fail ("invalid signal number or name: ".toList ++ w)
        else pure sofar) none
      if lists then if given.isSome then killUsage else listSignals rest
      else if rest.isEmpty then killUsage
      else sendEach (given.getD Signal.terminate) rest
  | ws => sendEach Signal.terminate ws

def setTrap (signal : Signal) (action : Option Text) : Work Unit := do
  modify fun s =>
    let others := s.traps.filter (·.1 ≠ signal)
    { s with traps := action.elim others fun a => (signal, a) :: others }
  if signal ≠ 0 then
    let handling : Handling := match action with
      | none => .usual
      | some [] => .ignored
      | some _ => .caught
    discard <| call (.handle signal handling)

def showTraps : Work Unit :=
  (List.range (Signal.last + 1)).forM fun n => do
    match (← get).traps.lookup n with
    | some action =>
      printLine ("trap -- ".toList ++ quoteText action ++ ' ' :: Signal.name n)
    | none => pure ()

def setTraps (action : Option Text) : List Text → Work Nat
  | [] => pure 0
  | w :: ws => do
    match signal? 0 w with
    | some signal =>
      setTrap signal action
      setTraps action ws
    | none =>
      warn ("trap: ".toList ++ w ++ ": bad trap\n".toList)
      pure 1

def trap : Builtin := fun ws => do
  let (_, ws) ← Options.read {} ws
  match ws with
  | [] =>
    showTraps
    pure 0
  | [w] => setTraps none [w]
  | w :: rest =>
    if (Text.readNat? w).any (· ≤ Signal.last) then setTraps none ws
    else setTraps (if w = ['-'] then none else some w) rest

def times : Builtin := fun _ => do
  printLine "0m0.000000s 0m0.000000s".toList
  printLine "0m0.000000s 0m0.000000s".toList
  pure 0

end Scriptorium.Shell.Builtin
