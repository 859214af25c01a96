import Scriptorium.Rehearsal.Shell.Builtin.Directories
import Scriptorium.Rehearsal.Shell.Builtin.Jobs
import Scriptorium.Rehearsal.Shell.Builtin.Names
import Scriptorium.Rehearsal.Shell.Builtin.Variables
import Scriptorium.Rehearsal.Shell.Condition
import Scriptorium.Rehearsal.Shell.Format
import Scriptorium.Rehearsal.Shell.Grammar
import Scriptorium.Rehearsal.Shell.Redirecting

/-! Running commands. One step of evaluation does what a command asks for and is handed what runs
the commands in it, so the recursion is written once, at the end. A command that a shell ends with
takes its place. -/

namespace Scriptorium.Shell

/-- How a command runs. -/
structure Mode where
  /-- The shell ends with it. -/
  last : Bool := false
  /-- It may fail even in a shell that ends where something fails. -/
  tested : Bool := false

/-- What a shell is given to do. -/
inductive Task
  | command (c : Option Command)
  | script (t : Text)
  /-- A script in a file, which a command to return leaves. -/
  | file (t : Text)
  /-- The first of some files that can run takes the place of the shell. -/
  | become (files words : List Text)

abbrev Evaluator : Type := Mode → Task → Work Nat

namespace Evaluation

open Work

section

variable (self : Evaluator)

/-! ### Signals and ends -/

/-- The signal that is attended to first. -/
def nextSignal (s : State) : Option Signal :=
  s.pending.foldl (fun best n => some (best.elim n (min n))) none

/-- Runs the traps of the signals that have come. -/
def runTraps : (fuel : Nat) → Work Unit
  | 0 => pure ()
  | fuel + 1 => do
    let s ← get
    match nextSignal s with
    | none => pure ()
    | some n =>
      if s.skip.isSome then pure ()
      else
        modify fun s => { s with pending := s.pending.filter (· ≠ n) }
        match s.traps.lookup n with
        | none => runTraps fuel
        | some action =>
          let status := s.saved.getD s.status
          modify fun s => { s with saved := some status }
          let _ ← self {} (.script action)
          let given := (← get).skip = some (.returning true)
          modify fun t => { t with saved := s.saved, status := if given then t.status else status }
          runTraps fuel

def attendSignals : Work Unit := do
  let s ← get
  if !s.pending.isEmpty then runTraps self Signal.last

/-- The status a shell ends with, before and after its last trap. -/
def finalStatus (fallback : Nat) (s : State) : Except Escape Nat → Nat
  | .error .exit => s.saved.getD fallback
  | _ => fallback

/-- Ends a shell, behind the trap for its end. -/
def finish (r : Except Escape Nat) (s : State) : Program :=
  let status := finalStatus s.status s r
  match s.traps.lookup 0 with
  | none => .ended status
  | some action =>
    let traps := s.traps.filter (·.1 ≠ 0)
    let s := { s with traps, status, saved := some status, skip := none, loops := 0 }
    (unwindRedirections 0 >>= fun () => self {} (.script action)) s fun r s =>
      .ended (match r with
        | .ok _ => s.saved.getD status
        | .error .exit => s.saved.getD s.status
        | .error _ => s.status)

/-! ### Processes -/

/-- How a shell that is made goes on. -/
inductive Manner
  | foreground
  | background
  /-- It belongs to no job that anybody sees. -/
  | hidden
  deriving DecidableEq

/-- What a new shell does first: it forgets traps, jobs and redirections. One in the background does
not listen to the keyboard, and reads nothing. -/
def settle (manner : Manner) (first : Bool) : Work Unit := do
  let s ← get
  s.traps.forM fun (signal, action) => do
    if !action.isEmpty then Builtin.setTrap signal none
  modify fun s => { s with
    jobs := [], redirected := [], pending := [], saved := none, lastLine := 1 }
  if manner = .background then
    let _ ← call (.handle Signal.interrupt .ignored)
    let _ ← call (.handle Signal.quit .ignored)
    if first then
      let _ ← call (.close 0)
      discard <| call (.openFile "/dev/null".toList { reads := true })

/-- Makes a shell for a job that does some work and ends. -/
def forkShell (job : Nat) (manner : Manner) (work : Work Nat) : Work Unit := do
  let first := ((← get).job? job).any (·.processes.isEmpty)
  let s ← get
  let id ← fork ((settle manner first >>= fun () => work) s (finish self))
  modify (·.addProcess job id)
  if manner = .background then modify fun s => { s with background := some id }

def startJob : Work Nat := update State.newJob

/-- Moves a descriptor to another number. -/
def move (source goal : Nat) : Work Unit := do
  if source ≠ goal then
    let _ ← call (.lead goal source)
    discard <| call (.close source)

/-! ### Commands in words -/

/-- All that can be read from a descriptor. -/
def readAll (descriptor : Nat) : (fuel : Nat) → (chunks : List Bytes) → Work Text
  | 0, chunks => pure (ofBytes chunks.reverse.flatten)
  | fuel + 1, chunks => do
    match ← call (.read descriptor 65536) with
    | .ok [] => pure (ofBytes chunks.reverse.flatten)
    | .ok bs => readAll descriptor fuel (bs :: chunks)
    | .error .interrupted =>
      notice
      readAll descriptor fuel chunks
    | .error _ => pure (ofBytes chunks.reverse.flatten)

/-- What a command prints, without nulls and without the line feeds at its end. -/
def output (c : Option Command) : Work Text := do
  match c with
  | none => pure []
  | some c =>
    let (source, sink) ← call .pipe
    let job ← startJob
    forkShell self job .hidden do
      let _ ← call (.close source)
      move sink 1
      self { last := true } (.command (some c))
    let _ ← call (.close sink)
    let t ← readAll source patience []
    let _ ← call (.close source)
    let status ← finishJob job
    modify fun s => { s with substituted := status }
    let t := t.filter (· ≠ '\x00')
    pure (t.reverse.dropWhile (· = '\n')).reverse

/-! ### Lists of commands and loops -/

/-- What a loop is left or gone on for. -/
def passLoop : Work (Option Skip) := update fun s =>
  match s.skip with
  | none => (none, s)
  | some (.returning given) => (some (.returning given), s)
  | some skip =>
    if s.skipCount ≤ 1 then (some skip, { s with skip := none, skipCount := 0 })
    else (some .breaking, { s with skipCount := s.skipCount - 1 })

/-- Runs a body as long as a condition holds. -/
def runLoop (mode : Mode) (whileTrue : Bool) (condition body : Command) :
    (fuel : Nat) → (status : Nat) → Work Nat
  | 0, status => pure status
  | fuel + 1, status => do
    let r ← self { tested := true } (.command (some condition))
    match ← passLoop with
    | some (.returning _) => pure r
    | some .breaking => pure status
    | some .continuing => runLoop mode whileTrue condition body fuel status
    | none =>
      if (r = 0) ≠ whileTrue then pure status
      else
        let status ← self { tested := mode.tested } (.command (some body))
        match ← passLoop with
        | some (.returning _) | some .breaking => pure status
        | _ => runLoop mode whileTrue condition body fuel status

/-- Runs a body for each value of a variable. -/
def runEach (mode : Mode) (name : Text) (body : Command) : (status : Nat) → List Text → Work Nat
  | status, [] => pure status
  | _, t :: ts => do
    setVariable name (some t)
    let status ← self { tested := mode.tested } (.command (some body))
    match ← passLoop with
    | some (.returning _) | some .breaking => pure status
    | _ => runEach mode name body status ts

/-- Does some work as part of a loop. -/
def inLoop (w : Work Nat) : Work Nat := do
  modify fun s => { s with loops := s.loops + 1 }
  let status ← w
  modify fun s => { s with loops := s.loops - 1 }
  pure status

/-- Runs the body of the first case with a pattern that a text matches. -/
def runCases (mode : Mode) (t : Text) : List (List Word × Option Command) → Work Nat
  | [] => pure 0
  | (patterns, body) :: cases => do
    let rec fits : List Word → Work Bool
      | [] => pure false
      | p :: ps => do
        let w ← expand (output self) ⟨.whole, false⟩ p
        if (Span.pattern w).accepts t then pure true else fits ps
    if (← get).skip.isSome then pure 0
    else if ← fits patterns then
      match body with
      | some c => if (← get).skip.isSome then pure 0 else self mode (.command (some c))
      | none => pure 0
    else runCases mode t cases

/-! ### Pipelines -/

/-- Starts the commands of a pipeline, the first of which reads from `source`. -/
def startPipeline (mode : Mode) (manner : Manner) (job : Nat) :
    (source : Option Nat) → List Command → Work Unit
  | _, [] => pure ()
  | source, c :: cs => do
    let pipe ← if cs.isEmpty then pure none else some <$> call .pipe
    forkShell self job manner do
      if let some (next, _) := pipe then discard <| call (.close next)
      if let some n := source then move n 0
      if let some (_, sink) := pipe then move sink 1
      self { mode with last := true } (.command (some c))
    if let some n := source then discard <| call (.close n)
    if let some (_, sink) := pipe then discard <| call (.close sink)
    startPipeline mode manner job (pipe.map (·.1)) cs

def runPipeline (mode : Mode) (background : Bool) (cs : List Command) : Work Nat := do
  let job ← startJob
  startPipeline self mode (if background then .background else .foreground) job none cs
  if background then pure 0 else finishJob job

/-- Runs a command in a shell of its own. -/
def runApart (mode : Mode) (line : Nat) (background : Bool) (body : Command)
    (rs : List Redirection) : Work Nat := do
  if line ≠ 0 then modify fun s => { s with line }
  let ts ← targets (output self) rs
  let work (mode : Mode) : Work Nat := do
    redirect (output self) false ts
    self { mode with last := true } (.command (some body))
  if !background && mode.last && (← get).traps.all (·.2.isEmpty) then
    settle .foreground false
    work mode
  else
    let job ← startJob
    if background then
      forkShell self job .background (work {})
      pure 0
    else
      forkShell self job .foreground (work mode)
      finishJob job

/-! ### Commands of the shell itself -/

/-- Leaves loops, or goes on with them. -/
def leaveLoops (skip : Skip) : Builtin := fun ws => do
  let n ← ws.head?.elim (pure 1) number
  if n = 0 then fail ("Illegal number: ".toList ++ ws.headD [])
  else
    let n := min n (← get).loops
    if n ≠ 0 then modify fun s => { s with skip := some skip, skipCount := n }
    pure 0

def returnFrom : Builtin := fun ws => do
  match ws with
  | [] =>
    modify fun s => { s with skip := some (.returning false) }
    pure (← get).status
  | w :: _ =>
    let n ← number w
    modify fun s => { s with skip := some (.returning true) }
    pure n

def exit : Builtin := fun ws => do
  if let w :: _ := ws then
    let n ← number w
    modify fun s => { s with saved := some n }
  escape .exit

/-- Reads a whole file. -/
def readFile (path : Text) : Work Text := do
  match ← call (.openFile (pathOf path) { reads := true }) with
  | .error e => fail ("cannot open ".toList ++ path ++ ": ".toList ++ reason "No such file" e)
  | .ok n =>
    let t ← readAll n patience []
    let _ ← call (.close n)
    pure t

/-- Runs the script in a file, which may stand in one of the directories with programs. -/
def source : Builtin := fun ws => do
  match ws with
  | [] => pure 0
  | name :: _ =>
    let path ←
      if name.contains '/' then pure name
      else
        let t ← look
        match (candidates (← searchList) name).find? (isRegular t) with
        | some path => pure path
        | none => failWith ": not found" name
    let t ← readFile path
    modify fun s => { s with command := some path }
    self {} (.file t)

/-- Another program takes the place of the shell. -/
def exec : Builtin := fun ws => do
  match ws with
  | [] => pure 0
  | name :: _ =>
    let files ← if name.contains '/' then pure [name] else pure (candidates (← searchList) name)
    self {} (.become files ws)

def printf : Builtin := fun ws => do
  let (_, ws) ← Options.read {} ws
  match ws with
  | [] => fail "usage: printf format [arg ...]".toList
  | format :: arguments =>
    let p := Format.print format arguments
    p.complaints.forM complain
    print p.output
    match p.failure with
    | some message => fail message
    | none => pure (if p.complaints.isEmpty then 0 else 1)

def builtin (mode : Mode) (name : String) : Builtin := fun ws =>
  match name with
  | "." => do
    let (_, ws) ← Options.read {} ws
    source self ws
  | ":" | "true" => pure 0
  | "false" => pure 1
  | "[" => Condition.status true ws
  | "test" => Condition.status false ws
  | "alias" => Builtin.aliases ws
  | "bg" | "fg" => Builtin.foreground ws
  | "break" => leaveLoops .breaking ws
  | "continue" => leaveLoops .continuing ws
  | "cd" | "chdir" => Builtin.cd ws
  | "command" => Builtin.command ws
  | "echo" => do
    print (Format.echo ws)
    pure 0
  | "eval" =>
    if ws.isEmpty then pure 0
    else self { tested := mode.tested } (.script ([' '].intercalate ws))
  | "exec" => exec self ws
  | "exit" => exit ws
  | "export" => Builtin.mark false ws
  | "getopts" => Builtin.getopts ws
  | "hash" => Builtin.hash ws
  | "jobs" => Builtin.jobs ws
  | "kill" => Builtin.kill ws
  | "local" => Builtin.localize ws
  | "printf" => printf ws
  | "pwd" => Builtin.pwd ws
  | "read" => Builtin.read ws
  | "readonly" => Builtin.mark true ws
  | "return" => returnFrom ws
  | "set" => Builtin.set ws
  | "shift" => Builtin.shift ws
  | "times" => Builtin.times ws
  | "trap" => Builtin.trap ws
  | "type" => Builtin.type ws
  | "ulimit" => do
    printLine "unlimited".toList
    pure 0
  | "umask" => Builtin.umask ws
  | "unalias" => Builtin.unalias ws
  | "unset" => Builtin.unset ws
  | "wait" => Builtin.wait ws
  | _ => pure 127

/-- Runs a command of the shell itself, which mistakes and messages are then about. -/
def runBuiltin (mode : Mode) (name : String) (words : List Text) : Work Nat := do
  let before := (← get).command
  modify fun s => { s with command := words.head? }
  let r ← attempt do
    let status ← builtin self mode name words.tail
    if ← flush then pure status
    else
      let s ← get
      complain (s.command.getD [] ++ ": I/O error".toList)
      pure (status ||| 1)
  if let .ok status := r then modify fun s => { s with status }
  modify fun s => { s with command := before, buffer := [] }
  resume r

/-- Runs a function with arguments of its own. -/
def runFunction (mode : Mode) (body : Command) (arguments : List Text) : Work Nat := do
  let s ← get
  modify fun s => { s with arguments, nextOption := 1, nextLetter := none, loops := 0 }
  let r ← attempt (self { tested := mode.tested } (.command (some body)))
  modify fun t =>
    let skip := match t.skip with
      | some (.returning _) => none
      | skip => skip
    { t with
      arguments := s.arguments
      nextOption := s.nextOption
      nextLetter := s.nextLetter
      loops := s.loops
      skip }
  let _ ← resume r
  return (← get).status

/-! ### Simple commands -/

/-- Expands words until there is something. -/
def moreTexts : List Word → Work (List Text × List Word)
  | [] => pure ([], [])
  | w :: ws => do
    match ← expandFields (output self) w with
    | [] => moreTexts ws
    | ts => pure (ts, ws)

/-- The words of a command as far as they have been expanded. -/
structure Words where
  /-- The command itself and what follows it. -/
  texts : List Text
  rest : List Word
  /-- Words before it that only say how it is to be found. -/
  before : List Text := []
  /-- Functions do not count. -/
  plain : Bool := false
  /-- Where programs are looked for. -/
  path : Option Text := none

/-- The words behind the command that finds other commands; `none` if it is to do something else. -/
def behindCommand : (fuel : Nat) → Words → Work (Words × Bool)
  | 0, ws => pure (ws, false)
  | fuel + 1, ws => do
    match ws.texts with
    | name :: next :: more =>
      let passed : Words := { ws with texts := next :: more, before := ws.before ++ [name] }
      match next with
      | ['-', '-'] =>
        match more with
        | [] =>
          let (ts, rest) ← moreTexts self ws.rest
          let passed := { passed with texts := ts, before := passed.before ++ [next], rest }
          pure (passed, !ts.isEmpty)
        | more => pure ({ passed with texts := more, before := passed.before ++ [next] }, true)
      | '-' :: c :: cs =>
        if (c :: cs).all (· = 'p') then
          behindCommand fuel { passed with path := some standardPath }
        else pure (ws, false)
      | _ => pure (passed, true)
    | texts =>
      match ← moreTexts self ws.rest with
      | ([], _) => pure ({ ws with rest := [] }, false)
      | (ts, rest) => behindCommand fuel { ws with texts := texts ++ ts, rest }

/-- A simple command whose name is known. -/
structure Plan where
  words : Words
  meaning : Option Meaning := none
  /-- The command that the shell met first is one for good. -/
  special : Bool := false
  /-- The shell met some command of its own. -/
  own : Bool := false

/-- Finds out what a command is. -/
def plan : (fuel : Nat) → Plan → Work Plan
  | 0, p => pure p
  | fuel + 1, p => do
    let name := p.words.texts.headD []
    let m := (← get).meaning? p.words.plain name
    match m with
    | some (.builtin b) =>
      let special := if p.own then p.special else Builtin.special.contains b
      let found : Plan := { p with meaning := m, special, own := true }
      if b = "command" then
        let (words, known) ← behindCommand self patience { p.words with before := [] }
        if known then
          let before := p.words.before ++ words.before
          plan fuel { found with words := { words with before, plain := true } }
        else
          let texts := words.before ++ words.texts
          pure { found with words := { words with texts, before := p.words.before } }
      else pure found
    | m => pure { p with meaning := m }

/-- Whether a word is an assignment. -/
def isAssignment (w : Word) : Bool := (Reader.Lists.assignment? w).isSome

/-- Expands the arguments of a command, those that are assignments each to one text. -/
def expandArguments (assigning : Bool) (ws : List Word) : Work (List Text) :=
  ws.flatMapM fun w =>
    if assigning && isAssignment w then return [← expandAssignment (output self) w]
    else expandFields (output self) w

/-- Shows a command before it runs, behind a text that the commands in it are not shown for. -/
def trace (redirected : Bool) (assignments words : List Text) : Work Unit := do
  let s ← get
  let descriptor := match s.redirected.head?.bind (·.lookup 2) with
    | some (.at n) => if redirected then n else 2
    | _ => 2
  let front := (s.get? "PS4").getD []
  modify fun s => { s with options := s.options.filter (· ≠ 'x') }
  let front ← match Source.readText front with
    | .ok w => do
      match ← attempt (expandWhole (output self) w) with
      | .ok t => pure t
      | .error _ => pure front
    | .error m => do
      complain ("Syntax error: ".toList ++ m.message)
      pure front
  modify fun t => { t with options := s.options }
  let t := front ++ [' '].intercalate (assignments ++ words) ++ ['\n']
  discard <| call (.write descriptor (toBytes t))

/-- Runs a program in a process of its own, or in that of the shell if nothing follows. -/
def runProgram (mode : Mode) (files words : List Text) : Work Nat := do
  let s ← get
  if mode.last && s.traps.all (·.2.isEmpty) then self {} (.become files words)
  else
    let job ← startJob
    let id ← fork (self {} (.become files words) { s with redirected := [] } fun _ s =>
      .ended s.status)
    modify (·.addProcess job id)
    finishJob job

/-- Runs what a command has turned out to be. -/
def runMeaning (mode : Mode) (p : Plan) (words : List Text) : Work Nat := do
  let s ← get
  match p.meaning with
  | some (.function body) => runFunction self mode body words.tail
  | some (.builtin name) =>
    match ← attempt (runBuiltin self mode name words) with
    | .ok status => pure status
    | .error .mistake => if p.special then escape .mistake else pure (← get).status
    | .error e => escape e
  | _ =>
    let name := words.headD []
    match ← if name.contains '/' then pure (.program [name]) else locate p.words.path name with
    | .program files => runProgram self mode files words
    | .nothing reason =>
      complain (name ++ ": ".toList ++ reason)
      pure 127
    | _ => pure s.status

/-- Assigns before a command runs: for the command alone, or for good. -/
def assignAll (own exported : Bool) : List (Text × Word) → Work (List Text)
  | [] => pure []
  | (name, w) :: more => do
    let value ← expandValue (output self) w
    if own then modify fun s => s.remember (.variable name (s.binding? name))
    setVariable name (some value) (own || exported)
    return (name ++ '=' :: value) :: (← assignAll own exported more)

def runSimple (mode : Mode) (line : Nat) (assignments : List (Text × Word)) (ws : List Word)
    (rs : List Redirection) : Work Nat := do
  let frames := (← get).locals.length
  let layers := (← get).redirected.length
  modify fun s => { s with line, substituted := 0 }
  let (texts, rest) ← moreTexts self ws
  let isEmpty := texts.isEmpty
  let p : Plan := { words := { texts, rest } }
  let p ← if isEmpty then pure p else plan self patience p
  let name : Option String := match p.meaning with
    | some (.builtin b) => some b
    | _ => none
  let more ← expandArguments self (name.any Builtin.assigning.contains) p.words.rest
  let words := p.words.texts ++ more
  let isExec := name = some "exec"
  let own := !isEmpty && (name.isNone || !p.special)
  if own then modify fun s => { s with locals := [] :: s.locals }
  let ts ← targets (output self) rs
  if !rs.isEmpty then pushRedirections
  let failed ← attemptRedirections (output self) ts
  let status ←
    if failed ≠ 0 then do
      modify fun s => { s with status := failed }
      if p.special && name.isSome then escape .mistake else pure failed
    else do
      let shown ← assignAll self own (isExec && 1 < words.length) assignments
      if (← get).has 'x' then trace self (!rs.isEmpty) shown (p.words.before ++ words)
      if isEmpty then pure (← get).substituted else runMeaning self mode p words
  if !rs.isEmpty then popRedirections isExec
  unwindRedirections layers
  let changed := (← get).changedSince frames
  modify fun s => s.restoreLocals frames
  changed.forM fun name => do
    if !isName name then failWith ": bad variable name" name
  pure status

/-! ### All commands -/

/-- Runs a command; tells also whether a shell that ends where something fails heeds it. -/
def runCommand (mode : Mode) : Command → Work (Nat × Bool)
  | .simple line assignments ws rs => do
    let status ← runSimple self mode line assignments ws rs
    pure (status, true)
  | .pipeline background cs => do
    let status ← runPipeline self mode background cs
    pure (status, true)
  | .apart line background body rs => do
    let status ← runApart self mode line background body rs
    pure (status, true)
  | .sequence a b => do
    let _ ← self { tested := mode.tested } (.command (some a))
    let s ← get
    if s.skip.isSome then pure (s.status, false)
    else
      let status ← self mode (.command (some b))
      pure (status, false)
  | .negated c => do
    let status ← self { tested := true } (.command (some c))
    let skipped := (← get).skip.isSome
    pure (if skipped then status else if status = 0 then 1 else 0, false)
  | .both a b => do
    let status ← self { tested := true } (.command (some a))
    let s ← get
    if status ≠ 0 || s.skip.isSome then pure (s.status, false)
    else
      let status ← self mode (.command (some b))
      pure (status, false)
  | .either a b => do
    let status ← self { tested := true } (.command (some a))
    let s ← get
    if status = 0 || s.skip.isSome then pure (s.status, false)
    else
      let status ← self mode (.command (some b))
      pure (status, false)
  | .branch condition yes no => do
    let status ← self { tested := true } (.command (some condition))
    let s ← get
    if s.skip.isSome then pure (s.status, false)
    else if status = 0 then
      let status ← self mode (.command (some yes))
      pure (status, false)
    else
      match no with
      | some c =>
        let status ← self mode (.command (some c))
        pure (status, false)
      | none => pure (0, false)
  | .loop whileTrue condition body => do
    let status ← inLoop (runLoop self mode whileTrue condition body patience 0)
    pure (status, false)
  | .each line name ws body => do
    modify fun s => { s with line }
    let ts ← ws.flatMapM (expandFields (output self))
    let status ← inLoop (runEach self mode name body 0 ts)
    pure (status, false)
  | .choose line w cases => do
    modify fun s => { s with line }
    let t ← expandWhole (output self) w
    let status ← runCases self mode t cases
    pure (status, false)
  | .redirected line body rs => do
    modify fun s => { s with line }
    let ts ← targets (output self) rs
    pushRedirections
    let failed ← attemptRedirections (output self) ts
    let status ←
      if failed ≠ 0 then pure failed
      else self { tested := mode.tested } (.command (some body))
    popRedirections false
    pure (status, failed ≠ 0)
  | .define _ name body => do
    modify fun s => { s.locate name none with
      functions := (name, body) :: s.functions.filter (·.1 ≠ name) }
    pure (0, false)

/-- Runs a command between signals. -/
def runTask (mode : Mode) (c : Option Command) : Work Nat := do
  let (status, heeded) ← match c with
    | none => pure (0, false)
    | some c => do
      if (← get).has 'n' then pure (0, false)
      else
        notice
        attendSignals self
        let (status, heeded) ← runCommand self mode c
        modify fun s => { s with status }
        pure (status, heeded)
  if !(← get).traps.isEmpty then
    notice
    attendSignals self
  let s ← get
  if (s.has 'e' && heeded && !mode.tested && status ≠ 0) || mode.last then escape .done
  else pure status

/-! ### Scripts -/

/-- Runs what is left of a script, line by line. -/
def runSource (mode : Mode) : (fuel : Nat) → Source → (status : Nat) → Work Nat
  | 0, _, status => pure status
  | fuel + 1, source, status => do
    let s ← get
    let echo (rest : Text) : Work Unit := do
      if source.isFile && s.has 'v' then warn (source.begun rest)
    match { source with aliases := s.aliases, nextDocument := s.nextDocument }.readLine with
    | .error m =>
      echo m.rest
      modify fun s => { s with line := m.line }
      fail ("Syntax error: ".toList ++ m.message)
    | .ok (line, source) =>
      echo source.rest
      modify fun s => { s with
        lastLine := source.line
        documents := source.documents ++ s.documents
        nextDocument := source.nextDocument }
      match line with
      | .ending => pure status
      | .commands c last =>
        let r ← self { mode with last := mode.last && last } (.command c)
        let status := if c.isSome then r else status
        if (← get).skip.isSome then pure status
        else runSource mode fuel { source with documents := [] } status

end

end Evaluation

end Scriptorium.Shell
