import Scriptorium.Rehearsal.Shell.Builtin.Options
import Scriptorium.Rehearsal.Shell.Source

/-! What the name of a command stands for: a word of the grammar, an alias, a function, a command of
the shell itself, or a program that is looked for in the directories of a list. -/

namespace Scriptorium.Shell

namespace Builtin

/-- Commands that are part of the shell for good. Their assignments last, and their mistakes end the
shell. -/
def special : List String :=
  [".", ":", "break", "continue", "eval", "exec", "exit", "export", "local", "readonly", "return",
    "set", "shift", "times", "trap", "unset"]

/-- Commands whose arguments may be assignments. -/
def assigning : List String := ["alias", "export", "local", "readonly"]

/-- All other commands of the shell. -/
def ordinary : List String :=
  ["[", "alias", "bg", "cd", "chdir", "command", "echo", "false", "fg", "getopts", "hash", "jobs",
    "kill", "printf", "pwd", "read", "test", "true", "type", "ulimit", "umask", "unalias", "wait"]

end Builtin

/-- What a name stands for. -/
inductive Meaning
  | function (body : Command)
  | builtin (name : String)
  /-- The first of some files that can run. -/
  | program (files : List Text)
  /-- Nothing, for a reason. -/
  | nothing (reason : Text)

/-- What a name stands for in the shell itself; functions do not count if `plain` is set. -/
def State.meaning? (s : State) (plain : Bool) (name : Text) : Option Meaning :=
  let word := String.ofList name
  match if plain then none else s.functions.lookup name with
  | some body => some (.function body)
  | none =>
    if Builtin.special.contains word || Builtin.ordinary.contains word then some (.builtin word)
    else none

namespace Work

/-- Where programs are if nothing else is said. -/
def standardPath : Text :=
  "/usr/local/sbin:/usr/local/bin:/usr/sbin:/usr/bin:/sbin:/bin".toList

/-- The list of directories with programs. -/
def searchList : Work Text := return ((← get).get? "PATH").getD []

/-- The names of a file in the directories of a list. -/
def candidates (path name : Text) : List Text :=
  (path.splitOn ':').map fun dir => if dir.isEmpty then name else dir ++ '/' :: name

def isRegular (t : FileTree) (file : Text) : Bool :=
  match t.find true (pathOf file) with
  | .ok (.taken _ (.file _)) | .ok (.taken _ (.program _)) => true
  | _ => false

/-- The first program among some files, or why there is none. What was known to be at an index
counts there without another look if its path does not depend on where paths start. -/
def firstProgram (t : FileTree) (known : Option Nat) :
    (index : Nat) → (cause : IoError) → List Text → Except IoError Nat
  | _, cause, [] => .error cause
  | index, cause, file :: files =>
    let next (cause : IoError) : Except IoError Nat :=
      firstProgram t known (index + 1) cause files
    if file.head? = some '/' && known.any (index < ·) then next cause
    else if file.head? = some '/' && known = some index then .ok index
    else
      match t.find true (pathOf file) with
      | .ok (.taken _ (.program _)) => .ok index
      | .ok (.taken ..) => next .permissionDenied
      | .ok (.free _) | .error .notFound | .error .notADirectory => next cause
      | .error e => next e

/-- Looks for a program in the directories of a list. What is found in the usual ones is noted. -/
def locate (path : Option Text) (name : Text) : Work Meaning := do
  let s ← get
  let known := if path.isSome then none else s.located.find? (·.name = name)
  let files := candidates (path.getD (← searchList)) name
  let found ← match known with
    | some ⟨_, index, false⟩ => pure (.ok index)
    | _ => pure (firstProgram (← look) (known.map (·.index)) 0 .notFound files)
  if path.isNone then modify (·.locate name found.toOption)
  match found with
  | .ok index => pure (.program (files.drop index))
  | .error e => pure (.nothing (reason "not found" (.file e)))

/-- What a name stands for. -/
def meaning (plain : Bool) (path : Option Text) (name : Text) : Work Meaning := do
  if name.contains '/' then pure (.program [name])
  else
    match (← get).meaning? plain name with
    | some m => pure m
    | none => locate path name

/-- Says what a name stands for, in a sentence or in a word; the status tells whether it stands for
anything. -/
def describe (sentence : Bool) (path : Option Text) (name : Text) : Work Nat := do
  let word := String.ofList name
  let say (long : String) : Work Nat := do
    printLine (if sentence then name ++ long.toList else name)
    pure 0
  if Reader.keywords.contains word then say " is a shell keyword"
  else
    let s ← get
    match s.aliases.lookup name with
    | some value =>
      printLine (if sentence then name ++ " is an alias for ".toList ++ value
        else "alias ".toList ++ name ++ '=' :: quoteText value)
      pure 0
    | none =>
      let known := if path.isSome then none else s.located.find? (·.name = name)
      let m ← match known with
        | some l => pure (.program ((candidates (← searchList) name).drop l.index))
        | none => meaning false path name
      match m with
      | .function _ => say " is a shell function"
      | .builtin b =>
        say (if Builtin.special.contains b then " is a special shell builtin"
          else " is a shell builtin")
      | .program files =>
        if !name.contains '/' || (← isThere name) then
          let file := files.headD []
          let verb := if known.isSome then " is a tracked alias for " else " is "
          printLine (if sentence then name ++ verb.toList ++ file else file)
          pure 0
        else missing
      | .nothing _ => missing
where
  missing : Work Nat := do
    if sentence then printLine (name ++ ": not found".toList)
    pure 127
  isThere (file : Text) : Work Bool := do
    match (← look).find true (pathOf file) with
    | .ok (.taken ..) => pure true
    | _ => pure false

end Work

namespace Builtin

open Work

def type : Builtin := fun ws =>
  ws.foldlM (fun status w => return status ||| (← describe true none w)) 0

/-- Says what commands stand for. -/
def command : Builtin := fun ws => do
  let (os, rest) ← Options.read { bare := "pvV" } ws
  let has (c : Char) : Bool := os.any (·.1 = c)
  match rest with
  | name :: _ =>
    if has 'v' || has 'V' then
      describe (has 'V') (if has 'p' then some standardPath else none) name
    else pure 0
  | [] => pure 0

/-- Looks for programs again, or shows those that were found. -/
def hash : Builtin := fun ws => do
  let (os, names) ← Options.read { bare := "r" } ws
  if !os.isEmpty then
    modify fun s => { s with located := [] }
    pure 0
  else if names.isEmpty then
    let path ← searchList
    (State.listed 31 Located.name (← get).located).forM fun l =>
      printLine ((candidates path l.name).getD l.index [] ++ if l.stale then ['*'] else [])
    pure 0
  else
    names.foldlM (fun status name => do
      modify (·.locate name none)
      match ← meaning false none name with
      | .nothing reason =>
        complain (name ++ ": ".toList ++ reason)
        pure 1
      | _ => pure status) 0

end Builtin

end Scriptorium.Shell
