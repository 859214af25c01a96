import Scriptorium.Rehearsal.Shell.Builtin.Options
import Scriptorium.Rehearsal.Shell.Format

/-! Programs that come with the system and that scripts start: they wait, print, and make and remove
files, directories and links. -/

namespace Scriptorium.Shell.Utility

open Work

/-- A complaint of a program. -/
def object (message : Text) : Work Unit := do
  warn ((← get).name ++ ": ".toList ++ message ++ ['\n'])

def quoted (t : Text) : Text := '\'' :: t ++ ['\'']

/-- Does something for each argument; one that fails does not keep the others from it. -/
def forEach (ws : List Text) (f : Text → Work Bool) : Work Nat :=
  ws.foldlM (fun status w => return if ← f w then status else 1) 0

def missingOperand : Work Nat := do
  object "missing operand".toList
  warn ("Try '".toList ++ (← get).name ++ " --help' for more information.\n".toList)
  pure 1

/-- Changes the files, or says why that cannot be done. -/
def change (what : String) (path : Text) (f : FileTree → Except IoError FileTree) : Work Bool := do
  match ← call (.change f) with
  | .ok () => pure true
  | .error e =>
    object (what.toList ++ ' ' :: quoted path ++ ": ".toList ++ e.reason)
    pure false

/-! ### Waiting -/

/-- The nanoseconds that an argument stands for. -/
def nanoseconds? (t : Text) : Option Nat :=
  let (digits, rest) := t.span fun c => c.isDigit || c = '.'
  let unit : Option Nat := match rest with
    | [] | ['s'] => some 1
    | ['m'] => some 60
    | ['h'] => some 3600
    | ['d'] => some 86400
    | _ => none
  match unit, digits.splitOn '.' with
  | some unit, [whole] => (Text.readNat? whole).map (· * unit * 1000000000)
  | some unit, [whole, part] =>
    if (whole ++ part).isEmpty then none
    else some (Text.readDigits (whole ++ part) * unit * 1000000000 / Nat.pow 10 part.length)
  | _, _ => none

def sleep (ws : List Text) : Work Nat := do
  if ws.isEmpty then missingOperand
  else
    match ws.find? fun w => (nanoseconds? w).isNone with
    | some w =>
      object ("invalid time interval ".toList ++ quoted w)
      warn "Try 'sleep --help' for more information.\n".toList
      pure 1
    | none =>
      call (.sleep ((ws.filterMap nanoseconds?).foldr (· + ·) 0))
      pure 0

/-! ### Printing -/

def printAll (t : Text) : Work Nat := do
  print t
  if ← flush then pure 0
  else
    object "write error".toList
    pure 1

/-- Copies what can be read from a descriptor. -/
def copyFrom (descriptor : Nat) : (fuel : Nat) → Work Bool
  | 0 => pure true
  | fuel + 1 => do
    match ← call (.read descriptor 65536) with
    | .ok [] => pure true
    | .ok bs =>
      match ← call (.write 1 bs) with
      | .ok () => copyFrom descriptor fuel
      | .error _ => pure false
    | .error _ => pure false

def cat (ws : List Text) : Work Nat :=
  forEach (if ws.isEmpty then [['-']] else ws) fun w => do
    if w = ['-'] then copyFrom 0 patience
    else
      match ← call (.openFile (pathOf w) { reads := true }) with
      | .error e =>
        object (w ++ ": ".toList ++ e.reason)
        pure false
      | .ok n =>
        let r ← copyFrom n patience
        let _ ← call (.close n)
        pure r

/-! ### Files -/

def hasOption (c : Char) (os : List (Char × Text)) : Bool := os.any (·.1 = c)

def mkdir (ws : List Text) : Work Nat := do
  let (os, paths) ← Options.read { bare := "pv", taking := "m" } ws
  if paths.isEmpty then missingOperand
  else
    forEach paths fun w => do
      let path := pathOf w
      if hasOption 'p' os then
        let isThere (t : FileTree) : Bool := (t.list? path).isSome
        change "cannot create directory" w fun t =>
          let t := t.makeDirectories path
          if isThere t then .ok t else .error .alreadyExists
      else change "cannot create directory" w fun t => t.makeDirectory path

/-- Removes a directory and what is in it. -/
def removeTree (t : FileTree) (l : Location) : FileTree :=
  { t with entries := t.entries.filter fun (k, _) => !l.reverse.isPrefixOf k.reverse }

def rm (ws : List Text) : Work Nat := do
  let (os, paths) ← Options.read { bare := "rRfdiv" } ws
  let forced := hasOption 'f' os
  let whole := hasOption 'r' os || hasOption 'R' os
  if paths.isEmpty then if forced then pure 0 else missingOperand
  else
    forEach paths fun w => do
      let path := pathOf w
      match (← look).find false path with
      | .ok (.taken l .directory) =>
        if whole then change "cannot remove" w fun t => .ok (removeTree t l)
        else change "cannot remove" w fun t => t.remove path
      | .ok (.free _) => if forced then pure true else change "cannot remove" w fun t => t.remove path
      | _ => change "cannot remove" w fun t => t.remove path

def rmdir (ws : List Text) : Work Nat := do
  let (_, paths) ← Options.read { bare := "pv" } ws
  forEach paths fun w => do
    match (← look).find false (pathOf w) with
    | .ok (.taken l .directory) =>
      if ((← look).children l).isEmpty then
        change "failed to remove" w fun t => .ok (t.erase l)
      else
        object ("failed to remove ".toList ++ quoted w ++ ": Directory not empty".toList)
        pure false
    | _ => change "failed to remove" w fun _ => .error .notADirectory

/-- The last name in a path. -/
def baseName (path : Text) : Text := ((path.splitOn '/').filter (!·.isEmpty)).getLast?.getD path

/-- Where something goes that is put at a path: into it, if it is a directory. -/
def goal (t : FileTree) (path source : Text) : Text :=
  if (t.list? (pathOf path)).isSome then path ++ '/' :: baseName source else path

def ln (ws : List Text) : Work Nat := do
  let (os, paths) ← Options.read { bare := "sfnv" } ws
  match paths with
  | [] => missingOperand
  | source :: rest =>
    let t ← look
    let path := pathOf (goal t (rest.headD (baseName source)) source)
    let make (t : FileTree) : Except IoError FileTree := do
      let t := if hasOption 'f' os then (t.remove path).toOption.getD t else t
      if hasOption 's' os then t.makeLink path (pathOf source)
      else
        match ← t.find false (pathOf source) with
        | .taken _ (.file content) => t.place path (.file content)
        | .taken _ .directory => .error .permissionDenied
        | .taken _ e => t.place path e
        | .free _ => .error .notFound
    let kind := if hasOption 's' os then "symbolic " else "hard "
    let ok ← change ("failed to create " ++ kind ++ "link") (ofPath path) make
    pure (if ok then 0 else 1)

/-- The content of a file moves or is copied to another place. -/
def transfer (keeps : Bool) (ws : List Text) : Work Nat := do
  let (_, paths) ← Options.read { bare := "fipnvrRa" } ws
  match paths with
  | [source, path] =>
    let path := goal (← look) path source
    let ok ← change "cannot stat" source fun t => do
      match ← t.find keeps (pathOf source) with
      | .free _ => .error .notFound
      | .taken l e =>
        match ← t.find false (pathOf path) with
        | .free k | .taken k _ =>
          let inside := t.entries.filter fun (m, _) => m ≠ l && l.reverse.isPrefixOf m.reverse
          let moved := inside.map fun (m, e) => (m.take (m.length - l.length) ++ k, e)
          let t := if keeps then t else removeTree t l
          let t := t.set k e
          .ok { t with entries := moved ++ t.entries }
    pure (if ok then 0 else 1)
  | _ => missingOperand

def touch (ws : List Text) : Work Nat := do
  let (os, paths) ← Options.read { bare := "acm", taking := "drt" } ws
  forEach paths fun w =>
    if hasOption 'c' os then pure true
    else
      change "cannot touch" w fun t => do
        match ← t.find true (pathOf w) with
        | .free l => .ok (t.set l (.file []))
        | .taken .. => .ok t

/-! ### All of them -/

/-- What a program does with its arguments. -/
def work? (name : String) : Option (List Text → Work Nat) :=
  match name with
  | "sleep" => some sleep
  | "true" => some fun _ => pure 0
  | "false" => some fun _ => pure 1
  | "echo" => some fun ws =>
    match ws with
    | ['-', 'e'] :: ws => printAll (Format.echo ws)
    | ['-', 'n'] :: ws => printAll ([' '].intercalate ws)
    | ws => printAll ([' '].intercalate ws ++ ['\n'])
  | "printf" => some fun ws => printAll (Format.print (ws.headD []) ws.tail).output
  | "cat" => some cat
  | "mkdir" => some mkdir
  | "rmdir" => some rmdir
  | "rm" => some rm
  | "ln" => some ln
  | "mv" => some (transfer false)
  | "cp" => some (transfer true)
  | "touch" => some touch
  | _ => none

/-- The program of a name, as it runs with its arguments. -/
def program? (name : String) (ws : List Text) : Option Program :=
  (work? name).map fun work =>
    work ws { name := name.toList, directory := [] } fun r s =>
      match r with
      | .ok status => .ended status
      | .error _ => .ended s.status

end Scriptorium.Shell.Utility
