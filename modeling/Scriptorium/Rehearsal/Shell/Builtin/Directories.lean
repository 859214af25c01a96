import Scriptorium.Rehearsal.Shell.Builtin.Options

/-! Commands for the directory that paths start from, and for the rights of new files. -/

namespace Scriptorium.Shell.Builtin

open Work

/-- Goes to a directory, and remembers the one before. -/
def enter (physical : Bool) (path : Text) : Work Bool := do
  let s ← get
  let logical := s.normalize path
  let t ← look
  match t.find true (pathOf (if physical then path else logical)) with
  | .ok (.taken l .directory) =>
    let _ ← call (.enter l)
    let new := if physical then ofPath l.path else logical
    modify fun s => { s with
      directory := new
      located := s.located.map fun l => { l with stale := true } }
    setVariable "OLDPWD".toList (some s.directory) true
    setVariable "PWD".toList (some new) true
    pure true
  | _ => pure false

/-- Whether a path is looked for in the directories of a list. -/
def isPlain (path : Text) : Bool :=
  match (path.splitOn '/').head? with
  | some [] => path.isEmpty
  | some n => n ≠ ['.'] && n ≠ ['.', '.']
  | none => true

def isDirectory (t : FileTree) (path : Text) : Bool :=
  match t.find true (pathOf path) with
  | .ok (.taken _ .directory) => true
  | _ => false

def cd : Builtin := fun ws => do
  let (os, rest) ← Options.read { bare := "LP" } ws
  let physical := os.getLast?.any (·.1 = 'P')
  let s ← get
  let back := rest.head? = some ['-']
  let wanted : Text := match rest.head? with
    | none => (s.get? "HOME").getD []
    | some w => if back then (s.get? "OLDPWD").getD [] else w
  let goal := if wanted.isEmpty then ['.'] else wanted
  let t ← look
  let found : Option (Text × Bool) :=
    if !isPlain wanted then none
    else
      let places := ((s.get? "CDPATH").getD []).splitOn ':'
      (places.map fun dir =>
        (if dir.isEmpty then goal else dir ++ '/' :: goal, !dir.isEmpty)).find? fun (p, _) =>
          isDirectory t p
  let (path, shown) := found.getD (goal, false)
  if ← enter physical path then
    if back || shown then printLine (← get).directory
    pure 0
  else fail ("can't cd to ".toList ++ wanted)

def pwd : Builtin := fun ws => do
  let (os, _) ← Options.read { bare := "LP" } ws
  if os.getLast?.any (·.1 = 'P') then
    let t ← look
    printLine (ofPath t.here.path)
  else printLine (← get).directory
  pure 0

/-! ### Rights -/

/-- The rights of the owner, the group and others. -/
def allRights : Nat := 0o777

/-- The rights of everybody that a letter stands for, if they were `old` before; `none` for another
letter. -/
def rightsOf? (old : Nat) : Char → Option Nat
  | 'r' => some 0o444
  | 'w' => some 0o222
  | 'x' => some 0o111
  | 'X' => some (if old &&& 0o111 = 0 then 0 else 0o111)
  | 's' => some 0
  | 'u' => some (old / 64 % 8 * 0o111)
  | 'g' => some (old / 8 % 8 * 0o111)
  | 'o' => some (old % 8 * 0o111)
  | _ => none

/-- Whose rights a letter is about. -/
def classOf? : Char → Option Nat
  | 'u' => some 0o700
  | 'g' => some 0o070
  | 'o' => some 0o007
  | 'a' => some allRights
  | _ => none

/-- Changes the rights of a class as signs say, and passes over at most `n` of them. -/
def changeRights (old whose : Nat) : (n : Nat) → (rights : Nat) → Text → Nat × Text
  | n + 1, rights, sign :: t =>
    if sign = '+' || sign = '-' || sign = '=' then
      let letters := t.takeWhile fun c => (rightsOf? old c).isSome
      let those := (letters.filterMap (rightsOf? old)).foldl (· ||| ·) 0 &&& whose
      let new := match sign with
        | '+' => rights ||| those
        | '-' => rights &&& (allRights ^^^ those)
        | _ => rights &&& (allRights ^^^ whose) ||| those
      changeRights old whose n new (t.drop letters.length)
    else (rights, sign :: t)
  | _, rights, t => (rights, t)

/-- The rights after changes to some classes, at most `n` between commas. -/
def readRights (old : Nat) : (n : Nat) → (rights : Nat) → Text → Option Nat
  | 0, _, _ => none
  | n + 1, rights, t =>
    if t.isEmpty then some rights
    else
      let letters := t.takeWhile fun c => (classOf? c).isSome
      let whose := if letters.isEmpty then allRights
        else (letters.filterMap classOf?).foldl (· ||| ·) 0
      let behind := t.drop letters.length
      let (new, rest) := changeRights old whose behind.length rights behind
      if rest.length = behind.length then none
      else
        match rest with
        | [] => some new
        | ',' :: rest => readRights old n new rest
        | _ => none

/-- How rights are written. -/
def showRights (rights : Nat) : Text :=
  let of (bits : Nat) : Text :=
    [(4, 'r'), (2, 'w'), (1, 'x')].filterMap fun (n, c) => if bits &&& n = 0 then none else some c
  "u=".toList ++ of (rights / 64 % 8) ++ ",g=".toList ++ of (rights / 8 % 8)
    ++ ",o=".toList ++ of (rights % 8)

/-- Shows or sets the rights that new files are not to have. -/
def umask : Builtin := fun ws => do
  let (os, rest) ← Options.read { bare := "S" } ws
  let mask := (← get).mask
  match rest with
  | [] =>
    let digits := Nat.toDigits 8 mask
    printLine (if os.isEmpty then List.replicate (4 - digits.length) '0' ++ digits
      else showRights (allRights ^^^ mask))
    pure 0
  | w :: _ =>
    let rights := allRights ^^^ mask
    let new : Option Nat :=
      if w.head?.any Char.isDigit then
        if w.all fun c => '0' ≤ c && c ≤ '7' then
          some (w.foldl (fun n c => 8 * n + Text.digitValue c) 0 &&& allRights)
        else none
      else (readRights rights (w.length + 1) rights w).map (allRights ^^^ ·)
    match new with
    | some mask =>
      modify fun s => { s with mask }
      pure 0
    | none =>
      let kind := if w.head?.any Char.isDigit then "Illegal number: " else "Illegal mode: "
      fail (kind.toList ++ w)

end Scriptorium.Shell.Builtin
