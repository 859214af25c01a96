import Scriptorium.Rehearsal.Shell.Expansion

/-! Redirecting descriptors. A shell remembers where a descriptor led, so that it can take the
redirections of a command back when that has ended. A document is put into a pipe; a long one by a
process of its own. -/

namespace Scriptorium.Shell

/-- A redirection whose words are expanded. -/
inductive Target
  | file (direction : Direction) (path : Text)
  /-- To where another descriptor leads. -/
  | copy (source : Nat)
  | shut
  | document (w : Word)

namespace Work

section

variable (output : Option Command → Work Text)

/-- Expands the word of a redirection. A descriptor has one digit. -/
def target : Redirection → Work (Nat × Target)
  | .file descriptor direction w => do
    let t ← expandWhole output w
    if direction ≠ .copy then pure (descriptor, .file direction t)
    else
      match t with
      | ['-'] => pure (descriptor, .shut)
      | [c] =>
        if c.isDigit then pure (descriptor, .copy (Text.digitValue c)) else mistake
      | _ => mistake
  | .document descriptor number => do
    let d := (← get).documents.find? (·.number = number)
    pure (descriptor, .document (d.elim [] (·.content)))
where
  mistake : Work (Nat × Target) := do
    modify fun s => { s with line := s.lastLine }
    fail "Syntax error: Bad fd number".toList

def targets (rs : List Redirection) : Work (List (Nat × Target)) := rs.mapM (target output)

/-! ### Opening -/

/-- Opens a file; in a shell that spares files, none that could be lost. -/
def openFile (direction : Direction) (path : Text) : Work Nat := do
  let use (o : Opening) (refuse : Refusal → Work Nat) : Work Nat := do
    match ← call (.openFile (pathOf path) o) with
    | .ok n => pure n
    | .error e => refuse e
  let create (o : Opening) : Work Nat :=
    use { o with writes := true, creates := true } notCreated
  match direction with
  | .read => use { reads := true } notOpened
  | .readWrite => create { reads := true }
  | .append => create { appends := true }
  | .write =>
    if (← get).has 'C' then
      match (← look).find true (pathOf path) with
      | .ok (.taken _ (.file _)) => notCreated (.file .alreadyExists)
      | .ok (.taken ..) => use { writes := true } notOpened
      | _ => create { fresh := true }
    else create { empties := true }
  | .force | .copy => create { empties := true }
where
  refuse (verb missing : String) (e : Refusal) : Work Nat :=
    fail ("cannot ".toList ++ verb.toList ++ ' ' :: path ++ ": ".toList ++ reason missing e)
  notCreated (e : Refusal) : Work Nat := refuse "create" "Directory nonexistent" e
  notOpened (e : Refusal) : Work Nat := refuse "open" "No such file" e

/-- A pipe takes so many bytes at once. -/
def shortDocument : Nat := 4096

/-- A pipe with a document in it. -/
def openDocument (w : Word) : Work Nat := do
  let (source, sink) ← call .pipe
  let t ← expandWhole output w
  let bs := toBytes t
  if bs.length ≤ shortDocument then
    let _ ← call (.write sink bs)
  else
    let _ ← fork (.call (.close source) fun _ => .call (.write sink bs) fun _ => .ended 0)
  let _ ← call (.close sink)
  pure source

/-! ### Redirecting -/

/-- Where a descriptor led before the innermost redirections. -/
def kept? (descriptor : Nat) : Work (Option Kept) :=
  return (← get).redirected.head?.bind (·.lookup descriptor)

def keep (descriptor : Nat) (k : Kept) : Work Unit :=
  modify fun s =>
    match s.redirected with
    | frame :: frames => { s with redirected := ((descriptor, k) :: frame) :: frames }
    | [] => s

/-- Moves a descriptor out of the way. -/
def moveAway (descriptor : Nat) : Work Kept := do
  match ← call (.keep descriptor) with
  | .ok n =>
    let _ ← call (.close descriptor)
    pure (.at n)
  | .error _ => pure .closed

/-- Makes a redirection; what it replaces is remembered if `keeps` is set. -/
def redirectOne (keeps : Bool) (descriptor : Nat) (t : Target) : Work Unit := do
  let opened : Option Nat ← match t with
    | .file direction path => some <$> openFile direction path
    | .document w => some <$> openDocument output w
    | .copy source => pure (some source)
    | .shut => pure none
  let isCopy : Bool := match t with
    | .copy _ => true
    | _ => false
  if isCopy && opened = some descriptor then pure ()
  else
    if keeps && (← kept? descriptor).isNone then
      let k ← if opened = some descriptor then pure .closed else moveAway descriptor
      let k : Kept := match k, opened with
        | .closed, none => .unchanged
        | k, _ => k
      keep descriptor k
    match opened with
    | none =>
      let _ ← call (.close descriptor)
    | some n =>
      if n ≠ descriptor then
        match ← call (.lead descriptor n) with
        | .ok () => if isCopy then pure () else discard <| call (.close n)
        | .error e => fail (Text.decimal n ++ ": ".toList ++ e.reason)

def redirect (keeps : Bool) (ts : List (Nat × Target)) : Work Unit :=
  ts.forM fun (descriptor, t) => redirectOne output keeps descriptor t

end

/-- Makes room to remember what redirections replace. -/
def pushRedirections : Work Unit := modify fun s => { s with redirected := [] :: s.redirected }

/-- Takes the innermost redirections back, or makes them last. -/
def popRedirections (last : Bool) : Work Unit := do
  let frame ← update fun s => (s.redirected.headD [], { s with redirected := s.redirected.tail })
  frame.forM fun (descriptor, k) =>
    match k with
    | .unchanged => pure ()
    | .closed => if last then pure () else discard <| call (.close descriptor)
    | .at n => do
      if !last then
        let _ ← call (.lead descriptor n)
      discard <| call (.close n)

/-- Takes redirections back until `count` layers of them are left. -/
def unwindRedirections (count : Nat) : Work Unit := do
  let layers := (← get).redirected.length - count
  (List.range layers).forM fun _ => popRedirections false

/-- Makes redirections that can fail: how they went, as a status. -/
def attemptRedirections (output : Option Command → Work Text) (ts : List (Nat × Target)) :
    Work Nat := do
  match ← attempt (redirect output true ts) with
  | .ok () => pure 0
  | .error .mistake => pure 2
  | .error e => escape e

end Work

end Scriptorium.Shell
