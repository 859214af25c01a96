import Scriptorium.Rehearsal.Shell.Arithmetic
import Scriptorium.Rehearsal.Shell.Work

/-! Conditions: texts, numbers and files that are tested, joined by signs. A word that looks like an
operator is one only where it can be; with few words, their number decides. -/

namespace Scriptorium.Shell.Condition

inductive Kind
  | unary
  | binary
  | joining
  | negation
  | parenthesis
  deriving DecidableEq

def unaryOperators : List String :=
  ["-r", "-w", "-x", "-e", "-f", "-d", "-c", "-b", "-p", "-u", "-g", "-k", "-s", "-t", "-z", "-n",
    "-h", "-O", "-G", "-L", "-S"]

def binaryOperators : List String :=
  ["=", "!=", "<", ">", "-eq", "-ne", "-ge", "-gt", "-le", "-lt", "-nt", "-ot", "-ef"]

def kind? (w : Text) : Option Kind :=
  let w := String.ofList w
  if unaryOperators.contains w then some .unary
  else if binaryOperators.contains w then some .binary
  else if w = "-a" || w = "-o" then some .joining
  else if w = "!" then some .negation
  else if w = "(" || w = ")" then some .parenthesis
  else none

/-- The operator that the first word is, given what follows it. A unary operator needs an operand,
and a parenthesis something to enclose. -/
def operator? : List Text → Option Kind
  | [] => none
  | w :: rest =>
    match kind? w with
    | some .unary =>
      match rest with
      | [] => none
      | [_] => some .unary
      | a :: _ => if kind? a = some .binary then none else some .unary
    | some .parenthesis =>
      if String.ofList w = "(" && rest.isEmpty then none else some .parenthesis
    | k => k

def isWord (ws : List Text) (w : String) : Bool :=
  (operator? ws).isSome && ws.head?.map String.ofList = some w

/-! ### Files -/

/-- What a path leads to. -/
def standing? (t : FileTree) (last : Bool) (path : Text) : Option (Location × Entry) :=
  match t.find last (Work.pathOf path) with
  | .ok (.taken l e) => some (l, e)
  | _ => none

def testFile (t : FileTree) (operator : String) (path : Text) : Bool :=
  match operator with
  | "-h" | "-L" =>
    match standing? t false path with
    | some (_, .link _) => true
    | _ => false
  | _ =>
    match operator, (standing? t true path).map (·.2) with
    | _, none => false
    | "-f", some e => match e with
      | .file _ | .program _ => true
      | _ => false
    | "-d", some e => e = .directory
    | "-c", some e => e = .device
    | "-s", some e => match e with
      | .file bs => !bs.isEmpty
      | .device => false
      | _ => true
    | "-x", some e => match e with
      | .directory | .program _ => true
      | _ => false
    | "-b", _ | "-p", _ | "-u", _ | "-g", _ | "-k", _ | "-S", _ => false
    | _, some _ => true

/-! ### Operators -/

/-- The number that a word is. -/
def number (w : Text) : Work Int :=
  match Arithmetic.integer? (some 10) w with
  | some n => pure n
  | none => Work.fail ("Illegal number: ".toList ++ w)

def testUnary (operator : String) (w : Text) : Work Bool := do
  match operator with
  | "-z" => pure w.isEmpty
  | "-n" => pure !w.isEmpty
  | "-t" => do
    let _ ← number w
    pure false
  | _ => return testFile (← Work.look) operator w

def testBinary (a : Text) (operator : String) (b : Text) : Work Bool := do
  let compare (p : Int → Int → Bool) : Work Bool := do
    let m ← number a
    let n ← number b
    pure (p m n)
  match operator with
  | "=" => pure (a = b)
  | "!=" => pure (a ≠ b)
  | "<" => pure (decide (a < b))
  | ">" => pure (decide (b < a))
  | "-eq" => compare (· = ·)
  | "-ne" => compare (· ≠ ·)
  | "-ge" => compare (· ≥ ·)
  | "-gt" => compare (· > ·)
  | "-le" => compare (· ≤ ·)
  | "-lt" => compare (· < ·)
  | "-ef" =>
    let t ← Work.look
    match standing? t true a, standing? t true b with
    | some (k, _), some (l, _) => pure (k = l)
    | _, _ => pure false
  | _ => pure false

def wrong {α : Type} (operator : Text) (message : String) : Work α :=
  Work.fail (if operator.isEmpty then message.toList else operator ++ ": ".toList ++ message.toList)

/-! ### Expressions -/

mutual

/-- A test, a word, or an expression in parentheses, at the front of the words; with the words from
its last one on. -/
def primary : (fuel : Nat) → List Text → Work (Bool × List Text)
  | 0, ws => pure (false, ws)
  | _, [] => pure (false, [])
  | fuel + 1, w :: rest => do
    let ws := w :: rest
    if isWord ws "(" then
      if isWord rest ")" then pure (false, rest)
      else
        let (b, left) ← alternatives fuel rest
        if isWord left.tail ")" then pure (b, left.tail)
        else wrong [] "closing paren expected"
    else if operator? ws = some .unary then
      match rest with
      | [] => wrong w "argument expected"
      | a :: _ =>
        let b ← testUnary (String.ofList w) a
        pure (b, rest)
    else if operator? rest = some .binary then
      match rest with
      | operator :: b :: more =>
        let r ← testBinary w (String.ofList operator) b
        pure (r, b :: more)
      | operator :: [] => wrong operator "argument expected"
      | [] => pure (false, ws)
    else pure (!w.isEmpty, ws)

def negation : (fuel : Nat) → List Text → Work (Bool × List Text)
  | 0, ws => pure (false, ws)
  | fuel + 1, ws => do
    if isWord ws "!" then
      if ws.tail.isEmpty then pure (true, ws)
      else
        let (b, left) ← negation fuel ws.tail
        pure (!b, left)
    else primary fuel ws

def conjunction : (fuel : Nat) → List Text → Work (Bool × List Text)
  | 0, ws => pure (false, ws)
  | fuel + 1, ws => do
    let (a, left) ← negation fuel ws
    if isWord left.tail "-a" then
      let (b, left) ← conjunction fuel left.tail.tail
      pure (a && b, left)
    else pure (a, left)

def alternatives : (fuel : Nat) → List Text → Work (Bool × List Text)
  | 0, ws => pure (false, ws)
  | fuel + 1, ws => do
    let (a, left) ← conjunction fuel ws
    if isWord left.tail "-o" then
      let (b, left) ← alternatives fuel left.tail.tail
      pure (a || b, left)
    else pure (a, left)

end

/-- A whole expression, behind which nothing may stand. -/
def whole (ws : List Text) : Work Bool := do
  let (b, left) ← alternatives (4 * ws.length + 8) ws
  match left with
  | w :: _ :: _ => wrong w "unexpected operator"
  | _ => pure b

/-- The value of a condition. -/
def holds : (fuel : Nat) → List Text → Work Bool
  | 0, _ | _, [] => pure false
  | fuel + 1, ws => do
    let few : Work Bool :=
      match ws with
      | w :: inner =>
        if String.ofList w = "(" && (inner.getLast?.map String.ofList) = some ")" then
          whole inner.dropLast
        else if String.ofList w = "!" then (!·) <$> holds fuel inner
        else whole ws
      | [] => pure false
    match ws with
    | [a, operator, b] =>
      if kind? operator = some .binary then testBinary a (String.ofList operator) b else few
    | [_, _, _, _] => few
    | _ => whole ws

/-- The status of a condition; one in brackets must end in a bracket, whatever
stands behind that. -/
def status (brackets : Bool) (ws : List Text) : Work Nat := do
  let ws ←
    if brackets then
      if (ws.getLast?.bind List.head?) = some ']' then pure ws.dropLast
      else wrong [] "missing ]"
    else pure ws
  let b ← holds (ws.length + 1) ws
  pure (if b then 0 else 1)

end Scriptorium.Shell.Condition
