import Scriptorium.Rehearsal.Shell.Name
import Scriptorium.Text.Numeral

/-! Arithmetic in the shell: integers of 64 bits, variables, and the operators of whole numbers,
written as in formulas. A comparison is one or zero. An operand that cannot matter is read and not
evaluated. -/

namespace Scriptorium.Shell.Arithmetic

inductive Token
  | number (n : Int)
  | name (s : Text)
  | sign (s : String)
  /-- Nothing that can stand in a formula; what follows it is not read. -/
  | bad
  deriving DecidableEq

/-! ### Numerals -/

/-- A number as one of 64 bits. -/
def wrap (n : Int) : Int := n.bmod (Nat.pow 2 64)

def greatest : Int := Nat.pow 2 63 - 1

/-- A number, or the nearest of 64 bits. -/
def clamp (n : Int) : Int := max (-greatest - 1) (min greatest n)

def digitValue (c : Char) : Nat :=
  if c.isDigit then c.toNat - 48 else if c.isAlpha then c.toLower.toNat - 87 else 36

/-- The base that the front of a numeral asks for, and its digits. -/
def readBase : Text → Nat × Text
  | '0' :: x :: c :: s =>
    if (x = 'x' || x = 'X') && digitValue c < 16 then (16, c :: s) else (8, '0' :: x :: c :: s)
  | '0' :: s => (8, '0' :: s)
  | s => (10, s)

/-- The numeral at the front of a text and what follows it. Without a base, the numeral says itself
in which one it is written. -/
def readNumeral (base : Option Nat) (s : Text) : Option (Nat × Text) :=
  let (base, s) := base.elim (readBase s) (·, s)
  let digits := s.takeWhile fun c => digitValue c < base
  if digits.isEmpty then none
  else some (digits.foldl (fun n c => base * n + digitValue c) 0, s.drop digits.length)

/-- White space of the shell. -/
def isBlank (c : Char) : Bool := c = ' ' || (9 ≤ c.toNat && c.toNat ≤ 13)

/-- The number at the front of a text, behind blanks and one sign, and what follows it. -/
def readInteger (base : Option Nat) (s : Text) : Option (Int × Text) :=
  let (negative, digits) : Bool × Text := match s.dropWhile isBlank with
    | '-' :: s => (true, s)
    | '+' :: s => (false, s)
    | s => (false, s)
  (readNumeral base digits).map fun (n, rest) => (if negative then -Int.ofNat n else n, rest)

/-- The whole number that a text is, with blanks around it. No text at all is zero if the numeral
may be written in any base. -/
def integer? (base : Option Nat) (s : Text) : Option Int :=
  match readInteger base s with
  | some (n, rest) => if rest.all isBlank && clamp n = n then some n else none
  | none => if base.isNone && s.all isBlank then some 0 else none

/-! ### Tokens -/

/-- The signs, longer ones before those they begin with. -/
def signs : List String :=
  ["<<=", ">>=", "<<", ">>", "<=", ">=", "==", "!=", "&&", "||", "+=", "-=", "*=", "/=", "%=", "&=",
    "|=", "^=", "+", "-", "*", "/", "%", "<", ">", "&", "|", "^", "!", "~", "(", ")", "?", ":", "="]

/-- Splits a formula into at most `n` tokens. -/
def tokens : (n : Nat) → Text → List Token
  | _, [] | 0, _ => []
  | n + 1, c :: s =>
    if c = ' ' || c = '\t' || c = '\n' then tokens n s
    else if c.isDigit then
      match readNumeral none (c :: s) with
      | some (value, rest) => .number (clamp value) :: tokens n rest
      | none => [.bad]
    else if isNameStart c then
      .name (c :: s.takeWhile isNamePart) :: tokens n (s.dropWhile isNamePart)
    else
      match signs.find? fun sign => sign.toList.isPrefixOf (c :: s) with
      | some sign => .sign sign :: tokens n ((c :: s).drop sign.length)
      | none => [.bad]

/-! ### Operators -/

/-- How tightly an operator with two sides binds. -/
def strength (sign : String) : Option Nat :=
  let levels : List (List String) := [["|"], ["^"], ["&"], ["==", "!="], ["<", "<=", ">", ">="],
    ["<<", ">>"], ["+", "-"], ["*", "/", "%"]]
  levels.findIdx? (·.contains sign)

def ofBool (b : Bool) : Int := if b then 1 else 0

/-- The bits of a number of 64 bits. -/
def bits (n : Int) : Nat := (n % Nat.pow 2 64).toNat

/-- An operator with two sides; dividing by zero has no value. -/
def apply (sign : String) (a b : Int) : Option Int :=
  match sign with
  | "|" => some (wrap (bits a ||| bits b))
  | "^" => some (wrap (bits a ^^^ bits b))
  | "&" => some (wrap (bits a &&& bits b))
  | "==" => some (ofBool (a = b))
  | "!=" => some (ofBool (a ≠ b))
  | "<" => some (ofBool (a < b))
  | "<=" => some (ofBool (a ≤ b))
  | ">" => some (ofBool (a > b))
  | ">=" => some (ofBool (a ≥ b))
  | "<<" => some (wrap (a * Nat.pow 2 (b % 64).toNat))
  | ">>" => some (a / Nat.pow 2 (b % 64).toNat)
  | "+" => some (wrap (a + b))
  | "-" => some (wrap (a - b))
  | "*" => some (wrap (a * b))
  | "/" => if b = 0 then none else some (wrap (a.tdiv b))
  | "%" => if b = 0 then none else some (a.tmod b)
  | _ => none

/-- The operator in an assignment sign; a plain one has none. -/
def assignment? : Token → Option (Option String)
  | .sign "=" => some none
  | .sign s =>
    let operator := s.dropEnd 1
    if s.endsWith "=" && !(["==", "!=", "<=", ">="].contains s) then some (some operator.copy)
    else none
  | _ => none

/-! ### Evaluation -/

/-- What evaluation needs to know and to do. -/
structure Surroundings (m : Type → Type) where
  value : Text → m Int
  assign : Text → Int → m Unit
  fail : String → m Int

section

variable {m : Type → Type} [Monad m] (e : Surroundings m)

/-- An operator with two sides; if it does not matter, it is not applied. -/
def operate (matters : Bool) (sign : String) (a b : Int) : m Int :=
  if !matters then pure b
  else
    match apply sign a b with
    | some n => pure n
    | none => e.fail "division by zero"

mutual

/-- A number, a variable, a sign before either, or a formula in parentheses. -/
def operand : (fuel : Nat) → (matters : Bool) → List Token → m (Int × List Token)
  | 0, _, ts => (·, ts) <$> e.fail "expecting primary"
  | _ + 1, _, .number n :: ts => pure (n, ts)
  | _ + 1, matters, .name s :: ts => if matters then (·, ts) <$> e.value s else pure (0, ts)
  | fuel + 1, matters, .sign s :: ts => do
    match s with
    | "(" =>
      match ← formula fuel matters ts with
      | (n, .sign ")" :: ts) => pure (n, ts)
      | (_, ts) => (·, ts) <$> e.fail "expecting ')'"
    | "+" => operand fuel matters ts
    | "-" =>
      let (n, ts) ← operand fuel matters ts
      pure (wrap (-n), ts)
    | "!" =>
      let (n, ts) ← operand fuel matters ts
      pure (ofBool (n = 0), ts)
    | "~" =>
      let (n, ts) ← operand fuel matters ts
      pure (-1 - n, ts)
    | _ => (·, ts) <$> e.fail "expecting primary"
  | _ + 1, _, ts => (·, ts) <$> e.fail "expecting primary"

/-- An operand and the operators behind it that bind at least as tightly as `least`. -/
def operators : (fuel : Nat) → (matters : Bool) → (least : Nat) → List Token →
    m (Int × List Token)
  | 0, _, _, ts => (·, ts) <$> e.fail "expecting primary"
  | fuel + 1, matters, least, ts => do
    let (n, ts) ← operand fuel matters ts
    moreOperators fuel matters least n ts

def moreOperators : (fuel : Nat) → (matters : Bool) → (least : Nat) → Int → List Token →
    m (Int × List Token)
  | 0, _, _, n, ts => pure (n, ts)
  | fuel + 1, matters, least, n, ts => do
    match ts with
    | .sign s :: rest =>
      match strength s with
      | some level =>
        if level < least then pure (n, ts)
        else
          let (k, rest) ← operators fuel matters (level + 1) rest
          let n ← operate e matters s n k
          moreOperators fuel matters least n rest
      | none => pure (n, ts)
    | _ => pure (n, ts)

/-- Operands of which all must hold. -/
def conjunction : (fuel : Nat) → (matters : Bool) → List Token → m (Int × List Token)
  | 0, _, ts => (·, ts) <$> e.fail "expecting primary"
  | fuel + 1, matters, ts => do
    match ← operators fuel matters 0 ts with
    | (a, .sign "&&" :: ts) =>
      let (b, ts) ← conjunction fuel (matters && a ≠ 0) ts
      pure (ofBool (a ≠ 0 && b ≠ 0), ts)
    | r => pure r

/-- Operands of which one must hold. -/
def disjunction : (fuel : Nat) → (matters : Bool) → List Token → m (Int × List Token)
  | 0, _, ts => (·, ts) <$> e.fail "expecting primary"
  | fuel + 1, matters, ts => do
    match ← conjunction fuel matters ts with
    | (a, .sign "||" :: ts) =>
      let (b, ts) ← disjunction fuel (matters && a = 0) ts
      pure (ofBool (a ≠ 0 || b ≠ 0), ts)
    | r => pure r

/-- A choice between two values, or a value. -/
def choice : (fuel : Nat) → (matters : Bool) → List Token → m (Int × List Token)
  | 0, _, ts => (·, ts) <$> e.fail "expecting primary"
  | fuel + 1, matters, ts => do
    match ← disjunction fuel matters ts with
    | (a, .sign "?" :: ts) =>
      match ← formula fuel (matters && a ≠ 0) ts with
      | (b, .sign ":" :: ts) =>
        let (c, ts) ← choice fuel (matters && a = 0) ts
        pure (if a ≠ 0 then b else c, ts)
      | (_, ts) => (·, ts) <$> e.fail "expecting ':'"
    | r => pure r

/-- An assignment, or a value. -/
def formula : (fuel : Nat) → (matters : Bool) → List Token → m (Int × List Token)
  | 0, _, ts => (·, ts) <$> e.fail "expecting primary"
  | fuel + 1, matters, ts => do
    match ts with
    | .name s :: t :: rest =>
      match assignment? t with
      | some operator =>
        let (n, rest) ← formula fuel matters rest
        if matters then
          let n ← match operator with
            | none => pure n
            | some sign =>
              let old ← e.value s
              operate e true sign old n
          e.assign s n
          pure (n, rest)
        else pure (n, rest)
      | none => choice fuel matters ts
    | _ => choice fuel matters ts

end

/-- The value of a formula. -/
def evaluate (s : Text) : m Int := do
  let ts := tokens (s.length + 1) s
  match ← formula e (16 * ts.length + 16) true ts with
  | (n, []) => pure n
  | _ => e.fail "expecting EOF"

end

end Scriptorium.Shell.Arithmetic
