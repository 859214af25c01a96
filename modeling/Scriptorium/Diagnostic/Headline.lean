import Scriptorium.Diagnostic.Basic

/-! Reading the line that opens a diagnostic. Its body is `SEVERITY: MESSAGE` or
`SEVERITY CODE: MESSAGE`. A location is `FILE(l,c)`, `FILE(l,c,el,ec)`, `FILE(l,c)-(el,ec)` or
`FILE:l:c`. `Diagnostic.readHeadline?` takes a body alone, where that form is allowed, and otherwise
the leftmost `": "` with a location on its left and a body on its right. -/

namespace Scriptorium

open Text

namespace Diagnostic

/-! ### The body -/

/-- `SEVERITY: MESSAGE` or `SEVERITY CODE: MESSAGE`, pointing at `position`. -/
def readBody? (position : Option Position) (s : Text) : Option Diagnostic :=
  match Severity.ofWord? (s.takeWhile Char.isAlpha), s.dropWhile Char.isAlpha with
  | some severity, ':' :: message => some ⟨severity, none, trim message, position⟩
  | some severity, ' ' :: rest =>
    match rest.span (· ≠ ':') with
    | (code, _ :: message) =>
      let code := trim code
      if code.isEmpty || code.any isBlank then none
      else some ⟨severity, some code, trim message, position⟩
    | (_, []) => none
  | _, _ => none

end Diagnostic

namespace Position

/-! ### The location -/

/-- Cuts a range `(l,c)-(el,ec)` behind its first part: at the first `)-(`, keeping the `)`. -/
def cutRange : Text → Text
  | ')' :: '-' :: '(' :: _ => [')']
  | c :: s => c :: cutRange s
  | [] => []

/-- `FILE(l,c` or `FILE(l,c,el,ec`, the closing parenthesis taken off; the file may be empty, and
of the numbers only the first two are read. -/
def readParenthesised? (s : Text) : Option Position :=
  match cutLast? '(' s with
  | none => none
  | some (file, inside) =>
    match inside.splitOn ',' with
    | [l, c] | [l, c, _, _] =>
      match readWord? (trim l), readWord? (trim c) with
      | some line, some column =>
        some ⟨if (trim file).isEmpty then none else some (trim file), line, column⟩
      | _, _ => none
    | _ => none

/-- `FILE:l:c`; the file is not empty and may hold colons. -/
def readColons? (s : Text) : Option Position :=
  match cutLast? ':' s with
  | none => none
  | some (rest, c) =>
    match cutLast? ':' rest with
    | none => none
    | some (file, l) =>
      match readWord? l, readWord? c with
      | some line, some column => if file.isEmpty then none else some ⟨some file, line, column⟩
      | _, _ => none

def read? (s : Text) : Option Position :=
  let s := trim s
  if s.getLast? = some ')' then readParenthesised? (cutRange s).dropLast else readColons? s

end Position

namespace Diagnostic

/-! ### The line -/

/-- The leftmost `": "` of `s` between a location and a body, where `before` holds, from right to
left, what the line has on the left of `s`. -/
def readLocated? (before : Text) : Text → Option Diagnostic
  | [] => none
  | [_] => none
  | c :: d :: s =>
    let found :=
      if c = ':' ∧ d = ' ' then
        match Position.read? before.reverse with
        | some p => readBody? (some p) s
        | none => none
      else none
    match found with
    | some x => some x
    | none => readLocated? (c :: before) (d :: s)

/-- A line that opens a diagnostic. The form without a location counts only if `bare` is set. -/
def readHeadline? (bare : Bool) (line : Text) : Option Diagnostic :=
  match if bare then readBody? none (trimStart line) else none with
  | some d => some d
  | none => readLocated? [] line

end Diagnostic

end Scriptorium
