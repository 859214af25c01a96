import Scriptorium.Diagnostic.Transcript
import Scriptorium.Text.Slice

/-! The readers of a compiler's output at work on bytes: what they look for they find as an offset,
and what they cut out is a slice between two offsets, the one found in this text or in another that
it was cut from. -/

namespace Scriptorium.Offsets

open Text

/-! ### The body -/

/-- `CODE: MESSAGE`, which stands behind the blank after a severity word. -/
def readCoded? (severity : Severity) (position : Option Position) (rest : Text) :
    Checked (Option Diagnostic) :=
  match offset? (·.head?.any (· = ':')) rest with
  | none => pure none
  | some colon => do
    let code := trim (← slice rest 0 colon)
    if code.isEmpty || code.any isBlank then pure none
    else
      let message ← slice rest (colon + 1) (byteLength rest)
      pure (some ⟨severity, some code, trim message, position⟩)

def readBody? (position : Option Position) (body : Text) : Checked (Option Diagnostic) := do
  let wordEnd := (offset? (·.head?.any fun c => !c.isAlpha) body).getD (byteLength body)
  match Severity.ofWord? (← slice body 0 wordEnd) with
  | none => pure none
  | some severity =>
    match ← slice body wordEnd (byteLength body) with
    | ':' :: message => pure (some ⟨severity, none, trim message, position⟩)
    | ' ' :: rest => readCoded? severity position rest
    | _ => pure none

/-! ### The location -/

/-- A location up to the first parenthesis that ends the first part of a range. -/
def cutRange (location : Text) : Checked Text :=
  match offset? ([')', '-', '('].isPrefixOf ·) location with
  | some n => slice location 0 (n + 1)
  | none => pure location

def readNumbers? (numbers : List Text) : Checked (Option (UInt32 × UInt32)) := do
  if numbers.length ≠ 2 && numbers.length ≠ 4 then pure none
  else
    match readWord? (trim (← Checked.get numbers 0)) with
    | none => pure none
    | some line =>
      match readWord? (trim (← Checked.get numbers 1)) with
      | none => pure none
      | some column => pure (some (line, column))

/-- `FILE(l,c)` or `FILE(l,c,el,ec)`, and either with the rest of a range. -/
def readParenthesised? (location : Text) : Checked (Option Position) := do
  let location ← cutRange location
  match lastOffset? (·.head?.any (· = '(')) location with
  | none => pure none
  | some opening =>
    let closing ← Checked.sub (byteLength location) 1
    match ← readNumbers? ((← slice location (opening + 1) closing).splitOn ',') with
    | none => pure none
    | some (line, column) =>
      let file := trim (← slice location 0 opening)
      pure (some ⟨if file.isEmpty then none else some file, line, column⟩)

/-- No slice is taken of `FILE:l:c`. -/
def readPosition? (location : Text) : Checked (Option Position) :=
  let location := trim location
  if location.getLast? = some ')' then readParenthesised? location
  else pure (Position.readColons? location)

/-! ### The line -/

/-- Reads a line with a separator at the offset `split`. -/
def readAt? (line : Text) (split : Nat) : Checked (Option Diagnostic) := do
  match ← readPosition? (← slice line 0 split) with
  | none => pure none
  | some position => readBody? (some position) (← slice line (split + 2) (byteLength line))

/-- What one round of the search for a separator comes to. -/
inductive Round
  | ended (found : Option Diagnostic)
  | again (search : Nat)

/-- Looks for a separator from the offset `search` on, and tries the line there. -/
def round (line : Text) (search : Nat) : Checked Round := do
  match offset? ([':', ' '].isPrefixOf ·) (← slice line search (byteLength line)) with
  | none => pure (.ended none)
  | some n =>
    match ← readAt? line (search + n) with
    | some d => pure (.ended (some d))
    | none => pure (.again (search + n + 2))

theorem lt_of_round {line : Text} {search next : Nat} (h : round line search = .ok (.again next)) :
    search < next ∧ search ≤ (encode line).length := by
  unfold round at h
  obtain ⟨rest, hrest, h⟩ := Checked.exists_of_bind h
  refine ⟨?_, le_of_slice hrest⟩
  split at h
  · cases h
  · next n _ =>
    obtain ⟨found, -, h⟩ := Checked.exists_of_bind h
    cases found with
    | some d => cases h
    | none =>
      obtain rfl := Round.again.inj (Except.ok.inj h)
      omega

/-- The search of the rest of a line ends because no round goes back, and none starts behind the
line. -/
def readLocated? (line : Text) (search : Nat) : Checked (Option Diagnostic) :=
  match h : round line search with
  | .ok (.ended found) => pure found
  | .ok (.again next) =>
    have := lt_of_round h
    readLocated? line next
  | .error e => throw e
termination_by (encode line).length + 1 - search

def readHeadline? (bare : Bool) (line : Text) : Checked (Option Diagnostic) := do
  match ← if bare then readBody? none (trimStart line) else pure none with
  | some d => pure (some d)
  | none => readLocated? line 0

/-! ### The transcript -/

def push (t : Transcript) (line : Text) : Checked Transcript := do
  let line := trimEnd line
  if allBlank line then pure t
  else
    match ← readHeadline? (t.allowsBare line) line with
    | some d => pure (t ++ [d])
    | none => pure (t.extend (trim line))

def read (s : Text) : Checked Transcript := (lines s).foldlM push []

end Scriptorium.Offsets
