import Scriptorium.Text.Numeral

/-! What a compiler reports: a severity, an optional code, a message of one or more lines, and
where in a source it points. `Diagnostic.render` writes one in the dialect
`FILE(LINE,COLUMN): SEVERITY CODE: MESSAGE`. -/

namespace Scriptorium

inductive Severity
  | info
  | warning
  | error
  deriving DecidableEq

namespace Severity

/-- The words a compiler announces a severity with, in lower case. -/
def words : List (Text × Severity) := [
  ("error".toList, error),
  ("warning".toList, warning),
  ("info".toList, info),
  ("information".toList, info),
  ("note".toList, info)]

/-- The severity a word announces; the case of its ASCII letters does not matter. -/
def ofWord? (w : Text) : Option Severity := words.lookup (w.map Char.toLower)

/-- The word a severity is written with. -/
def word : Severity → Text
  | info => "info".toList
  | warning => "warning".toList
  | error => "error".toList

def rank : Severity → Nat
  | info => 0
  | warning => 1
  | error => 2

/-- Mildest first. -/
def sort (xs : List Severity) : List Severity := xs.mergeSort fun a b => a.rank ≤ b.rank

end Severity

/-- A place in a source; the file may be left out. -/
structure Position where
  file : Option Text
  line : UInt32
  column : UInt32
  deriving DecidableEq

namespace Position

/-- `FILE(LINE,COLUMN)`. -/
def render (p : Position) : Text :=
  p.file.getD [] ++ '(' :: Text.decimal p.line.toNat ++ ',' :: Text.decimal p.column.toNat ++ [')']

end Position

structure Diagnostic where
  severity : Severity
  code : Option Text
  message : Text
  position : Option Position
  deriving DecidableEq

namespace Diagnostic

def isError (d : Diagnostic) : Bool := d.severity == .error

def locationPart (d : Diagnostic) : Text :=
  match d.position with
  | some p => p.render ++ ": ".toList
  | none => []

def codePart (d : Diagnostic) : Text :=
  match d.code with
  | some c => ' ' :: c
  | none => []

def render (d : Diagnostic) : Text :=
  d.locationPart ++ d.severity.word ++ d.codePart ++ ": ".toList ++ d.message

end Diagnostic

end Scriptorium
