import Scriptorium.Bytes
import Scriptorium.Text.Basic

/-! The commands of the shell. A word is made of pieces, some of which stand for values that are
known only when the command runs. The shell knows nothing but bytes; in its texts each character
stands for the byte of the same number. -/

namespace Scriptorium.Shell

/-- Bytes as the shell writes them. -/
def ofBytes (bs : Bytes) : Text := bs.map fun b => Char.ofNat b.toNat

def toBytes (s : Text) : Bytes := s.map fun c => UInt8.ofNat c.toNat

/-- What is done to the value of a parameter before it is used. Those with `blank` also take an
empty value for a missing one. -/
inductive Edit
  | plain (blank : Bool)
  | length
  | orElse (blank : Bool)
  | orAssign (blank : Bool)
  | andThen (blank : Bool)
  | orFail (blank : Bool)
  /-- Cuts a match of the word off one end of the value. -/
  | cut (front longest : Bool)
  /-- No edit at all, which is noticed when the command runs. -/
  | unknown

/-- Where a redirection leads. -/
inductive Direction
  | read
  | readWrite
  | write
  /-- Writes over a file even if the shell is to spare files. -/
  | force
  | append
  /-- To where another descriptor leads. -/
  | copy
  deriving DecidableEq

mutual

inductive Piece
  | literal (s : Text) (quoted : Bool)
  /-- What stands between quotation marks; a word with it is never nothing. -/
  | quotation (inside : List Piece)
  | value (name : Text) (edit : Edit) (word : List Piece) (quoted : Bool)
  | arithmetic (expression : List Piece) (quoted : Bool)
  /-- What a command prints. -/
  | output (c : Option Command) (quoted : Bool)

inductive Command
  | simple (line : Nat) (assignments : List (Text × List Piece)) (words : List (List Piece))
      (redirections : List Redirection)
  | pipeline (background : Bool) (cs : List Command)
  | sequence (a b : Command)
  | negated (c : Command)
  /-- Runs `b` only if `a` succeeds. -/
  | both (a b : Command)
  /-- Runs `b` only if `a` fails. -/
  | either (a b : Command)
  | branch (condition yes : Command) (no : Option Command)
  /-- Repeats the body as long as the condition succeeds, or fails. -/
  | loop (whileTrue : Bool) (condition body : Command)
  | each (line : Nat) (name : Text) (words : List (List Piece)) (body : Command)
  | choose (line : Nat) (word : List Piece) (cases : List (List (List Piece) × Option Command))
  /-- Runs in a shell of its own, which the first one waits for or not. -/
  | apart (line : Nat) (background : Bool) (body : Command) (redirections : List Redirection)
  | redirected (line : Nat) (body : Command) (redirections : List Redirection)
  /-- Gives a command a name. -/
  | define (line : Nat) (name : Text) (body : Command)

inductive Redirection
  | file (descriptor : Nat) (direction : Direction) (target : List Piece)
  /-- Text from the script itself, known by its number. -/
  | document (descriptor number : Nat)

end

abbrev Word : Type := List Piece

/-- The text of a word that has nothing but plain text. -/
def plainText? : Word → Option Text
  | [] => some []
  | .literal s false :: w => (plainText? w).map (s ++ ·)
  | _ :: _ => none

/-- Text that stands in a script, which may have values in it. -/
structure Document where
  number : Nat
  content : Word

end Scriptorium.Shell
