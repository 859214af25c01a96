import Scriptorium.Diagnostic.Headline

/-! A transcript is the list of diagnostics read so far from a compiler's output, in the order of
their first lines. `Transcript.push` reads one more line: a headline opens a diagnostic, any other
line that is not blank continues the last one, and none gets lost, because at the start such a line
opens an informational diagnostic of its own. -/

namespace Scriptorium

open Text

abbrev Transcript := List Diagnostic

namespace Transcript

/-- Appends a line to the message of the last diagnostic, or opens one with it. -/
def extend (t : Transcript) (line : Text) : Transcript :=
  match t.getLast? with
  | some d => t.dropLast ++ [{ d with message := d.message ++ '\n' :: line }]
  | none => [⟨.info, none, line, none⟩]

/-- An indented line opens a diagnostic without a location only if there is none to continue. -/
def allowsBare (t : Transcript) (line : Text) : Bool :=
  !(line.head?.any isBlank) || t.isEmpty

/-- The diagnostic that a line opens after `t`, if it is a headline there. -/
def headline? (t : Transcript) (line : Text) : Option Diagnostic :=
  Diagnostic.readHeadline? (t.allowsBare (trimEnd line)) (trimEnd line)

def push (t : Transcript) (line : Text) : Transcript :=
  if allBlank line then t
  else
    match t.headline? line with
    | some d => t ++ [d]
    | none => t.extend (trim line)

/-- Everything a compiler printed. -/
def read (s : Text) : Transcript := (lines s).foldl push []

end Transcript

end Scriptorium
