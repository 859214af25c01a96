import Scriptorium.Rehearsal.Shell.Work

/-! The options of a command: letters behind a hyphen, some of which take an argument. They end at
the first word that has none, or behind two hyphens. -/

namespace Scriptorium.Shell

/-- A command of the shell itself: its arguments and the status it ends with. -/
abbrev Builtin : Type := List Text → Work Nat

namespace Options

/-- The options that a command knows, those that take an argument apart. -/
structure Known where
  bare : String := ""
  taking : String := ""

/-- Reads the letters of one word; `none` if they need more words than there are. -/
def letters (k : Known) : Text → List Text → Work (List (Char × Text) × List Text)
  | [], rest => pure ([], rest)
  | c :: more, rest => do
    if k.bare.toList.contains c then
      let (os, rest) ← letters k more rest
      pure ((c, []) :: os, rest)
    else if k.taking.toList.contains c then
      match more, rest with
      | [], [] => Work.fail ("No arg for -".toList ++ c :: " option".toList)
      | [], a :: rest => pure ([(c, a)], rest)
      | more, rest => pure ([(c, more)], rest)
    else Work.fail ("Illegal option -".toList ++ [c])

/-- Reads the options before other arguments, from at most `n` words. -/
def readFrom (k : Known) : (n : Nat) → List Text → Work (List (Char × Text) × List Text)
  | 0, ws => pure ([], ws)
  | n + 1, ws => do
    match ws with
    | ['-', '-'] :: rest => pure ([], rest)
    | ('-' :: c :: more) :: rest =>
      let (os, rest) ← letters k (c :: more) rest
      let (others, rest) ← readFrom k n rest
      pure (os ++ others, rest)
    | ws => pure ([], ws)

def read (k : Known) (ws : List Text) : Work (List (Char × Text) × List Text) :=
  readFrom k (ws.length + 1) ws

end Options

/-- A text between apostrophes; those in it stand between quotation marks. -/
def quoteText (t : Text) : Text :=
  let rec go : (n : Nat) → Text → Text
    | 0, _ => []
    | n + 1, t =>
      let plain := t.takeWhile (· ≠ '\'')
      let rest := t.drop plain.length
      let marks := rest.takeWhile (· = '\'')
      let rest := rest.drop marks.length
      '\'' :: plain ++ '\'' ::
        (if marks.isEmpty then [] else '"' :: marks ++ '"' :: (if rest.isEmpty then [] else go n rest))
  go (t.length + 1) t

end Scriptorium.Shell
