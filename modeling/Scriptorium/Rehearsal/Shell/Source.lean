import Scriptorium.Rehearsal.Shell.Arithmetic
import Scriptorium.Rehearsal.Shell.Command

/-! What is left of a script, and the tokens that commands are read from. A token that was looked at
and left for later is kept. Aliases are put into the script where their names stand. -/

namespace Scriptorium.Shell

/-- What a redirection sign asks for. -/
inductive Arrow
  | toward (d : Direction)
  /-- Text from the script; tabs before its lines are dropped or not. -/
  | document (dropTabs : Bool)

inductive Token
  | ending
  | newline
  | sign (s : String)
  | keyword (s : String)
  | redirection (descriptor : Nat) (arrow : Arrow)
  /-- A word, with its text if all of it is plain. -/
  | word (w : Word) (plain : Option Text)

/-- How a mistake names a token. -/
def Token.describe : Token → Text
  | ending => "end of file".toList
  | newline => "newline".toList
  | sign s | keyword s => '"' :: s.toList ++ ['"']
  | redirection .. => "redirection".toList
  | word .. => "word".toList

def Token.isSign (t : Token) (s : String) : Bool :=
  match t with
  | sign r => r == s
  | _ => false

def Token.isKeyword (t : Token) (s : String) : Bool :=
  match t with
  | keyword r => r == s
  | _ => false

/-- The signs and keywords that end a list of commands. -/
def closers : List String :=
  [")", ";;", "do", "done", "elif", "else", "esac", "fi", "then", "\x7d"]

def Token.closes : Token → Bool
  | ending => true
  | sign s | keyword s => closers.contains s
  | _ => false

/-- An alias that was put into the script. -/
structure Expanded where
  name : Text
  /-- How long the script is behind it. -/
  behind : Nat
  /-- It ends in a blank, so that the word behind it may be an alias, too. -/
  blank : Bool

/-- A document that has been announced. -/
structure Announced where
  number : Nat
  delimiter : Text
  dropTabs : Bool
  /-- It stands for itself. -/
  verbatim : Bool

structure Source where
  rest : Text
  /-- Its lines come from a file, one after the other. -/
  isFile : Bool := false
  line : Nat := 1
  aliases : List (Text × Text) := []
  expanded : List Expanded := []
  /-- The last token is to be read once more. -/
  pushed : Bool := false
  last : Token := .newline
  lastWord : Word := []
  announced : List Announced := []
  /-- What follows the document that is read. -/
  behind : Text := []
  documents : List Document := []
  nextDocument : Nat := 0

/-- A mistake in a script, the line it was noticed in and what is left of the script. -/
structure Mistake where
  line : Nat
  rest : Text
  message : Text

/-- The lines of a script that have been begun when so much of it is left. -/
def Source.begun (s : Source) (rest : Text) : Text :=
  let read := s.rest.take (s.rest.length - rest.length)
  if read.isEmpty || read.getLast? = some '\n' then read
  else
    let (line, more) := (s.rest.drop read.length).span (· ≠ '\n')
    read ++ line ++ more.take 1

abbrev Reader (α : Type) : Type := StateT Source (Except Mistake) α

namespace Reader

def mistake {α : Type} (message : String) : Reader α := do
  let s ← get
  throw ⟨s.line, s.rest, message.toList⟩

/-- The mistake of a token that stands in the wrong place. -/
def unexpected {α : Type} (wanted : String) : Reader α := do
  let s ← get
  let expecting : Text := match wanted with
    | "" => []
    | "word" => " (expecting word)".toList
    | wanted => " (expecting \"".toList ++ wanted.toList ++ "\")".toList
  throw ⟨s.line, s.rest, s.last.describe ++ " unexpected".toList ++ expecting⟩

/-! ### Characters -/

/-- The length of the joined lines at the front of a text. -/
def joint : Text → Nat
  | '\\' :: '\n' :: s => joint s + 2
  | _ => 0

/-- Passes over `n` characters. -/
def skip (n : Nat) : Reader Unit :=
  modify fun s => { s with rest := s.rest.drop n, line := s.line + (s.rest.take n).count '\n' }

/-- What is left of the script, behind joined lines. -/
def rest : Reader Text := do
  skip (joint (← get).rest)
  pure (← get).rest

/-- Takes what is there for as long as `p` holds. -/
def takeWhile (p : Char → Bool) : Reader Text := do
  let taken := (← get).rest.takeWhile p
  skip taken.length
  pure taken

/-- Passes over `c` if it comes next. -/
def accept (c : Char) : Reader Bool := do
  if (← rest).head? = some c then
    skip 1
    pure true
  else pure false

/-- Takes the characters for as long as `p` holds, over joined lines, too. -/
def takeJoined (p : Char → Bool) : (fuel : Nat) → Reader Text
  | 0 => pure []
  | fuel + 1 => do
    match ← rest with
    | c :: _ =>
      if p c then
        let taken ← takeWhile fun c => p c && c ≠ '\\'
        if taken.isEmpty then
          skip 1
          (c :: ·) <$> takeJoined p fuel
        else (taken ++ ·) <$> takeJoined p fuel
      else pure []
    | [] => pure []

/-- The blanks and the comment at the front of the script. -/
def skipBlanks : (fuel : Nat) → Reader Unit
  | 0 => pure ()
  | fuel + 1 => do
    match ← rest with
    | ' ' :: _ | '\t' :: _ =>
      let _ ← takeWhile fun c => c = ' ' || c = '\t'
      skipBlanks fuel
    | '#' :: _ =>
      let _ ← takeWhile (· ≠ '\n')
      pure ()
    | _ => pure ()

/-! ### Signs and keywords -/

def isDelimiter (c : Char) : Bool := " \t\n;&|<>()".toList.contains c

def keywords : List String :=
  ["!", "case", "do", "done", "elif", "else", "esac", "fi", "for", "if", "in", "then", "until",
    "while", "\x7b", "\x7d"]

/-- The sign at the front of the script. -/
def sign? : Reader (Option String) := do
  let double (c : Char) (one two : String) : Reader (Option String) := do
    skip 1
    pure (some (if ← accept c then two else one))
  match ← rest with
  | '&' :: _ => double '&' "&" "&&"
  | '|' :: _ => double '|' "|" "||"
  | ';' :: _ => double ';' ";" ";;"
  | '(' :: _ => skip 1; pure (some "(")
  | ')' :: _ => skip 1; pure (some ")")
  | _ => pure none

/-- The redirection sign at the front of the script. -/
def arrow? : Reader (Option (Bool × Arrow)) := do
  match ← rest with
  | '>' :: _ =>
    skip 1
    if ← accept '>' then pure (some (true, .toward .append))
    else if ← accept '&' then pure (some (true, .toward .copy))
    else if ← accept '|' then pure (some (true, .toward .force))
    else pure (some (true, .toward .write))
  | '<' :: _ =>
    skip 1
    if ← accept '<' then pure (some (false, .document (← accept '-')))
    else if ← accept '&' then pure (some (false, .toward .copy))
    else if ← accept '>' then pure (some (false, .toward .readWrite))
    else pure (some (false, .toward .read))
  | _ => pure none

/-! ### Aliases -/

/-- Forgets the aliases that the script has left behind, and tells whether one that ends in a blank
has just been passed. -/
def passAliases : Reader Bool := do
  let s ← get
  if s.expanded.isEmpty then pure false
  else
    let left := s.rest.length
    let passed := s.expanded.any fun e => e.blank && left ≤ e.behind
    let kept := (s.expanded.filter fun e => e.behind ≤ left).map fun e =>
      { e with blank := e.blank && e.behind < left }
    set { s with expanded := kept }
    pure passed

/-- The value of an alias that is not at work. -/
def alias? (name : Text) : Reader (Option Text) := do
  let s ← get
  match s.aliases.lookup name with
  | none => pure none
  | some value =>
    let left := s.rest.length
    let atWork := s.expanded.any fun e => e.name = name && e.behind ≤ left
    pure (if atWork then none else some value)

/-- Puts the value of an alias into the script. -/
def expandAlias (name value : Text) : Reader Unit :=
  modify fun s =>
    let blank := value.getLast?.any fun c => c = ' ' || c = '\t'
    { s with
      rest := value ++ s.rest
      expanded := ⟨name, s.rest.length, blank⟩ :: s.expanded }

/-! ### Documents -/

/-- At the front of a line of a document: passes over tabs that do not count, and ends the script
for the while where the delimiter stands. Behind the front of a delimiter, a byte beyond ASCII is
lost. -/
def startLine (d : Announced) : Reader Unit := do
  if d.dropTabs then discard <| takeWhile (· = '\t')
  let s ← get
  match d.delimiter.isPrefixOf? s.rest with
  | some [] => set { s with rest := [], behind := [], line := s.line + 1 }
  | some ('\n' :: behind) => set { s with rest := [], behind, line := s.line + 1 }
  | _ =>
    let n := common d.delimiter s.rest
    let isLost := n ≠ 0 && s.rest[n]?.any fun c => 128 ≤ c.toNat
    if isLost then set { s with rest := s.rest.eraseIdx n }
where
  common : Text → Text → Nat
    | c :: s, d :: t => if c = d then common s t + 1 else 0
    | _, _ => 0

/-- The lines of a document that stands for itself. -/
def takeLines (d : Announced) : (fuel : Nat) → Reader Text
  | 0 => pure []
  | fuel + 1 => do
    startLine d
    let line ← takeWhile (· ≠ '\n')
    if (← get).rest.isEmpty then pure line
    else
      skip 1
      (line ++ '\n' :: ·) <$> takeLines d fuel

end Reader

end Scriptorium.Shell
