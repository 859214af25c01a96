import Scriptorium.Rehearsal.Shell.Words

/-! Reading commands. A list of commands is read token by token; what it may end in depends on where
it stands. A script is read one line at a time, so that what a line does can change how the next one
is read. -/

namespace Scriptorium.Shell

/-- Where a list of commands stands. -/
inductive Place
  /-- On a line of its own. -/
  | line
  /-- Between keywords or in parentheses; it is not empty. -/
  | block
  /-- Where it may be empty. -/
  | inside
  deriving DecidableEq

/-- Commands that are part of the shell for good: no function may have their names. -/
def lastingNames : List String :=
  [".", ":", "break", "continue", "eval", "exec", "exit", "export", "local", "readonly", "return",
    "set", "shift", "times", "trap", "unset"]

namespace Reader

/-- What command readers are given: the reader of lists, and how the words around are read. -/
structure Lists where
  list : Place → Reader (Option Command)

namespace Lists

def around (l : Lists) : Around := { commands := l.list .inside }

def token (l : Lists) (want : Wanted) : Reader Token := Reader.token l.around want

def anything : Wanted := { newlines := true, keywords := true, aliases := true }

/-- Reads a token that must be a sign or a keyword. -/
def expect (l : Lists) (wanted : String) (want : Wanted := {}) : Reader Unit := do
  let t ← l.token want
  if t.isSign wanted || t.isKeyword wanted then pure () else unexpected wanted

/-- A list that is not empty. If the script ends here, what must follow the list will be missed. -/
def block (l : Lists) : Reader Command := return (← l.list .block).getD (.simple 0 [] [] [])

/-! ### Simple commands -/

/-- The target of a redirection behind its sign. -/
def redirection (l : Lists) (descriptor : Nat) (arrow : Arrow) : Reader Redirection := do
  let isDocument : Bool := match arrow with
    | .document _ => true
    | .toward _ => false
  match ← l.token { verbatim := isDocument } with
  | .word w plain =>
    match arrow with
    | .toward d => pure (.file descriptor d w)
    | .document dropTabs =>
      let s ← get
      let delimiter : Text := w.flatMap fun
        | .literal s _ => s
        | .quotation inside => inside.flatMap fun
          | .literal s _ => s
          | _ => []
        | _ => []
      let announced := s.announced ++ [⟨s.nextDocument, delimiter, dropTabs, plain.isNone⟩]
      set { s with announced, nextDocument := s.nextDocument + 1 }
      pure (.document descriptor s.nextDocument)
  | _ => unexpected ""

/-- The redirections behind a command. -/
def redirections (l : Lists) : (fuel : Nat) → Wanted → Reader (List Redirection)
  | 0, _ => pure []
  | fuel + 1, want => do
    match ← l.token want with
    | .redirection descriptor arrow =>
      let r ← l.redirection descriptor arrow
      (r :: ·) <$> l.redirections fuel {}
    | _ => pushBack; pure []

/-- The name and the value of an assignment. -/
def assignment? : Word → Option (Text × Word)
  | .literal s false :: w =>
    match s.span (· ≠ '=') with
    | (name, '=' :: value) =>
      if isName name then some (name, if value.isEmpty then w else .literal value false :: w)
      else none
    | _ => none
  | _ => none

/-- A simple command as far as it has been read, backwards. -/
structure Draft where
  assignments : List (Text × Word) := []
  words : List Word := []
  redirections : List Redirection := []
  /-- The text of the last word, if it is plain. -/
  plain : Option Text := none

def Draft.command (d : Draft) (line : Nat) : Command :=
  .simple line d.assignments.reverse d.words.reverse d.redirections.reverse

/-- A simple command, or a function; `body` reads the command that a function stands for. -/
def simple (l : Lists) (body : Reader Command) (line : Nat) : (fuel : Nat) → Draft → Reader Command
  | 0, d => pure (d.command line)
  | fuel + 1, d => do
    match ← l.token { aliases := d.words.isEmpty } with
    | .word w plain =>
      match if d.words.isEmpty then assignment? w else none with
      | some a => l.simple body line fuel { d with assignments := a :: d.assignments }
      | none => l.simple body line fuel { d with words := w :: d.words, plain }
    | .redirection descriptor arrow =>
      let r ← l.redirection descriptor arrow
      l.simple body line fuel { d with redirections := r :: d.redirections }
    | .sign "(" =>
      if d.words.length = 1 && d.assignments.isEmpty && d.redirections.isEmpty then
        l.expect ")"
        match d.plain with
        | some name =>
          if isName name && !lastingNames.contains (String.ofList name) then
            let line := (← get).line
            let _ ← l.token anything
            pushBack
            .define line name <$> body
          else mistake "Bad function name"
        | none => mistake "Bad function name"
      else
        pushBack
        pure (d.command line)
    | _ =>
      pushBack
      pure (d.command line)

/-! ### Compound commands -/

/-- What follows the condition of a branch. -/
def branch (l : Lists) : (fuel : Nat) → Reader Command
  | 0 => unexpected "then"
  | fuel + 1 => do
    let condition ← l.block
    l.expect "then"
    let yes ← l.block
    match ← l.token {} with
    | .keyword "elif" => (.branch condition yes ∘ some) <$> l.branch fuel
    | .keyword "else" => (.branch condition yes ∘ some) <$> l.block
    | _ =>
      pushBack
      pure (.branch condition yes none)

/-- The words up to a token that is none. -/
def words (l : Lists) : (fuel : Nat) → Reader (List Word × Token)
  | 0 => pure ([], .newline)
  | fuel + 1 => do
    match ← l.token {} with
    | .word w _ =>
      let (ws, t) ← l.words fuel
      pure (w :: ws, t)
    | t => pure ([], t)

/-- All arguments, each by itself. -/
def arguments : Word := [.quotation [.value ['@'] (.plain false) [] true]]

def each (l : Lists) (line : Nat) : Reader Command := do
  let name ← match ← l.token {} with
    | .word _ (some name) =>
      if isName name then pure name else mistake "Bad for loop variable"
    | _ => mistake "Bad for loop variable"
  let ws ← match ← l.token anything with
    | .keyword "in" =>
      match ← l.words ((← length) + 2) with
      | (ws, .newline) | (ws, .sign ";") => pure ws
      | _ => unexpected ""
    | .sign ";" => pure [arguments]
    | _ => pushBack; pure [arguments]
  l.expect "do" anything
  .each line name ws <$> l.block

/-- The patterns before a closing parenthesis. Whatever stands for a pattern, the word that was read
last is it. -/
def patterns (l : Lists) : (fuel : Nat) → Reader (List Word)
  | 0 => pure []
  | fuel + 1 => do
    let w := (← get).lastWord
    match ← l.token {} with
    | .sign "|" =>
      let _ ← l.token {}
      (w :: ·) <$> l.patterns fuel
    | .sign ")" => pure [w]
    | _ => unexpected ")"

/-- The cases up to the end of a choice. -/
def cases (l : Lists) : (fuel : Nat) → Reader (List (List Word × Option Command))
  | 0 => pure []
  | fuel + 1 => do
    let want : Wanted := { newlines := true, keywords := true }
    match ← l.token want with
    | .keyword "esac" => pure []
    | t =>
      if t.isSign "(" then
        let _ ← l.token {}
      let patterns ← l.patterns ((← length) + 2)
      let body ← l.list .inside
      match ← l.token want with
      | .keyword "esac" => pure [(patterns, body)]
      | .sign ";;" => ((patterns, body) :: ·) <$> l.cases fuel
      | _ => unexpected ";;"

def choose (l : Lists) (line : Nat) : Reader Command := do
  match ← l.token {} with
  | .word w _ =>
    l.expect "in" anything
    .choose line w <$> l.cases ((← length) + 2)
  | _ => unexpected "word"

/-- What stands in parentheses or between keywords, if a compound command begins here, and otherwise
nothing. -/
def compound? (l : Lists) (line : Nat) (t : Token) : Reader (Option Command) := do
  match t with
  | .keyword "if" =>
    let c ← l.branch ((← length) + 2)
    l.expect "fi"
    pure (some c)
  | .keyword "while" | .keyword "until" =>
    let condition ← l.block
    l.expect "do"
    let body ← l.block
    l.expect "done"
    pure (some (.loop (t.isKeyword "while") condition body))
  | .keyword "for" =>
    let c ← l.each line
    l.expect "done"
    pure (some c)
  | .keyword "case" => some <$> l.choose line
  | .sign "(" =>
    let c ← l.block
    l.expect ")"
    pure (some (.apart line false c []))
  | .keyword "\x7b" =>
    let c ← l.block
    l.expect "\x7d"
    pure (some c)
  | _ => pure none

/-- A command; a function may stand for a function, and so on. -/
def command (l : Lists) : (fuel : Nat) → Reader Command
  | 0 => unexpected ""
  | fuel + 1 => do
    let line := (← get).line
    let t ← l.token {}
    match t with
    | .word .. | .redirection .. =>
      pushBack
      l.simple (l.command fuel) (← get).line ((← length) + 2) {}
    | _ =>
      match ← l.compound? line t with
      | none => unexpected ""
      | some c =>
        let want : Wanted := { keywords := true, aliases := true }
        match ← l.redirections ((← length) + 2) want with
        | [] => pure c
        | rs =>
          match c with
          | .apart line background body _ => pure (.apart line background body rs)
          | c => pure (.redirected line c rs)

/-! ### Commands joined together -/

/-- The commands behind the first one of a pipeline. -/
def pipes (l : Lists) : (fuel : Nat) → Reader (List Command)
  | 0 => pure []
  | fuel + 1 => do
    match ← l.token {} with
    | .sign "|" =>
      let _ ← l.token anything
      pushBack
      let c ← l.command fuel
      (c :: ·) <$> l.pipes fuel
    | _ => pushBack; pure []

def pipeline (l : Lists) (want : Wanted) : Reader Command := do
  let fuel := (← length) + 2
  let t ← l.token want
  let negated := t.isKeyword "!"
  if negated then
    let _ ← l.token { keywords := true, aliases := true }
  pushBack
  let c ← l.command fuel
  let c ← match ← l.pipes fuel with
    | [] => pure c
    | cs => pure (.pipeline false (c :: cs))
  pure (if negated then .negated c else c)

/-- Pipelines, each of which runs or not as the one before it ended. -/
def chain (l : Lists) : (fuel : Nat) → Command → Reader Command
  | 0, c => pure c
  | fuel + 1, c => do
    match ← l.token {} with
    | .sign "&&" => l.chain fuel (.both c (← l.pipeline anything))
    | .sign "||" => l.chain fuel (.either c (← l.pipeline anything))
    | _ => pushBack; pure c

/-- A command that nobody waits for. -/
def background : Command → Command
  | .pipeline _ cs => .pipeline true cs
  | .redirected line body rs => .apart line true body rs
  | c => .apart 0 true c []

/-- A list of commands behind those that have been read. -/
def listFrom (l : Lists) (place : Place) : (fuel : Nat) → Option Command → Reader (Option Command)
  | 0, sofar => pure sofar
  | fuel + 1, sofar => do
    let want : Wanted := { anything with newlines := place ≠ .line }
    match ← l.token want with
    | .newline =>
      readDocuments l.around
      pure sofar
    | .ending =>
      readDocuments l.around
      modify fun s => { s with last := .ending }
      pushBack
      pure sofar
    | t =>
      pushBack
      if place ≠ .line && (place = .inside || sofar.isSome) && t.closes then pure sofar
      else
        let c ← l.chain ((← length) + 2) (← l.pipeline {})
        let t ← l.token {}
        let c := if t.isSign "&" then background c else c
        let sofar := some (sofar.elim c (.sequence · c))
        match t with
        | .sign "&" | .sign ";" => l.listFrom place fuel sofar
        | .newline | .ending =>
          pushBack
          l.listFrom place fuel sofar
        | _ =>
          if place = .line then unexpected ""
          else
            pushBack
            pure sofar

end Lists

/-- A list of commands, with lists in it up to some depth. -/
def list : (depth : Nat) → Place → Reader (Option Command)
  | 0, _ => unexpected ""
  | depth + 1, place => do Lists.listFrom ⟨list depth⟩ place ((← length) + 2) none

end Reader

/-! ### Scripts -/

/-- What stands at the front of a script. -/
inductive Line
  | ending
  /-- The commands of a line, and whether the script ends with it. -/
  | commands (c : Option Command) (last : Bool)

/-- Reads one line of commands. -/
def Source.readLine (s : Source) : Except Mistake (Line × Source) := do
  let s := { s with pushed := false, announced := [] }
  let (c, s) ← (Reader.list (2 * s.rest.length + 16) .line).run s
  let ended : Bool := s.pushed && match s.last with
    | .ending => true
    | _ => false
  pure (if ended && c.isNone then .ending else .commands c ended, s)

/-- Reads a text in which values may stand, all of it as between quotation marks. -/
def Source.readText (t : Text) : Except Mistake Word := do
  let a : Around := { commands := Reader.list (2 * t.length + 16) .inside, inDocument := true }
  let (w, _) ← (Reader.pieces a (t.length + 1) .document).run { rest := t }
  pure w

end Scriptorium.Shell
