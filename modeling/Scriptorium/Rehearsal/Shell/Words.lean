import Scriptorium.Rehearsal.Shell.Source

/-! Reading words and tokens. What a character means depends on what stands around it: between
quotation marks, in the braces of a value, in a document or in a formula. A word may have a command
in it, so the reader of words is given a reader of commands. -/

namespace Scriptorium.Shell

/-- What stands around the characters that are read. -/
inductive Setting
  | bare
  | braces
  | quotes (inBraces : Bool)
  /-- Braces between quotation marks. -/
  | quotedBraces
  /-- Quotation marks in such braces. -/
  | innerQuotes
  | document
  /-- A formula, within so many parentheses. -/
  | formula (depth : Nat)
  deriving DecidableEq

namespace Setting

/-- Whether values keep their blanks here. -/
def isQuoted : Setting → Bool
  | bare | braces => false
  | _ => true

def inBraces : Setting → Bool
  | braces | quotedBraces | innerQuotes => true
  | quotes b => b
  | _ => false

end Setting

/-- What a reader of tokens is to look for. -/
structure Wanted where
  newlines : Bool := false
  keywords : Bool := false
  aliases : Bool := false
  /-- The word ends a document, so nothing in it stands for a value. -/
  verbatim : Bool := false

/-- What is read around words. -/
structure Around where
  /-- Reads the commands in parentheses. -/
  commands : Reader (Option Command)
  verbatim : Bool := false
  inDocument : Bool := false
  /-- The document that ends at its delimiter. -/
  document : Option Announced := none

namespace Reader

/-- Parameters with a name of one character. -/
def isSpecial (c : Char) : Bool := "$#*@!?-".toList.contains c || c.isDigit

/-- Puts text before a word. -/
def before (s : Text) (quoted : Bool) : Word → Word
  | .literal r q :: w => if q = quoted then .literal (s ++ r) q :: w
    else .literal s quoted :: .literal r q :: w
  | w => .literal s quoted :: w

/-- How much of the script is left. -/
def length : Reader Nat := return (← get).rest.length

/-- The script ends where something must follow. -/
def unfinished {α : Type} (a : Around) : Setting → Reader α
  | .formula _ => mistake "Missing '))'"
  | .bare | .braces | .document => mistake "Missing '\x7d'"
  | .quotes _ | .quotedBraces | .innerQuotes =>
    mistake (if a.inDocument then "Missing '\x7d'" else "Unterminated quoted string")

/-! ### Parts of words -/

/-- The text up to an apostrophe. -/
def takeVerbatim (a : Around) : Reader Text := do
  let s ← takeWhile (· ≠ '\'')
  if (← get).rest.isEmpty then unfinished a (.quotes true)
  else
    skip 1
    pure s

/-- The character behind a backslash, with the backslash if that keeps its own meaning. -/
def escaped (a : Around) (st : Setting) (c : Char) : Text :=
  let plain := c = '\\' || c = '\x60' || c = '$' ||
    (c = '"' && (!a.inDocument || st.inBraces)) || (c = '\x7d' && st.inBraces)
  if st.isQuoted && !plain then ['\\', c] else [c]

/-- The text up to a back quote. -/
def takeBackQuoted (quoted : Bool) : (fuel : Nat) → Reader Text
  | 0 => mistake "EOF in backquote substitution"
  | fuel + 1 => do
    match ← rest with
    | [] => mistake "EOF in backquote substitution"
    | '\x60' :: _ => skip 1; pure []
    | '\\' :: c :: _ =>
      skip 2
      let dropped := c = '\\' || c = '\x60' || c = '$' || (quoted && c = '"')
      let more ← takeBackQuoted quoted fuel
      pure (if dropped then c :: more else '\\' :: c :: more)
    | c :: _ => skip 1; (c :: ·) <$> takeBackQuoted quoted fuel

/-- Reads something else than the script for a while. -/
def within {α : Type} (text : Text) (line : Nat) (r : Reader α) : Reader α := do
  let s ← get
  set { s with rest := text, line, expanded := [], announced := [], pushed := false }
  let result ← tryCatch r fun m => throw { m with rest := s.rest }
  modify fun t => { s with documents := t.documents, nextDocument := t.nextDocument }
  pure result

/-- The commands between back quotes. -/
def backQuoted (a : Around) (quoted : Bool) : Reader (Option Command) := do
  let text ← takeBackQuoted quoted ((← length) + 1)
  let c ← within text 1 a.commands
  modify fun s => { s with pushed := false }
  pure c

/-- The name of a parameter and the edit behind it, up to where the word of the edit begins. -/
def parameter : Reader (Text × Edit) := do
  /- The next character; a line that ends there is not counted. -/
  let next : Reader (Option Char) := do
    let t ← rest
    modify fun s => { s with rest := t.tail }
    pure t.head?
  let blankEdit (blank : Bool) : Char → Edit
    | '\x7d' => .plain blank
    | '-' => .orElse blank
    | '+' => .andThen blank
    | '?' => .orFail blank
    | '=' => .orAssign blank
    | _ => .unknown
  let edit (name : Text) : Option Char → Reader (Text × Edit)
    | some ':' => do
      match ← next with
      | some c => pure (name, blankEdit true c)
      | none => pure (name, .unknown)
    | some '%' => do
      let longest ← accept '%'
      pure (name, .cut false longest)
    | some '#' => do
      let longest ← accept '#'
      pure (name, .cut true longest)
    | some c => pure (name, blankEdit false c)
    | none => pure (name, .unknown)
  let named : Reader Text := do
    match ← rest with
    | c :: _ => takeJoined (if c.isDigit then Char.isDigit else isNamePart) ((← length) + 1)
    | [] => pure []
  match ← rest with
  | [] | '\x7d' :: _ => pure ([], .unknown)
  | '#' :: _ =>
    skip 1
    match ← rest with
    | [] => pure ([], .unknown)
    | c :: _ =>
      if isNamePart c then
        let name ← named
        if (← rest).head? = some '\x7d' then pure (name, .length) else pure (name, .unknown)
      else
        let _ ← next
        if c = '\x7d' || (← rest).head? ≠ some '\x7d' then edit ['#'] (some c)
        else if isSpecial c then pure ([c], .length)
        else pure ([], .unknown)
  | c :: _ =>
    if isNamePart c then
      let name ← named
      edit name (← next)
    else
      let _ ← next
      if isSpecial c then edit [c] (← next) else pure ([], .unknown)

/-- The pieces up to where the setting ends. -/
def pieces (a : Around) : (fuel : Nat) → Setting → Reader Word
  | 0, st => unfinished a st
  | fuel + 1, st => do
    let quoted := st.isQuoted
    let more : Reader Word := pieces a fuel st
    let literal (s : Text) (q : Bool) : Reader Word := before s q <$> more
    let one (c : Char) : Reader Word := do
      skip 1
      literal [c] quoted
    /- The value of a parameter, behind the dollar sign. -/
    let value (name : Text) (e : Edit) (word : Word) : Reader Word :=
      (.value name e word quoted :: ·) <$> more
    match ← rest with
    | [] => if st = .bare || st = .document then pure [] else unfinished a st
    | c :: behind =>
      match c, st with
      | '\\', _ =>
        match behind with
        | [] => skip 1; literal ['\\'] true
        | d :: _ => skip 2; literal (escaped a st d) true
      | '\'', .bare | '\'', .braces =>
        skip 1
        let s ← takeVerbatim a
        (.quotation [.literal s true] :: ·) <$> more
      | '"', .bare | '"', .braces =>
        skip 1
        let inside ← pieces a fuel (.quotes (st = .braces))
        (.quotation inside :: ·) <$> more
      | '"', .quotes _ | '"', .innerQuotes => skip 1; pure []
      | '"', .quotedBraces =>
        skip 1
        let inside ← pieces a fuel .innerQuotes
        (inside ++ ·) <$> more
      | '\x7d', .braces | '\x7d', .quotedBraces => skip 1; pure []
      | '(', .formula n =>
        skip 1
        before ['('] true <$> pieces a fuel (.formula (n + 1))
      | ')', .formula n =>
        skip 1
        if n ≠ 0 then before [')'] true <$> pieces a fuel (.formula (n - 1))
        else if ← accept ')' then pure []
        else literal [')'] true
      | '\x60', _ =>
        if a.verbatim then one c
        else
          skip 1
          let body ← backQuoted a quoted
          (.output body quoted :: ·) <$> more
      | '$', _ =>
        skip 1
        if a.verbatim then literal ['$'] quoted
        else
          match ← rest with
          | '(' :: _ =>
            skip 1
            if ← accept '(' then
              let inside ← pieces a fuel (.formula 0)
              (.arithmetic inside quoted :: ·) <$> more
            else
              let s ← get
              set { s with announced := [] }
              let body ← a.commands
              match (← get).last with
              | .sign ")" => pure ()
              | _ => unexpected ")"
              modify fun t => { t with pushed := false, announced := s.announced }
              (.output body quoted :: ·) <$> more
          | '\x7b' :: _ =>
            skip 1
            let (name, e) ← parameter
            match e with
            | .plain false => value name e []
            | .cut .. => value name e (← pieces a fuel .braces)
            | _ => value name e (← pieces a fuel (if quoted then .quotedBraces else .braces))
          | d :: _ =>
            if isNameStart d then
              let name ← takeJoined isNamePart ((← length) + 1)
              value name (.plain false) []
            else if isSpecial d then
              skip 1
              value [d] (.plain false) []
            else literal ['$'] quoted
          | [] => literal ['$'] quoted
      | _, .bare => if isDelimiter c then pure [] else one c
      | _, _ =>
        skip 1
        if c = '\n' then a.document.forM startLine
        literal [c] quoted

/-! ### Documents -/

/-- Reads the documents that have been announced. -/
def readDocuments (a : Around) : Reader Unit := do
  let announced := (← get).announced
  modify fun s => { s with announced := [] }
  for d in announced do
    let s ← get
    set { s with expanded := [], pushed := false, behind := [] }
    let fuel := s.rest.length + 2
    let word ←
      if d.verbatim then do
        let t ← takeLines d fuel
        pure [.literal t true]
      else do
        startLine d
        let a := { a with inDocument := true, document := some d, verbatim := false }
        pieces a fuel .document
    modify fun t => { s with
      rest := t.behind
      line := t.line
      documents := ⟨d.number, word⟩ :: t.documents
      nextDocument := t.nextDocument }

/-! ### Tokens -/

def pushBack : Reader Unit := modify fun s => { s with pushed := true }

/-- The next token, before keywords and aliases are told from other words. -/
def nextToken (a : Around) : Reader Token := do
  if (← get).pushed then
    modify fun s => { s with pushed := false }
    pure (← get).last
  else
    skipBlanks ((← length) + 1)
    let done (t : Token) : Reader Token := do
      modify fun s => { s with last := t }
      pure t
    match ← rest with
    | [] => done .ending
    | '\n' :: _ => skip 1; done .newline
    | _ =>
      match ← sign? with
      | some s => done (.sign s)
      | none =>
        let w ← pieces a ((← length) + 2) .bare
        let plain := plainText? w
        let next := (← get).rest.head?
        let isNumber := plain.any fun s => s.length ≤ 1 && s.all Char.isDigit
        if isNumber && (next = some '<' || next = some '>') then
          let number := plain.bind Text.readNat?
          match ← arrow? with
          | some (out, arrow) =>
            done (.redirection (number.getD (if out then 1 else 0)) arrow)
          | none => done .ending
        else
          modify fun s => { s with lastWord := w }
          done (.word w plain)

/-- Passes over newlines, behind which the documents stand that were announced before them. -/
def afterNewlines (a : Around) : (fuel : Nat) → Token → Reader Token
  | fuel + 1, .newline => do
    readDocuments a
    afterNewlines a fuel (← nextToken a)
  | _, t => pure t

/-- The next token; aliases are put into the script as often as there is fuel. -/
def tokenOf (a : Around) : (fuel : Nat) → Wanted → Reader Token
  | 0, _ => pure .ending
  | fuel + 1, want => do
    let t ← nextToken { a with verbatim := want.verbatim }
    let t ← if want.newlines then afterNewlines a ((← length) + 1) t else pure t
    let want := { want with aliases := (← passAliases) || want.aliases }
    match t with
    | .word _ (some s) =>
      let name := String.ofList s
      if want.keywords && keywords.contains name then
        modify fun r => { r with last := .keyword name }
        pure (.keyword name)
      else if want.aliases then
        match ← alias? s with
        | some value =>
          expandAlias s value
          tokenOf a fuel want
        | none => pure t
      else pure t
    | t => pure t

def token (a : Around) (want : Wanted) : Reader Token := do
  tokenOf a (((← length) + 2) * ((← get).aliases.length + 2)) want

end Reader

end Scriptorium.Shell
