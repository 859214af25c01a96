import Scriptorium.FileTree.Operations
import Scriptorium.Rehearsal.Shell.Command
import Scriptorium.Rehearsal.Shell.Pattern

/-! Fields: what becomes of a word once its values are known. Values without quotation marks end a
field where they hold a separator; all arguments together, even with quotation marks, are separated
by marks of their own. Separators that are white space are worth nothing beside others. -/

namespace Scriptorium.Shell

/-- A part of a word whose values are known. -/
inductive Span
  /-- A quotation mark, which makes a field of nothing. -/
  | mark
  | text (s : Text) (quoted : Bool)
  /-- Text that fields end in; if `apart` is set, only at nulls. -/
  | fields (s : Text) (quoted apart : Bool)

/-- A character of a field; what is quoted stands for itself in patterns. -/
inductive Cell
  | mark
  | char (c : Char) (quoted : Bool)

namespace Span

def content : Span → Text
  | mark => []
  | text s _ | fields s _ _ => s

def cells : Span → List Cell
  | mark => [.mark]
  | text s quoted | fields s quoted _ => s.map (.char · quoted)

/-- The text of a word. -/
def join (w : List Span) : Text := (w.flatMap content).filter (· ≠ '\x00')

end Span

/-- A pattern as text: what is quoted has a backslash before it. -/
def patternText (cs : List Cell) : Text :=
  cs.flatMap fun
    | .mark => []
    | .char c quoted => if quoted then ['\\', c] else [c]

def plainText (cs : List Cell) : Text :=
  cs.flatMap fun
    | .mark => []
    | .char c _ => [c]

/-- The pattern that a word is. -/
def Span.pattern (w : List Span) : Pattern := .ofText (patternText (w.flatMap cells))

/-! ### Breaking up -/

/-- Fields in the making. -/
structure Breaking where
  /-- The fields that are done, the last one first. -/
  fields : List (List Cell) := []
  /-- The field in the making, backwards. -/
  current : List Cell := []
  /-- The last separator was white space. -/
  blank : Bool := false
  /-- The last values were separated by nulls only. -/
  apart : Bool := false
  /-- How many fields there may be. -/
  limit : Option Nat := none
  /-- Where the last field will be cut off, counted from its front. -/
  cut : Option Nat := none

namespace Breaking

def put (b : Breaking) (c : Cell) : Breaking := { b with current := c :: b.current }

def isBlank (c : Char) : Bool := " \t\n\x00".toList.contains c

/-- Takes a character of a value. `before` says what the values before it were separated by. -/
def step (separators : Text) (quoted apart before : Bool) (b : Breaking) (c : Char) : Breaking :=
  let cell : Cell := .char c quoted
  let isSeparator := c = '\x00' || (!apart && separators.contains c)
  let isSpace := isSeparator && isBlank c
  if b.limit = some 0 then
    let b := b.put cell
    if isSpace then { b with cut := b.cut <|> some (b.current.length - 1) }
    else { b with cut := if isSeparator && b.blank then b.cut else none, blank := false }
  else if b.blank then
    if isSpace then b
    else if isSeparator then { b with blank := false }
    else { b with blank := false }.put cell
  else if isSeparator then
    let blank := !(before || apart) && isSpace
    if b.current.isEmpty && blank then b
    else if b.limit = some 1 then
      { b.put cell with blank, limit := some 0, cut := some b.current.length }
    else
      { b with
        fields := b.current.reverse :: b.fields
        current := []
        blank
        limit := b.limit.map (· - 1) }
  else b.put cell

def span (separators : Text) (b : Breaking) : Span → Breaking
  | .fields s quoted apart =>
    let b' := s.foldl (step separators quoted apart b.apart) { b with blank := false }
    { b' with apart }
  | s => { b with current := s.cells.reverseAux b.current }

/-- The fields of a word. -/
def finish (b : Breaking) : List (List Cell) :=
  let last := b.current.reverse
  let last := b.cut.elim last last.take
  (if b.apart || !last.isEmpty then last :: b.fields else b.fields).reverse

end Breaking

def breakUp (separators : Text) (limit : Option Nat) (w : List Span) : List (List Cell) :=
  (w.foldl (Breaking.span separators) { limit }).finish

/-! ### Names of files -/

/-- The parts of a pattern between slashes. -/
def splitPattern : Text → List Text
  | [] => [[]]
  | '\\' :: '/' :: s | '/' :: s => [] :: splitPattern s
  | '\\' :: c :: s =>
    match splitPattern s with
    | p :: ps => ('\\' :: c :: p) :: ps
    | [] => [['\\', c]]
  | c :: s =>
    match splitPattern s with
    | p :: ps => (c :: p) :: ps
    | [] => [[c]]

/-- Whether a part of a pattern can stand for several names. -/
def isOpen : Text → Bool
  | [] => false
  | '\\' :: _ :: s => isOpen s
  | '[' :: s =>
    let rest := if s.head? = some '!' then s.tail else s
    closes (rest.length + 1) rest || isOpen s
  | c :: s => c = '*' || c = '?' || isOpen s
where
  closes : Nat → Text → Bool
    | 0, _ => false
    | n + 1, s =>
      match if s.head? = some '\\' then s.tail else s with
      | [] => false
      | _ :: s => if s.head? = some ']' then true else closes n s

/-- A part of a pattern without its backslashes. -/
def unescaped : Text → Text
  | '\\' :: c :: s => c :: unescaped s
  | c :: s => c :: unescaped s
  | [] => []

/-- The names of files that a pattern stands for, behind `before`. -/
def matchNames (list : Text → List Text) (isThere : Text → Bool) :
    (fixed : Bool) → (before : Text) → List Text → List Text
  | fixed, before, [] => if !fixed && isThere before then [before] else []
  | fixed, before, [p] =>
    if isOpen p then
      let names := (list before).filter fun n => n.head? ≠ some '.' || (unescaped p).head? = some '.'
      (names.filter (Pattern.accepts (.ofText p))).map (before ++ ·)
    else
      let path := before ++ unescaped p
      if !fixed && isThere path then [path] else []
  | fixed, before, p :: ps =>
    if isOpen p then
      let names := (list before).filter fun n => n.head? ≠ some '.' || (unescaped p).head? = some '.'
      (names.filter (Pattern.accepts (.ofText p))).flatMap fun n =>
        matchNames list isThere false (before ++ n ++ ['/']) ps
    else matchNames list isThere fixed (before ++ unescaped p ++ ['/']) ps

/-- The names of files that a pattern stands for, in order. -/
def filesMatching (t : FileTree) (pattern : Text) : List Text :=
  let decode (s : Text) : Text := Text.decode (toBytes s)
  let list (dir : Text) : List Text :=
    let path := if dir.isEmpty then ['.'] else decode dir
    match t.list? path with
    | some entries => ['.'] :: ['.', '.'] :: entries.map fun e => ofBytes (Text.encode e.1)
    | none => []
  let isThere (path : Text) : Bool :=
    match t.find false (decode path) with
    | .ok (.taken ..) => true
    | _ => false
  (matchNames list isThere true [] (splitPattern pattern)).mergeSort fun a b => !decide (b < a)

/-- The texts that a field stands for: itself, or the names of the files that it matches. -/
def Cell.texts (t : FileTree) (literal : Bool) (cs : List Cell) : List Text :=
  let plain := (plainText cs).filter (· ≠ '\x00')
  if literal || !plain.any (fun c => c = '*' || c = '?' || c = '[') then [plain]
  else
    match filesMatching t (patternText cs) with
    | [] => [plain]
    | names => names

end Scriptorium.Shell
