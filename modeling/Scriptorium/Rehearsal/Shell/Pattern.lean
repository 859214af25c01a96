import Scriptorium.Text.Basic

/-! Patterns of the shell: a star stands for any text, a question mark for any character, and
brackets for one character of a class. -/

namespace Scriptorium.Shell

inductive Glyph
  | exactly (c : Char)
  | anyChar
  | anyText
  /-- One character in, or not in, the given ranges. -/
  | oneOf (outside : Bool) (ranges : List (Char × Char))

abbrev Pattern := List Glyph

namespace Pattern

/-- The ends of a text, the longest first. -/
def ends : Text → List Text
  | [] => [[]]
  | c :: s => (c :: s) :: ends s

def accepts : Pattern → Text → Bool
  | [], s => s.isEmpty
  | .exactly c :: p, d :: s => c == d && accepts p s
  | .anyChar :: p, _ :: s => accepts p s
  | .oneOf outside ranges :: p, c :: s =>
    (ranges.any fun (low, high) => low ≤ c && c ≤ high) != outside && accepts p s
  | .anyText :: p, s => (ends s).any (accepts p)
  | _ :: _, [] => false

/-- The classes that have names. -/
def named : List (String × List (Char × Char)) := [
  ("alnum", [('0', '9'), ('A', 'Z'), ('a', 'z')]),
  ("alpha", [('A', 'Z'), ('a', 'z')]),
  ("blank", [('\t', '\t'), (' ', ' ')]),
  ("cntrl", [('\x00', '\x1f'), ('\x7f', '\x7f')]),
  ("digit", [('0', '9')]),
  ("graph", [('!', '~')]),
  ("lower", [('a', 'z')]),
  ("print", [(' ', '~')]),
  ("punct", [('!', '/'), (':', '@'), ('[', '\x60'), ('\x7b', '~')]),
  ("space", [('\t', '\x0d'), (' ', ' ')]),
  ("upper", [('A', 'Z')]),
  ("xdigit", [('0', '9'), ('A', 'F'), ('a', 'f')])]

/-- The class with a name that stands behind an opening bracket. -/
def readNamed? (s : Text) : Option (List (Char × Char) × Text) :=
  named.findSome? fun (name, ranges) =>
    ((':' :: name.toList ++ [':', ']']).isPrefixOf? s).map (ranges, ·)

/-- One character, which a backslash may stand before. -/
def readOne? : Text → Option (Char × Text)
  | [] | ['\\'] => none
  | '\\' :: c :: s => some (c, s)
  | c :: s => some (c, s)

/-- The first member of a class, and what follows it. -/
def readMember? (s : Text) : Option (List (Char × Char) × Text) :=
  match if s.head? = some '[' then readNamed? s.tail else none with
  | some r => some r
  | none =>
    match readOne? s with
    | none => none
    | some (low, '-' :: ']' :: s) => some ([(low, low)], '-' :: ']' :: s)
    | some (low, '-' :: s) => (readOne? s).map fun (high, s) => ([(low, high)], s)
    | some (low, s) => some ([(low, low)], s)

/-- At least one member, at most `n`, and what follows the closing bracket. -/
def readMembers? : (n : Nat) → Text → Option (List (Char × Char) × Text)
  | 0, _ => none
  | n + 1, s =>
    match readMember? s with
    | none => none
    | some (rs, ']' :: s) => some (rs, s)
    | some (rs, s) => (readMembers? n s).map fun (more, s) => (rs ++ more, s)

/-- A class behind its opening bracket; a closing bracket that comes first belongs to it. -/
def readClass (s : Text) : Option (Glyph × Text) :=
  let (outside, s) : Bool × Text := match s with
    | '!' :: s => (true, s)
    | s => (false, s)
  (readMembers? (s.length + 1) s).map fun (rs, rest) => (.oneOf outside rs, rest)

/-- Reads a pattern of at most `n` glyphs. -/
def readGlyphs : (n : Nat) → Text → Pattern
  | 0, _ | _, [] => []
  | n + 1, '*' :: s => .anyText :: readGlyphs n s
  | n + 1, '?' :: s => .anyChar :: readGlyphs n s
  | n + 1, '\\' :: c :: s => .exactly c :: readGlyphs n s
  | n + 1, c :: s =>
    match if c = '[' then readClass s else none with
    | some (g, rest) => g :: readGlyphs n rest
    | none => .exactly c :: readGlyphs n s

/-- The pattern that a text spells. -/
def ofText (s : Text) : Pattern := readGlyphs s.length s

/-- The pattern for a text itself. -/
def verbatim (s : Text) : Pattern := s.map .exactly

/-- Cuts the shortest or longest match off one end of a text. Only what stands before the first null
is looked at. -/
def cut (p : Pattern) (front longest : Bool) (s : Text) : Text :=
  let first (t : Text) : Text := t.takeWhile (· ≠ '\x00')
  let places := List.range (s.length + 1)
  let near := List.range ((first s).length + 1)
  if front then
    match (if longest then places.reverse else near).find? fun n => accepts p (first (s.take n)) with
    | some n => s.drop n
    | none => s
  else
    match (if longest then near else places.reverse).find? fun n => accepts p (first (s.drop n)) with
    | some n => s.take n
    | none => s

end Pattern

end Scriptorium.Shell
