/-! Text is a list of characters. This module holds what the readers of the library share: blanks
and trimming, lines, words, fields, and the removal of a known ending. -/

namespace Scriptorium

abbrev Text := List Char

namespace Text

/-! ### Blanks -/

/-- White space of Unicode. -/
def isBlank (c : Char) : Bool :=
  let n := c.toNat
  (9 ≤ n && n ≤ 13) || n == 0x20 || n == 0x85 || n == 0xa0 || n == 0x1680 ||
    (0x2000 ≤ n && n ≤ 0x200a) || n == 0x2028 || n == 0x2029 || n == 0x202f || n == 0x205f ||
    n == 0x3000

def trimStart (s : Text) : Text := s.dropWhile isBlank

def trimEnd (s : Text) : Text := (s.reverse.dropWhile isBlank).reverse

def trim (s : Text) : Text := trimEnd (trimStart s)

def allBlank (s : Text) : Bool := s.all isBlank

/-! ### Lines and words -/

/-- Drops one carriage return from the end of a line. -/
def dropReturn (line : Text) : Text :=
  if line.getLast? = some '\r' then line.dropLast else line

/-- The lines of a text, each ended by a line feed that one carriage return may precede. What
follows the last line feed is a line if it is not empty, and keeps its carriage return. -/
def lines (s : Text) : List Text :=
  let parts := s.splitOn '\n'
  parts.dropLast.map dropReturn ++ parts.getLast?.toList.filter (· ≠ [])

/-- Lines joined by line feeds, none at the end. -/
def unlines (ls : List Text) : Text := ['\n'].intercalate ls

/-- The maximal runs of characters that are not blank. -/
def words (s : Text) : List Text := (s.splitOnP isBlank).filter (· ≠ [])

/-! ### Cutting -/

/-- What stands before `suffix`, if `s` ends in it. -/
def dropSuffix? (suffix s : Text) : Option Text :=
  (suffix.reverse.isPrefixOf? s.reverse).map List.reverse

/-- Cuts `s` at the last `sep`: what stands before it and what stands behind it. -/
def cutLast? (sep : Char) (s : Text) : Option (Text × Text) :=
  match s.reverse.span (· ≠ sep) with
  | (behind, _ :: before) => some (before.reverse, behind.reverse)
  | (_, []) => none

/-- What follows the first `n` separators, each a single character; `none` if there are fewer. -/
def afterSeparators? (isSep : Char → Bool) : Nat → Text → Option Text
  | 0, s => some s
  | _ + 1, [] => none
  | n + 1, c :: s =>
    if isSep c then afterSeparators? isSep n s else afterSeparators? isSep (n + 1) s

end Text

end Scriptorium
