import Scriptorium.Text.Utf8

/-! What an object file tells of its symbols, in whatever format it is. The names that it exports are
those for dynamic linking; if there are none, as in a file that is not linked yet, they are the
global definitions among its symbols. -/

namespace Scriptorium

structure ObjectSymbol where
  /-- Its name, if that can be read and is text. -/
  name : Option Text
  isGlobal : Bool
  isDefinition : Bool
  deriving DecidableEq

structure ObjectFile where
  /-- The names for dynamic linking, or why they cannot be read. -/
  exports : Except Text (List Bytes)
  /-- The symbols in the order of their table. -/
  symbols : List ObjectSymbol

/-- Reads an image, or tells why it cannot. -/
abbrev ObjectReader := Bytes → Except Text ObjectFile

namespace ObjectFile

/-- The names of the global definitions, as far as they have one. -/
def globals (o : ObjectFile) : List Text :=
  (o.symbols.filter fun s => s.isGlobal && s.isDefinition).filterMap ObjectSymbol.name

/-- The names that an object file exports, in the order of its table. -/
def exportedNames (o : ObjectFile) : Except Text (List Text) := do
  let names ← o.exports
  pure (if names.isEmpty then o.globals else names.map Text.decode)

end ObjectFile

end Scriptorium
