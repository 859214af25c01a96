import Scriptorium.Elf.Symbol
import Scriptorium.Unit.ObjectFile

/-! An ELF image as its symbol tables show it. As an object file it exports the definitions in the
table for dynamic linking, and its symbols are those of the other table. -/

namespace Scriptorium.Elf

structure Image where
  /-- The symbols for static linking. -/
  symbols : SymbolTable
  /-- The symbols for dynamic linking. -/
  dynamicSymbols : SymbolTable

/-- Relocations that go with the table of symbols in the section `symbols` must be for a section
that exists and holds no relocations. -/
def checkRelocation (sections : List Section) (symbols : Nat) (s : Section) : Except Defect Unit :=
  if s.holdsRelocations && s.link = symbols && s.info ≠ 0 then do
    let target ← orDefect .relocationTarget sections[s.info]?
    require (!target.holdsRelocations) .relocationKind
  else .ok ()

namespace Image

def read (image : Bytes) : Except Defect Image := do
  let h ← Header.read image
  h.checkSegments image
  let sections ← h.sections image
  h.checkNames sections
  let (symbols, index) ← SymbolTable.read h.encoding image sections Section.symbols
  let (dynamicSymbols, _) ← SymbolTable.read h.encoding image sections Section.dynamicSymbols
  sections.reverse.forM (checkRelocation sections index)
  pure ⟨symbols, dynamicSymbols⟩

/-- The names of the definitions for dynamic linking; all of them must be readable. -/
def exports (i : Image) : Except Defect (List Bytes) :=
  (i.dynamicSymbols.symbols.filter Symbol.isDefinition).mapM fun s =>
    orDefect .symbolName (i.dynamicSymbols.name? s)

/-- The image as an object file. The first symbol of a table is none. -/
def objectFile (i : Image) : ObjectFile where
  exports := i.exports.mapError Defect.message
  symbols := (i.symbols.symbols.drop 1).map fun s =>
    ⟨(i.symbols.name? s).bind Text.decodeStrict?, !s.isLocal, s.isDefinition⟩

end Image

def reader : ObjectReader := fun image =>
  ((Image.read image).map Image.objectFile).mapError Defect.message

end Scriptorium.Elf
