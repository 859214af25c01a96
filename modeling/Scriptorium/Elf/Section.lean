import Scriptorium.Elf.Header

/-! The sections of an ELF image. A number that does not fit the header is in the first section. -/

namespace Scriptorium.Elf

structure Section where
  kind : Nat
  offset : Nat
  size : Nat
  /-- The section that this one belongs with. -/
  link : Nat
  info : Nat

namespace Section

/-- The size of a section header. -/
def headerSize (w : Width) : Nat := w.pick 40 64

def ofRecord (e : Encoding) (record : Bytes) : Section where
  kind := e.word record 4 4
  offset := e.address record 16 24
  size := e.address record 20 32
  link := e.word record 24 40
  info := e.word record 28 44

/-- The bytes of a section; an empty one may lie anywhere. -/
def content? (s : Section) (image : Bytes) : Option Bytes :=
  if s.size = 0 then some [] else slice? image s.offset s.size

/-- The records of a section that holds nothing else. -/
def records? (s : Section) (image : Bytes) (size : Nat) : Option (List Bytes) :=
  (s.content? image).bind fun bs =>
    if bs.length % size = 0 then some (records size bs) else none

/-! ### Kinds -/

def symbols : Nat := 2

def strings : Nat := 3

/-- A section without content. -/
def vacant : Nat := 8

def dynamicSymbols : Nat := 11

/-- Indices of sections too large for the records of a symbol table. -/
def wideIndices : Nat := 18

def relocations : Nat := 9

def explicitRelocations : Nat := 4

def packedRelocations : Nat := 0x40000014

def holdsRelocations (s : Section) : Bool :=
  [relocations, explicitRelocations, packedRelocations].contains s.kind

/-- Whether the end of a section is an address of 64 bits. -/
def hasEnd (s : Section) : Prop := s.offset + s.size < Nat.pow 2 64

instance (s : Section) : Decidable s.hasEnd := inferInstanceAs (Decidable (_ < _))

end Section

namespace Header

/-- The first section, if there is a table of sections. -/
def firstSection? (h : Header) (image : Bytes) : Except Defect (Option Section) :=
  if h.sectionOffset = 0 then .ok none
  else do
    let size := Section.headerSize h.encoding.width
    require (h.sectionEntrySize = size) .sectionEntrySize
    let record ← orDefect .firstSection (slice? image h.sectionOffset size)
    pure (some (.ofRecord h.encoding record))

/-- Makes sure that the table of segments is in the image. -/
def checkSegments (h : Header) (image : Bytes) : Except Defect Unit :=
  if h.segmentOffset = 0 then .ok ()
  else do
    let count ←
      if h.segmentCount = overflow then
        Section.info <$> (orDefect .noSegmentCount =<< h.firstSection? image)
      else pure h.segmentCount
    if count = 0 then pure ()
    else do
      let size := h.encoding.width.pick 32 56
      require (h.segmentEntrySize = size) .segmentEntrySize
      require (h.segmentOffset + count * size ≤ image.length) .segmentTable

/-- The table of sections. -/
def sections (h : Header) (image : Bytes) : Except Defect (List Section) :=
  if h.sectionOffset = 0 then .ok []
  else do
    let count ←
      if h.sectionCount = 0 then (·.elim 0 Section.size) <$> h.firstSection? image
      else pure h.sectionCount
    if count = 0 then pure []
    else do
      let size := Section.headerSize h.encoding.width
      require (h.sectionEntrySize = size) .sectionEntrySize
      let table ← orDefect .sectionTable (slice? image h.sectionOffset (count * size))
      pure ((records size table).map (.ofRecord h.encoding))

/-- Makes sure that the section with the names is one of the sections, and has an end if it has
content. -/
def checkNames (h : Header) (sections : List Section) : Except Defect Unit :=
  match sections with
  | [] => .ok ()
  | first :: _ => do
    let index := if h.nameSection = overflow then first.link else h.nameSection
    require (index ≠ 0) .noNameSection
    let names ← orDefect .nameSection sections[index]?
    require (names.kind = Section.vacant ∨ names.hasEnd) .nameSectionRange

end Header

end Scriptorium.Elf
