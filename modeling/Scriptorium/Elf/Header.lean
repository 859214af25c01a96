import Scriptorium.Elf.Defect
import Scriptorium.Elf.Encoding
import Scriptorium.Text.Utf8

/-! The header of an ELF image: the magic number tells the format, the bytes behind it the encoding,
and the fields say where the tables of segments and sections are. -/

namespace Scriptorium.Elf

/-- The first bytes of archives, linker caches and images for several machines. -/
def foreignMagics : List Bytes := [
  Text.encode "!<arch>\n".toList,
  Text.encode "!<thin>\n".toList,
  Text.encode "dyld_v1 ".toList,
  [0xca, 0xfe, 0xba, 0xbe],
  [0xca, 0xfe, 0xba, 0xbf],
  [0x00, 0x00, 0xff, 0xff, 0x00, 0x00]]

def magic : Bytes := [0x7f, 0x45, 0x4c, 0x46]

/-- The word size of an image that starts like an ELF image. -/
def width (image : Bytes) : Except Defect Width :=
  if image.length < 16 then .error .noMagic
  else if (magic ++ [1]).isPrefixOf image then .ok .narrow
  else if (magic ++ [2]).isPrefixOf image then .ok .wide
  else if foreignMagics.any (·.isPrefixOf image) then .error .foreignFormat
  else if [0x00, 0x00, 0xff, 0xff, 0x02, 0x00].isPrefixOf image then .error .anonymousObject
  else if (Text.encode "MZ".toList).isPrefixOf image then .error .dosProgram
  else .error .unknownMagic

/-- The byte order, told by one byte, if the next has the one known version. -/
def order (image : Bytes) : Except Defect ByteOrder :=
  match image.drop 5 with
  | 1 :: 1 :: _ => .ok .little
  | 2 :: 1 :: _ => .ok .big
  | _ => .error .headerKind

structure Header where
  encoding : Encoding
  segmentOffset : Nat
  segmentEntrySize : Nat
  /-- The count of segments, or the mark `overflow` if it is elsewhere. -/
  segmentCount : Nat
  sectionOffset : Nat
  sectionEntrySize : Nat
  /-- The count of sections, or zero if it is elsewhere. -/
  sectionCount : Nat
  /-- The section with the names of sections, or the mark `overflow` if it is elsewhere. -/
  nameSection : Nat

namespace Header

/-- Stands for a number that does not fit its field. -/
def overflow : Nat := 0xffff

def read (image : Bytes) : Except Defect Header := do
  let w ← width image
  require (w.pick 52 64 ≤ image.length) .headerSize
  let e : Encoding := ⟨w, ← order image⟩
  pure {
    encoding := e
    segmentOffset := e.address image 28 32
    segmentEntrySize := e.half image 42 54
    segmentCount := e.half image 44 56
    sectionOffset := e.address image 32 40
    sectionEntrySize := e.half image 46 58
    sectionCount := e.half image 48 60
    nameSection := e.half image 50 62 }

end Header

end Scriptorium.Elf
