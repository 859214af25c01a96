import Scriptorium.Text.Basic

/-! What makes an image unreadable, and how each defect reads. -/

namespace Scriptorium.Elf

inductive Defect
  /-- Too short to tell the format. -/
  | noMagic
  /-- A known format that holds no single ELF image. -/
  | foreignFormat
  | anonymousObject
  | dosProgram
  | unknownMagic
  | headerSize
  /-- An unknown byte order or version. -/
  | headerKind
  /-- The count of segments is in a section header that is not there. -/
  | noSegmentCount
  | segmentEntrySize
  | segmentTable
  | sectionEntrySize
  | firstSection
  | sectionTable
  | noNameSection
  | nameSection
  /-- The section with the names of sections ends beyond all addresses. -/
  | nameSectionRange
  | symbolTable
  | stringSection
  | stringSectionKind
  | stringSectionRange
  | wideIndices
  /-- Relocations for a section that does not exist. -/
  | relocationTarget
  /-- Relocations for relocations. -/
  | relocationKind
  | symbolName
  deriving DecidableEq

namespace Defect

def message : Defect → Text
  | noMagic => "Could not read file magic".toList
  | foreignFormat => "Unsupported file format".toList
  | anonymousObject => "Unknown anon object file".toList
  | dosProgram => "Unknown MS-DOS file".toList
  | unknownMagic => "Unknown file magic".toList
  | headerSize => "Invalid ELF header size or alignment".toList
  | headerKind => "Unsupported ELF header".toList
  | noSegmentCount => "Missing ELF section headers for e_phnum overflow".toList
  | segmentEntrySize => "Invalid ELF program header entry size".toList
  | segmentTable => "Invalid ELF program header size or alignment".toList
  | sectionEntrySize => "Invalid ELF section header entry size".toList
  | firstSection => "Invalid ELF section header offset or size".toList
  | sectionTable => "Invalid ELF section header offset/size/alignment".toList
  | noNameSection => "Missing ELF e_shstrndx".toList
  | nameSection => "Invalid ELF e_shstrndx".toList
  | nameSectionRange => "Invalid ELF shstrtab size".toList
  | symbolTable => "Invalid ELF symbol table data".toList
  | stringSection => "Invalid ELF section index".toList
  | stringSectionKind => "Invalid ELF string section type".toList
  | stringSectionRange => "Invalid ELF string section offset or size".toList
  | wideIndices => "Invalid ELF symtab_shndx data".toList
  | relocationTarget => "Invalid ELF sh_info for relocation section".toList
  | relocationKind => "Unsupported ELF sh_info for relocation section".toList
  | symbolName => "Invalid ELF symbol name offset".toList

end Defect

/-- Names the defect where something is missing. -/
def orDefect {α : Type} (d : Defect) : Option α → Except Defect α
  | some a => .ok a
  | none => .error d

/-- Ends with a defect unless `p` holds. -/
def require (p : Prop) [Decidable p] (d : Defect) : Except Defect Unit :=
  if p then .ok () else .error d

end Scriptorium.Elf
