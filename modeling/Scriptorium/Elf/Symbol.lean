import Scriptorium.Elf.Section

/-! The symbol tables of an ELF image. A symbol's name is in the string section that belongs with
its table, from an offset up to the next zero byte. -/

namespace Scriptorium.Elf

structure Symbol where
  /-- The offset of its name. -/
  name : Nat
  kind : Nat
  binding : Nat
  definedIn : Nat
  size : Nat

namespace Symbol

/-- The size of a symbol's record. -/
def recordSize (w : Width) : Nat := w.pick 16 24

def ofRecord (e : Encoding) (record : Bytes) : Symbol :=
  let info := e.byte record 12 4
  { name := e.word record 0 0
    kind := info % 16
    binding := info / 16
    definedIn := e.half record 14 6
    size := e.address record 8 16 }

/-- Defined in a section of the image: a function or an object, or anything else that has a size and
no kind. -/
def isDefinition (s : Symbol) : Bool :=
  s.definedIn ≠ 0 && (s.definedIn < 0xff00 || s.definedIn = 0xffff) &&
    match s.kind with
    | 0 => s.size ≠ 0
    | 1 | 2 => true
    | _ => false

def isLocal (s : Symbol) : Bool := s.binding = 0

end Symbol

structure SymbolTable where
  symbols : List Symbol := []
  /-- The bytes of the names, if they are in the image. -/
  strings : Option Bytes := none

namespace SymbolTable

/-- The bytes up to the first zero. -/
def untilZero? (bs : Bytes) : Option Bytes :=
  match bs.span (· ≠ 0) with
  | (name, _ :: _) => some name
  | (_, []) => none

def name? (t : SymbolTable) (s : Symbol) : Option Bytes :=
  t.strings.bind fun bs => untilZero? (bs.drop s.name)

/-- The string section behind `link`; zero stands for none. -/
def readStrings (image : Bytes) (sections : List Section) (link : Nat) :
    Except Defect (Option Bytes) :=
  if link = 0 then .ok none
  else do
    let s ← orDefect .stringSection sections[link]?
    require (s.kind = Section.strings) .stringSectionKind
    require s.hasEnd .stringSectionRange
    pure (slice? image s.offset s.size)

/-- The symbol table in the section `index`. -/
def ofSection (e : Encoding) (image : Bytes) (sections : List Section) (index : Nat) (s : Section) :
    Except Defect SymbolTable := do
  let rows ← orDefect .symbolTable (s.records? image (Symbol.recordSize e.width))
  let strings ← readStrings image sections s.link
  let wide := sections.filter fun x => x.kind = Section.wideIndices && x.link = index
  require (wide.all fun x => (x.records? image 4).isSome) .wideIndices
  pure ⟨rows.map (.ofRecord e), strings⟩

/-- The symbol table in the first section of a kind, with the index of that section; an empty one
with index zero if there is no such section. -/
def read (e : Encoding) (image : Bytes) (sections : List Section) (kind : Nat) :
    Except Defect (SymbolTable × Nat) :=
  let index := sections.findIdx (·.kind = kind)
  match sections[index]? with
  | none => .ok ({}, 0)
  | some s => do pure (← ofSection e image sections index s, index)

end SymbolTable

end Scriptorium.Elf
