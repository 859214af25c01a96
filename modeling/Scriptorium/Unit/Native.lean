import Scriptorium.Elf.Image
import Scriptorium.Scratch.Name
import Scriptorium.Unit.Loader

/-! Units that are native shared libraries. A type is exported as the symbol of its constructor,
which is a fixed beginning and the name of the type; the symbol of its destructor, which need not be
there, has another beginning. Loading a unit only reads its symbols; the system's linker maps it when
a type is constructed, and an image held in memory is put into a scratch file for the linker to map
and removed right behind that. -/

namespace Scriptorium

/-- A type that a unit exports. -/
structure ExportedType where
  name : Text
  /-- The symbol of its constructor. -/
  constructor : Text
  deriving DecidableEq

namespace ExportedType

/-- Some linkers put an underscore before every symbol. -/
def dropUnderscore (beginning symbol : Text) : Text :=
  match symbol with
  | '_' :: bare => if beginning.isPrefixOf symbol then symbol else bare
  | _ => symbol

/-- The type behind a symbol, if the symbol is that of a constructor. -/
def ofSymbol? (beginning symbol : Text) : Option ExportedType :=
  let constructor := dropUnderscore beginning symbol
  match beginning.isPrefixOf? constructor with
  | none | some [] => none
  | some name => some ⟨name, constructor⟩

/-- What is said if the linker does not find the constructor. -/
def notFound (t : ExportedType) (reason : Text) : Fault :=
  .notConstructed t.name
    ("constructor `".toList ++ t.constructor ++ "` not found: ".toList ++ reason)

end ExportedType

/-- A library that the linker mapped. A symbol leads to a constructor, or the linker says why there
is none; a constructor makes an object and tells its address, or makes nothing. -/
structure Library where
  constructor : Text → Except Text (Option UInt64)

/-- A symbol is looked up in the same way whatever it is the symbol of. -/
def Library.hasSymbol (library : Library) (symbol : Text) : Bool :=
  (library.constructor symbol).toOption.isSome

/-- The linker maps the file at a path or says why it cannot. -/
abbrev Linker := FileTree → Text → Except Text Library

structure NativeLoader where
  constructorBeginning : Text := "script_new_".toList
  destructorBeginning : Text := "script_drop_".toList
  /-- Images are put here to be mapped. -/
  scratchDirectory : Text
  reports : Bool := false
  reader : ObjectReader := Elf.reader
  linker : Linker
  /-- What becomes of the files while a library is mapped: its initialisers run then. -/
  initialise : FileTree → Text → FileTree := fun files _ => files

namespace NativeLoader

def fileExtension : Text := "so".toList

/-- The types that an image exports. -/
def exportedTypes (l : NativeLoader) (image : Bytes) : Except Text (List ExportedType) := do
  let names ← (← l.reader image).exportedNames
  pure (names.filterMap (ExportedType.ofSymbol? l.constructorBeginning))

def map (l : NativeLoader) (path : Text) : Act Library := fun w =>
  match l.linker w.files path with
  | .ok library => (.ok library, { w with files := l.initialise w.files path })
  | .error reason =>
    (.error (.fault (.notLoaded ("cannot map ".toList ++ path ++ ": ".toList ++ reason))),
      { w with files := l.initialise w.files path })

def imagePath (l : NativeLoader) (token : Text) : Text :=
  Path.join l.scratchDirectory (Scratch.fileName ("image-".toList ++ token) fileExtension)

/-- Maps a unit. The mapping outlives the file of an image. -/
def openUnit (l : NativeLoader) : CompiledUnit → Act Library
  | .file path => l.map path
  | .image bytes => do
    let token ← Act.draw
    let path := l.imagePath token
    Act.write path bytes fun e =>
      .notLoaded ("cannot write image to ".toList ++ path ++ ": ".toList ++ e.message)
    Act.always (l.map path) (·.discard l.reports path)

/-- The symbol of the destructor of a type, if the library has it. -/
def destructor? (l : NativeLoader) (library : Library) (typeName : Text) : Option Text :=
  some (l.destructorBeginning ++ typeName) |>.filter library.hasSymbol

/-- Maps a unit and calls the constructor of a type. -/
def construct (l : NativeLoader) (u : CompiledUnit) (t : ExportedType) : Act Instance := do
  let library ← l.openUnit u
  match library.constructor t.constructor with
  | .error reason => Act.fail (t.notFound reason)
  | .ok none => Act.fail (.notConstructed t.name "constructor returned null".toList)
  | .ok (some address) => pure ⟨t.name, .native ⟨address, l.destructor? library t.name⟩⟩

def instantiate (l : NativeLoader) (u : CompiledUnit) (types : List ExportedType) (name : Text) :
    Act Instance :=
  match types.find? (·.name = name) with
  | none => Act.fail (.notConstructed name "type is not exported by the unit".toList)
  | some t => l.construct u t

/-- The bytes of a unit. -/
def bytes : CompiledUnit → Act Bytes
  | .image bs => pure bs
  | .file path => fun w =>
    match w.files.read path with
    | .ok bs => (.ok bs, w)
    | .error e =>
      (.error (.fault (.notLoaded ("cannot read ".toList ++ path ++ ": ".toList ++ e.message))), w)

def load (l : NativeLoader) (u : CompiledUnit) : Act LoadedUnit := do
  match l.exportedTypes (← bytes u) with
  | .error reason => Act.fail (.notLoaded reason)
  | .ok types =>
    pure {
      types := types.map ExportedType.name
      instantiate := l.instantiate u types }

def loader (l : NativeLoader) : Loader := ⟨l.load⟩

end NativeLoader

end Scriptorium
