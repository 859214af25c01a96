import Mathlib.Data.List.Basic
import Scriptorium.Proofs.Service.Course
import Scriptorium.Unit.Native

/-! The types that a native unit exports. A symbol offers a type if it is the beginning of all
constructors with the name of the type behind it, with or without an underscore in front. What is
listed of an image are the types that its exported names offer, in their order, and the first of
them is the one that is constructed. -/

namespace Scriptorium

/-! ### Symbols -/

namespace ExportedType

variable {beginning symbol name : Text} {t : ExportedType}

/-- The symbol is that of the constructor of a type. An underscore in front of it does not count,
unless the symbol starts like a constructor with it. -/
structure Offers (beginning symbol : Text) (t : ExportedType) : Prop where
  named : t.name ≠ []
  constructor_eq : t.constructor = beginning ++ t.name
  symbol_eq : symbol = t.constructor ∨ symbol = '_' :: t.constructor ∧ ¬beginning <+: symbol

theorem dropUnderscore_of_begins (h : beginning <+: symbol) :
    dropUnderscore beginning symbol = symbol := by
  unfold dropUnderscore
  split
  · rw [if_pos (List.isPrefixOf_iff_prefix.mpr h)]
  · rfl

theorem dropUnderscore_cons (h : ¬beginning <+: '_' :: symbol) :
    dropUnderscore beginning ('_' :: symbol) = symbol := by
  rw [dropUnderscore, if_neg (mt List.isPrefixOf_iff_prefix.mp h)]

theorem dropUnderscore_eq_iff :
    dropUnderscore beginning symbol = beginning ++ name ↔
      symbol = beginning ++ name ∨ symbol = '_' :: (beginning ++ name) ∧ ¬beginning <+: symbol := by
  by_cases hbegins : beginning <+: symbol
  · rw [dropUnderscore_of_begins hbegins]
    simp [hbegins]
  · have hne : symbol ≠ beginning ++ name := fun h => hbegins ⟨name, h.symm⟩
    by_cases hunder : ∃ bare, symbol = '_' :: bare
    · obtain ⟨bare, rfl⟩ := hunder
      rw [dropUnderscore_cons hbegins]
      simp [hne, hbegins]
    · have hsame : dropUnderscore beginning symbol = symbol := by
        unfold dropUnderscore
        split
        · next bare => exact absurd ⟨bare, rfl⟩ hunder
        · rfl
      rw [hsame]
      simp only [hne, false_or, false_iff]
      exact fun h => hunder ⟨_, h.1⟩

theorem ofSymbol?_eq_some_iff : ofSymbol? beginning symbol = some t ↔ Offers beginning symbol t := by
  unfold ofSymbol?
  dsimp only
  constructor
  · intro h
    split at h
    · simp at h
    · simp at h
    · next name hname hcut =>
      obtain rfl := Option.some.inj h
      have hdrop := List.isPrefixOf?_eq_some_iff_append_eq.mp hcut
      have hsymbol := dropUnderscore_eq_iff.mp hdrop.symm
      rw [hdrop] at hsymbol
      exact ⟨fun hnil => hname hnil, hdrop.symm, hsymbol⟩
  · rintro ⟨hnamed, hconstructor, hsymbol⟩
    obtain ⟨name, constructor⟩ := t
    dsimp only at hnamed hconstructor hsymbol
    subst hconstructor
    have hcut : beginning.isPrefixOf? (beginning ++ name) = some name :=
      List.isPrefixOf?_eq_some_iff_append_eq.mpr rfl
    obtain ⟨c, rest, rfl⟩ := List.exists_cons_of_ne_nil hnamed
    rw [dropUnderscore_eq_iff.mpr hsymbol, hcut]

theorem ofSymbol?_eq_none_iff :
    ofSymbol? beginning symbol = none ↔ ∀ t, ¬Offers beginning symbol t := by
  rw [Option.eq_none_iff_forall_ne_some]
  simp only [ne_eq, ofSymbol?_eq_some_iff]

/-- The types that symbols offer, in the order of the symbols. -/
inductive Listed (beginning : Text) : List Text → List ExportedType → Prop
  | nil : Listed beginning [] []
  | offer {symbol : Text} {t : ExportedType} {symbols : List Text} {types : List ExportedType} :
      Offers beginning symbol t → Listed beginning symbols types →
        Listed beginning (symbol :: symbols) (t :: types)
  | skip {symbol : Text} {symbols : List Text} {types : List ExportedType} :
      (∀ t, ¬Offers beginning symbol t) → Listed beginning symbols types →
        Listed beginning (symbol :: symbols) types

theorem listed_filterMap (beginning : Text) (symbols : List Text) :
    Listed beginning symbols (symbols.filterMap (ofSymbol? beginning)) := by
  induction symbols with
  | nil => exact .nil
  | cons symbol symbols ih =>
    cases h : ofSymbol? beginning symbol with
    | none =>
      rw [List.filterMap_cons_none h]
      exact .skip (ofSymbol?_eq_none_iff.mp h) ih
    | some t =>
      rw [List.filterMap_cons_some h]
      exact .offer (ofSymbol?_eq_some_iff.mp h) ih

theorem Listed.eq_filterMap {symbols : List Text} {types : List ExportedType}
    (h : Listed beginning symbols types) : types = symbols.filterMap (ofSymbol? beginning) := by
  induction h with
  | nil => rfl
  | offer hoffers _ ih => rw [List.filterMap_cons_some (ofSymbol?_eq_some_iff.mpr hoffers), ih]
  | skip hno _ ih => rw [List.filterMap_cons_none (ofSymbol?_eq_none_iff.mpr hno), ih]

theorem mem_filterMap_ofSymbol?_iff {symbols : List Text} :
    t ∈ symbols.filterMap (ofSymbol? beginning) ↔ ∃ s ∈ symbols, Offers beginning s t := by
  simp only [List.mem_filterMap, ofSymbol?_eq_some_iff]

theorem filterMap_ofSymbol?_eq_nil_iff {symbols : List Text} :
    symbols.filterMap (ofSymbol? beginning) = [] ↔ ∀ s ∈ symbols, ∀ t, ¬Offers beginning s t := by
  simp only [List.filterMap_eq_nil_iff, ofSymbol?_eq_none_iff]

theorem filterMap_of_first {before : List Text}
    (hbefore : ∀ s ∈ before, ∀ t, ¬Offers beginning s t) (h : Offers beginning symbol t)
    (after : List Text) :
    (before ++ symbol :: after).filterMap (ofSymbol? beginning) =
      t :: after.filterMap (ofSymbol? beginning) := by
  rw [List.filterMap_append, filterMap_ofSymbol?_eq_nil_iff.mpr hbefore, List.nil_append,
    List.filterMap_cons_some (ofSymbol?_eq_some_iff.mpr h)]

end ExportedType

/-! ### Units -/

namespace NativeLoader

open ExportedType

variable {l : NativeLoader} {u : CompiledUnit} {w : World} {image : Bytes} {o : ObjectFile}
  {exports : List Bytes} {t : ExportedType}

/-- The symbols among which the constructors are looked for. -/
def considered (o : ObjectFile) (exports : List Bytes) : List Text :=
  if exports = [] then
    (o.symbols.filter fun s => s.isGlobal && s.isDefinition).filterMap ObjectSymbol.name
  else exports.map Text.decode

theorem exportedNames_eq (hexports : o.exports = .ok exports) :
    o.exportedNames = .ok (considered o exports) := by
  rw [ObjectFile.exportedNames, hexports, considered, ObjectFile.globals]
  cases exports <;> rfl

theorem exportedTypes_eq (hread : l.reader image = .ok o) (hexports : o.exports = .ok exports) :
    l.exportedTypes image =
      .ok ((considered o exports).filterMap (ofSymbol? l.constructorBeginning)) := by
  rw [exportedTypes, hread]
  change (o.exportedNames >>= fun names => _) = _
  rw [exportedNames_eq hexports]
  rfl

theorem load_eq (hbytes : bytes u w = (.ok image, w)) (hread : l.reader image = .ok o)
    (hexports : o.exports = .ok exports) :
    let types := (considered o exports).filterMap (ofSymbol? l.constructorBeginning)
    l.load u w = (.ok ⟨types.map ExportedType.name, l.instantiate u types⟩, w) := by
  rw [load, Act.bind_apply, hbytes]
  dsimp only
  rw [exportedTypes_eq hread hexports]
  rfl

theorem instantiate_first (l : NativeLoader) (u : CompiledUnit) (t : ExportedType)
    (types : List ExportedType) : l.instantiate u (t :: types) t.name = l.construct u t := by
  simp [instantiate]

theorem materialize_of_nil (hbytes : bytes u w = (.ok image, w)) (hread : l.reader image = .ok o)
    (hexports : o.exports = .ok exports)
    (hnil : (considered o exports).filterMap (ofSymbol? l.constructorBeginning) = []) :
    l.loader.materialize u w = (.ok none, w) := by
  have hload : l.loader.load u w = _ := load_eq hbytes hread hexports
  rw [Loader.materialize, Act.bind_apply, hload, hnil]
  rfl

theorem materialize_of_cons {types : List ExportedType} (hbytes : bytes u w = (.ok image, w))
    (hread : l.reader image = .ok o) (hexports : o.exports = .ok exports)
    (hcons : (considered o exports).filterMap (ofSymbol? l.constructorBeginning) = t :: types) :
    l.loader.materialize u w = (some <$> l.construct u t) w := by
  have hload : l.loader.load u w = _ := load_eq hbytes hread hexports
  rw [Loader.materialize, Act.bind_apply, hload, hcons]
  change (some <$> l.instantiate u (t :: types) t.name) w = _
  rw [instantiate_first]

/-! ### Constructing -/

theorem map_error {path : Text} {h : Halt} (herror : (l.map path w).1 = .error h) :
    ∃ reason, h = .fault (.notLoaded reason) := by
  unfold map at herror
  split at herror
  · simp at herror
  · exact ⟨_, (Except.error.inj herror).symm⟩

theorem write_error {path : Text} {content : Bytes} {fault : IoError → Fault} {h : Halt}
    (herror : (Act.write path content fault w).1 = .error h) : ∃ e, h = .fault (fault e) := by
  unfold Act.write at herror
  split at herror
  · simp at herror
  · exact ⟨_, (Except.error.inj herror).symm⟩

theorem openUnit_error {h : Halt} (herror : (l.openUnit u w).1 = .error h) :
    ∃ reason, h = .fault (.notLoaded reason) := by
  cases u with
  | file path => exact map_error herror
  | image bytes =>
    rcases Act.bind_error herror with hdraw | ⟨token, w₁, -, hwrite⟩
    · simp [Act.draw] at hdraw
    · rcases Act.bind_error hwrite with hwrite | ⟨-, w₂, -, hmap⟩
      · obtain ⟨e, rfl⟩ := write_error hwrite
        exact ⟨_, rfl⟩
      · exact map_error hmap

theorem construct_apply (l : NativeLoader) (u : CompiledUnit) (t : ExportedType) (w : World) :
    l.construct u t w = match l.openUnit u w with
      | (.error h, w') => (.error h, w')
      | (.ok library, w') => (match library.constructor t.constructor with
        | .error reason => .error (.fault (t.notFound reason))
        | .ok none => .error (.fault (.notConstructed t.name "constructor returned null".toList))
        | .ok (some address) => .ok ⟨t.name, .native ⟨address, l.destructor? library t.name⟩⟩, w') := by
  rw [construct, Act.bind_apply]
  rcases l.openUnit u w with ⟨h | library, w'⟩
  · rfl
  · dsimp only
    split <;> simp_all <;> rfl

/-- What constructing the type `name` comes to. The unit is mapped, and the library is asked for the
constructor; what that makes is the object, to be released by the destructor if the library has it. -/
inductive Constructs (l : NativeLoader) (u : CompiledUnit) (name : Text) (w : World) :
    Except Halt Instance → World → Prop
  | unmapped {h : Halt} {w' : World} (hopen : l.openUnit u w = (.error h, w')) :
      Constructs l u name w (.error h) w'
  | notFound {library : Library} {reason : Text} {w' : World}
      (hopen : l.openUnit u w = (.ok library, w'))
      (hlookup : library.constructor (l.constructorBeginning ++ name) = .error reason) :
      Constructs l u name w (.error (.fault (.notConstructed name ("constructor `".toList ++
        (l.constructorBeginning ++ name) ++ "` not found: ".toList ++ reason)))) w'
  | nothing {library : Library} {w' : World} (hopen : l.openUnit u w = (.ok library, w'))
      (hlookup : library.constructor (l.constructorBeginning ++ name) = .ok none) :
      Constructs l u name w
        (.error (.fault (.notConstructed name "constructor returned null".toList))) w'
  | released {library : Library} {address : UInt64} {w' : World}
      (hopen : l.openUnit u w = (.ok library, w'))
      (hlookup : library.constructor (l.constructorBeginning ++ name) = .ok (some address))
      (hdestructor : library.hasSymbol (l.destructorBeginning ++ name) = true) :
      Constructs l u name w
        (.ok ⟨name, .native ⟨address, some (l.destructorBeginning ++ name)⟩⟩) w'
  | unreleased {library : Library} {address : UInt64} {w' : World}
      (hopen : l.openUnit u w = (.ok library, w'))
      (hlookup : library.constructor (l.constructorBeginning ++ name) = .ok (some address))
      (hdestructor : library.hasSymbol (l.destructorBeginning ++ name) = false) :
      Constructs l u name w (.ok ⟨name, .native ⟨address, none⟩⟩) w'

theorem construct_constructs (w : World) (h : t.constructor = l.constructorBeginning ++ t.name) :
    l.Constructs u t.name w (l.construct u t w).1 (l.construct u t w).2 := by
  rw [construct_apply]
  rcases hopen : l.openUnit u w with ⟨h | library, w'⟩
  · exact .unmapped hopen
  · have hreason (reason : Text) : t.notFound reason = .notConstructed t.name ("constructor `".toList ++
        (l.constructorBeginning ++ t.name) ++ "` not found: ".toList ++ reason) := by
      rw [← h]
      rfl
    simp only [h, hreason]
    rcases hlookup : library.constructor (l.constructorBeginning ++ t.name) with
      reason | _ | address
    · exact .notFound hopen hlookup
    · exact .nothing hopen hlookup
    · dsimp only
      cases hdestructor : library.hasSymbol (l.destructorBeginning ++ t.name) with
      | true =>
        rw [destructor?, Option.filter_some, if_pos hdestructor]
        exact .released hopen hlookup hdestructor
      | false =>
        rw [destructor?, Option.filter_some, if_neg (by simp [hdestructor])]
        exact .unreleased hopen hlookup hdestructor

/-- Dropping what was constructed calls the destructor of the type with the address that the
constructor returned, if the library has that destructor. -/
theorem construct_release_iff {library : Library} {i : Instance} {w' : World} {symbol : Text}
    {address : UInt64} (hopen : l.openUnit u w = (.ok library, w'))
    (hmade : (l.construct u t w).1 = .ok i) :
    i.object.release? = some (symbol, address) ↔
      library.constructor t.constructor = .ok (some address) ∧
        symbol = l.destructorBeginning ++ t.name ∧ library.hasSymbol symbol = true := by
  rw [construct_apply, hopen] at hmade
  dsimp only at hmade
  split at hmade
  · simp at hmade
  · simp at hmade
  · next made hlookup =>
    obtain rfl := Except.ok.inj hmade
    rw [hlookup, Payload.release?, Option.map_eq_some_iff]
    simp only [destructor?, Option.filter_eq_some_iff, Option.some.injEq, Prod.mk.injEq,
      Except.ok.injEq]
    constructor
    · rintro ⟨_, ⟨rfl, hsymbol⟩, rfl, rfl⟩
      exact ⟨rfl, rfl, hsymbol⟩
    · rintro ⟨rfl, rfl, hsymbol⟩
      exact ⟨_, ⟨rfl, hsymbol⟩, rfl, rfl⟩

theorem construct_ne_unlisted (l : NativeLoader) (u : CompiledUnit) (t : ExportedType) (w : World)
    (name : Text) : (l.construct u t w).1 ≠
      .error (.fault (.notConstructed name "type is not exported by the unit".toList)) := by
  rw [construct_apply]
  split
  · next h w' hopen =>
    obtain ⟨reason, rfl⟩ := openUnit_error (congrArg Prod.fst hopen)
    simp
  · split
    · simp [notFound]
    · simp
    · simp

theorem materialize_cases (hbytes : bytes u w = (.ok image, w)) (hread : l.reader image = .ok o)
    (hexports : o.exports = .ok exports) :
    let types := (considered o exports).filterMap (ofSymbol? l.constructorBeginning)
    let made := l.loader.materialize u w
    types = [] ∧ made = (.ok none, w) ∨ ∃ t ts, types = t :: ts ∧
      made = ((l.construct u t w).1.map some, (l.construct u t w).2) := by
  intro types made
  cases hcase : types with
  | nil => exact .inl ⟨rfl, materialize_of_nil hbytes hread hexports hcase⟩
  | cons t ts =>
    have hfirst := materialize_of_cons hbytes hread hexports hcase
    rw [Act.map_apply] at hfirst
    exact .inr ⟨t, ts, rfl, hfirst⟩

theorem materialize_eq_none_iff (hbytes : bytes u w = (.ok image, w))
    (hread : l.reader image = .ok o) (hexports : o.exports = .ok exports) :
    (l.loader.materialize u w).1 = .ok none ↔
      ∀ s ∈ considered o exports, ∀ t, ¬Offers l.constructorBeginning s t := by
  rw [← filterMap_ofSymbol?_eq_nil_iff]
  rcases materialize_cases hbytes hread hexports with ⟨hcase, hmade⟩ | ⟨t, ts, hcase, hmade⟩
  · simp [hmade, hcase]
  · cases hresult : (l.construct u t w).1 <;> simp [hmade, hcase, hresult, Except.map]

/-- What is constructed is a type that the unit lists. -/
theorem materialize_ne_unlisted (hbytes : bytes u w = (.ok image, w))
    (hread : l.reader image = .ok o) (hexports : o.exports = .ok exports) (name : Text) :
    (l.loader.materialize u w).1 ≠
      .error (.fault (.notConstructed name "type is not exported by the unit".toList)) := by
  rcases materialize_cases hbytes hread hexports with ⟨-, hmade⟩ | ⟨t, ts, -, hmade⟩
  · simp [hmade]
  · have hne := construct_ne_unlisted l u t w name
    rw [hmade]
    cases hresult : (l.construct u t w).1 with
    | ok i => simp [Except.map]
    | error h =>
      rw [hresult] at hne
      simpa [Except.map] using hne

/-- What a loaded unit lists are the types that its exported names offer, or those that its global
definitions do if it exports nothing, in the order of the table. The constructor of each is the
beginning of all constructors and the name of the type. If there is no such type, nothing is
constructed and nothing in the world is touched; otherwise the first one is constructed, by the symbol
that was listed for it, and that never fails because the unit does not list it. -/
theorem load_lists_offers (hbytes : bytes u w = (.ok image, w)) (hread : l.reader image = .ok o)
    (hexports : o.exports = .ok exports) :
    let names := considered o exports
    let none_offers := ∀ s ∈ names, ∀ t, ¬Offers l.constructorBeginning s t
    let made := l.loader.materialize u w
    ∃ types, Listed l.constructorBeginning names types ∧
      l.load u w = (.ok ⟨types.map ExportedType.name, l.instantiate u types⟩, w) ∧
      (∀ t ∈ types, t.name ≠ [] ∧ t.constructor = l.constructorBeginning ++ t.name) ∧
      (∀ t ∈ types, ∀ t' ∈ types, t.name = t'.name → t.constructor = t'.constructor) ∧
      (made.1 = .ok none ↔ none_offers) ∧
      (none_offers → made = (.ok none, w)) ∧
      (∀ before s after t, names = before ++ s :: after →
        (∀ s ∈ before, ∀ t, ¬Offers l.constructorBeginning s t) →
        Offers l.constructorBeginning s t → made = (some <$> l.construct u t) w ∧
          ∃ r w', made = (r.map some, w') ∧ l.Constructs u t.name w r w') ∧
      ∀ name, made.1 ≠
        .error (.fault (.notConstructed name "type is not exported by the unit".toList)) := by
  intro names none_offers made
  have hconstructor : ∀ t ∈ names.filterMap (ofSymbol? l.constructorBeginning),
      t.name ≠ [] ∧ t.constructor = l.constructorBeginning ++ t.name := by
    intro t ht
    obtain ⟨s, -, hoffers⟩ := mem_filterMap_ofSymbol?_iff.mp ht
    exact ⟨hoffers.named, hoffers.constructor_eq⟩
  refine ⟨_, listed_filterMap _ names, load_eq hbytes hread hexports, hconstructor,
    fun t ht t' ht' hname => ?_, materialize_eq_none_iff hbytes hread hexports,
    fun hno =>
      materialize_of_nil hbytes hread hexports (filterMap_ofSymbol?_eq_nil_iff.mpr hno),
    fun before s after t hsplit hbefore hoffers => ?_,
    materialize_ne_unlisted hbytes hread hexports⟩
  · rw [(hconstructor t ht).2, (hconstructor t' ht').2, hname]
  · have hcons := filterMap_of_first hbefore hoffers after
    have hmade := materialize_of_cons hbytes hread hexports (hsplit ▸ hcons)
    exact ⟨hmade, _, _, hmade.trans (Act.map_apply ..), construct_constructs w hoffers.constructor_eq⟩

end NativeLoader

/-! ### An image -/

namespace Elf

/-- A shared library for 32 bits that exports one constructor with an underscore in front of its name
and one without. -/
def underscored : Bytes :=
  -- The header: three sections from 52 on, the last of which has the names of sections.
  [127, 69, 76, 70, 1, 1, 1, 0, 0, 0, 0, 0, 0, 0, 0, 0, 3, 0, 3, 0, 1, 0, 0, 0, 0, 0, 0, 0, 0, 0,
    0, 0, 52, 0, 0, 0, 0, 0, 0, 0, 52, 0, 0, 0, 0, 0, 40, 0, 3, 0, 2, 0] ++
  -- The sections: none, the symbols for dynamic linking, and their names.
  List.replicate 40 0 ++
  [0, 0, 0, 0, 11, 0, 0, 0, 0, 0, 0, 0, 0, 0, 0, 0, 172, 0, 0, 0,
    48, 0, 0, 0, 2, 0, 0, 0, 1, 0, 0, 0, 1, 0, 0, 0, 16, 0, 0, 0] ++
  [0, 0, 0, 0, 3, 0, 0, 0, 0, 0, 0, 0, 0, 0, 0, 0, 220, 0, 0, 0,
    28, 0, 0, 0, 0, 0, 0, 0, 0, 0, 0, 0, 1, 0, 0, 0, 0, 0, 0, 0] ++
  -- The symbols: none, and two global functions.
  List.replicate 16 0 ++
  [1, 0, 0, 0, 0, 0, 0, 0, 0, 0, 0, 0, 18, 0, 1, 0] ++
  [15, 0, 0, 0, 0, 0, 0, 0, 0, 0, 0, 0, 18, 0, 1, 0] ++
  -- The names.
  0 :: Text.encode "_script_new_A".toList ++ 0 :: Text.encode "script_new_B".toList ++ [0]

deriving instance DecidableEq for ObjectFile

theorem read_underscored : reader underscored =
    .ok ⟨.ok [Text.encode "_script_new_A".toList, Text.encode "script_new_B".toList], []⟩ := by
  decide +kernel

end Elf

/-- The underscore does not keep the first type from being listed and constructed. -/
theorem NativeLoader.load_lists_underscored :
    let l : NativeLoader := { scratchDirectory := "/t".toList, linker := fun _ _ => .error [] }
    let u := CompiledUnit.image Elf.underscored
    let w : World := { freshName := fun _ => [] }
    let first : ExportedType := ⟨"A".toList, "script_new_A".toList⟩
    NativeLoader.bytes u w = (.ok Elf.underscored, w) ∧
      l.load u w = (.ok ⟨["A".toList, "B".toList],
        l.instantiate u [first, ⟨"B".toList, "script_new_B".toList⟩]⟩, w) ∧
      l.loader.materialize u w = (some <$> l.construct u first) w := by
  intro l u w first
  have hbytes : NativeLoader.bytes u w = (.ok Elf.underscored, w) := rfl
  have hreader : l.reader = Elf.reader := rfl
  have hread := (congrFun hreader Elf.underscored).trans Elf.read_underscored
  obtain ⟨types, hlisted, hload, -, -, -, -, hfirst, -⟩ := load_lists_offers hbytes hread rfl
  have htypes : types = [first, ⟨"B".toList, "script_new_B".toList⟩] :=
    hlisted.eq_filterMap.trans (by decide +kernel)
  have hoffers : ExportedType.Offers l.constructorBeginning "_script_new_A".toList first :=
    ⟨by decide, rfl, .inr ⟨rfl, by decide⟩⟩
  rw [htypes] at hload
  refine ⟨hbytes, hload, ?_⟩
  exact (hfirst [] _ ["script_new_B".toList] first (by decide +kernel) (by simp) hoffers).1

end Scriptorium
