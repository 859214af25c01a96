import Scriptorium.Proofs.Text.Utf8
import Scriptorium.Proofs.Unit.Exports

/-! Looking up the constructors of the types that a unit lists. The linker is asked for the symbol
without the underscore in front, whatever the format of the image, so the constructor of a type may
be no name that the unit exports. A type of that kind in front of all others is the one that is
constructed, and that fails although the linker would find the next. -/

namespace Scriptorium

namespace ExportedType

variable {beginning : Text} {names : List Text}

theorem prefix_underscore_iff (beginning name : Text) :
    beginning <+: '_' :: (beginning ++ name) ↔ ∀ c ∈ beginning, c = '_' := by
  induction beginning with
  | nil => simp
  | cons c beginning ih =>
    rw [List.cons_append, List.cons_prefix_cons, List.forall_mem_cons]
    constructor
    · rintro ⟨rfl, h⟩
      exact ⟨rfl, ih.mp h⟩
    · rintro ⟨rfl, h⟩
      exact ⟨rfl, ih.mpr h⟩

/-- All types can be looked up exactly if no underscore is dropped, or each constructor with an
underscore in front of it stands beside the same without. -/
theorem forall_constructor_mem_iff :
    (∀ t ∈ names.filterMap (ofSymbol? beginning), t.constructor ∈ names) ↔
      (∀ c ∈ beginning, c = '_') ∨
        ∀ name ≠ [], '_' :: (beginning ++ name) ∈ names → beginning ++ name ∈ names := by
  simp only [mem_filterMap_ofSymbol?_iff]
  constructor
  · refine fun h => or_iff_not_imp_left.mpr fun hother name hname hmem => ?_
    have hkept := mt (prefix_underscore_iff beginning name).mp hother
    exact h ⟨name, beginning ++ name⟩ ⟨_, hmem, hname, rfl, .inr ⟨rfl, hkept⟩⟩
  · rintro h t ⟨s, hmem, hnamed, hconstructor, rfl | ⟨rfl, hkept⟩⟩
    · exact hmem
    · rw [hconstructor] at hmem hkept ⊢
      rcases h with hsame | h
      · exact absurd ((prefix_underscore_iff beginning t.name).mpr hsame) hkept
      · exact h t.name hnamed hmem

end ExportedType

/-- The constructors of a library are the names that its image exports. -/
def Library.Defines (library : Library) (exports : List Bytes) : Prop :=
  ∀ symbol, (∃ reason, library.constructor symbol = .error reason) ↔ Text.encode symbol ∉ exports

namespace NativeLoader

open ExportedType

variable {l : NativeLoader} {u : CompiledUnit} {w w' : World} {image : Bytes} {o : ObjectFile}
  {exports : List Bytes} {t : ExportedType} {library : Library}

theorem encode_notMem_of_notMem_considered {s : Text} (h : s ∉ considered o exports) :
    Text.encode s ∉ exports := by
  intro hmem
  rw [considered, if_neg (List.ne_nil_of_mem hmem)] at h
  exact h (List.mem_map.mpr ⟨_, hmem, Text.decode_encode s⟩)

theorem construct_notFound_iff (hopen : l.openUnit u w = (.ok library, w')) :
    (∃ reason, (some <$> l.construct u t) w = (.error (.fault (t.notFound reason)), w')) ↔
      ∃ reason, library.constructor t.constructor = .error reason := by
  rw [Act.map_apply, construct_apply, hopen]
  dsimp only
  rcases library.constructor t.constructor with reason | _ | object
  · exact ⟨fun _ => ⟨reason, rfl⟩, fun _ => ⟨reason, rfl⟩⟩
  · refine iff_of_false ?_ (by simp)
    rintro ⟨reason, h⟩
    have hfaults := congrArg Prod.fst h
    simp [Except.map, notFound] at hfaults
  · refine iff_of_false ?_ (by simp)
    rintro ⟨reason, h⟩
    have hmade := congrArg Prod.fst h
    simp [Except.map] at hmade

/-- Constructing the first type ends there if and only if no exported name is its constructor, byte
for byte. -/
theorem materialize_notFound_iff {rest : List ExportedType} (hbytes : bytes u w = (.ok image, w))
    (hread : l.reader image = .ok o) (hexports : o.exports = .ok exports)
    (hfirst : (considered o exports).filterMap (ofSymbol? l.constructorBeginning) = t :: rest)
    (hopen : l.openUnit u w = (.ok library, w')) (hdefines : library.Defines exports) :
    (∃ reason, l.loader.materialize u w = (.error (.fault (t.notFound reason)), w')) ↔
      ∀ b ∈ exports, Text.decodeStrict? b ≠ some t.constructor := by
  have hnone : (∀ b ∈ exports, Text.decodeStrict? b ≠ some t.constructor) ↔
      Text.encode t.constructor ∉ exports := by
    simp only [ne_eq, Text.decodeStrict?_eq_some_iff]
    exact ⟨fun h hmem => h _ hmem rfl, fun h b hb heq => h (heq ▸ hb)⟩
  rw [materialize_of_cons hbytes hread hexports hfirst, construct_notFound_iff hopen, hnone]
  exact hdefines _

/-- All types that a unit lists can be looked up exactly if the beginning of constructors is made of
underscores, or each constructor that is exported with an underscore in front of it is exported
without as well. The linker does not find the others, and if the first type is one of them, nothing is
constructed, whatever stands behind it. It is the same if the first constructor is exported only with
bytes that are no text. -/
theorem constructor_found_iff (hbytes : bytes u w = (.ok image, w)) (hread : l.reader image = .ok o)
    (hexports : o.exports = .ok exports) :
    let names := considered o exports
    let beginning := l.constructorBeginning
    o.exportedNames = .ok names ∧ ∃ types, l.exportedTypes image = .ok types ∧
      (∀ t ∈ types, t.constructor ∈ names ∨ '_' :: t.constructor ∈ names) ∧
      ((∀ t ∈ types, t.constructor ∈ names) ↔
        (∀ c ∈ beginning, c = '_') ∨
          ∀ name ≠ [], '_' :: (beginning ++ name) ∈ names → beginning ++ name ∈ names) ∧
      (∀ t ∈ types, t.constructor ∉ names → Text.encode t.constructor ∉ exports) ∧
      ∀ t rest, types = t :: rest → ∀ library w', l.openUnit u w = (.ok library, w') →
        library.Defines exports →
        ((∃ reason,
            l.loader.materialize u w = (.error (.fault (t.notFound reason)), w')) ↔
          ∀ b ∈ exports, Text.decodeStrict? b ≠ some t.constructor) := by
  intro names beginning
  refine ⟨exportedNames_eq hexports, _, exportedTypes_eq hread hexports, fun t ht => ?_,
    forall_constructor_mem_iff, fun t _ => encode_notMem_of_notMem_considered,
    fun t rest htypes library w' hopen hdefines =>
      materialize_notFound_iff hbytes hread hexports htypes hopen hdefines⟩
  obtain ⟨s, hs, hoffers⟩ := mem_filterMap_ofSymbol?_iff.mp ht
  rcases hoffers.symbol_eq with rfl | ⟨rfl, -⟩
  · exact .inl hs
  · exact .inr hs

/-! ### An underscore that is part of the name -/

/-- The names that the image `Elf.underscored` exports. -/
def underscoredExports : List Bytes :=
  [Text.encode "_script_new_A".toList, Text.encode "script_new_B".toList]

/-- The image as a library. -/
def underscoredLibrary : Library where
  constructor symbol :=
    if Text.encode symbol ∈ underscoredExports then .ok (some 7)
    else .error "undefined symbol".toList

theorem underscoredLibrary_defines : underscoredLibrary.Defines underscoredExports := by
  intro symbol
  simp only [underscoredLibrary]
  by_cases h : Text.encode symbol ∈ underscoredExports
  · simp [h]
  · simp [h]

/-- The first type is listed under a constructor that the image does not export. It is constructed and
not found, while the second type could be constructed. -/
theorem first_of_underscored_not_found :
    let l : NativeLoader :=
      { scratchDirectory := "/t".toList, linker := fun _ _ => .ok underscoredLibrary }
    let u := CompiledUnit.file "/unit".toList
    let w : World :=
      { files := { entries := [(["unit".toList], .file Elf.underscored)] }, freshName := fun _ => [] }
    let first : ExportedType := ⟨"A".toList, "script_new_A".toList⟩
    let second : ExportedType := ⟨"B".toList, "script_new_B".toList⟩
    l.exportedTypes Elf.underscored = .ok [first, second] ∧
      (Elf.reader Elf.underscored >>= ObjectFile.exportedNames) =
        .ok ["_script_new_A".toList, second.constructor] ∧
      Text.encode first.constructor ∉ underscoredExports ∧
      (∃ reason, l.loader.materialize u w = (.error (.fault (first.notFound reason)), w)) ∧
      l.construct u second w = (.ok ⟨second.name, .native ⟨7, none⟩⟩, w) := by
  intro l u w first second
  have hfile : w.files.read "/unit".toList = .ok Elf.underscored := by decide +kernel
  have hbytes : bytes u w = (.ok Elf.underscored, w) := by
    simp only [bytes, u, hfile]
  have hreader : l.reader = Elf.reader := rfl
  have hread := (congrFun hreader Elf.underscored).trans Elf.read_underscored
  have hopen : l.openUnit u w = (.ok underscoredLibrary, w) := rfl
  have htypes : l.exportedTypes Elf.underscored = .ok [first, second] := by decide +kernel
  obtain ⟨-, types, hlisted, -, -, hmissing, hfirst⟩ := constructor_found_iff hbytes hread rfl
  obtain rfl := Except.ok.inj (hlisted.symm.trans htypes)
  have hnot : Text.encode first.constructor ∉ underscoredExports :=
    hmissing first List.mem_cons_self (by decide +kernel)
  refine ⟨htypes, by decide +kernel, hnot, ?_, ?_⟩
  · refine (hfirst first [second] rfl _ w hopen underscoredLibrary_defines).mpr ?_
    decide +kernel
  · rw [construct_apply, hopen]
    have hfound : underscoredLibrary.constructor second.constructor = .ok (some 7) := by
      decide +kernel
    have hnone : l.destructor? underscoredLibrary second.name = none := by decide +kernel
    simp only [hfound, hnone]

end NativeLoader

end Scriptorium
