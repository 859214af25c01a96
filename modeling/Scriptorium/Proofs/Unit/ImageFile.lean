import Scriptorium.Proofs.Scratch.Directory
import Scriptorium.Proofs.Unit.Exports

/-! The file that an image is mapped from. It is written, mapped and removed again, and a removal that
fails is reported. The removal comes behind the mapping and is not owed before: a file that was created
and could not be written to its end is left where it is. A type that the unit does not list is refused
before anything is written. -/

namespace Scriptorium.NativeLoader

open ExportedType
open FileTree (refusal?)

variable {l : NativeLoader} {w : World} {image : Bytes} {o : ObjectFile} {exports : List Bytes}
  {t : ExportedType} {types : List ExportedType} {token name : Text} {d : Location} {n : Nat}

/-! ### The file -/

/-- The name of the file of an image. -/
def imageName (token : Text) : Text := Scratch.fileName ("image-".toList ++ token) fileExtension

/-- The next name is one that no directory has an image of. -/
structure Fresh (w : World) : Prop where
  slash : '/' ∉ w.freshName w.drawn
  unused : ∀ d, w.files.get? (imageName (w.freshName w.drawn) :: d) = none

/-- The system lets the file of the next image be created in the directory `d`. -/
structure Creatable (l : NativeLoader) (w : World) (d : Location) : Prop where
  names : w.files.Names (l.imagePath (w.freshName w.drawn)) d (imageName (w.freshName w.drawn))
  accepted : refusal? (l.imagePath (w.freshName w.drawn)) (imageName (w.freshName w.drawn)) = none

/-- Writing the image breaks off after `n` bytes, when the file is there already. -/
structure BreaksOff (l : NativeLoader) (image : Bytes) (w : World) (d : Location) (n : Nat) : Prop
    extends Creatable l w d where
  largest : w.files.largest = some n
  longer : n < image.length

/-- The image is no larger than files may be. -/
def Fits (image : Bytes) (w : World) : Prop := ∀ n ∈ w.files.largest, image.length ≤ n

theorem Creatable.fits_or_breaksOff (h : l.Creatable w d) (image : Bytes) :
    Fits image w ∨ ∃ n, l.BreaksOff image w d n := by
  by_cases hfits : Fits image w
  · exact .inl hfits
  · simp only [Fits, Option.mem_def, not_forall, Nat.not_le] at hfits
    obtain ⟨n, hlargest, hlonger⟩ := hfits
    exact .inr ⟨n, h, hlargest, hlonger⟩

/-- What is said if the file of an image cannot be written. -/
def unwritten (path : Text) (e : IoError) : Halt :=
  .fault (.notLoaded ("cannot write image to ".toList ++ path ++ ": ".toList ++ e.message))

theorem parts_imagePath (h : '/' ∉ token) :
    Path.parts (l.imagePath token) = Path.names l.scratchDirectory ++ [imageName token] := by
  have hbase : '/' ∉ "image-".toList ++ token := by simp [h]
  have hending : '/' ∉ fileExtension := by decide
  obtain ⟨rest, hrest, hparts⟩ := Scratch.parts_fileName fileExtension
  have hparts := hparts _ hbase
  rw [hrest.mpr hending, Scratch.takeWhile_of_slash_notMem hending] at hparts
  change Path.parts (Path.join l.scratchDirectory (imageName token)) = _
  rw [Path.parts_join _ rfl (by simp [imageName, Scratch.fileName]), imageName, hparts]

theorem imageName_ordinary (token : Text) :
    imageName token ≠ ['.'] ∧ imageName token ≠ ['.', '.'] := by
  have hmem : 'i' ∈ imageName token := by simp [imageName, Scratch.fileName]
  exact Scratch.ordinary_of_mem hmem (by decide)

theorem Fresh.plain (h : Fresh w) (d : Location) :
    w.files.Plain (imageName (w.freshName w.drawn) :: d) := by
  simp [FileTree.Plain, h.unused]

/-- The file of the next image can be created in a directory, or writing it changes nothing. -/
theorem creatable_or_refused (hfresh : Fresh w) (l : NativeLoader) (image : Bytes) :
    (∃ d, l.Creatable w d) ∨
      ∃ e, w.files.write (l.imagePath (w.freshName w.drawn)) image = (.error e, w.files) := by
  rcases w.files.names_or_unwritable (parts_imagePath (l := l) hfresh.slash) (imageName_ordinary _)
    with ⟨d, hnames⟩ | ⟨e, hrefused⟩
  · have hwrite := hnames.write_eq (hfresh.plain d) image
    cases hrefusal : refusal? (l.imagePath (w.freshName w.drawn)) (imageName (w.freshName w.drawn)) with
    | none => exact .inl ⟨d, hnames, hrefusal⟩
    | some e =>
      rw [hrefusal] at hwrite
      exact .inr ⟨e, hwrite⟩
  · exact .inr ⟨e, hrefused image⟩

theorem Creatable.write_eq (h : l.Creatable w d) (hfresh : Fresh w) (image : Bytes) :
    w.files.write (l.imagePath (w.freshName w.drawn)) image =
      w.files.store (imageName (w.freshName w.drawn) :: d) image := by
  rw [h.names.write_eq (hfresh.plain d), h.accepted]

/-! ### Opening an image -/

/-- The world in which a file of this content stands for the next image. -/
def written (image : Bytes) (w : World) (d : Location) : World :=
  { w with
    files := w.files.set (imageName (w.freshName w.drawn) :: d) (.file image)
    drawn := w.drawn + 1 }

theorem get?_written (image : Bytes) (w : World) (d m : Location) :
    (written image w d).files.get? m =
      if m = imageName (w.freshName w.drawn) :: d then some (.file image) else w.files.get? m :=
  FileTree.get?_set w.files _ _ (List.cons_ne_nil _ _) m

theorem Fresh.written_files_ne (h : Fresh w) (image : Bytes) (d : Location) :
    (written image w d).files ≠ w.files := by
  intro hsame
  have hget := get?_written image w d (imageName (w.freshName w.drawn) :: d)
  rw [hsame, h.unused, if_pos rfl] at hget
  simp at hget

theorem openUnit_image (l : NativeLoader) (image : Bytes) (w : World) :
    l.openUnit (.image image) w = match w.files.write (l.imagePath (w.freshName w.drawn)) image with
      | (.error e, files) => (.error (unwritten (l.imagePath (w.freshName w.drawn)) e),
          { w with files := files, drawn := w.drawn + 1 })
      | (.ok (), files) =>
        let mapped := l.map (l.imagePath (w.freshName w.drawn))
          { w with files := files, drawn := w.drawn + 1 }
        (mapped.1, mapped.2.discard l.reports (l.imagePath (w.freshName w.drawn))) := by
  rw [openUnit, Act.bind_apply]
  dsimp only [Act.draw]
  rw [Act.bind_apply]
  unfold Act.write
  dsimp only
  rcases w.files.write _ _ with ⟨_ | _, _⟩ <;> rfl

theorem openUnit_of_refused (h : ∀ d, ¬l.Creatable w d) (hfresh : Fresh w) (image : Bytes) :
    ∃ e, l.openUnit (.image image) w = (.error (unwritten (l.imagePath (w.freshName w.drawn)) e),
      { w with drawn := w.drawn + 1 }) := by
  obtain ⟨e, hwrite⟩ := (creatable_or_refused hfresh l image).resolve_left (not_exists.mpr h)
  refine ⟨e, ?_⟩
  rw [openUnit_image, hwrite]

theorem openUnit_of_breaksOff (h : l.BreaksOff image w d n) (hfresh : Fresh w) :
    l.openUnit (.image image) w = (.error (unwritten (l.imagePath (w.freshName w.drawn)) .tooLarge),
      written (image.take n) w d) := by
  have hwrite := h.write_eq hfresh image
  rw [FileTree.store_eq_of_longer h.largest h.longer] at hwrite
  rw [openUnit_image, hwrite]
  rfl

/-- A file that was written is removed as far as that is possible, and reported if it is not. -/
theorem openUnit_of_fits (h : l.Creatable w d) (hfresh : Fresh w) (hfits : Fits image w) :
    let path := l.imagePath (w.freshName w.drawn)
    let mapped := l.initialise (written image w d).files path
    (l.openUnit (.image image) w).2 = { written image w d with
      files := mapped.without path
      reports := w.reports ++
        if l.reports then ((mapped.stuck? path).map (path, ·)).toList else [] } := by
  intro path mapped
  have hwrite := h.write_eq hfresh image
  rw [FileTree.store_eq_of_fits hfits] at hwrite
  have hmap : (l.map path (written image w d)).2 = { written image w d with files := mapped } := by
    unfold map
    split <;> rfl
  rw [openUnit_image, hwrite]
  change (l.map path (written image w d)).2.discard l.reports path = _
  rw [hmap, World.discard_eq]
  rfl

/-- If nothing has been done to it, the file can be removed, and then everything is as it was. -/
theorem Creatable.remove_written (h : l.Creatable w d) (hfresh : Fresh w) (image : Bytes) :
    (written image w d).files.remove (l.imagePath (w.freshName w.drawn)) = .ok w.files := by
  have hnew := hfresh.unused d
  have hextends := (FileTree.Extends.refl w.files).set (e := .file image) (List.cons_ne_nil _ _) hnew
  have hnames : (written image w d).files.Names .. := h.names.mono hextends.here hextends.keep
  have hplain : (written image w d).files.Plain (imageName (w.freshName w.drawn) :: d) := by
    simp [FileTree.Plain, get?_written]
  rw [hnames.remove_eq hplain, h.accepted, get?_written, if_pos rfl]
  exact congrArg Except.ok (FileTree.erase_set (List.cons_ne_nil _ _) hnew _)

theorem openUnit_of_quiet (h : l.Creatable w d) (hfresh : Fresh w) (hfits : Fits image w)
    (hquiet : ∀ files path, l.initialise files path = files) :
    (l.openUnit (.image image) w).2 = { w with drawn := w.drawn + 1 } := by
  have hremove := h.remove_written hfresh image
  have hwithout : (written image w d).files.without (l.imagePath (w.freshName w.drawn)) = w.files := by
    rw [FileTree.without, hremove]
    rfl
  have hstuck : (written image w d).files.stuck? (l.imagePath (w.freshName w.drawn)) = none := by
    rw [FileTree.stuck?, hremove]
  rw [openUnit_of_fits h hfresh hfits]
  simp only [hquiet, hwithout, hstuck, Option.map_none, Option.toList_none, ite_self, List.append_nil]
  rfl

/-! ### Instantiating -/

theorem construct_world (l : NativeLoader) (u : CompiledUnit) (t : ExportedType) (w : World) :
    (l.construct u t w).2 = (l.openUnit u w).2 := by
  rw [construct_apply]
  rcases l.openUnit u w with ⟨h | library, w'⟩ <;> rfl

theorem construct_of_open_error {u : CompiledUnit} {h : Halt} {w' : World}
    (hopen : l.openUnit u w = (.error h, w')) : l.construct u t w = (.error h, w') := by
  rw [construct_apply, hopen]

/-- A library that leaves the files alone finds no trace of its own file afterwards, unless there was
none to map. -/
theorem construct_of_quiet (hfresh : Fresh w) (hquiet : ∀ files path, l.initialise files path = files) :
    (l.construct (.image image) t w).2.reports = w.reports ∧
      ((l.construct (.image image) t w).2.files = w.files ↔ ¬∃ d n, l.BreaksOff image w d n) := by
  by_cases hcreatable : ∃ d, l.Creatable w d
  · obtain ⟨d, hd⟩ := hcreatable
    rcases hd.fits_or_breaksOff image with hfits | ⟨n, hbreaks⟩
    · rw [construct_world, openUnit_of_quiet hd hfresh hfits hquiet]
      refine ⟨rfl, iff_of_true rfl ?_⟩
      rintro ⟨d', n, h⟩
      exact absurd (hfits n h.largest) (Nat.not_le.mpr h.longer)
    · rw [construct_of_open_error (openUnit_of_breaksOff hbreaks hfresh)]
      exact ⟨rfl, iff_of_false (hfresh.written_files_ne _ d) (not_not.mpr ⟨d, n, hbreaks⟩)⟩
  · obtain ⟨e, hopen⟩ := openUnit_of_refused (not_exists.mp hcreatable) hfresh image
    rw [construct_of_open_error hopen]
    exact ⟨rfl, iff_of_true rfl fun ⟨d, _, h⟩ => hcreatable ⟨d, h.toCreatable⟩⟩

theorem instantiate_of_listed (h : ∃ t ∈ types, t.name = name) (l : NativeLoader) (u : CompiledUnit) :
    ∃ t ∈ types, t.name = name ∧ l.instantiate u types name = l.construct u t := by
  cases hfind : types.find? (·.name = name) with
  | none =>
    obtain ⟨t, ht, hname⟩ := h
    exact absurd hname (by simpa using List.find?_eq_none.mp hfind t ht)
  | some t =>
    refine ⟨t, List.mem_of_find?_eq_some hfind, by simpa using List.find?_some hfind, ?_⟩
    rw [instantiate, hfind]

theorem instantiate_of_unlisted (h : ¬∃ t ∈ types, t.name = name) (l : NativeLoader)
    (u : CompiledUnit) : l.instantiate u types name =
      Act.fail (.notConstructed name "type is not exported by the unit".toList) := by
  have hfind : types.find? (·.name = name) = none :=
    List.find?_eq_none.mpr fun t ht => by simpa using fun hname => h ⟨t, ht, hname⟩
  rw [instantiate, hfind]

theorem exists_offers_iff {beginning : Text} {symbols : List Text} :
    (∃ s ∈ symbols, ∃ t, Offers beginning s t ∧ t.name = name) ↔ name ≠ [] ∧
      (beginning ++ name ∈ symbols ∨
        '_' :: (beginning ++ name) ∈ symbols ∧ ¬beginning <+: '_' :: (beginning ++ name)) := by
  constructor
  · rintro ⟨s, hs, t, ⟨hnamed, hconstructor, hsymbol⟩, rfl⟩
    rw [hconstructor] at hsymbol
    rcases hsymbol with rfl | ⟨rfl, hkept⟩
    · exact ⟨hnamed, .inl hs⟩
    · exact ⟨hnamed, .inr ⟨hs, hkept⟩⟩
  · rintro ⟨hnamed, hs | ⟨hs, hkept⟩⟩
    · exact ⟨_, hs, ⟨name, beginning ++ name⟩, ⟨hnamed, rfl, .inl rfl⟩, rfl⟩
    · exact ⟨_, hs, ⟨name, beginning ++ name⟩, ⟨hnamed, rfl, .inr ⟨rfl, hkept⟩⟩, rfl⟩

/-- A name is refused before anything is written, or it is listed and its constructor looked up. -/
theorem instantiate_cases (hread : l.reader image = .ok o) (hexports : o.exports = .ok exports)
    (u : CompiledUnit) (name : Text) :
    let symbols := considered o exports
    let beginning := l.constructorBeginning
    let listed := name ≠ [] ∧ (beginning ++ name ∈ symbols ∨
      '_' :: (beginning ++ name) ∈ symbols ∧ ¬beginning <+: '_' :: (beginning ++ name))
    ∃ types, l.exportedTypes image = .ok types ∧
      (¬listed ∧ l.instantiate u types name =
          Act.fail (.notConstructed name "type is not exported by the unit".toList) ∨
        listed ∧ ∃ t, l.instantiate u types name = l.construct u t) := by
  intro symbols beginning listed
  have hlisted : (∃ t ∈ symbols.filterMap (ofSymbol? beginning), t.name = name) ↔ listed := by
    simp only [mem_filterMap_ofSymbol?_iff, listed, ← exists_offers_iff]
    exact ⟨fun ⟨t, ⟨s, hs, hoffers⟩, hname⟩ => ⟨s, hs, t, hoffers, hname⟩,
      fun ⟨s, hs, t, hoffers, hname⟩ => ⟨t, ⟨s, hs, hoffers⟩, hname⟩⟩
  refine ⟨_, exportedTypes_eq hread hexports, ?_⟩
  by_cases h : listed
  · obtain ⟨t, -, -, hconstruct⟩ := instantiate_of_listed (hlisted.mpr h) l u
    exact .inr ⟨h, t, hconstruct⟩
  · exact .inl ⟨h, instantiate_of_unlisted (mt hlisted.mp h) l u⟩

/-- A name that the unit does not list is refused and the world left as it is. For a listed name the
image gets a file, and what becomes of it is decided by writing alone: nothing if it cannot be created;
a part of the image that nobody removes if writing breaks off; and if it is written, it is removed after
the mapping, however that and the constructor end, and reported once if it cannot be removed. As long
as libraries leave files alone, the files are as before exactly unless writing broke off. -/
theorem image_file_left_iff (hread : l.reader image = .ok o) (hexports : o.exports = .ok exports)
    (hfresh : Fresh w) (name : Text) :
    let symbols := considered o exports
    let beginning := l.constructorBeginning
    let path := l.imagePath (w.freshName w.drawn)
    let listed := name ≠ [] ∧ (beginning ++ name ∈ symbols ∨
      '_' :: (beginning ++ name) ∈ symbols ∧ ¬beginning <+: '_' :: (beginning ++ name))
    ∃ types, l.exportedTypes image = .ok types ∧
      let run := l.instantiate (.image image) types name w
      (¬listed → run = (.error (.fault (.notConstructed name
        "type is not exported by the unit".toList)), w)) ∧
      (listed → (∀ d, ¬l.Creatable w d) →
        ∃ e, run = (.error (unwritten path e), { w with drawn := w.drawn + 1 })) ∧
      (listed → ∀ d n, l.BreaksOff image w d n →
        run = (.error (unwritten path .tooLarge), written (image.take n) w d)) ∧
      (listed → ∀ d, l.Creatable w d → Fits image w →
        let mapped := l.initialise (written image w d).files path
        run.2 = { written image w d with
          files := mapped.without path
          reports := w.reports ++
            if l.reports then ((mapped.stuck? path).map (path, ·)).toList else [] } ∧
        (mapped.stuck? path = none → ¬run.2.files.Holds path)) ∧
      ((∀ files path, l.initialise files path = files) → run.2.reports = w.reports ∧
        (run.2.files = w.files ↔ ¬(listed ∧ ∃ d n, l.BreaksOff image w d n))) := by
  intro symbols beginning path listed
  obtain ⟨types, htypes, ⟨hlisted, hrun⟩ | ⟨hlisted, t, hrun⟩⟩ :=
    instantiate_cases hread hexports (.image image) name
  · refine ⟨types, htypes, fun _ => by rw [hrun]; rfl, fun h => absurd h hlisted,
      fun h => absurd h hlisted, fun h => absurd h hlisted, fun _ => ?_⟩
    rw [hrun]
    exact ⟨rfl, iff_of_true rfl fun h => hlisted h.1⟩
  · have hbroken (d : Location) (n : Nat) (h : l.BreaksOff image w d n) :=
      construct_of_open_error (t := t) (openUnit_of_breaksOff h hfresh)
    have hrefused (h : ∀ d, ¬l.Creatable w d) : ∃ e, l.construct (.image image) t w =
        (.error (unwritten path e), { w with drawn := w.drawn + 1 }) := by
      obtain ⟨e, hopen⟩ := openUnit_of_refused h hfresh image
      exact ⟨e, construct_of_open_error hopen⟩
    refine ⟨types, htypes, fun h => absurd hlisted h, fun _ => hrun ▸ hrefused,
      fun _ => hrun ▸ hbroken, fun _ d hd hfits => ?_, fun hquiet => ?_⟩
    · rw [hrun, construct_world, openUnit_of_fits hd hfresh hfits]
      exact ⟨rfl, FileTree.not_holds_without⟩
    · rw [hrun, and_iff_right hlisted]
      exact construct_of_quiet hfresh hquiet

/-- On a system whose files hold ten bytes, the beginning of an image stays in the directory and is not
reported, although it can be removed. That a type is listed is enough, be its constructor exported or
not. -/
theorem underscored_cut_short :
    let l : NativeLoader :=
      { scratchDirectory := "/t".toList, reports := true, linker := fun _ _ => .error [] }
    let token : Text := "0123456789abcdef0123456789abcdef".toList
    let w : World :=
      { files := { entries := [(["t".toList], .directory)], largest := some 10 }
        freshName := fun _ => token }
    let path := l.imagePath token
    let left : World := written (Elf.underscored.take 10) w ["t".toList]
    ∃ types, l.exportedTypes Elf.underscored = .ok types ∧
      (∀ name ∈ ["A".toList, "B".toList], l.instantiate (.image Elf.underscored) types name w =
        (.error (unwritten path .tooLarge), left)) ∧
      (l.instantiate (.image Elf.underscored) types "C".toList w).2 = w ∧
      left.files ≠ w.files ∧ left.reports = [] ∧ left.files.remove path = .ok w.files := by
  intro l token w path left
  have hreader : l.reader = Elf.reader := rfl
  have hread := (congrFun hreader Elf.underscored).trans Elf.read_underscored
  have hunused : w.files.Unused (imageName token) := FileTree.unused_of_entries (by decide)
  have hfresh : Fresh w := ⟨by decide, fun d => hunused _ d List.prefix_rfl⟩
  have hway : w.files.Leads FileTree.linkLimit (w.files.startOf path) ["t".toList]
      FileTree.linkLimit ["t".toList] := .down (by decide) rfl .here
  have hcreatable : l.Creatable w ["t".toList] :=
    ⟨⟨⟨_, _, parts_imagePath hfresh.slash, hway⟩, imageName_ordinary token⟩, by decide⟩
  have hbreaks : l.BreaksOff Elf.underscored w ["t".toList] 10 := ⟨hcreatable, rfl, by decide +kernel⟩
  obtain ⟨types, htypes, -, -, hA, -, -⟩ := image_file_left_iff hread rfl hfresh "A".toList
  obtain ⟨typesB, htypesB, -, -, hB, -, -⟩ := image_file_left_iff hread rfl hfresh "B".toList
  obtain ⟨typesC, htypesC, hC, -⟩ := image_file_left_iff hread rfl hfresh "C".toList
  obtain rfl := Except.ok.inj (htypes.symm.trans htypesB)
  obtain rfl := Except.ok.inj (htypes.symm.trans htypesC)
  refine ⟨types, htypes, ?_, ?_, ?_, rfl, hcreatable.remove_written hfresh _⟩
  · rw [List.forall_mem_cons, List.forall_mem_singleton]
    exact ⟨hA (by decide +kernel) _ 10 hbreaks, hB (by decide +kernel) _ 10 hbreaks⟩
  · rw [hC (by decide +kernel)]
  · exact hfresh.written_files_ne _ _

end Scriptorium.NativeLoader
