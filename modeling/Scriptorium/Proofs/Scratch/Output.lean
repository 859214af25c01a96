import Scriptorium.Proofs.FileTree.Leads
import Scriptorium.Proofs.FileTree.Path
import Scriptorium.Proofs.Service.Cleanup

/-! The output path of a staged source. Both paths have the stem of the request, and nothing but
their endings keeps them apart: with one ending for both, the output path is the source path, and a
file stands there from the beginning. With two endings nothing stands at the output path until
somebody puts it there. -/

namespace Scriptorium

open Text

/-! ### Names -/

namespace Scratch

variable {c : Char} {name token base a b : Text}

theorem isSafe_of_mem_sanitize (h : c ∈ sanitize name) : isSafe c = true := by
  unfold sanitize at h
  dsimp only at h
  split at h
  · have hscript : "script".toList = ['s', 'c', 'r', 'i', 'p', 't'] := rfl
    rw [hscript] at h
    simp only [List.mem_cons, List.not_mem_nil, or_false] at h
    rcases h with rfl | rfl | rfl | rfl | rfl | rfl <;> rfl
  · obtain ⟨x, -, rfl⟩ := List.mem_map.mp h
    split
    · next hsafe => exact hsafe
    · decide

theorem slash_notMem_stem (unitName : Text) (h : '/' ∉ token) : '/' ∉ stem unitName token := by
  have hname : '/' ∉ sanitize unitName := fun hmem =>
    absurd (isSafe_of_mem_sanitize hmem) (by decide)
  simp [stem, hname, h]

theorem fileName_inj : fileName base a = fileName base b ↔ a = b := by simp [fileName]

theorem isAbsolute_fileName (unitName token ending : Text) :
    Path.isAbsolute (fileName (stem unitName token) ending) = false := by
  rw [stem, fileName, List.append_assoc]
  cases hname : sanitize unitName with
  | nil => rfl
  | cons c name =>
    have hc : c ≠ '/' := by
      rintro rfl
      exact absurd (isSafe_of_mem_sanitize (hname ▸ List.mem_cons_self)) (by decide)
    simpa [Path.isAbsolute] using hc

/-- A name of more than dots is none of the two that stand for directories. -/
theorem ordinary_of_mem (h : c ∈ name) (hdot : c ≠ '.') : name ≠ ['.'] ∧ name ≠ ['.', '.'] := by
  constructor
  · rintro rfl
    simp [hdot] at h
  · rintro rfl
    simp [hdot] at h

theorem fileName_ne (unitName token ending : Text) :
    fileName (stem unitName token) ending ≠ ['.'] ∧
      fileName (stem unitName token) ending ≠ ['.', '.'] := by
  have hmem : '-' ∈ fileName (stem unitName token) ending := by simp [fileName, stem]
  exact ordinary_of_mem hmem (by decide)

theorem takeWhile_of_slash_notMem (ha : '/' ∉ a) : a.takeWhile (· ≠ '/') = a := by
  rw [List.takeWhile_eq_self_iff]
  intro c hc
  rw [decide_eq_true_eq]
  rintro rfl
  exact ha hc

/-- An ending with a slash makes a directory of the name before the slash. What is behind that name
is the same for all files with the ending. -/
theorem parts_fileName (ending : Text) : ∃ rest, (rest = [] ↔ '/' ∉ ending) ∧
    ∀ base, '/' ∉ base → Path.parts (fileName base ending) =
      fileName base (ending.takeWhile (· ≠ '/')) :: rest := by
  have hname {base a : Text} (h : '/' ∉ base) (ha : '/' ∉ a) : '/' ∉ fileName base a := by
    simp [fileName, h, ha]
  have hne (base a : Text) : fileName base a ≠ [] := by simp [fileName]
  by_cases hslash : '/' ∈ ending
  · obtain ⟨a, b, rfl, ha⟩ := List.eq_append_cons_of_mem hslash
    have htake : (a ++ '/' :: b).takeWhile (· ≠ '/') = a := by
      rw [List.takeWhile_append_of_pos (List.takeWhile_eq_self_iff.mp (takeWhile_of_slash_notMem ha)),
        List.takeWhile_cons_of_neg (by simp), List.append_nil]
    have hfile (base : Text) : fileName base (a ++ '/' :: b) = fileName base a ++ '/' :: b := by
      simp [fileName]
    have hfirst {base : Text} (h : '/' ∉ base) := Path.names_of_name (hne base a) (hname h ha)
    by_cases hb : b = []
    · refine ⟨[['.']], by simp, fun base h => ?_⟩
      have hnames := Path.names_append_slash (fileName base a) b
      have hfirst := hfirst h
      unfold Path.names at hnames hfirst
      rw [htake, hfile, Path.parts, hnames, hfirst, hb]
      simp [Path.endsInSlash]
    · refine ⟨Path.parts b, by simp [Path.parts_ne_nil hb], fun base h => ?_⟩
      rw [htake, hfile, Path.parts_append_slash _ hb, hfirst h]
      rfl
  · refine ⟨[], by simp [hslash], fun base h => ?_⟩
    have hend : Path.endsInSlash (fileName base ending) = false := by
      simpa [Path.endsInSlash] using fun hlast => hname h hslash (List.mem_of_getLast? hlast)
    have hnames := Path.names_of_name (hne base ending) (hname h hslash)
    unfold Path.names at hnames
    rw [takeWhile_of_slash_notMem hslash, Path.parts, hend, hnames]
    simp

end Scratch

/-! ### Staged files -/

namespace Stager

variable {s : Stager} {unitName source token : Text} {withOutput : Bool} {f : Staged} {w w' : World}

/-- The next name is one that no directory has a file of. -/
structure Fresh (w : World) (unitName : Text) : Prop where
  slash : '/' ∉ w.freshName w.drawn
  unused : w.files.Unused (Scratch.stem unitName (w.freshName w.drawn))

theorem paths_output_eq_source_iff (s : Stager) (unitName token : Text) :
    (s.paths unitName token true).output = some (s.paths unitName token true).source ↔
      s.unitExtension = s.sourceExtension := by
  simp only [paths, if_pos, Option.some.injEq]
  rw [Path.join_inj (Scratch.isAbsolute_fileName ..) (Scratch.isAbsolute_fileName ..),
    Scratch.fileName_inj]

theorem stage_ok (h : s.stage unitName source withOutput w = (.ok f, w')) :
    f = s.paths unitName (w.freshName w.drawn) withOutput ∧
      w.files.write f.source (Text.encode source) = (.ok (), w'.files) := by
  rw [stage_apply] at h
  unfold Act.write at h
  dsimp only at h
  rcases hwrite : w.files.write (s.paths unitName (w.freshName w.drawn) withOutput).source
    (Text.encode source) with ⟨e | u, t⟩
  · rw [hwrite] at h
    cases h
  · rw [hwrite] at h
    cases h
    exact ⟨rfl, hwrite⟩

theorem exists_stage (s : Stager) (unitName source : Text) (withOutput : Bool) (w : World)
    (h : (w.files.write (s.paths unitName (w.freshName w.drawn) withOutput).source
      (Text.encode source)).1.toOption = some ()) :
    ∃ v, s.stage unitName source withOutput w =
      (.ok (s.paths unitName (w.freshName w.drawn) withOutput), v) := by
  rw [stage_apply]
  unfold Act.write
  dsimp only
  rcases hwrite : w.files.write (s.paths unitName (w.freshName w.drawn) withOutput).source
    (Text.encode source) with ⟨e | u, t⟩
  · rw [hwrite] at h
    cases h
  · exact ⟨_, rfl⟩

theorem startOf_join (t : FileTree) (dir unitName token ending : Text) :
    t.startOf (Path.join dir (Scratch.fileName (Scratch.stem unitName token) ending)) =
      t.startOf dir := by
  rw [FileTree.startOf, FileTree.startOf, Path.isAbsolute_join dir (Scratch.isAbsolute_fileName ..)]

theorem parts_join (dir ending : Text) : ∃ rest, (rest = [] ↔ '/' ∉ ending) ∧
    ∀ unitName token, '/' ∉ Scratch.stem unitName token →
      Path.parts (Path.join dir (Scratch.fileName (Scratch.stem unitName token) ending)) =
        Path.names dir ++
          Scratch.fileName (Scratch.stem unitName token) (ending.takeWhile (· ≠ '/')) :: rest := by
  obtain ⟨rest, hrest, hparts⟩ := Scratch.parts_fileName ending
  refine ⟨rest, hrest, fun unitName token hslash => ?_⟩
  have hne : Scratch.fileName (Scratch.stem unitName token) ending ≠ [] := by
    simp [Scratch.fileName]
  rw [Path.parts_join dir (Scratch.isAbsolute_fileName ..) hne, hparts _ hslash]

/-- A staged source stands in the directory that its path leads to, and of the files with its stem it
is the only one there. -/
theorem stage_files (hfresh : Fresh w unitName)
    (h : s.stage unitName source withOutput w = (.ok f, w')) :
    let stem := Scratch.stem unitName (w.freshName w.drawn)
    '/' ∉ s.sourceExtension ∧ (∃ p, w.files.find true f.source = .ok p) ∧
      Text.byteLength (Scratch.fileName stem s.sourceExtension) ≤ FileTree.nameLimit ∧
      ∃ k l, w'.files.Leads FileTree.linkLimit (w'.files.startOf s.directory)
          (Path.names s.directory) k l ∧
        ∀ ending, w'.files.get? (Scratch.fileName stem ending :: l) =
          if ending = s.sourceExtension then some (.file (Text.encode source)) else none := by
  obtain ⟨rfl, hwrite⟩ := stage_ok h
  have hnew (ending : Text) (l : Location) : w.files.get?
      (Scratch.fileName (Scratch.stem unitName (w.freshName w.drawn)) ending :: l) = none :=
    hfresh.unused _ l (List.prefix_append _ _)
  obtain ⟨rest, hrest, hparts⟩ := parts_join s.directory s.sourceExtension
  have hparts := hparts unitName _ (Scratch.slash_notMem_stem unitName hfresh.slash)
  obtain ⟨hdot, hup⟩ := Scratch.fileName_ne unitName (w.freshName w.drawn)
    (s.sourceExtension.takeWhile (· ≠ '/'))
  obtain ⟨hnil, hlong, k, l, hleads, hfiles, hfind⟩ :=
    FileTree.write_new hparts hdot hup (hnew _) hwrite
  have hslash : '/' ∉ s.sourceExtension := hrest.mp hnil
  rw [Scratch.takeWhile_of_slash_notMem hslash] at hlong hfiles
  rw [startOf_join] at hleads
  refine ⟨hslash, ⟨_, hfind⟩, hlong, k, l, ?_, fun ending => ?_⟩
  · rw [hfiles]
    exact hleads.set (List.cons_ne_nil _ _) (by simp [FileTree.Plain, hnew])
  · rw [hfiles, FileTree.get?_set _ _ _ (List.cons_ne_nil _ _), hnew]
    simp only [List.cons.injEq, and_true, Scratch.fileName_inj]

/-- A regular file stands at the output path exactly if it is the source path. -/
theorem isFile_output_iff {path : Text} (hfresh : Fresh w unitName)
    (h : s.stage unitName source true w = (.ok f, w')) (hpath : f.output = some path) :
    w'.files.isFile path = true ↔ s.unitExtension = s.sourceExtension := by
  obtain ⟨hslash, ⟨p, hfind⟩, hlong, k, l, hleads, hget⟩ := stage_files hfresh h
  obtain ⟨rfl, -⟩ := stage_ok h
  obtain rfl : path = _ := by simpa [paths, eq_comm] using hpath
  have hway (ending : Text) : w'.files.Leads FileTree.linkLimit (w'.files.startOf (Path.join s.directory
      (Scratch.fileName (Scratch.stem unitName (w.freshName w.drawn)) ending)))
      (Path.names s.directory) k l := by rwa [startOf_join]
  have hstem := Scratch.slash_notMem_stem unitName hfresh.slash
  constructor
  · intro hfile
    obtain ⟨rest, hrest, hparts⟩ := parts_join s.directory s.unitExtension
    have hparts := hparts unitName _ hstem
    obtain ⟨hdot, hup⟩ := Scratch.fileName_ne unitName (w.freshName w.drawn)
      (s.unitExtension.takeWhile (· ≠ '/'))
    have hplain (ending : Text) : ∀ e ∈ w'.files.get? (Scratch.fileName (Scratch.stem unitName
        (w.freshName w.drawn)) ending :: l), ∃ content, e = .file content := by
      intro e he
      rw [hget] at he
      split at he
      · exact ⟨_, (Option.some.inj he).symm⟩
      · simp at he
    obtain ⟨hnil, hfound⟩ := FileTree.file_of_isFile (hway _) hparts hdot hup (hplain _) hfile
    rw [Scratch.takeWhile_of_slash_notMem (hrest.mp hnil), hget] at hfound
    by_contra hne
    exact hfound (if_neg hne)
  · intro heq
    obtain ⟨rest, hrest, hparts⟩ := parts_join s.directory s.sourceExtension
    have hparts := hparts unitName _ hstem
    obtain ⟨hdot, hup⟩ := Scratch.fileName_ne unitName (w.freshName w.drawn) s.sourceExtension
    rw [hrest.mpr hslash, Scratch.takeWhile_of_slash_notMem hslash] at hparts
    rw [heq]
    exact FileTree.isFile_of_leads hfind (hway _) hparts hdot hup hlong ((hget _).trans (if_pos rfl))

end Stager

end Scriptorium
