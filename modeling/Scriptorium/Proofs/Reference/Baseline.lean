import Mathlib.Data.List.ReduceOption
import Scriptorium.Proofs.Reference.Spelling

/-! What a catalog is built of. The candidates are the configured libraries in their order and then
the modules of the host that are not dynamic; the baseline has the first spellings of the paths that
they lead to. So each candidate that leads to a file is represented, by one entry however many links
and spellings there are for it, and the others might as well not be there. -/

namespace Scriptorium

variable {t : FileTree} {α β : Type} {gone : α → Prop} {xs ys : List α}

/-- `ys` is `xs` without some elements that are `gone`. -/
inductive Pruned (gone : α → Prop) : List α → List α → Prop
  | nil : Pruned gone [] []
  | keep {xs ys : List α} (x : α) : Pruned gone xs ys → Pruned gone (x :: xs) (x :: ys)
  | drop {xs ys : List α} (x : α) : gone x → Pruned gone xs ys → Pruned gone (x :: xs) ys

theorem Pruned.filterMap_eq {f : α → Option β} (hf : ∀ x, gone x → f x = none)
    (h : Pruned gone xs ys) : ys.filterMap f = xs.filterMap f := by
  induction h with
  | nil => rfl
  | keep x _ ih => rw [List.filterMap_cons, List.filterMap_cons, ih]
  | drop x hx _ ih => rw [List.filterMap_cons_none (hf x hx), ih]

namespace Layout

/-- The places for libraries in the order of the catalog; each may be left open. -/
def places (l : Layout) : List (Option Text) := [
  l.runtimeLibrary,
  l.collectionsLibrary,
  l.hostUnit,
  l.supportLibrary,
  l.coreDirectory.map fun d => Path.join d.path d.coreLibrary,
  l.coreDirectory.map fun d => Path.join d.path d.metadataLibrary]

theorem candidates_eq (l : Layout) : l.candidates = l.places.reduceOption := by
  have hsplit : l.places = [l.runtimeLibrary, l.collectionsLibrary, l.hostUnit, l.supportLibrary] ++
      [l.coreDirectory.map fun d => Path.join d.path d.coreLibrary,
        l.coreDirectory.map fun d => Path.join d.path d.metadataLibrary] := rfl
  rw [hsplit, List.reduceOption_append, candidates]
  cases l.coreDirectory <;> rfl

end Layout

namespace Catalog

variable {layout layout' : Layout} {loaded loaded' : List HostModule}

/-- The path that a module adds to the candidates. -/
def contribution? (t : FileTree) (m : HostModule) : Option Text :=
  if m.dynamic then none else t.reference? m.path

theorem filterMap_modules (t : FileTree) (loaded : List HostModule) :
    ((loaded.filter fun m => !m.dynamic).map HostModule.path).filterMap t.reference? =
      loaded.filterMap (contribution? t) := by
  induction loaded with
  | nil => rfl
  | cons m ms ih =>
    cases hm : m.dynamic with
    | true =>
      rw [List.filter_cons_of_neg (by simp [hm]), ih,
        List.filterMap_cons_none (by simp [contribution?, hm])]
    | false =>
      have hsame : contribution? t m = t.reference? m.path := by simp [contribution?, hm]
      rw [List.filter_cons_of_pos (by simp [hm]), List.map_cons, List.filterMap_cons,
        List.filterMap_cons, ih, hsame]

theorem build_eq (t : FileTree) (layout : Layout) (loaded : List HostModule) :
    (build t layout loaded).baseline = .ofList
      (layout.candidates.filterMap t.reference? ++ loaded.filterMap (contribution? t)) := by
  rw [build, ReferenceSet.insertFiles, List.filterMap_append, filterMap_modules, ReferenceSet.ofList]

theorem build_of_pruned
    (hlayout : Pruned (fun c => t.reference? c = none) layout.candidates layout'.candidates)
    (hloaded : Pruned (fun m => m.dynamic = true ∨ t.reference? m.path = none) loaded loaded') :
    build t layout' loaded' = build t layout loaded := by
  have hmodules : ∀ m : HostModule, m.dynamic = true ∨ t.reference? m.path = none →
      contribution? t m = none := by
    rintro m (hm | hm) <;> simp [contribution?, hm]
  have hbaseline : (build t layout' loaded').baseline = (build t layout loaded).baseline := by
    rw [build_eq, build_eq, hlayout.filterMap_eq fun c hc => hc, hloaded.filterMap_eq hmodules]
  exact congrArg Catalog.mk hbaseline

/-- The baseline that is built for a host consists of the paths of the regular files that the
libraries of the layout, in their order, and behind them the modules that are not dynamic lead to,
of each lower case the first. Each candidate that leads to a file is represented by one entry,
which it shares with all that lead to the same file; and leaving out dynamic modules and candidates
that lead to no file, wherever they stand, changes nothing. -/
theorem build_collects (t : FileTree) (layout : Layout) (loaded : List HostModule) :
    let candidates := layout.places.reduceOption ++
      (loaded.filter fun m => !m.dynamic).map HostModule.path
    let baseline := (build t layout loaded).baseline
    baseline.entries = firstSpellings (candidates.filterMap t.reference?) ∧
      (∀ path ∈ baseline.entries, t.isFile path = true ∧
        ∃ c ∈ candidates, ∃ e, t.canonical? c = some (path, e)) ∧
      baseline.entries.Pairwise (fun p q => Text.lower p ≠ Text.lower q) ∧
      (∀ c ∈ candidates, ∀ path e, t.canonical? c = some (path, e) → t.isFile path = true →
        ∃! entry, entry ∈ baseline.entries ∧ Text.lower entry = Text.lower path) ∧
      ∀ layout' loaded',
        Pruned (fun c => t.reference? c = none) layout.places.reduceOption
          layout'.places.reduceOption →
        Pruned (fun m => m.dynamic = true ∨ t.reference? m.path = none) loaded loaded' →
          build t layout' loaded' = build t layout loaded := by
  intro candidates baseline
  have hfilled : ReferenceSet.Filled (candidates.filterMap t.reference?) baseline := by
    have hbuilt : baseline = .ofList (candidates.filterMap t.reference?) := by
      simp only [baseline, candidates, build_eq, List.filterMap_append, filterMap_modules,
        Layout.candidates_eq]
    rw [hbuilt]
    exact .collected _
  have hrepresents := hfilled.represents
  refine ⟨hrepresents.entries, fun path hpath => ?_, hrepresents.distinct,
    fun c hc path e hcanonical hfile => ?_, fun layout' loaded' hlayout hloaded => ?_⟩
  · rw [hrepresents.entries] at hpath
    obtain ⟨c, hc, hfound⟩ := List.mem_filterMap.mp (mem_of_mem_firstSpellings hpath)
    obtain ⟨hfile, hcanonical⟩ := FileTree.reference?_eq_some_iff.mp hfound
    exact ⟨hfile, c, hc, hcanonical⟩
  · have hfound : t.reference? c = some path :=
      FileTree.reference?_eq_some_iff.mpr ⟨hfile, e, hcanonical⟩
    have hcontains : baseline.contains path = true :=
      (hrepresents.contains path).mpr ⟨path, List.mem_filterMap.mpr ⟨c, hc, hfound⟩, rfl⟩
    obtain ⟨entry, hentry, hlower⟩ :=
      ReferenceSet.mem_keys.mp (ReferenceSet.contains_iff_mem_keys.mp hcontains)
    exact ⟨entry, ⟨hentry, hlower⟩, fun other ⟨hother, hlike⟩ =>
      ReferenceSet.entries_inj hother hentry (hlike.trans hlower.symm)⟩
  · exact build_of_pruned (by rwa [Layout.candidates_eq, Layout.candidates_eq]) hloaded

/-- `/lib` has a library `a` and a link `b` to it. -/
def linkedLibrary : FileTree where
  entries := [
    ([['l', 'i', 'b']], .directory),
    ([['a'], ['l', 'i', 'b']], .file []),
    ([['b'], ['l', 'i', 'b']], .link ['a'])]

/-- The link comes first, the library itself is loaded, and neither the library that is missing nor
the module that was made at run time counts. -/
theorem build_linkedLibrary :
    let layout : Layout := { runtimeLibrary := "/lib/b".toList, supportLibrary := "/lib/c".toList }
    let loaded : List HostModule := [⟨"/lib/a".toList, true⟩, ⟨"/lib/a".toList, false⟩]
    (build linkedLibrary layout loaded).baseline.entries = ["/lib/a".toList] ∧
      build linkedLibrary { layout with supportLibrary := none } [⟨"/lib/a".toList, false⟩] =
        build linkedLibrary layout loaded := by
  intro layout loaded
  obtain ⟨hentries, -, -, -, hpruned⟩ := build_collects linkedLibrary layout loaded
  refine ⟨hentries.trans (by decide), hpruned _ _ ?_ ?_⟩
  · exact .keep _ (.drop _ (by decide) .nil)
  · exact .drop _ (.inl rfl) (.keep _ .nil)

end Catalog

end Scriptorium
