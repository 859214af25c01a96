import Scriptorium.Calls
import Scriptorium.Proofs.Reference.Baseline
import Scriptorium.Proofs.Toolchain.Arguments

/-! What a request merges. The baseline comes first, as it is, and behind it the paths of the files
that the references lead to, without those that are there already. A merge works on a copy, so
however often it is done, and whatever happens to the files in between, the next one begins with
the same baseline. -/

namespace Scriptorium

variable {t : FileTree} {r path : Text} {s : ReferenceSet} {rs : List Text}

namespace ReferenceSet

theorem entries_insertAll_of_nodup (hnew : ∀ r ∈ rs, s.contains r = false)
    (hnodup : (rs.map Text.lower).Nodup) : (s.insertAll rs).entries = s.entries ++ rs := by
  induction rs generalizing s with
  | nil => simp
  | cons r rs ih =>
    rw [List.map_cons, List.nodup_cons] at hnodup
    have hr := entries_insert_of_not_contains (hnew r List.mem_cons_self)
    rw [insertAll_cons, ih (fun p hp => ?_) hnodup.2, hr, List.append_assoc, List.singleton_append]
    have hne : Text.lower r ≠ Text.lower p := fun h => hnodup.1 (h ▸ List.mem_map_of_mem hp)
    rw [contains_insert, hnew p (List.mem_cons_of_mem r hp), Bool.false_or]
    simpa using hne

theorem ofList_entries (s : ReferenceSet) : ofList s.entries = s := by
  refine eq_of_entries ?_
  rw [ofList, entries_insertAll_of_nodup (fun r _ => contains_empty r) (s.keys_eq ▸ s.distinct)]
  simp

theorem mem_of_mem_drop_insertAll {e : Text}
    (h : e ∈ (s.insertAll rs).entries.drop s.entries.length) : e ∈ rs := by
  rw [entries_insertAll, List.drop_left] at h
  exact mem_of_mem_firstSpellings (List.mem_of_mem_filter h)

end ReferenceSet

namespace Service

theorem laid_of_invoked (s : Service) (x : Session) (w : World) (q : Request) (o : Options)
    {job : Job} (h : .invoked job ∈ (s.compile x w q o).events) :
    ∃ f, job.Laid s.invoker.profile s.invoker.backend.writesOutput f
      (s.catalog.merge w.files q.references) := by
  obtain ⟨-, f, -, -, rfl⟩ := reaches_of_invoked x h
  exact ⟨f, Job.laid_ofStaged ..⟩

/-- What was merged in earlier calls is of no account for a later one. -/
theorem laid_in_answers (s : Service) (x : Session) (calls : List Call) :
    List.Forall₂ (fun (call : Call) (a : Answer) => ∀ job, .invoked job ∈ a.events →
        ∃ f, job.Laid s.invoker.profile s.invoker.backend.writesOutput f
          (s.catalog.merge call.world.files call.ask.toRequest.references))
      calls (s.answers x calls) := by
  induction calls generalizing x with
  | nil => exact .nil
  | cons call calls ih =>
    exact .cons (fun job => laid_of_invoked (s.during call) x call.world _ _) (ih _)

end Service

/-- A merge keeps the baseline in front and adds, in the order of the request, the first spellings
of the full paths of the regular files that its references lead to, as far as the baseline does not
have them; so every reference that leads to a regular file is in it. Its keys are those of the
baseline and of the paths, in whatever order and however often the request has them; a request can be
merged in parts, and once more; and nothing else is added. In every sequence of calls, each into the
files of its moment, each compiler is handed a merge of the same baseline. -/
theorem Catalog.merge_extends (c : Catalog) (t : FileTree) (rs ps : List Text) :
    let paths := rs.filterMap fun r => ((t.canonical? r).map Prod.fst).filter t.isFile
    let merged := c.merge t rs
    merged.entries =
        c.baseline.entries ++ (firstSpellings paths).filter (!c.baseline.contains ·) ∧
      (∀ k, k ∈ merged.keys ↔ k ∈ c.baseline.keys ∨ k ∈ paths.map Text.lower) ∧
      (∀ r ∈ rs, ∀ path e, t.canonical? r = some (path, e) → t.isFile path = true →
        Text.lower path ∈ merged.keys) ∧
      (∀ others : List Text, (∀ r, r ∈ others ↔ r ∈ rs) →
        ∀ k, k ∈ (c.merge t others).keys ↔ k ∈ merged.keys) ∧
      c.merge t (rs ++ ps) = (Catalog.mk merged).merge t ps ∧
      (ofReferences merged.entries).merge t rs = merged ∧
      (∀ path ∈ merged.entries.drop c.baseline.size, t.isFile path = true ∧
        ∃ r ∈ rs, ∃ e, t.canonical? r = some (path, e)) ∧
      ∀ (s : Service) (x : Session) (calls : List Service.Call), s.catalog = c →
        List.Forall₂ (fun (call : Service.Call) (a : Service.Answer) =>
            ∀ job, .invoked job ∈ a.events →
              ∃ f, job.Laid s.invoker.profile s.invoker.backend.writesOutput f
                (c.merge call.world.files call.ask.toRequest.references))
          calls (s.answers x calls) := by
  intro paths merged
  have hpaths : paths = rs.filterMap t.reference? := by
    simp only [paths, ← FileTree.reference?_eq_filter]
  have hkeys (rs : List Text) (k : Text) : k ∈ (c.merge t rs).keys ↔
      k ∈ c.baseline.keys ∨ k ∈ (rs.filterMap t.reference?).map Text.lower :=
    ReferenceSet.mem_keys_insertAll
  rw [hpaths]
  refine ⟨ReferenceSet.entries_insertAll _ _, hkeys rs, fun r hr path e hcanonical hfile => ?_,
    fun others h k => ?_, ReferenceSet.insertFiles_append .., ?_, fun path hpath => ?_, ?_⟩
  · have hfound : t.reference? r = some path :=
      FileTree.reference?_eq_some_iff.mpr ⟨hfile, e, hcanonical⟩
    exact (hkeys rs _).mpr (.inr (List.mem_map_of_mem (List.mem_filterMap.mpr ⟨r, hr, hfound⟩)))
  · rw [hkeys, hkeys]
    simp only [List.mem_map, List.mem_filterMap, h]
  · rw [ofReferences, ReferenceSet.ofList_entries]
    refine ReferenceSet.insertAll_of_contains fun path hpath => ?_
    exact ReferenceSet.contains_insertAll.mpr (.inr ⟨path, hpath, rfl⟩)
  · have hmem := ReferenceSet.mem_of_mem_drop_insertAll hpath
    obtain ⟨r, hr, hfound⟩ := List.mem_filterMap.mp hmem
    obtain ⟨hfile, e, he⟩ := FileTree.reference?_eq_some_iff.mp hfound
    exact ⟨hfile, r, hr, e, he⟩
  · rintro s x calls rfl
    exact s.laid_in_answers x calls

/-- Of a missing file, a link to the library and the library itself, the library is added, once; a
baseline that has it in another case is not extended. -/
theorem Catalog.merge_linkedLibrary :
    let rs : List Text := ["/lib/c".toList, "/lib/b".toList, "/lib/a".toList]
    let merged := (ofReferences ["/x".toList]).merge linkedLibrary rs
    linkedLibrary.canonical? "/lib/b".toList = some ("/lib/a".toList, .file []) ∧
      merged.entries = ["/x".toList, "/lib/a".toList] ∧ "/lib/a".toList ∈ merged.keys ∧
      ((ofReferences ["/LIB/A".toList]).merge linkedLibrary rs).entries = ["/LIB/A".toList] := by
  intro rs merged
  have hcanonical : linkedLibrary.canonical? "/lib/b".toList = some ("/lib/a".toList, .file []) := by
    decide
  obtain ⟨hentries, -, hresolved, -⟩ := merge_extends (ofReferences ["/x".toList]) linkedLibrary rs []
  obtain ⟨hkept, -⟩ := merge_extends (ofReferences ["/LIB/A".toList]) linkedLibrary rs []
  refine ⟨hcanonical, hentries.trans (by decide), ?_, hkept.trans (by decide)⟩
  have hkey := hresolved "/lib/b".toList (by decide) "/lib/a".toList _ hcanonical (by decide)
  have hlower : Text.lower "/lib/a".toList = "/lib/a".toList := by decide
  rwa [hlower] at hkey

end Scriptorium
