import Mathlib.Data.List.Basic
import Scriptorium.Proofs.Reference.Batches
import Scriptorium.Proofs.Service.Course

/-! References of a request that lead to no file. Repetitions are dropped by lower case before any
reference is looked up, so a reference that leads nowhere can stand in front of one that leads to a
file and hide it. The main result says exactly when putting such references into a request changes
what is merged: when one that adds a path is hidden, unless the next path that the visible ones add
is the same one. -/

namespace Scriptorium

/-- `ys` is `xs` with references put in that lead to no file. -/
inductive Padded (t : FileTree) : List Text → List Text → Prop
  | nil : Padded t [] []
  | keep {xs ys : List Text} (r : Text) : Padded t xs ys → Padded t (r :: xs) (r :: ys)
  | put {xs ys : List Text} (r : Text) : t.reference? r = none → Padded t xs ys →
      Padded t xs (r :: ys)

/-- The first reference of `ys` that has the lower case of `r` leads to a file. -/
def FileTree.shows (t : FileTree) (ys : List Text) (r : Text) : Bool :=
  ((ys.find? fun y => Text.lower y == Text.lower r).bind t.reference?).isSome

/-- Each reference of `xs` that leads to a path and does not show in `ys` adds nothing in its place,
or the next path that the showing ones add is the same. -/
def ReferenceSet.Unharmed (s : ReferenceSet) (t : FileTree) (ys xs : List Text) : Prop :=
  ∀ before r after path, xs = before ++ r :: after → t.reference? r = some path →
    t.shows ys r = false →
      (s.insertFiles t before).contains path = true ∨
        ∃ rest, ((s.insertFiles t before).insertFiles t (after.filter (t.shows ys))).entries =
          (s.insertFiles t before).entries ++ path :: rest

variable {t : FileTree} {xs ys : List Text}

namespace Request

/-! ### Repetitions -/

theorem lower_notMem_of_mem_fresh {seen : List Text} {r : Text} (h : r ∈ fresh seen xs) :
    Text.lower r ∉ seen := by
  induction xs generalizing seen with
  | nil => simp [fresh] at h
  | cons x xs ih =>
    by_cases hx : Text.lower x ∈ seen
    · rw [fresh_cons_of_mem hx] at h
      exact ih h
    · rw [fresh_cons_of_notMem hx] at h
      rcases List.mem_cons.1 h with rfl | h
      · exact hx
      · exact fun hr => ih h (List.mem_cons_of_mem _ hr)

/-- What is fresh and has another lower case than `k` is what is fresh once `k` has been seen. -/
theorem filter_fresh (seen : List Text) (k : Text) (xs : List Text) :
    (fresh seen xs).filter (fun r => Text.lower r != k) = fresh (k :: seen) xs := by
  induction xs generalizing seen with
  | nil => rfl
  | cons x xs ih =>
    by_cases hs : Text.lower x ∈ seen
    · rw [fresh_cons_of_mem hs, fresh_cons_of_mem (List.mem_cons_of_mem k hs), ih]
    · rw [fresh_cons_of_notMem hs]
      by_cases hk : Text.lower x = k
      · subst hk
        rw [fresh_cons_of_mem List.mem_cons_self, List.filter_cons_of_neg (by simp)]
        refine List.filter_eq_self.2 fun r hr => ?_
        have hne := lower_notMem_of_mem_fresh hr
        simp only [List.mem_cons, not_or] at hne
        simpa using hne.1
      · rw [fresh_cons_of_notMem (by simp [hk, hs]), List.filter_cons_of_pos (by simpa using hk), ih]
        congr 1
        exact fresh_congr fun l => by simp only [List.mem_cons, or_left_comm]

theorem shows_cons_of_mem_fresh {seen : List Text} {y r : Text} (hy : Text.lower y ∈ seen)
    (h : r ∈ fresh seen xs) : t.shows (y :: ys) r = t.shows ys r := by
  have hne : Text.lower y ≠ Text.lower r := fun e => lower_notMem_of_mem_fresh h (e ▸ hy)
  simp [FileTree.shows, hne]

theorem filter_shows_cons {seen : List Text} {y : Text} (hy : Text.lower y ∈ seen) :
    (fresh seen xs).filter (t.shows (y :: ys)) = (fresh seen xs).filter (t.shows ys) :=
  List.filter_congr fun _ hx => shows_cons_of_mem_fresh hy hx

/-- A reference that leads nowhere hides what shares its lower case and nothing else. -/
theorem filter_shows_cons_of_none {r : Text} (h : t.reference? r = none) (seen xs : List Text) :
    (fresh seen xs).filter (t.shows (r :: ys)) =
      (fresh (Text.lower r :: seen) xs).filter (t.shows ys) := by
  rw [← filter_fresh, List.filter_filter]
  refine List.filter_congr fun x _ => ?_
  by_cases hx : Text.lower r = Text.lower x
  · simp [FileTree.shows, hx, h]
  · simp [FileTree.shows, hx, Ne.symm hx]

theorem filterMap_fresh_padded (h : Padded t xs ys) (seen : List Text) :
    (fresh seen ys).filterMap t.reference? =
      ((fresh seen xs).filter (t.shows ys)).filterMap t.reference? := by
  induction h generalizing seen with
  | nil => rfl
  | @keep xs ys r _ ih =>
    by_cases hr : Text.lower r ∈ seen
    · rw [fresh_cons_of_mem hr, fresh_cons_of_mem hr, filter_shows_cons hr, ih]
    · have hself : t.shows (r :: ys) r = (t.reference? r).isSome := by simp [FileTree.shows]
      rw [fresh_cons_of_notMem hr, fresh_cons_of_notMem hr, List.filter_cons, hself,
        filter_shows_cons List.mem_cons_self, List.filterMap_cons, ih]
      cases hp : t.reference? r <;> simp [hp]
  | @put xs ys r hnone _ ih =>
    by_cases hr : Text.lower r ∈ seen
    · rw [fresh_cons_of_mem hr, filter_shows_cons hr, ih]
    · rw [fresh_cons_of_notMem hr, List.filterMap_cons_none hnone, ih,
        filter_shows_cons_of_none hnone]

end Request

namespace ReferenceSet

variable {s : ReferenceSet} {r path : Text}

/-! ### Hidden files -/

theorem unharmed_nil : s.Unharmed t ys [] := by
  intro before r after path h
  simp at h

theorem unharmed_cons_of_none (h : t.reference? r = none) :
    s.Unharmed t ys (r :: xs) ↔ s.Unharmed t ys xs := by
  constructor
  · rintro hu before r' after path rfl hp hs
    simpa [insertFiles_cons_of_none h] using hu (r :: before) r' after path rfl hp hs
  · intro hu before r' after path hxs hp hs
    rcases before with _ | ⟨b, before⟩
    · obtain ⟨rfl, rfl⟩ := List.cons.inj hxs
      simp [h] at hp
    · obtain ⟨rfl, rfl⟩ := List.cons.inj hxs
      rw [insertFiles_cons_of_none h]
      exact hu before r' after path rfl hp hs

theorem unharmed_cons_of_some (h : t.reference? r = some path) :
    s.Unharmed t ys (r :: xs) ↔
      (t.shows ys r = false → s.contains path = true ∨
        ∃ rest, (s.insertFiles t (xs.filter (t.shows ys))).entries = s.entries ++ path :: rest) ∧
      (s.insert path).Unharmed t ys xs := by
  constructor
  · refine fun hu => ⟨fun hs => hu [] r xs path rfl h hs, ?_⟩
    rintro before r' after path' rfl hp hs
    simpa only [insertFiles_cons_of_some h] using hu (r :: before) r' after path' rfl hp hs
  · rintro ⟨hr, hu⟩ before r' after path' hxs hp hs
    rcases before with _ | ⟨b, before⟩
    · obtain ⟨rfl, rfl⟩ := List.cons.inj hxs
      obtain rfl : path = path' := Option.some.inj (h.symm.trans hp)
      exact hr hs
    · obtain ⟨rfl, rfl⟩ := List.cons.inj hxs
      rw [insertFiles_cons_of_some h]
      exact hu before r' after path' rfl hp hs

theorem insertFiles_filter_eq_iff (s : ReferenceSet) (t : FileTree) (ys xs : List Text) :
    s.insertFiles t (xs.filter (t.shows ys)) = s.insertFiles t xs ↔ s.Unharmed t ys xs := by
  induction xs generalizing s with
  | nil => simp [unharmed_nil]
  | cons r xs ih =>
    cases hp : t.reference? r with
    | none =>
      rw [unharmed_cons_of_none hp, insertFiles_cons_of_none hp, ← ih s]
      cases hs : t.shows ys r
      · rw [List.filter_cons_of_neg (by simp [hs])]
      · rw [List.filter_cons_of_pos hs, insertFiles_cons_of_none hp]
    | some path =>
      rw [unharmed_cons_of_some hp, insertFiles_cons_of_some hp, ← ih (s.insert path)]
      cases hs : t.shows ys r
      · rw [List.filter_cons_of_neg (by simp [hs])]
        by_cases hc : s.contains path = true
        · simp [insert_of_contains hc, hc]
        · -- the next path that the others add must be `path`
          have hc : s.contains path = false := by simpa using hc
          have hnext : s.insertFiles t (xs.filter (t.shows ys)) = (s.insert path).insertFiles t xs →
              ∃ rest, (s.insertFiles t (xs.filter (t.shows ys))).entries =
                s.entries ++ path :: rest := by
            intro he
            obtain ⟨rest, hrest⟩ :=
              (s.insert path).entries_prefix_insertAll (xs.filterMap t.reference?)
            rw [entries_insert_of_not_contains hc, List.append_assoc] at hrest
            exact ⟨rest, he ▸ hrest.symm⟩
          constructor
          · intro he
            obtain ⟨rest, hrest⟩ := hnext he
            exact ⟨fun _ => .inr ⟨rest, hrest⟩,
              (insertAll_insert_of_first hc hrest).trans he⟩
          · rintro ⟨hr, he⟩
            obtain ⟨rest, hrest⟩ := (hr rfl).resolve_left (by simp [hc])
            exact (insertAll_insert_of_first hc hrest).symm.trans he
      · rw [List.filter_cons_of_pos hs, insertFiles_cons_of_some hp]
        simp

end ReferenceSet

/-! ### Requests -/

theorem Catalog.merge_withReferences (c : Catalog) (t : FileTree) (q : Request) (rs : List Text) :
    c.merge t (q.withReferences rs).references =
      (c.merge t q.references).insertFiles t
        (Request.fresh (q.references.map Text.lower) rs) := by
  simp [merge, Request.withReferences, ReferenceSet.insertFiles_append]

theorem Job.argumentList_eq_iff (profile : Text) (output : Option Path.Raw) (source : Path.Raw)
    (s s' : ReferenceSet) :
    argumentList profile output source s = argumentList profile output source s' ↔ s = s' := by
  refine ⟨fun h => ReferenceSet.eq_of_entries ?_, fun h => h ▸ rfl⟩
  have hinj : Function.Injective fun r : Text => "-r:".toList ++ r := fun _ _ =>
    List.append_cancel_left
  exact List.map_injective_iff.2 hinj (List.append_cancel_left h)

/-- Putting references that lead to no file into a request changes what is merged, and with it the
arguments of the compiler, exactly if one of them hides a file that would have been added. If none
does, the request is answered as before. -/
theorem Catalog.merge_padded_iff_unharmed (c : Catalog) (q : Request) (h : Padded t xs ys) :
    let merged (rs : List Text) := c.merge t (q.withReferences rs).references
    let unharmed := (c.merge t q.references).Unharmed t ys
      (Request.fresh (q.references.map Text.lower) xs)
    (merged ys = merged xs ↔ unharmed) ∧
      (∀ profile output source,
        Job.argumentList profile output source (merged ys) =
          Job.argumentList profile output source (merged xs) ↔ unharmed) ∧
      (unharmed → ∀ s x w o, s.catalog = c → w.files = t →
        Service.compile s x w (q.withReferences ys) o =
          Service.compile s x w (q.withReferences xs) o) := by
  intro merged unharmed
  have hmerged : merged ys = merged xs ↔ unharmed := by
    simp only [merged, unharmed, merge_withReferences, ← ReferenceSet.insertFiles_filter_eq_iff]
    simp only [ReferenceSet.insertFiles, Request.filterMap_fresh_padded h]
  refine ⟨hmerged, fun profile output source => ?_, fun hu s x w o hc hw => ?_⟩
  · rw [Job.argumentList_eq_iff, hmerged]
  · subst hc hw
    exact s.compile_congr x w _ _ o rfl rfl (hmerged.2 hu)

/-- A file system in which `/a` is the only file. -/
def loneFile : FileTree := { entries := [([['a']], .file [])] }

/-- `/A` leads nowhere, and in front of `/a` it hides that file. -/
theorem Catalog.missing_spelling_hides_file :
    let merged (rs : List Text) :=
      (ofReferences []).merge loneFile (Request.withReferences ⟨[], [], []⟩ rs).references
    Padded loneFile ["/a".toList] ["/A".toList, "/a".toList] ∧
      merged ["/A".toList, "/a".toList] ≠ merged ["/a".toList] := by
  intro merged
  have hpadded : Padded loneFile ["/a".toList] ["/A".toList, "/a".toList] :=
    .put _ (by decide) (.keep _ .nil)
  refine ⟨hpadded, fun he => ?_⟩
  have hu := ((ofReferences []).merge_padded_iff_unharmed ⟨[], [], []⟩ hpadded).1.1 he
  rcases hu [] "/a".toList [] "/a".toList rfl (by decide) (by decide) with hc | ⟨rest, hrest⟩
  · exact absurd hc (by decide)
  · exact absurd hrest (by simp [ReferenceSet.insertFiles, merge, ofReferences, ReferenceSet.ofList,
      ReferenceSet.empty])

end Scriptorium
