import Scriptorium.Proofs.Reference.Set
import Scriptorium.Request

/-! References that a request is given in batches. A request finds out anew with each batch which
lower cases it has, where a reference set keeps them; still it has the references that a set
collects from all batches together, so it does not matter how they were cut into batches. -/

namespace Scriptorium

variable {xs : List Text}

namespace Request

/-! ### Repetitions -/

theorem fresh_cons_of_mem {seen : List Text} {r : Text} (h : Text.lower r ∈ seen) :
    fresh seen (r :: xs) = fresh seen xs := by
  simp [fresh, h]

theorem fresh_cons_of_notMem {seen : List Text} {r : Text} (h : Text.lower r ∉ seen) :
    fresh seen (r :: xs) = r :: fresh (Text.lower r :: seen) xs := by
  simp [fresh, h]

/-- Only which lower cases have been seen matters, not their order. -/
theorem fresh_congr {seen seen' : List Text} (h : ∀ k, k ∈ seen ↔ k ∈ seen') :
    fresh seen xs = fresh seen' xs := by
  induction xs generalizing seen seen' with
  | nil => rfl
  | cons x xs ih =>
    by_cases hx : Text.lower x ∈ seen
    · rw [fresh_cons_of_mem hx, fresh_cons_of_mem ((h _).1 hx), ih h]
    · rw [fresh_cons_of_notMem hx, fresh_cons_of_notMem (mt (h _).2 hx)]
      congr 1
      exact ih fun k => by rw [List.mem_cons, List.mem_cons, h k]

/-- What is fresh in a second list is what the first has not brought. -/
theorem fresh_append (seen xs ys : List Text) :
    fresh seen (xs ++ ys) = fresh seen xs ++ fresh (xs.map Text.lower ++ seen) ys := by
  induction xs generalizing seen with
  | nil => rfl
  | cons x xs ih =>
    rw [List.cons_append]
    by_cases hx : Text.lower x ∈ seen
    · rw [fresh_cons_of_mem hx, fresh_cons_of_mem hx, ih]
      congr 1
      refine fresh_congr fun k => ?_
      simp only [List.map_cons, List.cons_append, List.mem_cons, List.mem_append]
      exact ⟨Or.inr, fun h => h.elim (fun hk => .inr (hk ▸ hx)) id⟩
    · rw [fresh_cons_of_notMem hx, fresh_cons_of_notMem hx, ih, List.cons_append]
      congr 2
      refine fresh_congr fun k => ?_
      simp only [List.map_cons, List.cons_append, List.mem_cons, List.mem_append]
      exact or_left_comm

theorem fresh_singleton_eq_nil_iff {seen : List Text} {r : Text} :
    fresh seen [r] = [] ↔ Text.lower r ∈ seen := by
  by_cases h : Text.lower r ∈ seen <;> simp [fresh, h]

end Request

namespace ReferenceSet

variable {s : ReferenceSet} {rs : List Text}

theorem entries_insertAll_eq_fresh (s : ReferenceSet) (rs : List Text) :
    (s.insertAll rs).entries = s.entries ++ Request.fresh s.keys rs := by
  induction rs generalizing s with
  | nil => simp [Request.fresh]
  | cons r rs ih =>
    rw [insertAll_cons, ih]
    by_cases hr : s.contains r = true
    · rw [insert_of_contains hr, Request.fresh_cons_of_mem (contains_iff_mem_keys.mp hr)]
    · have hnew : s.contains r = false := by simpa using hr
      rw [contains_iff_mem_keys] at hr
      rw [entries_insert_of_not_contains hnew, keys_insert_of_not_contains hnew,
        Request.fresh_cons_of_notMem hr, List.append_assoc, List.singleton_append]
      congr 2
      exact Request.fresh_congr fun k => by rw [List.mem_append, List.mem_singleton,
        List.mem_cons, or_comm]

end ReferenceSet

namespace Request

variable {q : Request} {s : ReferenceSet}

/-- Adds references batch by batch. -/
def withBatches (q : Request) (batches : List (List Text)) : Request :=
  batches.foldl withReferences q

theorem withReferences_eq (h : q.references = s.entries) (rs : List Text) :
    q.withReferences rs = { q with references := (s.insertAll rs).entries } := by
  rw [withReferences, ReferenceSet.entries_insertAll_eq_fresh, s.keys_eq, h]

theorem withBatches_eq (h : q.references = s.entries) (batches : List (List Text)) :
    q.withBatches batches = { q with references := (s.insertAll batches.flatten).entries } := by
  induction batches generalizing q s with
  | nil =>
    rw [List.flatten_nil, ReferenceSet.insertAll_nil, ← h]
    rfl
  | cons rs batches ih =>
    have hfirst := withReferences_eq h rs
    rw [List.flatten_cons, ReferenceSet.insertAll_append]
    exact (ih (congrArg Request.references hfirst)).trans (by rw [hfirst])

/-- A request, made of a source and a name and then given batches of references, has the references
that a set collects from all of them together, in whatever way they are cut into batches. Giving it
again what it was given changes nothing, and what it is given later comes behind what it has. -/
theorem withBatches_collects (source unitName : Text) (batches : List (List Text)) :
    let q := withBatches ⟨source, unitName, []⟩ batches
    q.references = (ReferenceSet.ofList batches.flatten).entries ∧
      q.source = source ∧ q.unitName = unitName ∧
      (∀ others, others.flatten = batches.flatten →
        withBatches ⟨source, unitName, []⟩ others = q) ∧
      (∀ again, (∀ r ∈ again, r ∈ batches.flatten) → q.withReferences again = q) ∧
      ∀ later, q.references <+: (q.withBatches later).references ∧
        (q.withBatches later).source = source ∧ (q.withBatches later).unitName = unitName := by
  have hmade (batches : List (List Text)) : withBatches ⟨source, unitName, []⟩ batches =
      ⟨source, unitName, (ReferenceSet.ofList batches.flatten).entries⟩ :=
    withBatches_eq (s := .empty) rfl batches
  intro q
  have hq : q = _ := hmade batches
  clear_value q
  subst hq
  refine ⟨rfl, rfl, rfl, fun others h => ?_, fun again h => ?_, fun later => ?_⟩
  · rw [hmade, h]
  · rw [withReferences_eq rfl, ReferenceSet.insertAll_of_contains fun r hr => ?_]
    exact ReferenceSet.contains_insertAll.mpr (.inr ⟨r, h r hr, rfl⟩)
  · rw [withBatches_eq (s := .ofList batches.flatten) rfl]
    exact ⟨ReferenceSet.entries_prefix_insertAll _ _, rfl, rfl⟩

end Request

end Scriptorium
