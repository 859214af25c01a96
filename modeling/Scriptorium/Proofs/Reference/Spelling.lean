import Mathlib.Data.List.Induction
import Mathlib.Data.List.Nodup
import Scriptorium.Proofs.Reference.Set
import Scriptorium.Proofs.Text.Case

/-! What a reference set holds after any insertions. Its entries are the first spellings of what was
inserted, and what it contains is what shares the lower case of something inserted. Spellings that
differ in the case of ASCII letters only are one reference, also with a capital sigma in them. -/

namespace Scriptorium

/-- The texts of a list that share their lower case with none before them. -/
def firstSpellings (rs : List Text) : List Text :=
  (rs.zipIdx.filter fun x => (rs.take x.2).all fun p => Text.lower p ≠ Text.lower x.1).map Prod.fst

theorem firstSpellings_concat (rs : List Text) (r : Text) :
    firstSpellings (rs ++ [r]) =
      firstSpellings rs ++ if rs.all fun p => Text.lower p ≠ Text.lower r then [r] else [] := by
  have hfront : (rs.zipIdx.filter fun x =>
        ((rs ++ [r]).take x.2).all fun p => Text.lower p ≠ Text.lower x.1) =
      rs.zipIdx.filter fun x => (rs.take x.2).all fun p => Text.lower p ≠ Text.lower x.1 := by
    refine List.filter_congr fun x hx => ?_
    have hlt : x.2 < rs.length := by simpa using (List.mem_zipIdx hx).2.1
    rw [List.take_append_of_le_length (Nat.le_of_lt hlt)]
  rw [firstSpellings, List.zipIdx_append, List.filter_append, List.map_append, hfront,
    ← firstSpellings]
  congr 1
  rw [List.zipIdx_singleton, Nat.zero_add, List.filter_singleton, List.take_left]
  cases rs.all fun p => Text.lower p ≠ Text.lower r <;> simp

theorem mem_of_mem_firstSpellings {rs : List Text} {r : Text} (h : r ∈ firstSpellings rs) :
    r ∈ rs := by
  induction rs using List.reverseRecOn with
  | nil => simp [firstSpellings] at h
  | append_singleton rs p ih =>
    rw [firstSpellings_concat, List.mem_append] at h
    rcases h with h | h
    · exact List.mem_append_left _ (ih h)
    · split at h
      · exact List.mem_append_right _ h
      · simp at h

namespace ReferenceSet

variable {s s' : ReferenceSet} {r p : Text} {rs ps : List Text}

theorem entries_insertAll (s : ReferenceSet) (rs : List Text) :
    (s.insertAll rs).entries = s.entries ++ (firstSpellings rs).filter (!s.contains ·) := by
  induction rs using List.reverseRecOn with
  | nil => simp [firstSpellings]
  | append_singleton rs r ih =>
    have hall : (rs.all fun p => Text.lower p ≠ Text.lower r) = true ↔
        ¬∃ p ∈ rs, Text.lower p = Text.lower r := by simp
    rw [insertAll_append, insertAll_cons, insertAll_nil, firstSpellings_concat, List.filter_append,
      ← List.append_assoc, ← ih]
    by_cases hr : (s.insertAll rs).contains r = true
    · rw [insert_of_contains hr, List.filter_eq_nil_iff.mpr, List.append_nil]
      intro p hp
      rcases contains_insertAll.mp hr with hs | hrs
      · split at hp
        · obtain rfl := List.mem_singleton.mp hp
          simp [hs]
        · simp at hp
      · rw [if_neg (by rw [hall]; exact not_not_intro hrs)] at hp
        simp at hp
    · rw [entries_insert_of_not_contains (by simpa using hr)]
      rw [contains_insertAll, not_or] at hr
      rw [if_pos (hall.mpr hr.2), List.filter_cons_of_pos (by simpa using hr.1), List.filter_nil]

/-! ### Filled sets -/

/-- The sets that can come about, with all that was inserted into them, whether it was taken or
not. A copy of a set is that set again. -/
inductive Filled : List Text → ReferenceSet → Prop
  | empty : Filled [] .empty
  | collected (rs : List Text) : Filled rs (.ofList rs)
  | inserted {rs : List Text} {s : ReferenceSet} (r : Text) (h : Filled rs s) :
      Filled (rs ++ [r]) (s.insert r)

/-- However a set was filled, it could have been collected. -/
theorem Filled.eq_ofList (h : Filled rs s) : s = .ofList rs := by
  induction h with
  | empty => rfl
  | collected rs => rfl
  | inserted r _ ih => rw [ih, ofList, ofList, insertAll_append, insertAll_cons, insertAll_nil]

/-- What a set that was filled with `rs` holds, and how it answers. -/
structure Represents (s : ReferenceSet) (rs : List Text) : Prop where
  entries : s.entries = firstSpellings rs
  distinct : s.entries.Pairwise fun e f => Text.lower e ≠ Text.lower f
  keys : ∀ k, k ∈ s.keys ↔ ∃ e ∈ s.entries, Text.lower e = k
  /-- No key is kept twice. -/
  nodup : s.keys.Nodup
  contains : ∀ r, s.contains r = true ↔ ∃ p ∈ rs, Text.lower p = Text.lower r
  added : ∀ r, (s.add r).1 = true ↔ s.contains r = false

theorem Filled.represents (h : Filled rs s) : s.Represents rs := by
  obtain rfl := h.eq_ofList
  have hdistinct := (ofList rs).distinct
  rw [keys_eq, List.nodup_iff_pairwise_ne, List.pairwise_map] at hdistinct
  exact {
    entries := by simp [ofList, entries_insertAll]
    distinct := hdistinct
    keys := fun _ => mem_keys
    nodup := (ofList rs).distinct
    contains := fun r => by simp [ofList, contains_insertAll]
    added := fun r => by rw [add_eq]; simp }

theorem beq_iff : (s == s') = true ↔ s.entries = s'.entries := by
  constructor
  · intro h
    exact eq_of_beq (Bool.and_eq_true_iff.mp h).1
  · intro h
    obtain rfl := eq_of_entries h
    exact Bool.and_eq_true_iff.mpr
      ⟨beq_self_eq_true _, Bool.and_eq_true_iff.mpr ⟨beq_self_eq_true _, by simp⟩⟩

theorem entries_inj {e f : Text} (he : e ∈ s.entries) (hf : f ∈ s.entries)
    (h : Text.lower e = Text.lower f) : e = f :=
  List.inj_on_of_nodup_map (s.keys_eq ▸ s.distinct) he hf h

theorem mem_entries_insert {e : Text} (h : e ∈ (s.insert r).entries) : e ∈ s.entries ∨ e = r := by
  by_cases hr : s.contains r = true
  · rw [insert_of_contains hr] at h
    exact .inl h
  · rw [entries_insert_of_not_contains (by simpa using hr)] at h
    simpa using h

theorem entry_eq_of_first {before after : List Text} {e : Text}
    (hfirst : ∀ p ∈ before, ¬Text.SameButAscii p r)
    (he : e ∈ (ofList (before ++ r :: after)).entries) (h : Text.SameButAscii e r) : e = r := by
  -- once `r` has been inserted there is an entry for it, and no other comes later
  obtain ⟨f, hf, hlower⟩ : ∃ f ∈ ((ofList before).insert r).entries,
      Text.lower f = Text.lower r := by
    rw [← mem_keys, ← contains_iff_mem_keys, contains_insert]
    simp
  have hsplit : ofList (before ++ r :: after) = ((ofList before).insert r).insertAll after := by
    rw [ofList, insertAll_append, insertAll_cons, ofList]
  have hmem : f ∈ (ofList (before ++ r :: after)).entries := by
    rw [hsplit]
    exact (entries_prefix_insertAll _ after).subset hf
  obtain rfl := entries_inj he hmem (h.lower_eq.trans hlower.symm)
  rcases mem_entries_insert hf with hbefore | rfl
  · rw [(Filled.collected before).represents.entries] at hbefore
    exact absurd h (hfirst e (mem_of_mem_firstSpellings hbefore))
  · rfl

/-- However a set was filled, it keeps the first spellings in their order, with their lower cases as
its keys, and answers accordingly; two sets are equal if their entries are. What differs in the case
of ASCII letters from something inserted is contained and is not added, and of such spellings no
other than the first is ever an entry. -/
theorem filled_keeps_first_spellings (h : Filled rs s) :
    s.Represents rs ∧ (∀ s' : ReferenceSet, (s == s') = true ↔ s.entries = s'.entries) ∧
      (∀ r ∈ rs, ∀ p, Text.SameButAscii p r → s.contains p = true ∧ s.add p = (false, s)) ∧
      ∀ before r after, rs = before ++ r :: after → (∀ p ∈ before, ¬Text.SameButAscii p r) →
        ∀ e ∈ s.entries, Text.SameButAscii e r → e = r := by
  refine ⟨h.represents, fun _ => beq_iff, fun r hr p hp => ?_, ?_⟩
  · have hcontains : s.contains p = true :=
      (h.represents.contains p).mpr ⟨r, hr, hp.lower_eq.symm⟩
    exact ⟨hcontains, add_of_contains hcontains⟩
  · rintro before r after rfl hfirst e he hlike
    obtain rfl := h.eq_ofList
    exact entry_eq_of_first hfirst he hlike

/-- A word that ends in a capital sigma is one reference in whatever case the ASCII letters around
it are; with the small sigma that is not final it is another. -/
theorem filled_with_sigmas :
    let rs := ["/lib/ΦΩΣ".toList, "/LIB/ΦΩΣ".toList, "/lib/φωσ".toList]
    let s := ofList rs
    Filled rs s ∧ s.entries = [rs[0], rs[2]] ∧ s.contains rs[1] = true ∧
      s.add rs[1] = (false, s) := by
  intro rs s
  have hfilled : Filled rs s := .collected rs
  obtain ⟨hrepresents, -, hlike, -⟩ := filled_keeps_first_spellings hfilled
  have hsecond := hlike rs[0] (by decide) rs[1] (by decide)
  exact ⟨hfilled, hrepresents.entries.trans (by decide +kernel), hsecond⟩

end ReferenceSet

end Scriptorium
