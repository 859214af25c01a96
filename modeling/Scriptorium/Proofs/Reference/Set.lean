import Scriptorium.Reference.Catalog

/-! Laws of the reference set. Its entries determine it, inserting a list only adds entries at the
end, and a candidate that leads to no file is no different from one that is not there. -/

namespace Scriptorium.ReferenceSet

variable {s s' : ReferenceSet} {r : Text} {rs : List Text}

theorem eq_of_entries (h : s.entries = s'.entries) : s = s' := by
  obtain ⟨es, ks, hk, hd⟩ := s
  obtain ⟨es', ks', hk', hd'⟩ := s'
  obtain rfl : es = es' := h
  obtain rfl : ks = ks' := hk.trans hk'.symm
  rfl

theorem mem_keys {k : Text} : k ∈ s.keys ↔ ∃ e ∈ s.entries, Text.lower e = k := by
  rw [s.keys_eq, List.mem_map]

theorem contains_iff_mem_keys : s.contains r = true ↔ Text.lower r ∈ s.keys := by
  rw [contains, List.contains_iff_mem]

@[simp] theorem entries_empty : empty.entries = [] := rfl

@[simp] theorem contains_empty (r : Text) : empty.contains r = false := rfl

/-! ### Inserting -/

theorem add_eq (s : ReferenceSet) (r : Text) : s.add r = (!s.contains r, s.insert r) := by
  cases h : s.contains r <;> simp [insert, add, h]

theorem insert_of_contains (h : s.contains r = true) : s.insert r = s := by
  simp [insert, add, h]

theorem add_of_contains (h : s.contains r = true) : s.add r = (false, s) := by
  rw [add_eq, h, insert_of_contains h, Bool.not_true]

theorem entries_insert_of_not_contains (h : s.contains r = false) :
    (s.insert r).entries = s.entries ++ [r] := by
  simp [insert, add, h]

theorem keys_insert_of_not_contains {r : Text} (h : s.contains r = false) :
    (s.insert r).keys = s.keys ++ [Text.lower r] := by
  rw [keys_eq, entries_insert_of_not_contains h, List.map_append, ← keys_eq, List.map_singleton]

theorem mem_keys_insert {k : Text} : k ∈ (s.insert r).keys ↔ k ∈ s.keys ∨ k = Text.lower r := by
  by_cases h : s.contains r = true
  · rw [insert_of_contains h]
    rw [contains_iff_mem_keys] at h
    exact ⟨Or.inl, fun hk => hk.elim id fun e => e ▸ h⟩
  · rw [keys_insert_of_not_contains (by simpa using h), List.mem_append, List.mem_singleton]

theorem contains_insert (s : ReferenceSet) (q r : Text) :
    (s.insert q).contains r = (s.contains r || Text.lower q == Text.lower r) := by
  rw [Bool.eq_iff_iff, Bool.or_eq_true, beq_iff_eq, contains_iff_mem_keys, contains_iff_mem_keys,
    mem_keys_insert, eq_comm (a := Text.lower q)]

@[simp] theorem insertAll_nil (s : ReferenceSet) : s.insertAll [] = s := rfl

@[simp] theorem insertAll_cons (s : ReferenceSet) (r : Text) (rs : List Text) :
    s.insertAll (r :: rs) = (s.insert r).insertAll rs := rfl

theorem insertAll_append (s : ReferenceSet) (rs ps : List Text) :
    s.insertAll (rs ++ ps) = (s.insertAll rs).insertAll ps := List.foldl_append

theorem mem_keys_insertAll {k : Text} :
    k ∈ (s.insertAll rs).keys ↔ k ∈ s.keys ∨ k ∈ rs.map Text.lower := by
  induction rs generalizing s with
  | nil => simp
  | cons r rs ih =>
    rw [insertAll_cons, ih, mem_keys_insert, List.map_cons, List.mem_cons, or_assoc]

theorem contains_insertAll :
    (s.insertAll rs).contains r = true ↔
      s.contains r = true ∨ ∃ p ∈ rs, Text.lower p = Text.lower r := by
  rw [contains_iff_mem_keys, mem_keys_insertAll, contains_iff_mem_keys, List.mem_map]

theorem entries_prefix_insert (s : ReferenceSet) (r : Text) :
    s.entries <+: (s.insert r).entries := by
  by_cases h : s.contains r = true
  · exact ⟨[], by rw [insert_of_contains h, List.append_nil]⟩
  · rw [entries_insert_of_not_contains (by simpa using h)]
    exact List.prefix_append _ _

theorem entries_prefix_insertAll (s : ReferenceSet) (rs : List Text) :
    s.entries <+: (s.insertAll rs).entries := by
  induction rs generalizing s with
  | nil => exact List.prefix_rfl
  | cons r rs ih => exact (s.entries_prefix_insert r).trans (ih (s.insert r))

theorem insertAll_of_contains (h : ∀ r ∈ rs, s.contains r = true) : s.insertAll rs = s := by
  induction rs with
  | nil => rfl
  | cons r rs ih =>
    rw [insertAll_cons, insert_of_contains (h r List.mem_cons_self)]
    exact ih fun p hp => h p (List.mem_cons_of_mem r hp)

/-- Inserting beforehand what a list adds first changes nothing. -/
theorem insertAll_insert_of_first {p : Text} {rs rest : List Text} (hp : s.contains p = false)
    (h : (s.insertAll rs).entries = s.entries ++ p :: rest) :
    (s.insert p).insertAll rs = s.insertAll rs := by
  induction rs generalizing s with
  | nil => simp at h
  | cons r rs ih =>
    simp only [insertAll_cons] at h ⊢
    by_cases hr : s.contains r = true
    · rw [insert_of_contains hr] at h ⊢
      rw [insert_of_contains (by simp [contains_insert, hr])]
      exact ih hp h
    · -- `r` is what the list adds first
      have hentries := entries_insert_of_not_contains (s := s) (r := r) (by simpa using hr)
      have hpre := (s.insert r).entries_prefix_insertAll rs
      rw [hentries, h] at hpre
      obtain rfl : r = p := by simpa using (List.prefix_append_right_inj s.entries).1 hpre
      rw [insert_of_contains (by simp [contains_insert])]

/-! ### Inserting files -/

theorem insertFiles_append (s : ReferenceSet) (t : FileTree) (rs ps : List Text) :
    s.insertFiles t (rs ++ ps) = (s.insertFiles t rs).insertFiles t ps := by
  simp [insertFiles, insertAll_append]

theorem insertFiles_cons_of_none {t : FileTree} {rs : List Text} (h : t.reference? r = none) :
    s.insertFiles t (r :: rs) = s.insertFiles t rs := by
  simp [insertFiles, h]

theorem insertFiles_cons_of_some {t : FileTree} {p : Text} {rs : List Text}
    (h : t.reference? r = some p) :
    s.insertFiles t (r :: rs) = (s.insert p).insertFiles t rs := by
  simp [insertFiles, h]

end Scriptorium.ReferenceSet

namespace Scriptorium.FileTree

/-- A candidate is resolved to the full path of what it leads to, if that is a regular file. -/
theorem reference?_eq_filter (t : FileTree) (r : Text) :
    t.reference? r = ((t.canonical? r).map Prod.fst).filter t.isFile := by
  unfold reference?
  cases t.canonical? r with
  | none => rfl
  | some found => rfl

theorem reference?_eq_some_iff {t : FileTree} {r path : Text} :
    t.reference? r = some path ↔
      t.isFile path = true ∧ ∃ e, t.canonical? r = some (path, e) := by
  unfold reference?
  cases hcanonical : t.canonical? r with
  | none => simp
  | some found =>
    obtain ⟨p, e⟩ := found
    by_cases hfile : t.isFile p = true
    · simp only [if_pos hfile, Option.some.injEq, Prod.mk.injEq]
      constructor
      · rintro rfl
        exact ⟨hfile, e, rfl, rfl⟩
      · rintro ⟨-, -, hp, -⟩
        exact hp
    · simp only [if_neg hfile, Option.some.injEq, Prod.mk.injEq]
      constructor
      · nofun
      · rintro ⟨hpath, -, rfl, -⟩
        exact absurd hpath hfile

end Scriptorium.FileTree
