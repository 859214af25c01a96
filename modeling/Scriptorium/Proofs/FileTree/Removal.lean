import Scriptorium.FileTree.Operations

/-! Removing a file from a tree. A removal takes away one entry and adds none, so a path that leads
to nothing still leads to nothing afterwards, whatever links are passed on the way. A removal that
fails leaves the tree alone; it is stuck unless it failed because nothing is there. -/

namespace Scriptorium.FileTree

variable {t : FileTree} {k l : Location} {e : Entry} {path : Text}

/-! ### Erased entries -/

theorem lookup_filter (p : Location → Bool) (l : Location) (es : List (Location × Entry)) :
    (es.filter fun x => p x.1).lookup l = if p l then es.lookup l else none := by
  induction es with
  | nil => simp
  | cons x es ih =>
    obtain ⟨m, e⟩ := x
    by_cases hl : l = m
    · subst hl
      cases hp : p l <;> simp [hp, ih]
    · have hm : (l == m) = false := beq_eq_false_iff_ne.mpr hl
      cases hp : p m <;> simp [hp, hm, List.lookup_cons, ih]

theorem get?_erase (t : FileTree) (k l : Location) (hk : k ≠ []) :
    (t.erase k).get? l = if l = k then none else t.get? l := by
  by_cases hl : l = []
  · subst hl
    simp [get?, Ne.symm hk]
  · simp [get?, erase, lookup_filter (· != k), hl]

theorem get?_of_get?_erase (h : (t.erase k).get? l = some e) : t.get? l = some e := by
  by_cases hl : l = []
  · subst hl
    exact h
  · simp only [get?, erase, lookup_filter (· != k), List.isEmpty_iff, hl, if_false] at h ⊢
    split at h
    · exact h
    · simp at h

/-! ### Walks -/

/-- A walk in what is left of a tree that ends at an entry ends there in the whole tree. -/
theorem walkNames_of_erase {last : Bool} {m : Location}
    {follow follow' : Location → List Text → Except IoError Place}
    (hf : ∀ l names, follow' l names = .ok (.taken m e) → follow l names = .ok (.taken m e))
    (l : Location) (names : List Text)
    (h : (t.erase k).walkNames last follow' l names = .ok (.taken m e)) :
    t.walkNames last follow l names = .ok (.taken m e) := by
  induction names generalizing l with
  | nil => simpa [walkNames] using h
  | cons name rest ih =>
    rw [walkNames] at h ⊢
    split at h
    · next hdot => rw [if_pos hdot]; exact ih l h
    · next hdot =>
      rw [if_neg hdot]
      split at h
      · next hup => rw [if_pos hup]; exact ih l.tail h
      · next hup =>
        rw [if_neg hup]
        split at h
        · simp at h
        · next hlong =>
          rw [if_neg hlong]
          cases hget : (t.erase k).get? (name :: l) with
          | none =>
            rw [hget] at h
            dsimp only at h
            split at h <;> simp at h
          | some x =>
            rw [hget] at h
            rw [get?_of_get?_erase hget]
            cases x with
            | directory => exact ih _ h
            | link target =>
              dsimp only at h ⊢
              split at h
              · next hlast => rw [if_pos hlast]; exact h
              · next hlast => rw [if_neg hlast]; exact hf _ _ h
            | file content => exact h
            | device => exact h
            | program name => exact h

theorem walk_of_erase {last : Bool} {m : Location} (links : Nat) (l : Location) (names : List Text)
    (h : (t.erase k).walk last links l names = .ok (.taken m e)) :
    t.walk last links l names = .ok (.taken m e) := by
  induction links generalizing l names with
  | zero => exact walkNames_of_erase (fun _ _ h => h) l names h
  | succ links ih => exact walkNames_of_erase ih l names h

theorem find_of_erase {last : Bool} (h : (t.erase k).find last path = .ok (.taken l e)) :
    t.find last path = .ok (.taken l e) := by
  unfold find follow at h ⊢
  split at h
  · simp at h
  · next hlong =>
    rw [if_neg hlong]
    split at h
    · simp at h
    · next hnul =>
      rw [if_neg hnul]
      split at h
      · simp at h
      · next hempty =>
        rw [if_neg hempty]
        exact walk_of_erase _ _ _ h

theorem walkNames_taken {last : Bool} {m : Location}
    {follow : Location → List Text → Except IoError Place}
    (hf : ∀ l names, follow l names = .ok (.taken m e) → e = .directory ∨ t.get? m = some e)
    (l : Location) (names : List Text)
    (h : t.walkNames last follow l names = .ok (.taken m e)) :
    e = .directory ∨ t.get? m = some e := by
  induction names generalizing l with
  | nil =>
    simp only [walkNames, Except.ok.injEq, Place.taken.injEq] at h
    exact .inl h.2.symm
  | cons name rest ih =>
    rw [walkNames] at h
    split at h
    · exact ih l h
    · split at h
      · exact ih l.tail h
      · split at h
        · simp at h
        · cases hget : t.get? (name :: l) with
          | none =>
            rw [hget] at h
            dsimp only at h
            split at h <;> simp at h
          | some x =>
            rw [hget] at h
            cases x with
            | directory => exact ih _ h
            | link target =>
              dsimp only at h
              split at h
              · simp only [Except.ok.injEq, Place.taken.injEq] at h
                obtain ⟨rfl, rfl⟩ := h
                exact .inr hget
              · exact hf _ _ h
            | file content | device | program name =>
              dsimp only at h
              split at h
              · simp only [Except.ok.injEq, Place.taken.injEq] at h
                obtain ⟨rfl, rfl⟩ := h
                exact .inr hget
              · simp at h

theorem walk_taken {last : Bool} {m : Location} (links : Nat) (l : Location) (names : List Text)
    (h : t.walk last links l names = .ok (.taken m e)) :
    e = .directory ∨ t.get? m = some e := by
  induction links generalizing l names with
  | zero => exact walkNames_taken (fun _ _ h => by simp at h) l names h
  | succ links ih => exact walkNames_taken ih l names h

theorem find_taken {last : Bool} (h : t.find last path = .ok (.taken l e)) :
    e = .directory ∨ t.get? l = some e := by
  unfold find follow at h
  split at h
  · simp at h
  · split at h
    · simp at h
    · split at h
      · simp at h
      · exact walk_taken _ _ _ h

theorem ne_root_of_find {last : Bool} (h : t.find last path = .ok (.taken l e))
    (he : e ≠ .directory) : l ≠ [] := by
  rintro rfl
  have hroot := (find_taken h).resolve_left he
  exact he (by simpa [get?, eq_comm] using hroot)

/-! ### Removals -/

/-- Something is at `path`: a file, a directory, a device, or a link, wherever that leads. -/
def Holds (t : FileTree) (path : Text) : Prop := ∃ l e, t.find false path = .ok (.taken l e)

/-- The tree after an attempt to remove what is at `path`. -/
def without (t : FileTree) (path : Text) : FileTree := (t.remove path).toOption.getD t

/-- Why what is at `path` cannot be removed; it is no reason that nothing is there. -/
def stuck? (t : FileTree) (path : Text) : Option IoError :=
  match t.remove path with
  | .ok _ | .error .notFound => none
  | .error e => some e

theorem remove_of_directory (h : t.find false path = .ok (.taken l .directory)) :
    t.remove path = .error .isADirectory := by
  rw [remove, h]

theorem remove_of_taken (h : t.find false path = .ok (.taken l e)) (he : e ≠ .directory) :
    t.remove path = .ok (t.erase l) := by
  rw [remove, h]
  cases e with
  | directory => exact absurd rfl he
  | file content | link target | device | program name => rfl

/-- A removal erases the entry at the path, or it changes nothing. -/
theorem without_cases (t : FileTree) (path : Text) :
    t.without path = t ∨ ∃ l e, t.find false path = .ok (.taken l e) ∧ e ≠ .directory ∧
      t.without path = t.erase l := by
  cases h : t.find false path with
  | error err => exact .inl (by simp [without, remove, h, Except.toOption])
  | ok place =>
    cases place with
    | free l => exact .inl (by simp [without, remove, h, Except.toOption])
    | taken l e =>
      by_cases he : e = .directory
      · subst he
        exact .inl (by simp [without, remove_of_directory h, Except.toOption])
      · exact .inr ⟨l, e, rfl, he, by simp [without, remove_of_taken h he, Except.toOption]⟩

theorem without_of_not_holds (h : ¬t.Holds path) : t.without path = t := by
  rcases t.without_cases path with heq | ⟨l, e, hfind, -, -⟩
  · exact heq
  · exact absurd ⟨l, e, hfind⟩ h

theorem Holds.of_without {q : Text} (h : (t.without path).Holds q) : t.Holds q := by
  rcases t.without_cases path with heq | ⟨l, e, -, -, heq⟩
  · rwa [heq] at h
  · rw [heq] at h
    obtain ⟨m, x, hfind⟩ := h
    exact ⟨m, x, find_of_erase hfind⟩

/-- After a removal that is not stuck nothing is at the path. -/
theorem not_holds_without (h : t.stuck? path = none) : ¬(t.without path).Holds path := by
  intro hholds
  obtain ⟨l, e, hfind⟩ := hholds.of_without
  by_cases he : e = .directory
  · subst he
    simp [stuck?, remove_of_directory hfind] at h
  · have hwithout : t.without path = t.erase l := by
      simp [without, remove_of_taken hfind he, Except.toOption]
    -- the path still leads where it led, and nothing is left there
    obtain ⟨m, x, hagain⟩ := hwithout ▸ hholds
    have hsame := hfind.symm.trans (find_of_erase hagain)
    obtain ⟨rfl, rfl⟩ : l = m ∧ e = x := by simpa using hsame
    have hgone := (find_taken hagain).resolve_left he
    simp [get?_erase t l l (ne_root_of_find hfind he)] at hgone

/-- A removal touches no other place than the one the path leads to. -/
theorem get?_without (h : ∀ e, t.find false path ≠ .ok (.taken l e)) :
    (t.without path).get? l = t.get? l := by
  rcases t.without_cases path with heq | ⟨k, e, hfind, he, heq⟩
  · rw [heq]
  · have hl : l ≠ k := by
      rintro rfl
      exact h e hfind
    rw [heq, get?_erase t k l (ne_root_of_find hfind he), if_neg hl]

end Scriptorium.FileTree
