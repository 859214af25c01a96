import Scriptorium.Proofs.FileTree.Removal

/-! Getting to the directory that a path names something in. The names before the last lead through
directories, and through links that lead to directories, and a walk that ends anywhere has to take
this way. A tree that keeps its entries keeps its ways, so a file that is added changes nothing for
a path that does not name it in its own directory. -/

namespace Scriptorium.FileTree

variable {t t' : FileTree} {last : Bool} {k k' : Nat} {l l' : Location} {ds tail : List Text}
  {name : Text} {e : Entry}

/-! ### Ways -/

/-- The names `ds` lead from the directory `l` to the directory `l'`; of the `k` links that may be
passed, `k'` are left. -/
inductive Leads (t : FileTree) : Nat → Location → List Text → Nat → Location → Prop
  | here {k : Nat} {l : Location} : Leads t k l [] k l
  | same {k k' : Nat} {l l' : Location} {ds : List Text} (h : Leads t k l ds k' l') :
      Leads t k l (['.'] :: ds) k' l'
  | up {k k' : Nat} {l l' : Location} {ds : List Text} (h : Leads t k l.tail ds k' l') :
      Leads t k l (['.', '.'] :: ds) k' l'
  | down {k k' : Nat} {l l' : Location} {name : Text} {ds : List Text}
      (hname : name ≠ ['.'] ∧ name ≠ ['.', '.'] ∧ Text.byteLength name ≤ nameLimit)
      (hget : t.get? (name :: l) = some .directory) (h : Leads t k (name :: l) ds k' l') :
      Leads t k l (name :: ds) k' l'
  | across {k k' : Nat} {l l' : Location} {name target : Text} {ds : List Text}
      (hname : name ≠ ['.'] ∧ name ≠ ['.', '.'] ∧ Text.byteLength name ≤ nameLimit)
      (hget : t.get? (name :: l) = some (.link target))
      (h : Leads t k (if Path.isAbsolute target then [] else l) (Path.parts target ++ ds) k' l') :
      Leads t (k + 1) l (name :: ds) k' l'

/-- A tree that keeps its directories and links keeps its ways. -/
theorem Leads.mono
    (hkeep : ∀ m e, t.get? m = some e → (∀ content, e ≠ .file content) → t'.get? m = some e)
    (h : t.Leads k l ds k' l') : t'.Leads k l ds k' l' := by
  induction h with
  | here => exact .here
  | same _ ih => exact .same ih
  | up _ ih => exact .up ih
  | down hname hget _ ih => exact .down hname (hkeep _ _ hget nofun) ih
  | across hname hget _ ih => exact .across hname (hkeep _ _ hget nofun) ih

/-! ### Walks -/

theorem walk_cons (t : FileTree) (last : Bool) (k : Nat) (l : Location) (name : Text)
    (rest : List Text) : t.walk last k l (name :: rest) =
      if name = ['.'] then t.walk last k l rest
      else if name = ['.', '.'] then t.walk last k l.tail rest
      else if nameLimit < Text.byteLength name then .error .nameTooLong
      else match t.get? (name :: l) with
        | none => if rest.isEmpty then .ok (.free (name :: l)) else .error .notFound
        | some .directory => t.walk last k (name :: l) rest
        | some (.link target) =>
          if rest.isEmpty && !last then .ok (.taken (name :: l) (.link target))
          else match k with
            | 0 => .error .tooManyLinks
            | k + 1 =>
              t.walk last k (if Path.isAbsolute target then [] else l) (Path.parts target ++ rest)
        | some e => if rest.isEmpty then .ok (.taken (name :: l) e) else .error .notADirectory := by
  cases k <;> rfl

/-- A walk goes on from where its first names lead. -/
theorem Leads.walk (h : t.Leads k l ds k' l') (htail : tail ≠ []) :
    t.walk last k l (ds ++ tail) = t.walk last k' l' tail := by
  have hrest (ds : List Text) : (ds ++ tail).isEmpty = false := by simp [htail]
  induction h with
  | here => rfl
  | same _ ih =>
    rw [List.cons_append, walk_cons, if_pos rfl]
    exact ih
  | up _ ih =>
    rw [List.cons_append, walk_cons, if_neg (by decide), if_pos rfl]
    exact ih
  | down hname hget _ ih =>
    obtain ⟨hdot, hup, hlong⟩ := hname
    rw [List.cons_append, walk_cons, if_neg hdot, if_neg hup, if_neg (Nat.not_lt.mpr hlong), hget]
    exact ih
  | across hname hget _ ih =>
    obtain ⟨hdot, hup, hlong⟩ := hname
    rw [List.cons_append, walk_cons, if_neg hdot, if_neg hup, if_neg (Nat.not_lt.mpr hlong), hget,
      hrest, ← ih, List.append_assoc]
    rfl

/-- The first names of a walk lead to a directory, or no walk gets past them, whatever is behind. -/
theorem leads_or_blocked (t : FileTree) (last : Bool) (k : Nat) (l : Location) (ds : List Text) :
    (∃ k' l', t.Leads k l ds k' l') ∨
      ∃ e, ∀ tail, tail ≠ [] → t.walk last k l (ds ++ tail) = .error e := by
  -- a link puts new names in front, so the links are counted down first, and then the names
  induction k using Nat.strongRecOn generalizing l ds with
  | ind k ihk =>
  induction ds generalizing l with
  | nil => exact .inl ⟨k, l, .here⟩
  | cons name ds ih =>
    have hrest {tail : List Text} (htail : tail ≠ []) : (ds ++ tail).isEmpty = false := by
      simp [htail]
    simp only [List.cons_append, walk_cons]
    by_cases hdot : name = ['.']
    · simp only [if_pos hdot]
      refine (ih l).imp_left ?_
      rintro ⟨k', l', hds⟩
      exact ⟨k', l', hdot ▸ .same hds⟩
    simp only [if_neg hdot]
    by_cases hup : name = ['.', '.']
    · simp only [if_pos hup]
      refine (ih l.tail).imp_left ?_
      rintro ⟨k', l', hds⟩
      exact ⟨k', l', hup ▸ .up hds⟩
    simp only [if_neg hup]
    by_cases hlong : nameLimit < Text.byteLength name
    · exact .inr ⟨.nameTooLong, fun tail _ => if_pos hlong⟩
    simp only [if_neg hlong]
    have hname := And.intro hdot (And.intro hup (Nat.not_lt.mp hlong))
    cases hget : t.get? (name :: l) with
    | none => exact .inr ⟨.notFound, fun tail htail => by simp [hrest htail]⟩
    | some e =>
      cases e with
      | directory =>
        refine (ih (name :: l)).imp_left ?_
        rintro ⟨k', l', hds⟩
        exact ⟨k', l', .down hname hget hds⟩
      | link target =>
        cases k with
        | zero => exact .inr ⟨.tooManyLinks, fun tail htail => by simp [hrest htail]⟩
        | succ k =>
          rcases ihk k (Nat.lt_succ_self k) (if Path.isAbsolute target then [] else l)
            (Path.parts target ++ ds) with ⟨k', l', hds⟩ | ⟨e, hblocked⟩
          · exact .inl ⟨k', l', .across hname hget hds⟩
          · refine .inr ⟨e, fun tail htail => ?_⟩
            have hwalk := hblocked tail htail
            rw [List.append_assoc] at hwalk
            simpa [hrest htail] using hwalk
      | file content | device | program name =>
        exact .inr ⟨.notADirectory, fun tail htail => by simp [hrest htail]⟩

theorem exists_leads {p : Place} (htail : tail ≠ [])
    (h : t.walk last k l (ds ++ tail) = .ok p) : ∃ k' l', t.Leads k l ds k' l' := by
  rcases t.leads_or_blocked last k l ds with hleads | ⟨e, hblocked⟩
  · exact hleads
  · rw [hblocked tail htail] at h
    simp at h

/-! ### Added entries -/

theorem get?_set (t : FileTree) (m : Location) (e : Entry) (hm : m ≠ []) (l : Location) :
    (t.set m e).get? l = if l = m then some e else t.get? l := by
  by_cases hl : l = []
  · subst hl
    simp [get?, Ne.symm hm]
  · by_cases hlm : l = m
    · subst hlm
      simp [get?, set, hl]
    · have hbeq : (l == m) = false := beq_eq_false_iff_ne.mpr hlm
      have herase := get?_erase t m l hm
      simp only [get?, List.isEmpty_iff, hl, if_false, hlm] at herase ⊢
      rw [set, List.lookup_cons, hbeq]
      exact herase

theorem erase_set {m : Location} (hm : m ≠ []) (hfree : t.get? m = none) (e : Entry) :
    (t.set m e).erase m = t := by
  have hother : ∀ x ∈ t.entries, (x.1 != m) = true := by
    have hlookup : t.entries.lookup m = none := by simpa [get?, hm] using hfree
    intro x hx
    have hne := List.lookup_eq_none_iff.mp hlookup x hx
    rw [bne_iff_ne] at hne ⊢
    exact hne.symm
  have hkept : t.entries.filter (fun x => x.1 != m) = t.entries := List.filter_eq_self.mpr hother
  simp only [set, erase, List.filter_cons, hkept, bne_self_eq_false]
  rfl

/-- Nothing in the tree bears a name that begins so. -/
def Unused (t : FileTree) (front : Text) : Prop :=
  ∀ name l, front <+: name → t.get? (name :: l) = none

theorem unused_of_entries {t : FileTree} {front : Text}
    (h : ∀ x ∈ t.entries, ∀ name ∈ x.1.head?, ¬front <+: name) : t.Unused front := by
  intro name l hname
  have hnone : t.entries.lookup (name :: l) = none := by
    refine List.lookup_eq_none_iff.mpr fun x hx => ?_
    rw [bne_iff_ne]
    intro heq
    exact h x hx name (by simp [← heq]) hname
  simpa [get?] using hnone

/-- Where the walk of a path begins. -/
def startOf (t : FileTree) (path : Text) : Location := if Path.isAbsolute path then [] else t.here

theorem walk_of_find {path : Text} {p : Place} (h : t.find last path = .ok p) :
    t.walk last linkLimit (t.startOf path) (Path.parts path) = .ok p := by
  unfold find follow at h
  split at h
  · simp at h
  · split at h
    · simp at h
    · split at h
      · simp at h
      · exact h

/-- A path that can be walked in one tree can be walked in every tree. -/
theorem find_of_find {path : Text} {p : Place} (h : t.find last path = .ok p) (t' : FileTree) :
    t'.find last path = t'.walk last linkLimit (t'.startOf path) (Path.parts path) := by
  unfold find follow at h ⊢
  split at h
  · simp at h
  · next hlong =>
    rw [if_neg hlong]
    split at h
    · simp at h
    · next hnul =>
      rw [if_neg hnul]
      split at h
      · simp at h
      · next hempty =>
        rw [if_neg hempty]
        rfl

theorem store_ok {content : Bytes} (h : t.store l content = (.ok (), t')) :
    t' = t.set l (.file content) := by
  unfold store at h
  split at h
  · split at h
    · simp at h
    · exact (Prod.mk.inj h).2.symm
  · exact (Prod.mk.inj h).2.symm

/-- A file with a new name is written into the directory that its path leads to, and not behind
it. -/
theorem write_new {path : Text} {content : Bytes} {rest : List Text}
    (hparts : Path.parts path = ds ++ name :: rest) (hdot : name ≠ ['.']) (hup : name ≠ ['.', '.'])
    (hnew : ∀ l, t.get? (name :: l) = none) (h : t.write path content = (.ok (), t')) :
    rest = [] ∧ Text.byteLength name ≤ nameLimit ∧ ∃ k l, t.Leads linkLimit (t.startOf path) ds k l ∧
      t' = t.set (name :: l) (.file content) ∧ t.find true path = .ok (.free (name :: l)) := by
  obtain ⟨p, hfind, hend⟩ : ∃ p, t.find true path = .ok p ∧ Path.endsInSlash path = false := by
    unfold write at h
    split at h
    · split at h <;> simp at h
    · next hend =>
      cases hfind : t.find true path with
      | error err => simp [hfind] at h
      | ok p => exact ⟨p, rfl, by simpa using hend⟩
  have hwalk := walk_of_find hfind
  rw [hparts] at hwalk
  obtain ⟨k, l, hleads⟩ := exists_leads (by simp) hwalk
  rw [hleads.walk (by simp), walk_cons, if_neg hdot, if_neg hup] at hwalk
  split at hwalk
  · simp at hwalk
  · next hlong =>
    rw [hnew l] at hwalk
    dsimp only at hwalk
    split at hwalk
    · next hrest =>
      obtain rfl := Except.ok.inj hwalk
      rw [write, hend, if_neg (by simp), hfind] at h
      exact ⟨List.isEmpty_iff.mp hrest, Nat.not_lt.mp hlong, k, l, hleads, store_ok h, hfind⟩
    · simp at hwalk

/-! ### Files at a path -/

/-- Where a path leads to a file or to nothing, a file is behind it only if no name is left over. -/
theorem file_of_isFile {path : Text} {rest : List Text}
    (hway : t.Leads linkLimit (t.startOf path) ds k l)
    (hparts : Path.parts path = ds ++ name :: rest) (hdot : name ≠ ['.']) (hup : name ≠ ['.', '.'])
    (hplain : ∀ e ∈ t.get? (name :: l), ∃ content, e = .file content) (h : t.isFile path = true) :
    rest = [] ∧ t.get? (name :: l) ≠ none := by
  obtain ⟨m, e, hfind, he⟩ : ∃ m e, t.find true path = .ok (.taken m e) ∧ e ≠ .directory := by
    unfold isFile at h
    split at h
    · next m content hfind => exact ⟨m, _, hfind, nofun⟩
    · next m program hfind => exact ⟨m, _, hfind, nofun⟩
    · simp at h
  have hwalk := walk_of_find hfind
  rw [hparts, hway.walk (by simp), walk_cons, if_neg hdot, if_neg hup] at hwalk
  split at hwalk
  · simp at hwalk
  · cases hget : t.get? (name :: l) with
    | none =>
      rw [hget] at hwalk
      dsimp only at hwalk
      split at hwalk <;> simp at hwalk
    | some x =>
      obtain ⟨content, rfl⟩ := hplain x hget
      rw [hget] at hwalk
      dsimp only at hwalk
      split at hwalk
      · next hrest => exact ⟨List.isEmpty_iff.mp hrest, nofun⟩
      · simp at hwalk

theorem isFile_of_leads {path : Text} {p : Place} {content : Bytes}
    (hfind : t'.find true path = .ok p) (hway : t.Leads linkLimit (t.startOf path) ds k l)
    (hparts : Path.parts path = ds ++ [name]) (hdot : name ≠ ['.']) (hup : name ≠ ['.', '.'])
    (hlong : Text.byteLength name ≤ nameLimit) (hget : t.get? (name :: l) = some (.file content)) :
    t.isFile path = true := by
  have hfound : t.find true path = .ok (.taken (name :: l) (.file content)) := by
    rw [find_of_find hfind, hparts, hway.walk (by simp), walk_cons, if_neg hdot, if_neg hup,
      if_neg (Nat.not_lt.mpr hlong), hget]
    rfl
  rw [isFile, hfound]

/-- A file stands at `l`, or nothing. -/
def Plain (t : FileTree) (l : Location) : Prop := ∀ e ∈ t.get? l, ∃ content, e = .file content

theorem get?_set_of_plain {m : Location} {content : Bytes} (hm : m ≠ []) (hplain : t.Plain m)
    (hget : t.get? l = some e) (he : ∀ content, e ≠ .file content) :
    (t.set m (.file content)).get? l = some e := by
  rw [get?_set t m _ hm, if_neg]
  · exact hget
  · rintro rfl
    obtain ⟨old, rfl⟩ := hplain e hget
    exact he old rfl

/-- No way leads over a file, so one that is put in a plain place keeps all ways. -/
theorem Leads.set {m : Location} {content : Bytes} (hm : m ≠ []) (hplain : t.Plain m)
    (h : t.Leads k l ds k' l') : (t.set m (.file content)).Leads k l ds k' l' :=
  h.mono fun _ _ => get?_set_of_plain hm hplain

theorem Leads.le (h : t.Leads k l ds k' l') : k' ≤ k := by
  induction h with
  | here => exact Nat.le_refl _
  | same _ ih | up _ ih | down _ _ _ ih => exact ih
  | across _ _ _ ih => exact Nat.le_succ_of_le ih

end Scriptorium.FileTree
