import Scriptorium.Proofs.FileTree.Writing

/-! Paths that name something in one directory. The system may take no such path because of its
length or of what it contains; apart from that, all that counts is what the directory has under the
name, and reading, writing and removing at the path are look-ups and changes of that one entry. -/

namespace Scriptorium.FileTree

variable {t t' : FileTree} {path name : Text} {d l : Location} {content : Bytes}

/-- The path leads to the name `name` in the directory `d`. -/
structure Names (t : FileTree) (path : Text) (d : Location) (name : Text) : Prop where
  way : ∃ ds k, Path.parts path = ds ++ [name] ∧ t.Leads linkLimit (t.startOf path) ds k d
  ordinary : name ≠ ['.'] ∧ name ≠ ['.', '.']

/-- Why the system takes no path with this last name, if it does not. -/
def refusal? (path name : Text) : Option IoError :=
  if path.contains '\x00' then some .nulInPath
  else if pathLimit ≤ Text.byteLength path ∨ nameLimit < Text.byteLength name then some .nameTooLong
  else none

/-- The place behind a name: what the directory has there. -/
def placeOf (t : FileTree) (l : Location) : Place :=
  match t.get? l with
  | none => .free l
  | some e => .taken l e

/-- Storing puts a file in its place, if need be one that is cut short. -/
theorem store_cases (t : FileTree) (l : Location) (content : Bytes) :
    t.store l content = (.ok (), t.set l (.file content)) ∨
      ∃ e cut, t.store l content = (.error e, t.set l (.file cut)) := by
  unfold store
  split
  · split
    · exact .inr ⟨_, _, rfl⟩
    · exact .inl rfl
  · exact .inl rfl

/-- Storing cuts a file short exactly if it is longer than files may be. -/
theorem store_eq_of_longer {n : Nat} (hlargest : t.largest = some n) (hlonger : n < content.length)
    (l : Location) : t.store l content = (.error .tooLarge, t.set l (.file (content.take n))) := by
  rw [store, hlargest]
  exact if_pos hlonger

theorem store_eq_of_fits (hfits : ∀ n ∈ t.largest, content.length ≤ n) (l : Location) :
    t.store l content = (.ok (), t.set l (.file content)) := by
  unfold store
  split
  · next n hlargest => exact if_neg (Nat.not_lt.mpr (hfits n hlargest))
  · rfl

theorem not_endsInSlash {ds : List Text} (hparts : Path.parts path = ds ++ [name])
    (hdot : name ≠ ['.']) : Path.endsInSlash path = false := by
  rw [← Bool.not_eq_true]
  intro hend
  rw [Path.parts, if_pos hend] at hparts
  exact hdot (List.cons.inj (List.append_inj' hparts rfl).2.symm).1

theorem names_of_find {ds : List Text} {last : Bool} {p : Place}
    (hparts : Path.parts path = ds ++ [name]) (hordinary : name ≠ ['.'] ∧ name ≠ ['.', '.'])
    (h : t.find last path = .ok p) : ∃ d, t.Names path d name := by
  obtain ⟨k, d, hleads⟩ := exists_leads (List.cons_ne_nil _ _) (hparts ▸ walk_of_find h)
  exact ⟨d, ⟨ds, k, hparts, hleads⟩, hordinary⟩

/-- A path leads to its last name, or no file is written to it, whatever the content. -/
theorem names_or_unwritable {ds : List Text} (t : FileTree) (hparts : Path.parts path = ds ++ [name])
    (hordinary : name ≠ ['.'] ∧ name ≠ ['.', '.']) :
    (∃ d, t.Names path d name) ∨ ∃ e, ∀ content, t.write path content = (.error e, t) := by
  cases hfind : t.find true path with
  | ok p => exact .inl (names_of_find hparts hordinary hfind)
  | error e =>
    refine .inr ⟨e, fun content => ?_⟩
    rw [write, not_endsInSlash hparts hordinary.1, if_neg Bool.false_ne_true, hfind]

namespace Names

theorem mono (h : t.Names path d name) (hhere : t'.here = t.here)
    (hkeep : ∀ m e, t.get? m = some e → t'.get? m = some e) : t'.Names path d name := by
  obtain ⟨⟨ds, k, hparts, hway⟩, hordinary⟩ := h
  have hstart : t'.startOf path = t.startOf path := by rw [startOf, startOf, hhere]
  exact ⟨⟨ds, k, hparts, hstart ▸ hway.mono fun m e he _ => hkeep m e he⟩, hordinary⟩

theorem not_endsInSlash (h : t.Names path d name) : Path.endsInSlash path = false := by
  obtain ⟨⟨ds, k, hparts, -⟩, hdot, -⟩ := h
  exact FileTree.not_endsInSlash hparts hdot

theorem find_eq (h : t.Names path d name) (hplain : t.Plain (name :: d)) (last : Bool) :
    t.find last path = match refusal? path name with
      | some e => .error e
      | none => .ok (t.placeOf (name :: d)) := by
  obtain ⟨⟨ds, k, hparts, hway⟩, hdot, hup⟩ := h
  have hempty : path.isEmpty = false := by
    cases path with
    | nil => simp [Path.parts, Path.endsInSlash] at hparts
    | cons c path => rfl
  have hwalk : t.walk last linkLimit (t.startOf path) (Path.parts path) =
      if nameLimit < Text.byteLength name then .error .nameTooLong
      else .ok (t.placeOf (name :: d)) := by
    rw [hparts, hway.walk (List.cons_ne_nil _ _), walk_cons, if_neg hdot, if_neg hup, placeOf]
    split
    · rfl
    · cases hget : t.get? (name :: d) with
      | none => rfl
      | some e =>
        obtain ⟨content, rfl⟩ := hplain e hget
        rfl
  rw [find, follow, hempty, refusal?]
  cases hnul : path.contains '\x00' with
  | true => simp
  | false =>
    by_cases hlong : pathLimit ≤ Text.byteLength path
    · simp [hlong]
    · have hstart : (if Path.isAbsolute path then [] else t.here) = t.startOf path := rfl
      simp only [hlong, decide_false, Bool.and_false, Bool.false_eq_true, if_false, false_or, hstart,
        hwalk]
      split <;> rfl

theorem read_eq (h : t.Names path d name) (hplain : t.Plain (name :: d)) :
    t.read path = match refusal? path name with
      | some e => .error e
      | none => match t.get? (name :: d) with
        | some (.file content) => .ok content
        | _ => .error .notFound := by
  rw [read, h.find_eq hplain]
  cases refusal? path name with
  | some e => rfl
  | none =>
    dsimp only
    rw [placeOf]
    cases hget : t.get? (name :: d) with
    | none => rfl
    | some e =>
      obtain ⟨content, rfl⟩ := hplain e hget
      rfl

theorem write_eq (h : t.Names path d name) (hplain : t.Plain (name :: d)) (content : Bytes) :
    t.write path content = match refusal? path name with
      | some e => (.error e, t)
      | none => t.store (name :: d) content := by
  rw [write, h.not_endsInSlash, if_neg (by simp), h.find_eq hplain]
  cases refusal? path name with
  | some e => rfl
  | none =>
    dsimp only
    rw [placeOf]
    cases hget : t.get? (name :: d) with
    | none => rfl
    | some e =>
      obtain ⟨old, rfl⟩ := hplain e hget
      rfl

/-- A file that can be read after writing is what was put under the name. -/
theorem write_of_read {kept : Bytes} (h : t.Names path d name) (hplain : t.Plain (name :: d))
    (hset : ∀ content, (t.set (name :: d) (.file content)).Names path d name)
    (hread : (t.write path content).2.read path = .ok kept) :
    refusal? path name = none ∧ (t.write path content).2 = t.set (name :: d) (.file kept) := by
  rw [h.write_eq hplain] at hread ⊢
  cases hrefusal : refusal? path name with
  | some e =>
    rw [hrefusal] at hread
    dsimp only at hread
    rw [h.read_eq hplain, hrefusal] at hread
    simp at hread
  | none =>
    rw [hrefusal] at hread
    dsimp only at hread ⊢
    obtain ⟨stored, hstore⟩ : ∃ stored, (t.store (name :: d) content).2 =
        t.set (name :: d) (.file stored) := by
      rcases t.store_cases (name :: d) content with hstore | ⟨e, cut, hstore⟩
      · exact ⟨content, by rw [hstore]⟩
      · exact ⟨cut, by rw [hstore]⟩
    have hget := get?_set t (name :: d) (.file stored) (List.cons_ne_nil _ _) (name :: d)
    rw [if_pos rfl] at hget
    have hplain' : (t.set (name :: d) (.file stored)).Plain (name :: d) := by simp [Plain, hget]
    rw [hstore, (hset stored).read_eq hplain', hrefusal, hget] at hread
    exact ⟨rfl, by rw [hstore, Except.ok.inj hread]⟩

theorem remove_eq (h : t.Names path d name) (hplain : t.Plain (name :: d)) :
    t.remove path = match refusal? path name with
      | some e => .error e
      | none => if t.get? (name :: d) = none then .error .notFound else .ok (t.erase (name :: d)) := by
  rw [remove, h.find_eq hplain]
  cases refusal? path name with
  | some e => rfl
  | none =>
    dsimp only
    rw [placeOf]
    cases hget : t.get? (name :: d) with
    | none => rfl
    | some e =>
      obtain ⟨old, rfl⟩ := hplain e hget
      rfl

theorem refusal?_ne_notFound (path name : Text) : refusal? path name ≠ some .notFound := by
  unfold refusal?
  split
  · simp
  · split <;> simp

/-- A removal is stuck if the system does not take the path, and only then. -/
theorem stuck?_eq (h : t.Names path d name) (hplain : t.Plain (name :: d)) :
    t.stuck? path = refusal? path name := by
  have hne := refusal?_ne_notFound path name
  rw [stuck?, h.remove_eq hplain]
  cases hrefusal : refusal? path name with
  | some e => cases e <;> first | rfl | exact absurd hrefusal hne
  | none =>
    by_cases hnone : t.get? (name :: d) = none
    · simp [hnone]
    · simp [hnone]

theorem get?_without (h : t.Names path d name) (hplain : t.Plain (name :: d))
    (hrefused : refusal? path name ≠ none → t.get? (name :: d) = none) (l : Location) :
    (t.without path).get? l = if l = name :: d then none else t.get? l := by
  have hsame (hnone : t.get? (name :: d) = none) :
      t.get? l = if l = name :: d then none else t.get? l := by
    split
    · next hl => rw [hl, hnone]
    · rfl
  rw [without, h.remove_eq hplain]
  cases hrefusal : refusal? path name with
  | some e => exact hsame (hrefused (by simp [hrefusal]))
  | none =>
    dsimp only
    split
    · next hnone => exact hsame hnone
    · exact get?_erase t (name :: d) l (List.cons_ne_nil _ _)

end Names

end Scriptorium.FileTree
