import Scriptorium.Proofs.FileTree.Leads

/-! What stands at a path after a file was written to it. The walk that found the place to write at
finds the same place in the new tree, because nothing on the way there has changed, and the file is
what it finds there. -/

namespace Scriptorium.FileTree

variable {t t' : FileTree} {last : Bool} {k : Nat} {l m : Location} {names : List Text}
  {path : Text} {content : Bytes} {p : Place}

theorem walk_nil (t : FileTree) (last : Bool) (k : Nat) (l : Location) :
    t.walk last k l [] = .ok (.taken l .directory) := by
  cases k <;> rfl

/-- A file can be written at this place, and it is `l`. -/
def Place.Takes (l : Location) : Place → Prop
  | .free m => m = l
  | .taken m (.file _) => m = l
  | .taken _ _ => False

theorem not_takes_of_walk_nil (h : t.walk last k l [] = .ok p) : ¬p.Takes m := by
  obtain rfl := Except.ok.inj ((t.walk_nil last k l).symm.trans h)
  exact id

theorem ordinary_of_walk_last {name : Text} (h : t.walk true k l [name] = .ok p)
    (hp : p.Takes m) :
    name ≠ ['.'] ∧ name ≠ ['.', '.'] ∧ ¬nameLimit < Text.byteLength name := by
  rw [walk_cons] at h
  split at h
  · exact absurd hp (not_takes_of_walk_nil h)
  · next hdot =>
    split at h
    · exact absurd hp (not_takes_of_walk_nil h)
    · next hup =>
      split at h
      · simp at h
      · next hlong => exact ⟨hdot, hup, hlong⟩

/-- If the last step is not over a link, it ends where it looks. -/
theorem plain_of_walk_last {name : Text} (h : t.walk true k l [name] = .ok p) (hp : p.Takes m)
    (hlink : ∀ target, t.get? (name :: l) ≠ some (.link target)) : name :: l = m ∧ t.Plain m := by
  obtain ⟨hdot, hup, hlong⟩ := ordinary_of_walk_last h hp
  rw [walk_cons, if_neg hdot, if_neg hup, if_neg hlong] at h
  cases hget : t.get? (name :: l) with
  | none =>
    rw [hget] at h
    obtain rfl := Except.ok.inj h
    obtain rfl : name :: l = m := hp
    exact ⟨rfl, by simp [Plain, hget]⟩
  | some e =>
    rw [hget] at h
    cases e with
    | directory => exact absurd hp (not_takes_of_walk_nil h)
    | link target => exact absurd hget (hlink target)
    | file old =>
      obtain rfl := Except.ok.inj h
      obtain rfl : name :: l = m := hp
      exact ⟨rfl, by simp [Plain, hget]⟩
    | device | program name =>
      obtain rfl := Except.ok.inj h
      exact hp.elim

/-- A link as the last step is one walk more, with one link less. -/
theorem exists_walk_of_link {name target : Text} (hget : t.get? (name :: l) = some (.link target))
    (h : t.walk true k l [name] = .ok p) (hp : p.Takes m) :
    ∃ k₀ < k, ∀ t' : FileTree, t'.get? (name :: l) = some (.link target) →
      t'.walk true k l [name] =
        t'.walk true k₀ (if Path.isAbsolute target then [] else l) (Path.parts target) := by
  obtain ⟨hdot, hup, hlong⟩ := ordinary_of_walk_last h hp
  rw [walk_cons, if_neg hdot, if_neg hup, if_neg hlong, hget] at h
  cases k with
  | zero => simp at h
  | succ k =>
    refine ⟨k, Nat.lt_succ_self k, fun t' ht' => ?_⟩
    rw [walk_cons, if_neg hdot, if_neg hup, if_neg hlong, ht']
    simp

/-- The walk to a place where a file can be written leads to the file that is put there. -/
theorem walk_set (content : Bytes) (h : t.walk true k l names = .ok p) (hp : p.Takes m) :
    m ≠ [] ∧ t.Plain m ∧
      (t.set m (.file content)).walk true k l names = .ok (.taken m (.file content)) := by
  induction k using Nat.strongRecOn generalizing l names with
  | ind k ih =>
  rcases List.eq_nil_or_concat names with rfl | ⟨ds, name, rfl⟩
  · exact absurd hp (not_takes_of_walk_nil h)
  · rw [List.concat_eq_append] at h ⊢
    obtain ⟨k', d, hleads⟩ := exists_leads (List.cons_ne_nil _ _) h
    rw [hleads.walk (List.cons_ne_nil _ _)] at h
    by_cases hlink : ∃ target, t.get? (name :: d) = some (.link target)
    · obtain ⟨target, hget⟩ := hlink
      obtain ⟨k₀, hlt, hwalk⟩ := exists_walk_of_link hget h hp
      rw [hwalk t hget] at h
      obtain ⟨hm, hplain, hset⟩ := ih k₀ (Nat.lt_of_lt_of_le hlt hleads.le) h
      refine ⟨hm, hplain, ?_⟩
      rw [(hleads.set hm hplain).walk (List.cons_ne_nil _ _),
        hwalk _ (get?_set_of_plain hm hplain hget nofun)]
      exact hset
    · obtain ⟨rfl, hplain⟩ := plain_of_walk_last h hp fun target hget => hlink ⟨target, hget⟩
      have hm : name :: d ≠ [] := List.cons_ne_nil _ _
      obtain ⟨hdot, hup, hlong⟩ := ordinary_of_walk_last h hp
      refine ⟨hm, hplain, ?_⟩
      rw [(hleads.set hm hplain).walk (List.cons_ne_nil _ _), walk_cons, if_neg hdot, if_neg hup,
        if_neg hlong, get?_set t _ _ hm, if_pos rfl]
      rfl

/-- What was written is what stands at the path, unless a device took it. -/
theorem find_write (h : t.write path content = (.ok (), t'))
    (hdevice : ∀ l, t.find true path ≠ .ok (.taken l .device)) :
    ∃ l, t'.find true path = .ok (.taken l (.file content)) := by
  obtain ⟨m, p, hfind, hp, hstore⟩ : ∃ m p, t.find true path = .ok p ∧ p.Takes m ∧
      t.store m content = (.ok (), t') := by
    unfold write at h
    split at h
    · split at h <;> simp at h
    · split at h
      · simp at h
      · next m hfind => exact ⟨m, _, hfind, rfl, h⟩
      · next m old hfind => exact ⟨m, _, hfind, rfl, h⟩
      · simp at h
      · next m hfind => exact absurd hfind (hdevice m)
      · simp at h
  obtain rfl := store_ok hstore
  obtain ⟨-, -, hset⟩ := walk_set content (walk_of_find hfind) hp
  exact ⟨m, (find_of_find hfind _).trans hset⟩

end Scriptorium.FileTree
