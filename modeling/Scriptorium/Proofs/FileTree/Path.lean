import Mathlib.Data.List.Basic
import Scriptorium.FileTree.Path
import Scriptorium.Proofs.Text.Cut

/-! The names of a joined path. Those of the directory come first, whether it ends in a slash or
not, and what is joined to it follows with its own. -/

namespace Scriptorium.Path

open Text

variable {dir p a b : Text} {c : Char}

/-- The names in a path, the slashes dropped. -/
def names (p : Text) : List Text := (p.splitOn '/').filter (· ≠ [])

theorem names_append_slash (a b : Text) : names (a ++ '/' :: b) = names a ++ names b := by
  rw [names, List.splitOn_append_cons_self, List.filter_append]
  rfl

theorem names_of_name (hp : p ≠ []) (hslash : '/' ∉ p) : names p = [p] := by
  rw [names, List.splitOn_eq_singleton hslash]
  simp [hp]

theorem eq_slash_of_names (h : names p = []) (hc : c ∈ p) : c = '/' := by
  have hparts : ['/'].intercalate (p.splitOn '/') = p := List.intercalate_splitOn '/'
  rw [← hparts] at hc
  rcases mem_intercalate hc with rfl | ⟨name, hname, hc⟩
  · rfl
  · have hnil : name = [] := by
      by_contra hne
      have hmem : name ∈ names p := List.mem_filter.mpr ⟨hname, by simpa using hne⟩
      simp [h] at hmem
    simp [hnil] at hc

theorem endsInSlash_append_slash (hp : p ≠ []) : endsInSlash (a ++ '/' :: p) = endsInSlash p := by
  rw [endsInSlash, endsInSlash, List.append_cons, List.getLast?_append_of_ne_nil _ hp]

theorem parts_append_slash (a : Text) (hp : p ≠ []) : parts (a ++ '/' :: p) = names a ++ parts p := by
  have hnames := names_append_slash a p
  unfold names at hnames
  rw [parts, endsInSlash_append_slash hp, hnames, List.append_assoc]
  rfl

theorem parts_ne_nil (hp : p ≠ []) : parts p ≠ [] := by
  intro h
  obtain ⟨hnames, hend⟩ := List.append_eq_nil_iff.mp h
  have hslash : p.getLast hp = '/' := eq_slash_of_names hnames (List.getLast_mem hp)
  simp [endsInSlash, List.getLast?_eq_some_getLast hp, hslash] at hend

/-- What is joined to a directory comes behind the names of it. -/
theorem parts_join (dir : Text) (habs : isAbsolute p = false) (hp : p ≠ []) :
    parts (join dir p) = names dir ++ parts p := by
  unfold join
  rw [habs, Bool.false_or]
  split
  · next hdir =>
    rw [List.isEmpty_iff.mp hdir]
    rfl
  · split
    · next hend =>
      obtain ⟨front, rfl⟩ : ∃ front, dir = front ++ ['/'] :=
        List.getLast?_eq_some_iff.mp (by simpa [endsInSlash] using hend)
      have hdir : names (front ++ ['/']) = names front := by
        rw [names_append_slash]
        simp [names]
      rw [hdir, List.append_assoc]
      exact parts_append_slash front hp
    · exact parts_append_slash dir hp

theorem join_inj {q : Text} (hp : isAbsolute p = false) (hq : isAbsolute q = false) :
    join dir p = join dir q ↔ p = q := by
  simp only [join, hp, hq, Bool.false_or]
  split
  · rfl
  · split <;> simp

theorem isAbsolute_join (dir : Text) (habs : isAbsolute p = false) :
    isAbsolute (join dir p) = isAbsolute dir := by
  unfold join
  rw [habs, Bool.false_or]
  cases dir with
  | nil => exact habs
  | cons c dir => by_cases hend : endsInSlash (c :: dir) <;> simp [hend, isAbsolute]

end Scriptorium.Path
