import Mathlib.Data.List.Infix
import Scriptorium.Proofs.Text.Cut

/-! Lines and their ends. Lines that hold no line feed, written below each other with a line feed
behind each, are the lines that are read back, but for one carriage return that each may lose; what
stands behind the last line feed keeps its own. -/

namespace Scriptorium.Text

variable {s l : Text} {ls : List Text}

theorem newline_notMem_of_mem_lines (h : l ∈ lines s) : '\n' ∉ l := by
  have hpart {part : Text} (hpart : part ∈ s.splitOn '\n') : '\n' ∉ part :=
    not_mem_of_mem_splitOn hpart
  rcases List.mem_append.mp h with h | h
  · obtain ⟨part, hmem, rfl⟩ := List.mem_map.mp h
    have hfree := hpart (List.mem_of_mem_dropLast hmem)
    unfold dropReturn
    split
    · exact fun hl => hfree (List.mem_of_mem_dropLast hl)
    · exact hfree
  · exact hpart (List.mem_of_getLast? (List.mem_of_mem_filter h |> Option.mem_toList.mp))

theorem unlines_concat (ls : List Text) (l : Text) :
    unlines (ls ++ [l]) = ls.flatMap (· ++ ['\n']) ++ l := by
  induction ls with
  | nil => simp [unlines]
  | cons m ls ih =>
    rw [List.flatMap_cons, List.append_assoc, ← ih, List.cons_append, unlines_cons,
      ← newline_unlines (by simp)]
    simp

/-! ### Carriage returns -/

theorem dropReturn_concat_return (l : Text) : dropReturn (l ++ ['\r']) = l := by
  simp [dropReturn]

theorem dropReturn_of_not (h : l.getLast? ≠ some '\r') : dropReturn l = l := if_neg h

/-! ### Reading lines back -/

theorem lines_append_newline (h : '\n' ∉ l) (s : Text) :
    lines (l ++ '\n' :: s) = dropReturn l :: lines s := by
  have hparts : (l ++ '\n' :: s).splitOn '\n' = l :: s.splitOn '\n' := by
    rw [List.splitOn_append_cons_self, List.splitOn_eq_singleton h, List.singleton_append]
  have hne := List.splitOn_ne_nil '\n' s
  rw [lines, lines, hparts, List.dropLast_cons_of_ne_nil hne, List.map_cons, List.cons_append,
    List.getLast?_cons_of_ne_nil hne]

theorem lines_of_oneLine (h : '\n' ∉ l) (hne : l ≠ []) : lines l = [l] := by
  simp [lines, List.splitOn_eq_singleton h, hne]

theorem lines_flatMap_append (h : ∀ l ∈ ls, '\n' ∉ l) (s : Text) :
    lines (ls.flatMap (· ++ ['\n']) ++ s) = ls.map dropReturn ++ lines s := by
  induction ls with
  | nil => rfl
  | cons l ls ih =>
    have hl := h l List.mem_cons_self
    have hls : ∀ m ∈ ls, '\n' ∉ m := fun m hm => h m (List.mem_cons_of_mem l hm)
    rw [List.flatMap_cons, List.append_assoc, List.append_assoc, List.singleton_append,
      lines_append_newline hl, ih hls, List.map_cons, List.cons_append]

theorem lines_flatMap (h : ∀ l ∈ ls, '\n' ∉ l) :
    lines (ls.flatMap (· ++ ['\n'])) = ls.map dropReturn := by
  simpa [lines] using lines_flatMap_append h []

/-- The last line is also read back if no line feed ends it, unless it is empty. -/
theorem lines_unlines (h : ∀ l ∈ ls, '\n' ∉ l) (hreturn : ∀ l ∈ ls, l.getLast? ≠ some '\r')
    (hne : ∀ l ∈ ls, l ≠ []) : lines (unlines ls) = ls := by
  have hkeep (ms : List Text) (hms : ∀ m ∈ ms, m ∈ ls) : ms.map dropReturn = ms :=
    (List.map_congr_left fun m hm => dropReturn_of_not (hreturn m (hms m hm))).trans (List.map_id _)
  rcases List.eq_nil_or_concat ls with rfl | ⟨front, l, rfl⟩
  · rfl
  · simp only [List.concat_eq_append] at *
    have hl : l ∈ front ++ [l] := by simp
    rw [unlines_concat, lines_flatMap_append fun m hm => h m (List.mem_append_left [l] hm),
      hkeep front fun m hm => List.mem_append_left [l] hm, lines_of_oneLine (h l hl) (hne l hl)]

/-- Every list of lines is that of a text. -/
theorem exists_lines_eq (h : ∀ l ∈ ls, '\n' ∉ l) : ∃ s, lines s = ls := by
  have hfree : ∀ l ∈ ls.map (· ++ ['\r']), '\n' ∉ l := by
    intro l hl
    obtain ⟨m, hm, rfl⟩ := List.mem_map.mp hl
    simpa using h m hm
  refine ⟨(ls.map (· ++ ['\r'])).flatMap (· ++ ['\n']), ?_⟩
  rw [lines_flatMap hfree, List.map_map]
  exact (List.map_congr_left fun m _ => dropReturn_concat_return m).trans (List.map_id _)

end Scriptorium.Text
