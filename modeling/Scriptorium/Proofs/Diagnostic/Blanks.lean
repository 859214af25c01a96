import Scriptorium.Proofs.Diagnostic.Report

/-! Blanks around lines. A line is read through its trimmed text and through whether it is indented
at all. So two texts are read alike if their lines that are not blank agree in that much, whatever
stands at the ends of their lines and in between. -/

namespace Scriptorium

open Text

/-! ### Lines -/

/-- Whether a line is indented, and what stands between its blanks. -/
def Text.shape (line : Text) : Bool × Text := (line.head?.any isBlank, trim line)

/-- The text with line feeds that follow a carriage return. -/
def Text.withReturns (s : Text) : Text := s.flatMap fun c => if c = '\n' then ['\r', '\n'] else [c]

/-- What a line may be indented by. -/
structure Text.Indent (indent : Text) : Prop where
  ne_nil : indent ≠ []
  blank : ∀ c ∈ indent, isBlank c = true
  oneLine : '\n' ∉ indent

namespace Transcript

variable {t : Transcript} {line line' s rest indent indent' blanks : Text} {ls ls' : List Text}

theorem push_eq_of_shape (h : shape line = shape line') (t : Transcript) :
    t.push line = t.push line' := by
  obtain ⟨hindented, htrim⟩ := Prod.mk.inj h
  have hblank : allBlank line = allBlank line' := by
    rw [Bool.eq_iff_iff, ← trim_eq_nil_iff, ← trim_eq_nil_iff, htrim]
  cases hline : allBlank line with
  | true => rw [push_of_blank hline, push_of_blank (hblank ▸ hline)]
  | false =>
    have hheadline : t.headline? line = t.headline? line' := by
      rw [headline?_eq t hline, headline?_eq t (hblank ▸ hline), hindented,
        Diagnostic.readHeadline?_trimEnd, Diagnostic.readHeadline?_trimEnd, htrim]
    rw [push, push, hblank, hheadline, htrim]

theorem foldl_push_eq_of_shape (h : ls.map shape = ls'.map shape) (t : Transcript) :
    ls.foldl push t = ls'.foldl push t := by
  induction ls generalizing t ls' with
  | nil =>
    obtain rfl : ls' = [] := by simpa [eq_comm] using h
    rfl
  | cons l ls ih =>
    cases ls' with
    | nil => simp at h
    | cons l' ls' =>
      rw [List.map_cons, List.map_cons] at h
      obtain ⟨hl, hls⟩ := List.cons.inj h
      rw [List.foldl_cons, List.foldl_cons, push_eq_of_shape hl, ih hls]

theorem read_eq_of_shapes {s s' : Text}
    (h : (printedLines s).map shape = (printedLines s').map shape) : read s = read s' := by
  have hprinted (s : Text) : read s = (printedLines s).foldl push [] := by
    rw [read, printedLines, foldl_push_filter]
  rw [hprinted, hprinted, foldl_push_eq_of_shape h]

/-! ### Texts -/

theorem read_append_newline (s rest : Text) :
    read (s ++ '\n' :: rest) = (rest.splitOn '\n').foldl push (read s) := by
  rw [read_eq_foldl, List.splitOn_append_cons_self, List.foldl_append, ← read_eq_foldl]

theorem read_append_of_lines (h : ∀ c ∈ s.getLast?, c = '\n') (rest : Text) :
    read (s ++ rest) = (rest.splitOn '\n').foldl push (read s) := by
  rcases List.eq_nil_or_concat s with rfl | ⟨front, c, rfl⟩
  · exact read_eq_foldl rest
  · obtain rfl : c = '\n' := h c (by simp)
    rw [List.concat_eq_append, read_concat_of_blank (by decide), List.append_assoc,
      List.singleton_append, read_append_newline]

theorem read_append_of_blank (h : ∀ c ∈ blanks, isBlank c = true) (s : Text) :
    read (s ++ blanks) = read s := by
  induction blanks generalizing s with
  | nil => rw [List.append_nil]
  | cons c blanks ih =>
    rw [← List.singleton_append, ← List.append_assoc, ih fun x hx => h x (List.mem_cons_of_mem c hx),
      read_concat_of_blank (h c List.mem_cons_self)]

/-- The first line of a text takes up what is put in front of it, up to a line feed. -/
theorem exists_first_line (s : Text) : ∃ line lines,
    ∀ front, '\n' ∉ front → (front ++ s).splitOn '\n' = (front ++ line) :: lines := by
  by_cases hs : '\n' ∈ s
  · obtain ⟨line, rest, rfl, hline⟩ := List.eq_append_cons_of_mem hs
    refine ⟨line, rest.splitOn '\n', fun front hfront => ?_⟩
    have hfirst : '\n' ∉ front ++ line := by simp [hfront, hline]
    rw [← List.append_assoc, List.splitOn_append_cons_self, List.splitOn_eq_singleton hfirst,
      List.singleton_append]
  · exact ⟨s, [], fun front hfront => List.splitOn_eq_singleton (by simp [hfront, hs])⟩

theorem shape_indent (hne : indent ≠ []) (h : ∀ c ∈ indent, isBlank c = true) (line : Text) :
    shape (indent ++ line) = (true, trim line) := by
  obtain ⟨c, front, rfl⟩ := List.exists_cons_of_ne_nil hne
  rw [shape, trim_append_of_blank h]
  simp [h c List.mem_cons_self]

theorem foldl_push_indent (h : Indent indent) (h' : Indent indent') (t : Transcript) (rest : Text) :
    ((indent ++ rest).splitOn '\n').foldl push t = ((indent' ++ rest).splitOn '\n').foldl push t := by
  obtain ⟨line, lines, hsplit⟩ := exists_first_line rest
  have hshape : shape (indent ++ line) = shape (indent' ++ line) := by
    rw [shape_indent h.ne_nil h.blank, shape_indent h'.ne_nil h'.blank]
  rw [hsplit indent h.oneLine, hsplit indent' h'.oneLine, List.foldl_cons, List.foldl_cons,
    push_eq_of_shape hshape]

theorem withReturns_of_notMem (h : '\n' ∉ s) : withReturns s = s := by
  have hkeep : ∀ c ∈ s, (if c = '\n' then ['\r', '\n'] else [c]) = [c] := by
    intro c hc
    rw [if_neg]
    rintro rfl
    exact h hc
  rw [withReturns, List.flatMap_congr hkeep, List.flatMap_singleton']

theorem withReturns_append_newline (h : '\n' ∉ s) (rest : Text) :
    withReturns (s ++ '\n' :: rest) = s ++ ['\r'] ++ '\n' :: withReturns rest := by
  rw [withReturns, List.flatMap_append, ← withReturns, withReturns_of_notMem h, List.flatMap_cons,
    ← withReturns]
  simp

theorem foldl_push_withReturns (t : Transcript) (s : Text) :
    ((withReturns s).splitOn '\n').foldl push t = (s.splitOn '\n').foldl push t := by
  -- by the length of the text, as the rest behind the first line is shorter
  induction hn : s.length using Nat.strong_induction_on generalizing s t with
  | _ n ih =>
    by_cases hs : '\n' ∈ s
    · obtain ⟨line, rest, rfl, hline⟩ := List.eq_append_cons_of_mem hs
      have hreturn : '\n' ∉ line ++ ['\r'] := by simp [hline]
      rw [withReturns_append_newline hline, List.splitOn_append_cons_self,
        List.splitOn_append_cons_self, List.foldl_append, List.foldl_append,
        List.splitOn_eq_singleton hreturn, List.splitOn_eq_singleton hline, List.foldl_cons,
        List.foldl_cons, push_concat_of_blank (by decide)]
      exact ih rest.length (by simp [← hn]; omega) _ rest rfl
    · rw [withReturns_of_notMem hs]

/-- Two texts are read alike if their lines that are not blank, taken in order, have the same text
between their blanks and are both indented or both not. So it makes no difference whether lines are
ended by a line feed alone or behind a carriage return, what blanks stand at the end of a line or of
the text, a last line feed among them, whether blank lines are put in anywhere, and by how much and
with what a line is indented, as long as it is. -/
theorem read_of_same_shapes :
    (∀ s s', (printedLines s).map shape = (printedLines s').map shape → read s = read s') ∧
      (∀ s, read (withReturns s) = read s) ∧
      (∀ s blanks, (∀ c ∈ blanks, isBlank c = true) → read (s ++ blanks) = read s ∧
        ∀ rest, read (s ++ blanks ++ '\n' :: rest) = read (s ++ '\n' :: rest)) ∧
      (∀ s blanks rest, (∀ c ∈ blanks, isBlank c = true) → (∀ c ∈ s.getLast?, c = '\n') →
        read (s ++ blanks ++ '\n' :: rest) = read (s ++ rest)) ∧
      ∀ s indent indent' rest, Indent indent → Indent indent' → (∀ c ∈ s.getLast?, c = '\n') →
        read (s ++ indent ++ rest) = read (s ++ indent' ++ rest) := by
  refine ⟨fun _ _ => read_eq_of_shapes, fun s => ?_, fun s blanks h => ?_,
    fun s blanks rest h hs => ?_, fun s indent indent' rest h h' hs => ?_⟩
  · rw [read_eq_foldl, foldl_push_withReturns, ← read_eq_foldl]
  · refine ⟨read_append_of_blank h s, fun rest => ?_⟩
    rw [read_append_newline, read_append_newline, read_append_of_blank h]
  · rw [read_append_newline, read_append_of_blank h, read_append_of_lines hs]
  · rw [List.append_assoc, List.append_assoc, read_append_of_lines hs, read_append_of_lines hs,
      foldl_push_indent h h']

example : read "a.fs(1,2): error: x\r\n\t\r\n\t y \r\n".toList =
    read "a.fs(1,2): error: x\n y".toList := by decide

end Transcript

end Scriptorium
