import Scriptorium.Diagnostic.Transcript
import Scriptorium.Proofs.Diagnostic.Grammar

/-! Reading a transcript line by line. Blanks at the end of a line do not count, so it makes no
difference how the lines of a text are ended, and a line can only open a diagnostic of its own or
grow the last message. -/

namespace Scriptorium

open Text

namespace Transcript

variable {t t' : Transcript} {c : Char} {line : Text} {d : Diagnostic}
  {k : Severity × Option Text × Option Position}

/-! ### One line -/

theorem push_trimEnd (t : Transcript) (line : Text) : t.push (trimEnd line) = t.push line := by
  have hblank : allBlank (trimEnd line) = allBlank line := by
    rw [Bool.eq_iff_iff, ← trimEnd_eq_nil_iff, ← trimEnd_eq_nil_iff, trimEnd_trimEnd]
  unfold push headline?
  rw [hblank, trimEnd_trimEnd, trim_trimEnd]

theorem push_concat_of_blank (hc : isBlank c = true) (t : Transcript) (line : Text) :
    t.push (line ++ [c]) = t.push line := by
  have hend : trimEnd (line ++ [c]) = trimEnd line := List.rdropWhile_concat_pos _ _ _ hc
  rw [← push_trimEnd t (line ++ [c]), hend, push_trimEnd]

theorem push_dropReturn (t : Transcript) (line : Text) : t.push (dropReturn line) = t.push line := by
  unfold dropReturn
  split
  · next hlast =>
    obtain ⟨front, rfl⟩ := List.getLast?_eq_some_iff.mp hlast
    rw [List.dropLast_concat, push_concat_of_blank (by decide)]
  · rfl

theorem push_of_blank (h : allBlank line = true) (t : Transcript) : t.push line = t := by
  rw [push, h]
  rfl

theorem push_of_headline (hblank : allBlank line = false) (h : t.headline? line = some d) :
    t.push line = t ++ [d] := by
  rw [push, hblank, h]
  rfl

theorem push_cons (hc : isBlank c = false)
    (h : Diagnostic.readHeadline? true (trimEnd (c :: line)) = some d) :
    t.push (c :: line) = t ++ [d] := by
  have hbare : t.allowsBare (trimEnd (c :: line)) = true := by
    simp [allowsBare, trimEnd_cons hc, hc]
  exact push_of_headline (by simp [allBlank, hc]) (by rw [headline?, hbare, h])

theorem push_of_none (hblank : allBlank line = false) (h : (t ++ [d]).headline? line = none) :
    (t ++ [d]).push line = t ++ [{ d with message := d.message ++ '\n' :: trim line }] := by
  rw [push, hblank, h]
  simp [extend]

/-- What one more line makes of a transcript. -/
inductive Pushed (t : Transcript) (line : Text) : Transcript → Prop
  | blank (h : allBlank line = true) : Pushed t line t
  | opened {d : Diagnostic} (hprinted : allBlank line = false) (h : t.headline? line = some d) :
      Pushed t line (t ++ [d])
  | continued {front : Transcript} {d : Diagnostic} (hprinted : allBlank line = false)
      (h : t.headline? line = none) (ht : t = front ++ [d]) :
      Pushed t line (front ++ [{ d with message := d.message ++ '\n' :: trim line }])
  | unrecognised (hprinted : allBlank line = false) (h : t.headline? line = none) (ht : t = []) :
      Pushed t line [⟨.info, none, trim line, none⟩]

theorem pushed_push (t : Transcript) (line : Text) : Pushed t line (t.push line) := by
  cases hblank : allBlank line with
  | true =>
    rw [push_of_blank hblank]
    exact .blank hblank
  | false =>
    cases hline : t.headline? line with
    | some d =>
      rw [push_of_headline hblank hline]
      exact .opened hblank hline
    | none =>
      rcases List.eq_nil_or_concat t with rfl | ⟨front, d, rfl⟩
      · have hpush : push [] line = [⟨.info, none, trim line, none⟩] := by
          simp [push, hblank, hline, extend]
        rw [hpush]
        exact .unrecognised hblank hline rfl
      · rw [List.concat_eq_append] at hline ⊢
        rw [push_of_none hblank hline]
        exact .continued hblank hline rfl

theorem push_ne_nil (t : Transcript) (hblank : allBlank line = false) : t.push line ≠ [] := by
  have hpushed := pushed_push t line
  generalize t.push line = t' at hpushed
  cases hpushed with
  | blank h => simp [hblank] at h
  | opened | continued | unrecognised => simp

/-- A line that opens no headline opens at most a diagnostic that points nowhere. -/
theorem position_of_extend (h : t.extend line = t ++ [d]) : d.position = none := by
  rcases List.eq_nil_or_concat t with rfl | ⟨front, e, rfl⟩
  · obtain rfl : ⟨.info, none, line, none⟩ = d := by simpa [extend] using h
    rfl
  · simp [extend] at h

/-- What a diagnostic says apart from its message. -/
def heading (d : Diagnostic) : Severity × Option Text × Option Position :=
  (d.severity, d.code, d.position)

theorem Pushed.heading_isPrefix (h : Pushed t line t') : t.map heading <+: t'.map heading := by
  cases h with
  | blank => exact List.prefix_rfl
  | opened => exact ⟨[_], by rw [List.map_append]; rfl⟩
  | continued hprinted h hlast => simp [hlast, heading]
  | unrecognised hprinted h hnil => simp [hnil]

/-- A line changes at most the last message of what was read before it. -/
theorem heading_isPrefix_push (t : Transcript) (line : Text) :
    t.map heading <+: (t.push line).map heading := (pushed_push t line).heading_isPrefix

/-! ### Many lines -/

/-- Blank lines say nothing. -/
theorem foldl_push_filter (t : Transcript) (ls : List Text) :
    (ls.filter fun l => !allBlank l).foldl push t = ls.foldl push t := by
  induction ls generalizing t with
  | nil => rfl
  | cons l ls ih =>
    cases hblank : allBlank l with
    | true =>
      rw [List.filter_cons_of_neg (by simp [hblank]), List.foldl_cons, push_of_blank hblank, ih]
    | false =>
      rw [List.filter_cons_of_pos (by simp [hblank]), List.foldl_cons, List.foldl_cons, ih]

theorem heading_isPrefix_foldl (t : Transcript) (ls : List Text) :
    t.map heading <+: (ls.foldl push t).map heading := by
  induction ls generalizing t with
  | nil => exact List.prefix_rfl
  | cons l ls ih => exact (heading_isPrefix_push t l).trans (ih (t.push l))

/-- What a line opens is found, but for its message, in every text that has the line. -/
theorem exists_mem_read {s : Text} (hline : line ∈ lines s)
    (h : ∀ t : Transcript, ∃ d, t.push line = t ++ [d] ∧ heading d = k) :
    ∃ d ∈ read s, heading d = k := by
  obtain ⟨ls₁, ls₂, hlines⟩ := List.append_of_mem hline
  obtain ⟨d, hpush, rfl⟩ := h (ls₁.foldl push [])
  have hread : read s = ls₂.foldl push (ls₁.foldl push [] ++ [d]) := by
    rw [read, hlines, List.foldl_append, List.foldl_cons, hpush]
  have hmem : heading d ∈ (read s).map heading := by
    rw [hread]
    exact (heading_isPrefix_foldl _ ls₂).mem (by simp)
  simpa using hmem

theorem read_eq_foldl (s : Text) : read s = (s.splitOn '\n').foldl push [] := by
  have hmap (ls : List Text) (t : Transcript) :
      (ls.map dropReturn).foldl push t = ls.foldl push t := by
    rw [List.foldl_map]
    simp only [push_dropReturn]
  obtain ⟨front, last, hparts⟩ := List.eq_nil_or_concat (s.splitOn '\n') |>.resolve_left
    (List.splitOn_ne_nil '\n' s)
  rw [read, lines, hparts]
  simp only [List.concat_eq_append, List.dropLast_concat, List.getLast?_concat, List.foldl_append, hmap]
  cases last with
  | nil => rfl
  | cons c l => rfl

theorem read_unlines {ls : List Text} (h : ∀ l ∈ ls, '\n' ∉ l) :
    read (unlines ls) = ls.foldl push [] := by
  cases ls with
  | nil => rfl
  | cons l ls => rw [read_eq_foldl, unlines, List.splitOn_intercalate _ h (List.cons_ne_nil l ls)]

theorem read_concat_of_blank (hc : isBlank c = true) (s : Text) : read (s ++ [c]) = read s := by
  have hline (line : Text) (hfree : '\n' ∉ line) (t : Transcript) :
      ((line ++ [c]).splitOn '\n').foldl push t = (line.splitOn '\n').foldl push t := by
    by_cases hn : c = '\n'
    · subst hn
      rw [List.splitOn_append_cons_self, List.foldl_append]
      rfl
    · have hfree' : '\n' ∉ line ++ [c] := by simpa [Ne.symm hn] using hfree
      rw [List.splitOn_eq_singleton hfree, List.splitOn_eq_singleton hfree', List.foldl_cons,
        List.foldl_cons, push_concat_of_blank hc]
  rw [read_eq_foldl, read_eq_foldl]
  by_cases hs : '\n' ∈ s
  · obtain ⟨a, b, hrev, hfree⟩ := List.eq_append_cons_of_mem (List.mem_reverse.mpr hs)
    obtain rfl : s = b.reverse ++ '\n' :: a.reverse := by simpa using congrArg List.reverse hrev
    rw [List.append_assoc, List.cons_append, List.splitOn_append_cons_self,
      List.splitOn_append_cons_self, List.foldl_append, List.foldl_append,
      hline _ (by simpa using hfree)]
  · exact hline s hs []

theorem read_trimEnd (s : Text) : read (trimEnd s) = read s := by
  induction s using List.reverseRecOn with
  | nil => rfl
  | append_singleton s c ih =>
    cases hc : isBlank c with
    | false => rw [trimEnd_append_cons hc]; rfl
    | true =>
      have hend : trimEnd (s ++ [c]) = trimEnd s := List.rdropWhile_concat_pos _ _ _ hc
      rw [hend, ih, read_concat_of_blank hc]

end Transcript

end Scriptorium
