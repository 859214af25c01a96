import Scriptorium.Proofs.Diagnostic.OfLine
import Scriptorium.Proofs.Diagnostic.Printing
import Scriptorium.Proofs.Text.Lines

/-! Reports and verdicts. A report of what a compiler printed has one line for each line that it
printed and that is not blank, in the same order: the headline itself, or the trimmed line if it is
none. So no text gets lost on the way from the compiler to its caller. -/

namespace Scriptorium

open Text

/-! ### Verdicts -/

namespace CompilerRun

variable {r : CompilerRun} {u : CompiledUnit}

/-- A run is accepted exactly if it left a unit, exited with zero and reported no error. -/
theorem verdict_eq_accepted_iff :
    r.verdict = .accepted u ↔ r.unit = some u ∧ r.exitStatus = 0 ∧ r.hasErrors = false := by
  unfold verdict
  cases r.unit with
  | none => simp
  | some v => cases r.hasErrors <;> by_cases h : r.exitStatus = 0 <;> simp [h]

theorem verdict_eq_rejected (h : ∀ u, r.verdict ≠ .accepted u) :
    r.verdict = .rejected (Transcript.report r.diagnostics r.exitStatus) := by
  unfold verdict at h ⊢
  cases hu : r.unit with
  | none => rfl
  | some u =>
    simp only [hu] at h
    dsimp only
    split at h
    · exact absurd rfl (h u)
    · next hfailed => rw [if_neg hfailed]

end CompilerRun

/-! ### Lines of a report -/

/-- The lines of a text that are not blank. -/
def Text.printedLines (s : Text) : List Text := (lines s).filter fun l => !allBlank l

/-- What a report shows for a line. A first line that opens no diagnostic is shown as information. -/
def Transcript.shownLine (first : Bool) (line : Text) : Text :=
  match Diagnostic.readHeadline? (first || !(line.head?.any isBlank)) (trimEnd line) with
  | some d => d.render
  | none => if first then "info: ".toList ++ trim line else trim line

/-- What a report shows for a text. -/
def Transcript.shown (s : Text) : List Text :=
  (printedLines s).mapIdx fun k line => shownLine (k == 0) line

namespace Diagnostic

variable {line : Text} {d : Diagnostic}

theorem print_of_oneLine (h : '\n' ∉ d.message) : d.print .plain = [d.render] := by
  have hlines : d.message.splitOn '\n' = [d.message] := List.splitOn_eq_singleton h
  have hprint : d.print .plain = [d.headline .pair] := by
    simp [print, furtherLines, hlines, Layout.plain]
  rw [render_eq_unlines, hprint, unlines_cons]
  simp

theorem print_extended (d : Diagnostic) (h : '\n' ∉ line) :
    ({ d with message := d.message ++ '\n' :: line } : Diagnostic).print .plain =
      d.print .plain ++ [line] := by
  have hlines : (d.message ++ '\n' :: line).splitOn '\n' = d.message.splitOn '\n' ++ [line] := by
    rw [List.splitOn_append_cons_self, List.splitOn_eq_singleton h]
  obtain ⟨l, ls, hcons⟩ := List.exists_cons_of_ne_nil (List.splitOn_ne_nil '\n' d.message)
  have hindent (ls : List Text) :
      ls.mapIdx (fun k line => Layout.plain.indent k ++ line) = ls :=
    List.ext_getElem (by simp) fun _ _ _ => by simp [Layout.plain]
  simp only [print, furtherLines, hlines, hcons, hindent, headline, body, firstLine, codePart,
    List.cons_append, List.headD_cons, List.tail_cons]

end Diagnostic

namespace Transcript

variable {t : Transcript} {line : Text}

/-- The lines of a transcript that is printed without indentation. -/
def rows (t : Transcript) : List Text := t.flatMap fun d => d.print .plain

theorem rows_append (t t' : Transcript) : rows (t ++ t') = t.rows ++ rows t' := List.flatMap_append

theorem rows_eq_nil_iff : t.rows = [] ↔ t = [] := by
  cases t <;> simp [rows, Diagnostic.print]

theorem headline?_eq (t : Transcript) (h : allBlank line = false) : t.headline? line =
    Diagnostic.readHeadline? (t.isEmpty || !(line.head?.any isBlank)) (trimEnd line) := by
  have hne : trimEnd line ≠ [] := fun hnil => by simp [trimEnd_eq_nil_iff.mp hnil] at h
  obtain ⟨c, s, hcons⟩ := List.exists_cons_of_ne_nil hne
  obtain ⟨rest, hrest⟩ := trimEnd_isPrefix line
  have hhead : line.head? = (trimEnd line).head? := by
    rw [hcons] at hrest ⊢
    rw [← hrest]
    rfl
  rw [headline?, allowsBare, hhead, Bool.or_comm]

theorem rows_push (t : Transcript) (hblank : allBlank line = false) (hline : '\n' ∉ line) :
    (t.push line).rows = t.rows ++ [shownLine t.isEmpty line] := by
  have hend : '\n' ∉ trimEnd line := fun hmem => hline ((trimEnd_isPrefix line).subset hmem)
  have htrim : '\n' ∉ trim line := fun hmem => hline (trim_subset line hmem)
  have hhead := t.headline?_eq hblank
  unfold shownLine
  rw [← hhead]
  cases hfound : t.headline? line with
  | some d =>
    have hd : d.OfLine (trimEnd line) := Diagnostic.ofLine_of_readHeadline? (hhead ▸ hfound)
    have hmessage : '\n' ∉ d.message := fun hmem => hend (hd.message hmem)
    rw [push_of_headline hblank hfound, rows_append]
    simp [rows, Diagnostic.print_of_oneLine hmessage]
  | none =>
    rcases List.eq_nil_or_concat t with rfl | ⟨front, d, rfl⟩
    · have hpush : push [] line = [⟨.info, none, trim line, none⟩] := by
        rw [push, hblank, hfound]
        rfl
      have hprint : rows [⟨.info, none, trim line, none⟩] = ["info: ".toList ++ trim line] := by
        rw [rows, List.flatMap_singleton, Diagnostic.print_of_oneLine htrim]
        rfl
      rw [hpush, hprint]
      rfl
    · rw [List.concat_eq_append] at hfound ⊢
      rw [push_of_none hblank hfound, rows_append, rows_append]
      simp [rows, Diagnostic.print_extended d htrim]

theorem rows_foldl {ls : List Text} (t : Transcript)
    (h : ∀ l ∈ ls, allBlank l = false ∧ '\n' ∉ l) : rows (ls.foldl push t) =
      t.rows ++ ls.mapIdx fun k line => shownLine (t.isEmpty && k == 0) line := by
  induction ls generalizing t with
  | nil => simp
  | cons l ls ih =>
    obtain ⟨hblank, hline⟩ := h l List.mem_cons_self
    have hrest := ih (t.push l) fun l hl => h l (List.mem_cons_of_mem _ hl)
    have hne : (t.push l).isEmpty = false := by simpa using push_ne_nil t hblank
    rw [List.foldl_cons, hrest, rows_push t hblank hline, List.mapIdx_cons, hne]
    simp

theorem rows_read (s : Text) : (read s).rows = shown s := by
  have hprinted : ∀ l ∈ printedLines s, allBlank l = false ∧ '\n' ∉ l := by
    intro l hl
    obtain ⟨hline, hblank⟩ := List.mem_filter.mp hl
    exact ⟨by simpa using hblank, newline_notMem_of_mem_lines hline⟩
  rw [read, ← foldl_push_filter, ← printedLines, rows_foldl [] hprinted]
  rfl

theorem read_eq_nil_iff {s : Text} : read s = [] ↔ allBlank s = true := by
  constructor
  · intro h
    have hblank : (s.splitOn '\n').filter (fun l => !allBlank l) = [] := by
      rw [read_eq_foldl, ← foldl_push_filter] at h
      rcases List.eq_nil_or_concat ((s.splitOn '\n').filter fun l => !allBlank l) with
        hnil | ⟨front, l, hlines⟩
      · exact hnil
      · have hl : l ∈ (s.splitOn '\n').filter fun l => !allBlank l := by simp [hlines]
        rw [hlines, List.concat_eq_append, List.foldl_concat] at h
        exact absurd h (push_ne_nil _ (by simpa using (List.mem_filter.mp hl).2))
    rw [allBlank, List.all_eq_true]
    intro c hc
    have hparts : unlines (s.splitOn '\n') = s := List.intercalate_splitOn '\n'
    rw [← hparts] at hc
    rcases mem_intercalate hc with rfl | ⟨l, hl, hc⟩
    · decide
    · have hlblank : allBlank l = true := by simpa using List.filter_eq_nil_iff.mp hblank l hl
      exact List.all_eq_true.mp hlblank c hc
  · intro h
    rw [← read_trimEnd, trimEnd_eq_nil_iff.mpr h]
    rfl

/-! ### Trimmed reports -/

variable {first : Bool}

theorem shownLine_eq_cons (first : Bool) (hblank : allBlank line = false) :
    ∃ c s, shownLine first line = c :: s ∧ isBlank c = false := by
  unfold shownLine
  split
  · next d hread => exact (Diagnostic.ofLine_of_readHeadline? hread).render_eq_cons
  · cases first with
    | true => exact ⟨'i', _, rfl, by decide⟩
    | false => exact trim_eq_cons fun hnil => by simp [trim_eq_nil_iff.mp hnil] at hblank

theorem newline_notMem_shownLine (first : Bool) (hline : '\n' ∉ line) :
    '\n' ∉ shownLine first line := by
  have hend : '\n' ∉ trimEnd line := fun hmem => hline ((trimEnd_isPrefix line).subset hmem)
  have htrim : '\n' ∉ trim line := fun hmem => hline (trim_subset line hmem)
  unfold shownLine
  split
  · next d hread =>
    exact (Diagnostic.ofLine_of_readHeadline? hread).newline_notMem_render hend
  · cases first <;> simp [htrim]

/-- At the end of a line that is shown stands at most one blank. -/
theorem trimEnd_shownLine (first : Bool) (hblank : allBlank line = false) :
    trimEnd (shownLine first line) = shownLine first line ∨
      trimEnd (shownLine first line) ++ [' '] = shownLine first line := by
  unfold shownLine
  split
  · next d hread => exact (Diagnostic.ofLine_of_readHeadline? hread).trimEnd_render
  · left
    have hne : trim line ≠ [] := fun hnil => by simp [trim_eq_nil_iff.mp hnil] at hblank
    have hlast := (trim_eq_self_iff.mp (trim_trim line)).2
    cases first with
    | true =>
      rw [if_pos rfl, trimEnd_eq_self_iff, List.getLast?_append_of_ne_nil _ hne]
      exact hlast
    | false => exact trimEnd_eq_self_iff.mpr hlast

theorem mem_shown {s row : Text} (h : row ∈ shown s) : ∃ line ∈ lines s,
    allBlank line = false ∧ '\n' ∉ line ∧ ∃ first, row = shownLine first line := by
  obtain ⟨k, hk, rfl⟩ := List.mem_mapIdx.mp h
  have hmem : (printedLines s)[k] ∈ printedLines s := List.getElem_mem hk
  obtain ⟨hline, hblank⟩ := List.mem_filter.mp hmem
  exact ⟨_, hline, by simpa using hblank, newline_notMem_of_mem_lines hline, _, rfl⟩

/-- The report of a text that is not blank is what is shown for its lines, the end trimmed. -/
theorem report_read {s : Text} (hblank : allBlank s = false) (status : Int) :
    report (read s) status = trimEnd (unlines (shown s)) := by
  have hne : read s ≠ [] := fun h => by simp [read_eq_nil_iff.mp h] at hblank
  have hreport := report_eq status hne
  rw [← rows, rows_read] at hreport
  obtain ⟨row, rest, hshown⟩ : ∃ row rest, shown s = row :: rest :=
    List.exists_cons_of_ne_nil fun h => hne (rows_eq_nil_iff.mp ((rows_read s).trans h))
  obtain ⟨line, -, hline, -, first, rfl⟩ := mem_shown (hshown ▸ List.mem_cons_self)
  obtain ⟨c, a, hcons, hc⟩ := shownLine_eq_cons first hline
  rw [hreport, trim, hshown, unlines_cons, hcons, List.cons_append, trimStart_cons_of_not hc]

theorem splitOn_report_read {s : Text} (hblank : allBlank s = false) (status : Int) :
    ∃ front last, shown s = front ++ [last] ∧
      (report (read s) status).splitOn '\n' = front ++ [trimEnd last] ∧
      (trimEnd last = last ∨ trimEnd last ++ [' '] = last) := by
  obtain ⟨front, last, hshown⟩ : ∃ front last, shown s = front ++ [last] := by
    rcases List.eq_nil_or_concat (shown s) with hnil | ⟨front, last, hshown⟩
    · have hread : read s = [] := rows_eq_nil_iff.mp ((rows_read s).trans hnil)
      simp [read_eq_nil_iff.mp hread] at hblank
    · exact ⟨front, last, by rw [hshown, List.concat_eq_append]⟩
  have hrow : ∀ row ∈ front ++ [last], ∃ line ∈ lines s,
      allBlank line = false ∧ '\n' ∉ line ∧ ∃ first, row = shownLine first line :=
    fun row hmem => mem_shown (hshown ▸ hmem)
  obtain ⟨line, -, hline, hfree, first, rfl⟩ := hrow last (by simp)
  obtain ⟨c, a, hcons, hc⟩ := shownLine_eq_cons first hline
  have htrim : trimEnd (unlines (shown s)) = unlines (front ++ [trimEnd (shownLine first line)]) := by
    rw [hshown, unlines_concat, unlines_concat, hcons, trimEnd_append_cons hc, trimEnd_cons hc]
  have hfront : ∀ row ∈ front, '\n' ∉ row := fun row hmem => by
    obtain ⟨line, -, -, hfree, first, rfl⟩ := hrow row (by simp [hmem])
    exact newline_notMem_shownLine first hfree
  have hlast : '\n' ∉ trimEnd (shownLine first line) := fun hmem =>
    newline_notMem_shownLine first hfree ((trimEnd_isPrefix _).subset hmem)
  refine ⟨front, shownLine first line, hshown, ?_, trimEnd_shownLine first hline⟩
  rw [report_read hblank, htrim, unlines, List.splitOn_intercalate]
  · simpa [or_imp, forall_and] using ⟨hfront, hlast⟩
  · simp

/-- No text of a compiler is lost: a text is reported as empty only if it is blank, and otherwise
its report has one line for each line that is not blank, of which only the last may be trimmed, by
one blank. -/
theorem report_shows_every_line (s : Text) (status : Int) :
    (read s = [] ↔ allBlank s = true) ∧
    (allBlank s = true → report (read s) status =
      if status = 0 then "Compilation produced no output unit.".toList
      else "Compilation failed with exit code ".toList ++ signedDecimal status ++ ['.']) ∧
    (allBlank s = false → ∃ front last, shown s = front ++ [last] ∧
      (report (read s) status).splitOn '\n' = front ++ [trimEnd last] ∧
      (trimEnd last = last ∨ trimEnd last ++ [' '] = last)) := by
  refine ⟨read_eq_nil_iff, fun hblank => ?_, fun hblank => splitOn_report_read hblank status⟩
  rw [read_eq_nil_iff.mpr hblank]
  rfl

/-- A line that is no headline, an indented note, a blank line, and a warning without a message. -/
def noisy : Text := "building\n  note: 2 files\n\na.fs(1,2): warning: \n".toList

theorem report_noisy :
    shown noisy =
      ["info: building".toList, "note: 2 files".toList, "a.fs(1,2): warning: ".toList] ∧
    (report (read noisy) 1).splitOn '\n' =
      ["info: building".toList, "note: 2 files".toList, "a.fs(1,2): warning:".toList] ∧
    report (read [' ', '\n']) 3 = "Compilation failed with exit code 3.".toList := by
  have hshown : shown noisy = ["info: building".toList, "note: 2 files".toList] ++
      ["a.fs(1,2): warning: ".toList] := by decide
  obtain ⟨front, last, heq, hreport, -⟩ := (report_shows_every_line noisy 1).2.2 (by decide)
  obtain ⟨rfl, hlast⟩ := List.append_inj' (hshown.symm.trans heq) rfl
  obtain rfl := List.cons.inj hlast |>.1
  refine ⟨hshown, hreport.trans (by decide), ?_⟩
  rw [(report_shows_every_line [' ', '\n'] 3).2.1 (by decide)]
  decide

end Transcript

end Scriptorium
