import Scriptorium.CompilerRun
import Scriptorium.Proofs.Diagnostic.Position
import Scriptorium.Proofs.Diagnostic.Transcript

/-! Reading undoes printing. A compiler may write each diagnostic in a dialect of its own and indent
the further lines of a message as it likes; as long as no text in a diagnostic can be taken for
punctuation of its headline, the transcript is the list of diagnostics that were printed. -/

namespace Scriptorium

open Text

/-! ### Printing -/

namespace Diagnostic

/-- How a diagnostic is laid out: the dialect of its position, and what stands in front of each
further line of its message. -/
structure Layout where
  dialect : Dialect
  indent : Nat → Text

/-- The layout of a report. -/
def Layout.plain : Layout := ⟨.pair, fun _ => []⟩

variable {d : Diagnostic} {y : Layout}

def firstLine (d : Diagnostic) : Text := (d.message.splitOn '\n').headD []

def furtherLines (d : Diagnostic) : List Text := (d.message.splitOn '\n').tail

/-- What is printed of a diagnostic behind its location, up to the end of the line. -/
def body (d : Diagnostic) : Text := d.severity.word ++ d.codePart ++ ':' :: ' ' :: d.firstLine

def headline (d : Diagnostic) (y : Dialect) : Text :=
  match d.position with
  | some p => p.write y ++ ':' :: ' ' :: d.body
  | none => d.body

/-- The lines of a printed diagnostic. -/
def print (d : Diagnostic) (y : Layout) : List Text :=
  d.headline y.dialect :: d.furtherLines.mapIdx fun k line => y.indent k ++ line

/-- A file name that cannot be taken for anything else at the front of a line. -/
structure PlainFile (f : Text) : Prop extends Position.FileName f where
  oneLine : '\n' ∉ f
  noSeparator : ¬[':', ' '] <:+: f
  notAnnounced : ¬Severity.Announced f

instance (f : Text) : Decidable (PlainFile f) :=
  decidable_of_iff (Position.FileName f ∧ '\n' ∉ f ∧ ¬[':', ' '] <:+: f ∧ ¬Severity.Announced f)
    ⟨fun ⟨h₁, h₂, h₃, h₄⟩ => ⟨h₁, h₂, h₃, h₄⟩, fun ⟨h₁, h₂, h₃, h₄⟩ => ⟨h₁, h₂, h₃, h₄⟩⟩

/-- A diagnostic whose texts cannot be taken for punctuation of a headline. -/
structure Printable (d : Diagnostic) : Prop where
  first : trim d.firstLine = d.firstLine
  further : ∀ l ∈ d.furtherLines, l ≠ [] ∧ trim l = l ∧ ¬[':', ' '] <:+: l
  code : ∀ c ∈ d.code, c ≠ [] ∧ ':' ∉ c ∧ ∀ x ∈ c, isBlank x = false
  file : ∀ p ∈ d.position, ∀ f ∈ p.file, PlainFile f

/-- A layout that keeps a diagnostic in one piece: colons stand behind a file that is no severity
word, and a further line is indented, or it does not begin like a body. -/
structure Fits (d : Diagnostic) (y : Layout) : Prop where
  colons : y.dialect = .colons → ∀ p ∈ d.position, ∃ f ∈ p.file, Severity.ofWord? f = none
  blanks : ∀ k, ∀ c ∈ y.indent k, isBlank c = true ∧ c ≠ '\n'
  indented : ∀ k, ∀ l ∈ d.furtherLines[k]?, y.indent k ≠ [] ∨ ¬Severity.Announced l

end Diagnostic

/-! ### Headlines -/

namespace Diagnostic

variable {d : Diagnostic} {y : Layout}

/-- What a headline is read as, the further lines still to come. -/
def opened (d : Diagnostic) : Diagnostic := { d with message := d.firstLine }

theorem Printable.fileName (h : d.Printable) (p : Position) (hp : p ∈ d.position) :
    ∀ f ∈ p.file, Position.FileName f := fun f hf => (h.file p hp f hf).toFileName

theorem trimEnd_body (d : Diagnostic) (s : Text) :
    trimEnd (s ++ d.body) = s ++ d.opened.trimmedBody := by
  rw [body, ← List.append_assoc, trimEnd_append_cons (by decide), List.append_assoc]
  rfl

theorem Printable.body (h : d.Printable) :
    Body d.opened.trimmedBody d.severity d.code d.firstLine := by
  have hbody := body_trimmedBody (d := d.opened) h.code
  rwa [show trim d.opened.message = d.firstLine from h.first] at hbody

theorem readHeadline?_body (h : d.Printable) (hp : d.position = none) :
    readHeadline? true (trimEnd d.body) = some d.opened := by
  have hend : trimEnd d.body = d.opened.trimmedBody := d.trimEnd_body []
  have hread : readBody? none d.opened.trimmedBody = some d.opened :=
    readBody?_eq_some_iff.mpr ⟨h.body, hp⟩
  rw [readHeadline?, if_pos rfl, hend, trimStart_trimmedBody, hread]

theorem readCut?_write {p : Position} (h : d.Printable) (hp : d.position = some p) (hy : d.Fits y) :
    readCut? (p.write y.dialect) d.opened.trimmedBody = some d.opened := by
  refine readCut?_eq_some_iff.mpr
    ⟨p, Position.read?_write (h.fileName p hp) fun hc => ?_, hp, h.body⟩
  obtain ⟨f, hf, -⟩ := hy.colons hc p hp
  simp [Option.mem_def.mp hf]

theorem Printable.not_announced {p : Position} (h : d.Printable) (hp : d.position = some p)
    (hy : d.Fits y) (rest : Text) : ¬Severity.Announced (p.write y.dialect ++ rest) := by
  intro hannounced
  obtain ⟨x, q, hnumbers, hx⟩ := p.numbers_eq_cons y.dialect
  have halpha : x.isAlpha = false := by rcases hx with rfl | ⟨rfl, -⟩ <;> decide
  rw [Position.write, hnumbers, List.append_assoc, List.cons_append,
    Severity.announced_append_cons_iff halpha] at hannounced
  cases hf : p.file with
  | none =>
    rw [hf, Option.getD_none] at hannounced
    exact hannounced.elim Severity.not_announced_nil fun hword => by
      simp [show Severity.ofWord? [] = none by decide] at hword
  | some f =>
    rw [hf, Option.getD_some] at hannounced
    rcases hannounced with hf' | ⟨hword, hcolon⟩
    · exact (h.file p hp f hf).notAnnounced hf'
    · rcases hx with rfl | ⟨rfl, hdialect⟩
      · simp at hcolon
      · obtain ⟨f', hf', hnone⟩ := hy.colons hdialect p hp
        obtain rfl : f = f' := by simpa [hf] using hf'
        simp [hnone] at hword

/-- The first place where the line could be cut is the place where it was put together. -/
theorem readHeadline?_located {p : Position} (h : d.Printable) (hp : d.position = some p)
    (hy : d.Fits y) : readHeadline? true (p.write y.dialect ++ ':' :: ' ' :: d.opened.trimmedBody) =
      some d.opened := by
  have hstart : trimStart (p.write y.dialect ++ ':' :: ' ' :: d.opened.trimmedBody) =
      p.write y.dialect ++ ':' :: ' ' :: d.opened.trimmedBody := by
    obtain ⟨c, s, hwrite, hc⟩ := Position.write_eq_cons (y := y.dialect) (h.fileName p hp)
    rw [hwrite, List.cons_append, trimStart_cons_of_not hc]
  rw [readHeadline?, if_pos rfl, hstart, readBody?_of_not_announced (h.not_announced hp hy _)]
  refine readLocated?_of_first (readCut?_write h hp hy) fun a b hcut hlt => ?_
  obtain ⟨c, hfile, -⟩ := Position.cut_in_file hcut hlt
  cases hf : p.file with
  | none => simp [hf] at hfile
  | some f =>
    rw [hf, Option.getD_some] at hfile
    exact absurd ⟨a, c, by simp [hfile]⟩ (h.file p hp f hf).noSeparator

theorem Printable.headline_eq_cons (h : d.Printable) (y : Dialect) :
    ∃ c s, d.headline y = c :: s ∧ isBlank c = false := by
  cases hp : d.position with
  | none =>
    obtain ⟨c, s, hword, hc⟩ := d.severity.word_eq_cons
    exact ⟨c, s ++ d.codePart ++ ':' :: ' ' :: d.firstLine,
      by simp [headline, hp, Diagnostic.body, hword], hc⟩
  | some p =>
    obtain ⟨c, s, hwrite, hc⟩ := Position.write_eq_cons (y := y) (h.fileName p hp)
    exact ⟨c, s ++ ':' :: ' ' :: d.body, by simp [headline, hp, hwrite], hc⟩

theorem push_headline (t : Transcript) (h : d.Printable) (hy : d.Fits y) :
    t.push (d.headline y.dialect) = t ++ [d.opened] := by
  obtain ⟨c, s, hline, hc⟩ := h.headline_eq_cons y.dialect
  rw [hline]
  refine Transcript.push_cons hc ?_
  rw [← hline]
  cases hp : d.position with
  | none => simpa [headline, hp] using readHeadline?_body h hp
  | some p =>
    have hend := d.trimEnd_body (p.write y.dialect ++ [':', ' '])
    rw [List.append_assoc, List.append_assoc] at hend
    simp only [headline, hp]
    exact hend ▸ readHeadline?_located h hp hy

/-! ### Further lines -/

/-- A line without a separator behind blanks has none. -/
theorem readLocated?_indented {indent line : Text} (hblank : ∀ c ∈ indent, isBlank c = true)
    (hline : ¬[':', ' '] <:+: line) : readLocated? [] (indent ++ line) = none := by
  rw [readLocated?_indent hblank]
  cases hread : readLocated? [] line with
  | none => rfl
  | some d =>
    obtain ⟨a, b, rfl, -, -⟩ := exists_readCut? hread
    exact absurd ⟨a, b, by simp⟩ hline

theorem push_further {t : Transcript} {e : Diagnostic} {indent line : Text} (hne : line ≠ [])
    (htrim : trim line = line) (hline : ¬[':', ' '] <:+: line)
    (hblank : ∀ c ∈ indent, isBlank c = true) (hfree : indent ≠ [] ∨ ¬Severity.Announced line) :
    Transcript.push (t ++ [e]) (indent ++ line) =
      t ++ [{ e with message := e.message ++ '\n' :: line }] := by
  obtain ⟨hhead, hlast⟩ := trim_eq_self_iff.mp htrim
  obtain ⟨c, rest, rfl⟩ := List.exists_cons_of_ne_nil hne
  have hc : isBlank c = false := hhead c rfl
  have hend : trimEnd (indent ++ c :: rest) = indent ++ c :: rest := by
    rw [trimEnd_eq_self_iff, List.getLast?_append_of_ne_nil _ hne]
    exact hlast
  have hbare : (if Transcript.allowsBare (t ++ [e]) (indent ++ c :: rest) then
      readBody? none (trimStart (indent ++ c :: rest)) else none) = none := by
    cases indent with
    | nil =>
      rw [List.nil_append, trimStart_cons_of_not hc,
        readBody?_of_not_announced (hfree.resolve_left (by simp)), ite_self]
    | cons x indent =>
      have hx : isBlank x = true := hblank x (by simp)
      simp [Transcript.allowsBare, hx]
  have hnone : Transcript.headline? (t ++ [e]) (indent ++ c :: rest) = none := by
    rw [Transcript.headline?, hend, readHeadline?, hbare, readLocated?_indented hblank hline]
  rw [Transcript.push_of_none (by simp [allBlank, hc]) hnone, trim_append_of_blank hblank, htrim]

theorem foldl_further {ls : List Text} {indent : Nat → Text} (t : Transcript) (e : Diagnostic)
    (hls : ∀ l ∈ ls, l ≠ [] ∧ trim l = l ∧ ¬[':', ' '] <:+: l)
    (hblank : ∀ k, ∀ c ∈ indent k, isBlank c = true)
    (hfree : ∀ k, ∀ l ∈ ls[k]?, indent k ≠ [] ∨ ¬Severity.Announced l) :
    (ls.mapIdx fun k l => indent k ++ l).foldl Transcript.push (t ++ [e]) =
      t ++ [{ e with message := e.message ++ ls.flatMap ('\n' :: ·) }] := by
  induction ls generalizing e indent with
  | nil => simp
  | cons l ls ih =>
    obtain ⟨hne, htrim, hline⟩ := hls l List.mem_cons_self
    rw [List.mapIdx_cons, List.foldl_cons,
      push_further hne htrim hline (hblank 0) (hfree 0 l (by simp)),
      ih _ (fun l hl => hls l (List.mem_cons_of_mem _ hl)) (fun k => hblank (k + 1))
        (fun k l hl => hfree (k + 1) l (by simpa using hl))]
    simp

theorem message_eq (d : Diagnostic) :
    d.message = d.firstLine ++ d.furtherLines.flatMap ('\n' :: ·) := by
  obtain ⟨l, ls, hlines⟩ := List.exists_cons_of_ne_nil (List.splitOn_ne_nil '\n' d.message)
  have hmessage : unlines (d.message.splitOn '\n') = d.message := List.intercalate_splitOn '\n'
  rw [firstLine, furtherLines, hlines, List.headD_cons, List.tail_cons, ← unlines_cons, ← hlines,
    hmessage]

/-- All lines of a printed diagnostic together append it, and do nothing else. -/
theorem foldl_print (t : Transcript) (h : d.Printable) (hy : d.Fits y) :
    (d.print y).foldl Transcript.push t = t ++ [d] := by
  rw [print, List.foldl_cons, push_headline t h hy,
    foldl_further t d.opened h.further (fun k c hc => (hy.blanks k c hc).1) hy.indented]
  simp [opened, ← message_eq]

theorem render_eq_unlines (d : Diagnostic) : d.render = unlines (d.print .plain) := by
  have hlines : d.furtherLines.mapIdx (fun k line => Layout.plain.indent k ++ line) =
      d.furtherLines := List.ext_getElem (by simp) fun _ _ _ => by simp [Layout.plain]
  rw [print, hlines, unlines_cons, render, message_eq d]
  cases hp : d.position with
  | none => simp [locationPart, headline, hp, body]
  | some p => simp [locationPart, headline, hp, body, p.render_eq_write, Layout.plain]

/-! ### Whole transcripts -/

theorem newline_not_mem_body (h : d.Printable) : '\n' ∉ d.body := by
  have hword : '\n' ∉ d.severity.word := d.severity.newline_notMem_word
  have hcode : '\n' ∉ d.codePart := newline_notMem_codePart fun c hc => (h.code c hc).2.2
  have hfirst : '\n' ∉ d.firstLine := by
    obtain ⟨l, ls, hlines⟩ := List.exists_cons_of_ne_nil (List.splitOn_ne_nil '\n' d.message)
    rw [firstLine, hlines, List.headD_cons]
    exact not_mem_of_mem_splitOn (hlines ▸ List.mem_cons_self)
  simp [body, hword, hcode, hfirst]

theorem newline_not_mem_print (h : d.Printable) (hy : d.Fits y) : ∀ l ∈ d.print y, '\n' ∉ l := by
  intro l hl
  rw [print] at hl
  rcases List.mem_cons.mp hl with rfl | hl
  · cases hp : d.position with
    | none => simpa [headline, hp] using newline_not_mem_body h
    | some p =>
      have hnumbers : '\n' ∉ p.numbers y.dialect := fun hmem =>
        absurd (Position.not_blank_of_mem_numbers hmem) (by decide)
      have hfile : '\n' ∉ p.file.getD [] := by
        cases hf : p.file with
        | none => simp
        | some f => exact (h.file p hp f hf).oneLine
      simp [headline, hp, Position.write, hnumbers, hfile, newline_not_mem_body h]
  · obtain ⟨k, hk, rfl⟩ := List.mem_mapIdx.mp hl
    have hindent : '\n' ∉ y.indent k := fun hmem => (hy.blanks k _ hmem).2 rfl
    have hline : '\n' ∉ d.furtherLines[k] :=
      not_mem_of_mem_splitOn (List.mem_of_mem_tail (List.getElem_mem hk))
    simp [hindent, hline]

end Diagnostic

namespace Transcript

theorem foldl_print (t : Transcript) {ds : List (Diagnostic × Diagnostic.Layout)}
    (h : ∀ x ∈ ds, x.1.Printable ∧ x.1.Fits x.2) :
    (ds.flatMap fun x => x.1.print x.2).foldl push t = t ++ ds.map Prod.fst := by
  induction ds generalizing t with
  | nil => simp
  | cons x ds ih =>
    obtain ⟨hprintable, hfits⟩ := h x List.mem_cons_self
    rw [List.flatMap_cons, List.foldl_append, Diagnostic.foldl_print t hprintable hfits,
      ih _ fun x hx => h x (List.mem_cons_of_mem _ hx)]
    simp

theorem read_print (ds : List (Diagnostic × Diagnostic.Layout))
    (h : ∀ x ∈ ds, x.1.Printable ∧ x.1.Fits x.2) :
    read (unlines (ds.flatMap fun x => x.1.print x.2)) = ds.map Prod.fst := by
  rw [read_unlines, foldl_print [] h, List.nil_append]
  intro l hl
  obtain ⟨x, hx, hl⟩ := List.mem_flatMap.mp hl
  exact Diagnostic.newline_not_mem_print (h x hx).1 (h x hx).2 l hl

/-! ### Reports -/

theorem report_eq {ds : List Diagnostic} (status : Int) (hne : ds ≠ []) :
    report ds status = trim (unlines (ds.flatMap fun d => d.print .plain)) := by
  have hprint (d : Diagnostic) : d.print .plain ≠ [] := List.cons_ne_nil _ _
  have hrender : Diagnostic.render = fun d => unlines (d.print .plain) :=
    funext Diagnostic.render_eq_unlines
  rw [report, if_neg (by simpa using hne), unlines_flatMap ds hprint, hrender]

theorem read_report {ds : List Diagnostic} (status : Int) (hne : ds ≠ [])
    (h : ∀ d ∈ ds, d.Printable ∧ ∀ l ∈ d.furtherLines, ¬Severity.Announced l) :
    read (report ds status) = ds := by
  have hplain : ∀ x ∈ ds.map fun d => (d, Diagnostic.Layout.plain),
      x.1.Printable ∧ x.1.Fits x.2 := by
    intro x hx
    obtain ⟨d, hd, rfl⟩ := List.mem_map.mp hx
    obtain ⟨hprintable, hfree⟩ := h d hd
    exact ⟨hprintable, nofun, by simp [Diagnostic.Layout.plain], fun k l hl =>
      .inr (hfree l (List.mem_of_getElem? hl))⟩
  have hread := read_print (ds.map fun d => (d, Diagnostic.Layout.plain)) hplain
  rw [List.flatMap_map, List.map_map] at hread
  have hstart : trimStart (unlines (ds.flatMap fun d => d.print .plain)) =
      unlines (ds.flatMap fun d => d.print .plain) := by
    obtain ⟨d, ds, rfl⟩ := List.exists_cons_of_ne_nil hne
    obtain ⟨c, s, hhead, hc⟩ := (h d List.mem_cons_self).1.headline_eq_cons .pair
    rw [List.flatMap_cons, Diagnostic.print, List.cons_append, unlines_cons,
      show Diagnostic.Layout.plain.dialect = .pair from rfl, hhead, List.cons_append,
      trimStart_cons_of_not hc]
  rw [report_eq status hne, trim, hstart, read_trimEnd, hread]
  exact List.map_id ds

/-- Reading undoes printing, in whatever dialects and with whatever indentation; and a transcript
whose messages need no indentation is read back from its own report. -/
theorem read_undoes_printing :
    (∀ ds : List (Diagnostic × Diagnostic.Layout), (∀ x ∈ ds, x.1.Printable ∧ x.1.Fits x.2) →
      read (unlines (ds.flatMap fun x => x.1.print x.2)) = ds.map Prod.fst) ∧
    ∀ (ds : List Diagnostic) (status : Int), ds ≠ [] →
      (∀ d ∈ ds, d.Printable ∧ ∀ l ∈ d.furtherLines, ¬Severity.Announced l) →
        read (report ds status) = ds :=
  ⟨read_print, fun _ => read_report⟩

/-- An error in a range with a second line, and a warning without a message behind colons. -/
def twoPrinted : List (Diagnostic × Diagnostic.Layout) := [
  (⟨.error, some "FS0039".toList, "not defined\nsee above".toList, some ⟨some "a.fs".toList, 3, 9⟩⟩,
    ⟨.range 3 12, fun _ => ['\t']⟩),
  (⟨.warning, none, [], some ⟨some "b:c".toList, 1, 2⟩⟩, ⟨.colons, fun _ => [' ']⟩)]

theorem read_twoPrinted :
    (∀ x ∈ twoPrinted, x.1.Printable ∧ x.1.Fits x.2) ∧
      read (unlines (twoPrinted.flatMap fun x => x.1.print x.2)) = twoPrinted.map Prod.fst ∧
      read (report (twoPrinted.map Prod.fst) 1) = twoPrinted.map Prod.fst := by
  have hfirst : ∀ x ∈ twoPrinted, trim x.1.firstLine = x.1.firstLine := by decide
  have hfurther : ∀ x ∈ twoPrinted, ∀ l ∈ x.1.furtherLines,
      l ≠ [] ∧ trim l = l ∧ ¬[':', ' '] <:+: l := by decide +kernel
  have hfree : ∀ x ∈ twoPrinted, ∀ l ∈ x.1.furtherLines, ¬Severity.Announced l := by decide
  have hcode : ∀ x ∈ twoPrinted, ∀ c ∈ x.1.code, c ≠ [] ∧ ':' ∉ c ∧ ∀ k ∈ c, isBlank k = false := by
    simp [twoPrinted, isBlank]
  have hfile : ∀ x ∈ twoPrinted, ∀ p ∈ x.1.position, ∀ f ∈ p.file, Diagnostic.PlainFile f := by
    decide +kernel
  have hcolons : ∀ x ∈ twoPrinted, ∀ p ∈ x.1.position, ∃ f ∈ p.file, Severity.ofWord? f = none := by
    decide
  have hblanks : ∀ x ∈ twoPrinted, ∀ k, ∀ c ∈ x.2.indent k, isBlank c = true ∧ c ≠ '\n' := by
    intro x hx k c hc
    rcases List.mem_pair.mp hx with rfl | rfl <;>
    · obtain rfl := List.mem_singleton.mp hc
      decide
  have hprintable : ∀ x ∈ twoPrinted, x.1.Printable := fun x hx =>
    ⟨hfirst x hx, hfurther x hx, hcode x hx, hfile x hx⟩
  have hfits : ∀ x ∈ twoPrinted, x.1.Fits x.2 := fun x hx =>
    ⟨fun _ => hcolons x hx, hblanks x hx, fun _ l hl => .inr (hfree x hx l (List.mem_of_getElem? hl))⟩
  have h : ∀ x ∈ twoPrinted, x.1.Printable ∧ x.1.Fits x.2 := fun x hx =>
    ⟨hprintable x hx, hfits x hx⟩
  refine ⟨h, read_undoes_printing.1 twoPrinted h,
    read_undoes_printing.2 _ 1 (by simp [twoPrinted]) fun d hd => ?_⟩
  obtain ⟨x, hx, rfl⟩ := List.mem_map.mp hd
  exact ⟨hprintable x hx, hfree x hx⟩

example : (twoPrinted.flatMap fun x => x.1.print x.2) = [
    "a.fs(3,9)-(3,12): error FS0039: not defined".toList,
    "\tsee above".toList,
    "b:c:1:2: warning: ".toList] := by decide

end Transcript

end Scriptorium
