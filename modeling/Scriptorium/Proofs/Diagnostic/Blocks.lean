import Scriptorium.Proofs.Diagnostic.Transcript

/-! How lines attach. The lines of a compiler that are not blank fall into blocks, a headline and
the lines up to the next one, behind lines that belong to what was read before. Reading them one by
one, with all that it takes from the state of the transcript, gives one diagnostic for each block. -/

namespace Scriptorium

open Text

namespace Diagnostic

/-- The diagnostic with further lines at the end of its message, each trimmed. -/
def continued (d : Diagnostic) (ls : List Text) : Diagnostic :=
  { d with message := d.message ++ ls.flatMap fun l => '\n' :: trim l }

theorem continued_nil (d : Diagnostic) : d.continued [] = d := by simp [continued]

theorem continued_cons (d : Diagnostic) (l : Text) (ls : List Text) :
    d.continued (l :: ls) =
      ({ d with message := d.message ++ '\n' :: trim l } : Diagnostic).continued ls := by
  simp [continued]

end Diagnostic

/-- A headline, the diagnostic that it opens, and the lines that continue it. -/
structure Block where
  headline : Text
  opened : Diagnostic
  further : List Text

/-- A line, with the diagnostic that it opens if it is a headline. -/
abbrev Row := Text × Option Diagnostic

namespace Block

def rows (b : Block) : List Row := (b.headline, some b.opened) :: b.further.map (·, none)

def diagnostic (b : Block) : Diagnostic := b.opened.continued b.further

end Block

namespace Transcript

variable {t : Transcript} {line : Text} {ls front : List Text} {rows : List Row}
  {blocks : List Block} {d : Diagnostic} {first : Bool}

/-- The diagnostic that a line opens. Without a location it must not be indented, unless it is the
first thing in a transcript. -/
def opens? (first : Bool) (line : Text) : Option Diagnostic :=
  Diagnostic.readHeadline? (!((trimEnd line).head?.any isBlank) || first) (trimEnd line)

/-- The lines that are not blank, each with what it opens. -/
def outline (first : Bool) (ls : List Text) : List Row :=
  (ls.filter fun l => !allBlank l).mapIdx fun k l => (l, opens? (first && k == 0) l)

/-- Lines that open nothing, with the blocks behind them. -/
def Outlined (rows : List Row) (front : List Text) (blocks : List Block) : Prop :=
  rows = front.map (·, none) ++ blocks.flatMap Block.rows

/-! ### Outlines -/

theorem exists_outlined (rows : List Row) : ∃ front blocks, Outlined rows front blocks := by
  induction rows with
  | nil => exact ⟨[], [], rfl⟩
  | cons row rows ih =>
    obtain ⟨front, blocks, rfl⟩ := ih
    obtain ⟨line, opened⟩ := row
    cases opened with
    | none => exact ⟨line :: front, blocks, rfl⟩
    | some d => exact ⟨[], ⟨line, d, front⟩ :: blocks, by simp [Outlined, Block.rows]⟩

theorem outline_cons_of_blank (h : allBlank line = true) :
    outline first (line :: ls) = outline first ls := by
  rw [outline, List.filter_cons_of_neg (by simp [h]), outline]

theorem outline_cons (h : allBlank line = false) :
    outline first (line :: ls) = (line, opens? first line) :: outline false ls := by
  rw [outline, List.filter_cons_of_pos (by simp [h]), List.mapIdx_cons]
  simp [outline]

/-! ### Reading rows -/

/-- Reads a line of which it is known what it opens. -/
def pushRow (t : Transcript) (row : Row) : Transcript :=
  match row.2 with
  | some d => t ++ [d]
  | none => t.extend (trim row.1)

theorem push_eq_pushRow (t : Transcript) (h : allBlank line = false) :
    t.push line = t.pushRow (line, opens? t.isEmpty line) := by
  rw [push, h]
  rfl

/-- Only the first line that is not blank can be the first thing in the transcript. -/
theorem foldl_push_eq (t : Transcript) (ls : List Text) :
    ls.foldl push t = (outline t.isEmpty ls).foldl pushRow t := by
  induction ls generalizing t with
  | nil => rfl
  | cons l ls ih =>
    cases h : allBlank l with
    | true => rw [List.foldl_cons, push_of_blank h, outline_cons_of_blank h, ih]
    | false =>
      have hne : (t.push l).isEmpty = false := by simpa using push_ne_nil t h
      rw [List.foldl_cons, outline_cons h, List.foldl_cons, ← push_eq_pushRow t h, ih, hne]

theorem foldl_pushRow_further (t : Transcript) (d : Diagnostic) (ls : List Text) :
    (ls.map (·, none)).foldl pushRow (t ++ [d]) = t ++ [d.continued ls] := by
  induction ls generalizing d with
  | nil => rw [Diagnostic.continued_nil]; rfl
  | cons l ls ih =>
    have hfirst : (t ++ [d]).pushRow (l, none) =
        t ++ [{ d with message := d.message ++ '\n' :: trim l }] := by simp [pushRow, extend]
    rw [List.map_cons, List.foldl_cons, hfirst, ih, Diagnostic.continued_cons]

theorem foldl_pushRow_blocks (t : Transcript) (blocks : List Block) :
    (blocks.flatMap Block.rows).foldl pushRow t = t ++ blocks.map Block.diagnostic := by
  induction blocks generalizing t with
  | nil => simp
  | cons b blocks ih =>
    have hblock : b.rows.foldl pushRow t = t ++ [b.diagnostic] := by
      rw [Block.rows, List.foldl_cons]
      exact foldl_pushRow_further t b.opened b.further
    rw [List.flatMap_cons, List.foldl_append, hblock, ih, List.map_cons, List.append_assoc,
      List.singleton_append]

/-! ### Attaching -/

/-- What was read before with lines attached that open nothing: they continue the last message, or
there is none, and the first of them opens an information, which the others continue. -/
def attached (t : Transcript) (front : List Text) : Transcript :=
  match t.getLast?, front with
  | some last, _ => t.dropLast ++ [last.continued front]
  | none, line :: further => [Diagnostic.continued ⟨.info, none, trim line, none⟩ further]
  | none, [] => []

theorem foldl_pushRow_front (t : Transcript) (front : List Text) :
    (front.map (·, none)).foldl pushRow t = t.attached front := by
  rcases List.eq_nil_or_concat t with rfl | ⟨before, last, rfl⟩
  · cases front with
    | nil => rfl
    | cons line further => exact foldl_pushRow_further [] ⟨.info, none, trim line, none⟩ further
  · rw [List.concat_eq_append, foldl_pushRow_further]
    simp [attached]

theorem foldl_push_of_outlined (h : Outlined (outline t.isEmpty ls) front blocks) :
    ls.foldl push t = t.attached front ++ blocks.map Block.diagnostic := by
  rw [foldl_push_eq, h, List.foldl_append, foldl_pushRow_front, foldl_pushRow_blocks]

theorem dropLast_isPrefix_attached (t : Transcript) (front : List Text) :
    t.dropLast <+: t.attached front := by
  rcases List.eq_nil_or_concat t with rfl | ⟨before, last, rfl⟩
  · exact List.nil_prefix
  · simp [attached]

/-- Lines fall into blocks in one way or another, and however they do, reading them attaches the
lines in front of the first headline to what was read before, and appends one diagnostic for each
block: what the headline opens, its message continued by the further lines. So of what was read
before nothing changes but the last message, and blank lines change nothing at all. -/
theorem foldl_push_attaches (t : Transcript) (ls : List Text) :
    (∃ front blocks, Outlined (outline t.isEmpty ls) front blocks) ∧
      (∀ front blocks, Outlined (outline t.isEmpty ls) front blocks →
        ls.foldl push t = t.attached front ++ blocks.map Block.diagnostic) ∧
      t.dropLast <+: ls.foldl push t ∧
      t.map heading <+: (ls.foldl push t).map heading ∧
      ∀ before blank after, ls = before ++ blank :: after → allBlank blank = true →
        (before ++ after).foldl push t = ls.foldl push t := by
  obtain ⟨front, blocks, houtlined⟩ := exists_outlined (outline t.isEmpty ls)
  refine ⟨⟨front, blocks, houtlined⟩, fun _ _ => foldl_push_of_outlined, ?_,
    heading_isPrefix_foldl t ls, ?_⟩
  · rw [foldl_push_of_outlined houtlined]
    exact (dropLast_isPrefix_attached t front).trans (List.prefix_append _ _)
  · rintro before blank after rfl hblank
    rw [List.foldl_append, List.foldl_append, List.foldl_cons, push_of_blank hblank]

/-- Two lines in front of the first headline, and two that continue it. -/
example :
    (["  two notes".toList, "note".toList, "a.fs(1,2): error: x".toList, "  error: y".toList, [' '],
        "z".toList].foldl push []) =
      [⟨.info, none, "two notes\nnote".toList, none⟩,
        ⟨.error, none, "x\nerror: y\nz".toList, some ⟨some "a.fs".toList, 1, 2⟩⟩] := by decide

end Transcript

end Scriptorium
