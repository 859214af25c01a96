import Scriptorium.Proofs.Diagnostic.OfLine
import Scriptorium.Proofs.Diagnostic.Transcript
import Scriptorium.Proofs.Text.Lines

/-! What is read is well-formed. The diagnostics of a transcript come from headlines and from a first
line that is none, and later lines make their messages longer. Whichever way, a code is one word, a
file is the name of something, a message is made of trimmed lines, and no rendering is indented. -/

namespace Scriptorium

open Text

namespace Diagnostic

variable {d : Diagnostic} {line : Text}

structure WellFormed (d : Diagnostic) : Prop where
  code : ∀ c ∈ d.code, c ≠ [] ∧ ':' ∉ c ∧ ∀ x ∈ c, isBlank x = false
  file : ∀ p ∈ d.position, ∀ f ∈ p.file, (∃ c a, f = c :: a ∧ isBlank c = false) ∧ '\n' ∉ f
  trimmed : ∀ l ∈ d.message.splitOn '\n', trim l = l
  /-- Only the first line of a message can be empty. -/
  further : ∀ l ∈ (d.message.splitOn '\n').tail, l ≠ []

theorem OfLine.wellFormed (h : d.OfLine line) (hline : '\n' ∉ line) : d.WellFormed := by
  have hsplit : d.message.splitOn '\n' = [d.message] :=
    List.splitOn_eq_singleton fun hmem => hline (h.message hmem)
  refine ⟨h.code, fun p hp f hf => ?_, ?_, ?_⟩
  · obtain ⟨hcons, hsubset⟩ := h.file p hp f hf
    exact ⟨hcons, fun hmem => hline (hsubset hmem)⟩
  · simpa [hsplit] using h.trimmed
  · simp [hsplit]

theorem ofLine_unrecognised (line : Text) : OfLine line ⟨.info, none, trim line, none⟩ where
  code := by simp
  trimmed := trim_trim line
  message := trim_subset line
  file := by simp

theorem WellFormed.continued (h : d.WellFormed) (hline : '\n' ∉ line)
    (hprinted : allBlank line = false) :
    WellFormed { d with message := d.message ++ '\n' :: trim line } := by
  have hfree : '\n' ∉ trim line := fun hmem => hline (trim_subset line hmem)
  have hsplit : (d.message ++ '\n' :: trim line).splitOn '\n' =
      d.message.splitOn '\n' ++ [trim line] := by
    rw [List.splitOn_append_cons_self, List.splitOn_eq_singleton hfree]
  refine ⟨h.code, h.file, fun l hl => ?_, fun l hl => ?_⟩
  · rw [hsplit, List.mem_append, List.mem_singleton] at hl
    rcases hl with hl | rfl
    · exact h.trimmed l hl
    · exact trim_trim line
  · rw [hsplit, List.tail_append_of_ne_nil (List.splitOn_ne_nil _ _), List.mem_append,
      List.mem_singleton] at hl
    rcases hl with hl | rfl
    · exact h.further l hl
    · simpa [trim_eq_nil_iff] using hprinted

theorem WellFormed.render_eq_cons (h : d.WellFormed) :
    ∃ c a, d.render = c :: a ∧ isBlank c = false :=
  Diagnostic.render_eq_cons fun p hp f hf => (h.file p hp f hf).1

end Diagnostic

namespace Transcript

open Diagnostic (WellFormed)

variable {t t' : Transcript} {line : Text} {ls ls' before : List Text} {d e : Diagnostic} {k : Nat}

/-! ### What one more line does -/

/-- The diagnostic keeps all it says, and its message may have become longer. -/
structure Grown (d e : Diagnostic) : Prop where
  heading : heading e = heading d
  message : d.message <+: e.message

theorem Grown.trans {f : Diagnostic} (h : Grown d e) (h' : Grown e f) : Grown d f :=
  ⟨h'.heading.trans h.heading, h.message.trans h'.message⟩

theorem Pushed.wellFormed (h : Pushed t line t') (hline : '\n' ∉ line)
    (ht : ∀ d ∈ t, d.WellFormed) : ∀ d ∈ t', d.WellFormed := by
  cases h with
  | blank => exact ht
  | opened hprinted h =>
    have hfree : '\n' ∉ trimEnd line := fun hmem => hline ((trimEnd_isPrefix line).subset hmem)
    have hopened := (Diagnostic.ofLine_of_readHeadline? h).wellFormed hfree
    simpa [or_imp, forall_and, hopened] using ht
  | @continued front d hprinted h hlast =>
    have hcontinued := (ht d (by simp [hlast])).continued hline hprinted
    have hfront : ∀ e ∈ front, e.WellFormed := fun e he => ht e (by simp [hlast, he])
    simpa [or_imp, forall_and, hcontinued] using hfront
  | unrecognised =>
    have hbegun := (Diagnostic.ofLine_unrecognised line).wellFormed hline
    simpa using hbegun

/-- The diagnostic with the number `k` was there before, or the line opens it. -/
theorem Pushed.get_eq (h : Pushed t line t') (hk : t'[k]? = some e) :
    (∃ d, t[k]? = some d ∧ Grown d e) ∨ k = t.length ∧ t'.length = k + 1 ∧
      (t.headline? line = some e ∨ t.headline? line = none ∧
        heading e = (.info, none, none) ∧ e.message ≠ []) := by
  have hconcat (front : Transcript) (d : Diagnostic) (h : (front ++ [d])[k]? = some e) :
      front[k]? = some e ∨ k = front.length ∧ d = e := by
    rw [List.getElem?_append] at h
    split at h
    · exact .inl h
    · have hzero : k - front.length = 0 := by
        by_contra hne
        simp [hne] at h
      exact .inr ⟨by omega, by simpa [hzero] using h⟩
  cases h with
  | blank => exact .inl ⟨e, hk, rfl, List.prefix_rfl⟩
  | opened hprinted h =>
    rcases hconcat _ _ hk with hk | ⟨rfl, rfl⟩
    · exact .inl ⟨e, hk, rfl, List.prefix_rfl⟩
    · exact .inr ⟨rfl, by simp, .inl h⟩
  | @continued front d hprinted h hlast =>
    left
    rcases hconcat _ _ hk with hk | ⟨rfl, rfl⟩
    · have hlt : k < front.length := (List.getElem?_eq_some_iff.mp hk).1
      exact ⟨e, by rw [hlast, List.getElem?_append_left hlt, hk], rfl, List.prefix_rfl⟩
    · exact ⟨d, by simp [hlast], rfl, List.prefix_append _ _⟩
  | unrecognised hprinted h hnil =>
    rcases hconcat [] _ hk with hk | ⟨rfl, rfl⟩
    · simp at hk
    · have hmessage : trim line ≠ [] := by simpa [trim_eq_nil_iff] using hprinted
      exact .inr ⟨by simp [hnil], rfl, .inr ⟨h, rfl, hmessage⟩⟩

/-! ### Reading -/

/-- Where the diagnostic with the number `k` comes from: of the lines read, `line` opens it, and what
it is opened with may only grow. A line that is no headline opens an information. -/
structure Opening (ls : List Text) (k : Nat) (e : Diagnostic) (before : List Text) (line : Text) :
    Prop where
  place : before ++ [line] <+: ls
  number : (before.foldl push []).length = k
  next : ((before ++ [line]).foldl push []).length = k + 1
  recognised : ∀ d, (before.foldl push []).headline? line = some d → Grown d e
  unrecognised : (before.foldl push []).headline? line = none →
    heading e = (.info, none, none) ∧ e.message ≠ []

theorem Opening.grown (h : Opening ls k d before line) (hgrown : Grown d e) (hls : ls <+: ls') :
    Opening ls' k e before line where
  place := h.place.trans hls
  number := h.number
  next := h.next
  recognised c hc := (h.recognised c hc).trans hgrown
  unrecognised hnone := by
    obtain ⟨hheading, hmessage⟩ := h.unrecognised hnone
    refine ⟨hgrown.heading.trans hheading, fun hnil => hmessage ?_⟩
    exact List.prefix_nil.mp (hnil ▸ hgrown.message)

theorem foldl_push_wellFormed (hls : ∀ l ∈ ls, '\n' ∉ l) (ht : ∀ d ∈ t, d.WellFormed) :
    ∀ d ∈ ls.foldl push t, d.WellFormed := by
  induction ls generalizing t with
  | nil => exact ht
  | cons l ls ih =>
    rw [List.forall_mem_cons] at hls
    exact ih hls.2 ((pushed_push t l).wellFormed hls.1 ht)

theorem exists_opening (h : (ls.foldl push [])[k]? = some e) :
    ∃ before line, Opening ls k e before line := by
  induction ls using List.reverseRecOn generalizing e with
  | nil => simp at h
  | append_singleton ls l ih =>
    have hfold : (ls ++ [l]).foldl push [] = (ls.foldl push []).push l := by simp
    rw [hfold] at h
    rcases (pushed_push _ l).get_eq h with ⟨d, hd, hgrown⟩ | ⟨hk, hnext, hopened⟩
    · obtain ⟨before, line, hopening⟩ := ih hd
      exact ⟨before, line, hopening.grown hgrown (List.prefix_append ls [l])⟩
    · refine ⟨ls, l, List.prefix_rfl, hk.symm, hfold ▸ hnext, fun d hd => ?_, fun hnone => ?_⟩
      · obtain rfl : d = e := by simpa [hd] using hopened
        exact ⟨rfl, List.prefix_rfl⟩
      · simpa [hnone] using hopened

/-- Every diagnostic of every text is well-formed, and its rendering begins with a character that is
not blank. Each of them was opened by one line: if that is a headline then what it says is there,
and otherwise the diagnostic is an information with a message and without a code or a position. -/
theorem read_wellFormed (s : Text) :
    (∀ d ∈ read s, d.WellFormed ∧ ∃ c a, d.render = c :: a ∧ isBlank c = false) ∧
      ∀ k d, (read s)[k]? = some d → ∃ before line, Opening (lines s) k d before line := by
  have hall : ∀ d ∈ read s, d.WellFormed :=
    foldl_push_wellFormed (fun l => newline_notMem_of_mem_lines) (by simp)
  exact ⟨fun d hd => ⟨hall d hd, (hall d hd).render_eq_cons⟩, fun k d => exists_opening⟩

/-- A line that is no headline, and a headline without a message, which the next line gives it. -/
theorem read_wellFormed_headless :
    WellFormed ⟨.error, some "E1".toList, "\nx".toList, some ⟨some "a".toList, 1, 2⟩⟩ ∧
      ∃ before line, Opening ["who?".toList, "a(1,2): error E1:".toList, " x".toList] 0
        ⟨.info, none, "who?".toList, none⟩ before line := by
  obtain ⟨hall, horigin⟩ := read_wellFormed "who?\na(1,2): error E1:\n x".toList
  exact ⟨(hall _ (by decide)).1, horigin 0 _ (by decide)⟩

end Transcript

end Scriptorium
