import Scriptorium.Proofs.Text.Alike
import Scriptorium.Proofs.Toolchain.Printed
import Scriptorium.Service

/-! Data of requests up to a relation of their texts. Two runs of a compiler with like texts get like
verdicts, and staged files with like paths make like jobs, for every relation that is kept by
putting texts together and trimming them. Equality is one such relation. -/

namespace Scriptorium

open Text (Respected)

variable {R : Text → Text → Prop}

/-! ### Likeness -/

inductive IoError.Like (R : Text → Text → Prop) : IoError → IoError → Prop
  | same (e : IoError) : Like R e e
  | other {a b : Text} (h : R a b) : Like R (.other a) (.other b)

inductive Fault.Like (R : Text → Text → Prop) : Fault → Fault → Prop
  | rejected {a a' b b' : Text} (hreport : R a a') (hscript : R b b') :
      Like R (.rejected a b) (.rejected a' b')
  | notConstructed {a a' b b' : Text} (htype : R a a') (hreason : R b b') :
      Like R (.notConstructed a b) (.notConstructed a' b')
  | notLoaded {a a' : Text} (hreason : R a a') : Like R (.notLoaded a) (.notLoaded a')
  | notStaged {a a' : Text} {e e' : IoError} (hpath : R a a') (hcause : e.Like R e') :
      Like R (.notStaged a e) (.notStaged a' e')
  | notRun {a a' : Text} {e e' : IoError} (hprogram : R a a') (hcause : e.Like R e') :
      Like R (.notRun a e) (.notRun a' e')
  | cancelled : Like R .cancelled .cancelled
  | timedOut (d : Duration) : Like R (.timedOut d) (.timedOut d)

inductive Halt.Like (R : Text → Text → Prop) : Halt → Halt → Prop
  | fault {f f' : Fault} (h : f.Like R f') : Like R (.fault f) (.fault f')
  | panic {a a' : Text} (h : R a a') : Like R (.panic a) (.panic a')

structure Position.Like (R : Text → Text → Prop) (p p' : Position) : Prop where
  file : Option.Rel R p.file p'.file
  line : p.line = p'.line
  column : p.column = p'.column

structure Diagnostic.Like (R : Text → Text → Prop) (d d' : Diagnostic) : Prop where
  severity : d.severity = d'.severity
  code : Option.Rel R d.code d'.code
  message : R d.message d'.message
  position : Option.Rel (Position.Like R) d.position d'.position

inductive CompiledUnit.Like (R : Text → Text → Prop) : CompiledUnit → CompiledUnit → Prop
  | file {a a' : Text} (h : R a a') : Like R (.file a) (.file a')
  | image (bs : Bytes) : Like R (.image bs) (.image bs)

structure CompilerRun.Like (R : Text → Text → Prop) (r r' : CompilerRun) : Prop where
  diagnostics : List.Forall₂ (Diagnostic.Like R) r.diagnostics r'.diagnostics
  exitStatus : r.exitStatus = r'.exitStatus
  unit : Option.Rel (CompiledUnit.Like R) r.unit r'.unit

inductive Verdict.Like (R : Text → Text → Prop) : Verdict → Verdict → Prop
  | accepted {u u' : CompiledUnit} (h : u.Like R u') : Like R (.accepted u) (.accepted u')
  | rejected {a a' : Text} (h : R a a') : Like R (.rejected a) (.rejected a')

structure Staged.Like (R : Text → Text → Prop) (f f' : Staged) : Prop where
  source : R f.source f'.source
  output : Option.Rel R f.output f'.output

structure Job.Like (R : Text → Text → Prop) (j j' : Job) : Prop where
  arguments : List.Forall₂ R j.arguments j'.arguments
  source : R j.source j'.source
  output : Option.Rel R j.output j'.output

inductive Payload.Like (R : Text → Text → Prop) : Payload → Payload → Prop
  | number (n : UInt64) : Like R (.number n) (.number n)
  | text {a a' : Text} (h : R a a') : Like R (.text a) (.text a')
  | native (n : UInt64) {d d' : Option Text} (h : Option.Rel R d d') :
      Like R (.native ⟨n, d⟩) (.native ⟨n, d'⟩)

structure Instance.Like (R : Text → Text → Prop) (i i' : Instance) : Prop where
  typeName : R i.typeName i'.typeName
  object : i.object.Like R i'.object

/-- Two acts come to like values, or to like halts. -/
inductive EndsLike (R : Text → Text → Prop) {α : Type} (S : α → α → Prop) :
    Except Halt α → Except Halt α → Prop
  | value {a a' : α} (h : S a a') : EndsLike R S (.ok a) (.ok a')
  | halt {h h' : Halt} (hlike : h.Like R h') : EndsLike R S (.error h) (.error h')

/-- Like results of requests. -/
abbrev ResultsLike (R : Text → Text → Prop) :
    Except Halt (Option Instance) → Except Halt (Option Instance) → Prop :=
  EndsLike R (Option.Rel (Instance.Like R))

/-- Like calls of compilers and loaders. -/
inductive Event.Like (R : Text → Text → Prop) : Event → Event → Prop
  | invoked {j j' : Job} (h : j.Like R j') : Like R (.invoked j) (.invoked j')
  | loaded {u u' : CompiledUnit} (h : u.Like R u') : Like R (.loaded u) (.loaded u')

theorem Fault.like_refl (hR : Respected R) (f : Fault) : f.Like R f := by
  cases f with
  | rejected => exact .rejected (hR.refl _) (hR.refl _)
  | notConstructed => exact .notConstructed (hR.refl _) (hR.refl _)
  | notLoaded => exact .notLoaded (hR.refl _)
  | notStaged => exact .notStaged (hR.refl _) (.same _)
  | notRun => exact .notRun (hR.refl _) (.same _)
  | cancelled => exact .cancelled
  | timedOut d => exact .timedOut d

theorem Halt.like_refl (hR : Respected R) (h : Halt) : h.Like R h := by
  cases h with
  | fault f => exact .fault (f.like_refl hR)
  | panic => exact .panic (hR.refl _)

theorem Staged.like_refl (hR : Respected R) (f : Staged) : f.Like R f := by
  obtain ⟨source, output⟩ := f
  cases output with
  | none => exact ⟨hR.refl _, .none⟩
  | some => exact ⟨hR.refl _, .some (hR.refl _)⟩

/-! ### What is made of like data -/

theorem Position.render_like {p p' : Position} (hR : Respected R) (h : p.Like R p') :
    R p.render p'.render := by
  obtain ⟨file, line, column⟩ := p
  obtain ⟨file', line', column'⟩ := p'
  obtain ⟨hfile, hline, hcolumn⟩ := h
  dsimp only at hfile hline hcolumn
  subst hline hcolumn
  have hname : R (file.getD []) (file'.getD []) := by
    cases hfile with
    | some hpath => exact hpath
    | none => exact hR.refl []
  exact hR.append (hR.append (hR.append hname (hR.refl _)) (hR.refl _)) (hR.refl _)

theorem Diagnostic.render_like {d d' : Diagnostic} (hR : Respected R) (h : d.Like R d') :
    R d.render d'.render := by
  have hlocation : R d.locationPart d'.locationPart := by
    have hposition := h.position
    unfold locationPart
    cases hp : d.position <;> cases hp' : d'.position <;> rw [hp, hp'] at hposition <;>
      cases hposition
    · exact hR.refl []
    · next hp => exact hR.append (Position.render_like hR hp) (hR.refl _)
  have hcode : R d.codePart d'.codePart := by
    have hcode := h.code
    unfold codePart
    cases hc : d.code <;> cases hc' : d'.code <;> rw [hc, hc'] at hcode <;> cases hcode
    · exact hR.refl []
    · next hc => exact hR.append (hR.refl [' ']) hc
  unfold render
  rw [h.severity]
  exact hR.append (hR.append (hR.append (hR.append hlocation (hR.refl _)) hcode) (hR.refl _))
    h.message

namespace CompilerRun

variable {r r' : CompilerRun}

theorem hasErrors_like (h : r.Like R r') : r.hasErrors = r'.hasErrors := by
  obtain ⟨ds, status, u⟩ := r
  obtain ⟨ds', status', u'⟩ := r'
  obtain ⟨hds, -, -⟩ := h
  dsimp only [hasErrors] at hds ⊢
  induction hds with
  | nil => rfl
  | cons hd _ ih => rw [List.any_cons, List.any_cons, ih, Diagnostic.isError, hd.severity]; rfl

theorem report_like (hR : Respected R) (h : r.Like R r') :
    R (Transcript.report r.diagnostics r.exitStatus)
      (Transcript.report r'.diagnostics r'.exitStatus) := by
  have hrendered : List.Forall₂ R (r.diagnostics.map Diagnostic.render)
      (r'.diagnostics.map Diagnostic.render) :=
    List.rel_map (fun _ _ hd => Diagnostic.render_like hR hd) h.diagnostics
  have hempty : r.diagnostics.isEmpty = r'.diagnostics.isEmpty := by
    rw [Bool.eq_iff_iff, List.isEmpty_iff_length_eq_zero, List.isEmpty_iff_length_eq_zero,
      h.diagnostics.length_eq]
  unfold Transcript.report
  rw [hempty, h.exitStatus]
  split
  · split
    · exact hR.refl _
    · exact hR.refl _
  · exact hR.trim (hR.unlines hrendered)

theorem verdict_like (hR : Respected R) (h : r.Like R r') : r.verdict.Like R r'.verdict := by
  have hreport := report_like hR h
  have hunit := h.unit
  unfold verdict
  rw [hasErrors_like h, h.exitStatus] at *
  cases hu : r.unit <;> cases hu' : r'.unit <;> rw [hu, hu'] at hunit <;> cases hunit
  · exact .rejected hreport
  · next hu =>
    dsimp only
    split
    · exact .accepted hu
    · exact .rejected hreport

theorem verdict_of_accepted {u : CompiledUnit} (hR : Respected R) (h : r.Like R r')
    (hverdict : r.verdict = .accepted u) : ∃ u', r'.verdict = .accepted u' ∧ u.Like R u' := by
  have hlike := verdict_like hR h
  rw [hverdict] at hlike
  generalize r'.verdict = v at hlike
  cases hlike with
  | accepted hu => exact ⟨_, rfl, hu⟩

theorem verdict_of_rejected {report : Text} (hR : Respected R) (h : r.Like R r')
    (hverdict : r.verdict = .rejected report) :
    ∃ report', r'.verdict = .rejected report' ∧ R report report' := by
  have hlike := verdict_like hR h
  rw [hverdict] at hlike
  generalize r'.verdict = v at hlike
  cases hlike with
  | rejected hreport => exact ⟨_, rfl, hreport⟩

end CompilerRun

theorem Job.ofStaged_like {f f' : Staged} (hR : Respected R) (h : f.Like R f') (profile : Text)
    (writesOutput : Bool) (references : ReferenceSet) :
    (Job.ofStaged profile writesOutput f references).Like R
      (Job.ofStaged profile writesOutput f' references) := by
  have houtput : Option.Rel R (if writesOutput then f.output else none)
      (if writesOutput then f'.output else none) := by
    cases writesOutput with
    | true => exact h.output
    | false => exact .none
  have hsame (ls : List Text) : List.Forall₂ R ls ls := List.forall₂_same.mpr fun a _ => hR.refl a
  have hflag {o o' : Option Text} (ho : Option.Rel R o o') :
      List.Forall₂ R (o.toList.map ("-o:".toList ++ ·)) (o'.toList.map ("-o:".toList ++ ·)) := by
    cases ho with
    | some hpath => exact .cons (hR.append (hR.refl _) hpath) .nil
    | none => exact .nil
  have hsource : List.Forall₂ R [f.source] [f'.source] := .cons h.source .nil
  refine ⟨?_, h.source, houtput⟩
  rw [arguments_ofStaged, arguments_ofStaged]
  exact List.rel_append (List.rel_append (List.rel_append (hsame _) (hflag houtput)) hsource) (hsame _)

/-! ### Likeness up to equality -/

theorem eq_of_rel {α : Type} {S : α → α → Prop} (hS : ∀ x y, S x y → x = y) {x y : Option α}
    (h : Option.Rel S x y) : x = y := by
  cases h with
  | some h => rw [hS _ _ h]
  | none => rfl

theorem IoError.Like.eq {e e' : IoError} (h : e.Like Eq e') : e = e' := by
  cases h with
  | same => rfl
  | other h => rw [h]

theorem Halt.Like.eq {h h' : Halt} (hlike : h.Like Eq h') : h = h' := by
  cases hlike with
  | panic h => rw [h]
  | fault h =>
    cases h with
    | rejected h h' | notConstructed h h' => rw [h, h']
    | notLoaded h => rw [h]
    | notStaged h h' | notRun h h' => rw [h, h'.eq]
    | cancelled | timedOut => rfl

theorem Instance.Like.eq {i i' : Instance} (h : i.Like Eq i') : i = i' := by
  obtain ⟨name, object⟩ := i
  obtain ⟨name', object'⟩ := i'
  obtain ⟨rfl, hobject⟩ := h
  cases hobject with
  | number => rfl
  | text h => rw [h]
  | native _ h => rw [eq_of_rel (fun _ _ => id) h]

theorem EndsLike.eq {r r' : Except Halt (Option Instance)} (h : ResultsLike Eq r r') : r = r' := by
  cases h with
  | value h => rw [eq_of_rel (fun _ _ => Instance.Like.eq) h]
  | halt h => rw [h.eq]

theorem Event.Like.eq {e e' : Event} (h : e.Like Eq e') : e = e' := by
  cases h with
  | @invoked j j' h =>
    obtain ⟨arguments, source, output⟩ := j
    obtain ⟨arguments', source', output'⟩ := j'
    obtain ⟨harguments, hsource, houtput⟩ := h
    rw [List.forall₂_eq_eq_eq] at harguments
    rw [show arguments = arguments' from harguments, show source = source' from hsource,
      show output = output' from eq_of_rel (fun _ _ => id) houtput]
  | loaded h =>
    cases h with
    | file h => rw [h]
    | image => rfl

end Scriptorium
