import Scriptorium.Proofs.Diagnostic.Report
import Scriptorium.Proofs.Toolchain.Child
import Scriptorium.Toolchain.CompilerProgram

/-! The verdict on a compiler that ran as a child process. Four things meet in it: the two streams,
the way the child ended, and what it left at the output path. The streams are read apart, so nothing
on the second one can be taken for the end of a message on the first. -/

namespace Scriptorium

open Text

/-! ### The opening of a stream -/

namespace Transcript

variable {s line : Text} {d : Diagnostic}

theorem foldl_push_cons (d : Diagnostic) (t : Transcript) (ls : List Text) :
    ∃ e t', ls.foldl push (d :: t) = e :: t' ∧ heading e = heading d ∧ d.message <+: e.message := by
  induction ls generalizing d t with
  | nil => exact ⟨d, t, rfl, rfl, List.prefix_rfl⟩
  | cons l ls ih =>
    obtain ⟨e, t', hpush, hheading, hmessage⟩ : ∃ e t', push (d :: t) l = e :: t' ∧
        heading e = heading d ∧ d.message <+: e.message := by
      unfold push
      split
      · exact ⟨d, t, rfl, rfl, List.prefix_rfl⟩
      · split
        · next x _ => exact ⟨d, t ++ [x], rfl, rfl, List.prefix_rfl⟩
        · rcases List.eq_nil_or_concat t with rfl | ⟨front, x, rfl⟩
          · exact ⟨_, [], rfl, rfl, List.prefix_append _ _⟩
          · refine ⟨d, front ++ [{ x with message := x.message ++ '\n' :: trim l }], ?_, rfl,
              List.prefix_rfl⟩
            rw [List.concat_eq_append, ← List.cons_append, extend, List.getLast?_concat]
            dsimp only
            rw [List.dropLast_concat]
            rfl
    obtain ⟨e', t'', hrest, hheading', hmessage'⟩ := ih e t'
    exact ⟨e', t'', by rw [List.foldl_cons, hpush, hrest], hheading'.trans hheading,
      hmessage.trans hmessage'⟩

/-- A text whose first line is a body, indented or not, begins with the diagnostic of that body. -/
theorem read_of_body (hline : (printedLines s).head? = some line)
    (hbody : Diagnostic.readBody? none (trim line) = some d) :
    ∃ e t, read s = e :: t ∧ heading e = heading d ∧ d.message <+: e.message := by
  obtain ⟨rest, hlines⟩ := List.head?_eq_some_iff.mp hline
  have hblank : allBlank line = false := by
    have hmem : line ∈ printedLines s := hlines ▸ List.mem_cons_self
    simpa using (List.mem_filter.mp hmem).2
  have hhead : headline? [] line = some d := by
    have hbare : allowsBare [] (trimEnd line) = true := by simp [allowsBare]
    rw [headline?, hbare, Diagnostic.readHeadline?, if_pos rfl, trimStart_trimEnd, hbody]
  have hread : read s = rest.foldl push [d] := by
    rw [read, ← foldl_push_filter, ← printedLines, hlines, List.foldl_cons,
      push_of_headline hblank hhead, List.nil_append]
  rw [hread]
  exact foldl_push_cons d [] rest

end Transcript

/-! ### The run of a child -/

namespace CompilerProgram

variable {c : Child} {status : ExitStatus} {output : Option Text} {t : FileTree} {run : CompilerRun}

/-- The run of a child that has ended, and the verdict on it. -/
structure Judged (c : Child) (status : ExitStatus) (output : Option Text) (t : FileTree)
    (run : CompilerRun) : Prop where
  /-- Each stream is read from its beginning, the errors behind the output. -/
  streams : run.diagnostics =
    Transcript.read (Text.decode c.output) ++ Transcript.read (Text.decode c.errors)
  /-- A body that opens the second stream is a diagnostic of its own, even if it is indented. -/
  opened : ∀ line d, (printedLines (Text.decode c.errors)).head? = some line →
    Diagnostic.readBody? none (trim line) = some d →
    ∃ e, run.diagnostics[(Transcript.read (Text.decode c.output)).length]? = some e ∧
      Transcript.heading e = Transcript.heading d ∧ d.message <+: e.message
  /-- A signal is reported as minus one, and it is no success. -/
  signalled : ∀ g, status = .signal g → run.exitStatus = -1 ∧ ∃ report, run.verdict = .rejected report
  exited : ∀ n : Nat, status = .code n → run.exitStatus = n
  /-- The run is a success exactly if the child exited with zero, left a regular file at the output
  path, and reported no error on either stream. -/
  accepted : ∀ u, run.verdict = .accepted u ↔ ∃ path, output = some path ∧ u = .file path ∧
    status = .code 0 ∧ t.isFile path = true ∧
    (∀ d ∈ Transcript.read (Text.decode c.output), d.isError = false) ∧
    ∀ d ∈ Transcript.read (Text.decode c.errors), d.isError = false
  /-- Every other run is a failure. -/
  rejected : (∀ u, run.verdict ≠ .accepted u) →
    run.verdict = .rejected (Transcript.report run.diagnostics run.exitStatus)

theorem unit_runOf {u : CompiledUnit} : (runOf c status output t).unit = some u ↔
    ∃ path, output = some path ∧ u = .file path ∧ status = .code 0 ∧ t.isFile path = true := by
  simp only [runOf, Option.map_eq_some_iff, Option.filter_eq_some_iff, Bool.and_eq_true,
    decide_eq_true_eq]
  constructor
  · rintro ⟨path, ⟨houtput, hstatus, hfile⟩, rfl⟩
    exact ⟨path, houtput, rfl, hstatus, hfile⟩
  · rintro ⟨path, houtput, rfl, hstatus, hfile⟩
    exact ⟨path, ⟨houtput, hstatus, hfile⟩, rfl⟩

theorem hasErrors_runOf : (runOf c status output t).hasErrors = false ↔
    (∀ d ∈ Transcript.read (Text.decode c.output), d.isError = false) ∧
      ∀ d ∈ Transcript.read (Text.decode c.errors), d.isError = false := by
  simp only [CompilerRun.hasErrors, runOf, List.any_append, Bool.or_eq_false_iff, List.any_eq_false,
    Bool.not_eq_true]

theorem judged_runOf (c : Child) (status : ExitStatus) (output : Option Text) (t : FileTree) :
    Judged c status output t (runOf c status output t) := by
  have haccepted (u : CompiledUnit) : (runOf c status output t).verdict = .accepted u ↔
      ∃ path, output = some path ∧ u = .file path ∧ status = .code 0 ∧ t.isFile path = true ∧
        (∀ d ∈ Transcript.read (Text.decode c.output), d.isError = false) ∧
        ∀ d ∈ Transcript.read (Text.decode c.errors), d.isError = false := by
    rw [CompilerRun.verdict_eq_accepted_iff, unit_runOf, hasErrors_runOf]
    constructor
    · rintro ⟨⟨path, houtput, hu, hstatus, hfile⟩, -, hclean⟩
      exact ⟨path, houtput, hu, hstatus, hfile, hclean⟩
    · rintro ⟨path, houtput, hu, rfl, hfile, hclean⟩
      exact ⟨⟨path, houtput, hu, rfl, hfile⟩, rfl, hclean⟩
  refine ⟨rfl, fun line d hline hbody => ?_, ?_, ?_, haccepted, CompilerRun.verdict_eq_rejected⟩
  · obtain ⟨e, rest, hread, hheading, hmessage⟩ := Transcript.read_of_body hline hbody
    exact ⟨e, by simp [runOf, hread], hheading, hmessage⟩
  · rintro g rfl
    refine ⟨rfl, _, CompilerRun.verdict_eq_rejected fun u hu => ?_⟩
    obtain ⟨path, -, -, hstatus, -⟩ := (haccepted u).mp hu
    simp at hstatus
  · rintro n rfl
    rfl

/-- A child that is launched, ends, and is not disturbed before it does has its run, and the run is
judged by what the child did. -/
theorem invoke_judged (p : CompilerProgram) (job : Job) (i : Interrupt) (w : World)
    (hlaunch : p.launcher w.files p.program (p.leading ++ job.arguments) (Child.pace p.interval) =
      .ok c)
    (hend : c.ending = .ok status) (hclear : c.Undisturbed i p.interval w.signals) :
    ∃ run w', p.backend.invoke job i w = (.ok run, w') ∧ w'.files = c.files c.looks ∧
      Judged c status job.output w'.files run := by
  obtain ⟨g, hwait⟩ := Child.wait_ended hend hclear
  refine ⟨runOf c status job.output (c.files c.looks),
    { w with files := c.files c.looks, signals := g }, ?_, rfl, judged_runOf ..⟩
  change p.invoke job i w = _
  rw [invoke, hlaunch]
  dsimp only
  rw [hwait]

/-- A child that is found running twice, leaves a unit and exits with zero, but for an indented error
on its second stream. -/
def twoStreams : Child where
  looks := 2
  ending := .ok (.code 0)
  files := fun _ => { entries := [(["unit".toList], .file [])] }
  output := Text.encode "banner\n".toList
  errors := Text.encode "  error FS0001: mismatch\n".toList

theorem invoke_twoStreams :
    let p : CompilerProgram := { program := "fsc".toList, launcher := fun _ _ _ _ => .ok twoStreams }
    ∃ run w', p.backend.invoke ⟨[], "a.fsx".toList, some "/unit".toList⟩ { token := some 0 }
        { freshName := fun _ => [] } = (.ok run, w') ∧
      w'.files.isFile "/unit".toList = true ∧
      run.diagnostics = [⟨.info, none, "banner".toList, none⟩,
        ⟨.error, some "FS0001".toList, "mismatch".toList, none⟩] ∧
      run.verdict = .rejected "info: banner\nerror FS0001: mismatch".toList := by
  intro p
  have hoff (g : Signals) (hg : g.cancellations = []) :
      ({ token := some 0 } : Interrupt).fault? g = none := by
    simp [Interrupt.fault?, Signals.isCancelled, hg]
  have hclear : twoStreams.Undisturbed { token := some 0 } p.interval {} := by
    intro k hk
    have hk : k = 0 ∨ k = 1 := by
      change k < 2 at hk
      omega
    rcases hk with rfl | rfl <;> exact hoff _ rfl
  have hend : twoStreams.ending = .ok (.code 0) := rfl
  obtain ⟨run, w', hrun, hfiles, hjudged⟩ := p.invoke_judged ⟨[], "a.fsx".toList,
    some "/unit".toList⟩ { token := some 0 } { freshName := fun _ => [] } rfl hend hclear
  have hstreams : run.diagnostics = [⟨.info, none, "banner".toList, none⟩,
      ⟨.error, some "FS0001".toList, "mismatch".toList, none⟩] := hjudged.streams.trans (by decide)
  have herrors : Transcript.read (Text.decode twoStreams.errors) =
      [⟨.error, some "FS0001".toList, "mismatch".toList, none⟩] := by decide
  refine ⟨run, w', hrun, hfiles ▸ by decide, hstreams, ?_⟩
  rw [hjudged.rejected fun u hu => ?_, hstreams, hjudged.exited 0 rfl]
  · decide
  · obtain ⟨-, -, -, -, -, -, hclean⟩ := (hjudged.accepted u).mp hu
    have herror := hclean _ (herrors ▸ List.mem_cons_self)
    simp [Diagnostic.isError] at herror

end CompilerProgram

end Scriptorium
