import Scriptorium.Proofs.Scratch.Output
import Scriptorium.Proofs.Service.Order
import Scriptorium.Proofs.Toolchain.Verdict

/-! A compiler process that exits with zero, says nothing and leaves the files as they are has made
no unit, and its request is rejected for that, as long as the unit and the source have different
endings. If the endings are the same, the staged source itself stands at the output path; it is
taken for the unit, and it is what gets loaded. -/

namespace Scriptorium

namespace CompilerProgram

variable {p : CompilerProgram} {job : Job} {i : Interrupt} {w : World} {c : Child}

/-- A compiler does its job in silence: its child exits with zero, undisturbed, prints nothing, and
leaves the files as they are. -/
structure Silent (p : CompilerProgram) (job : Job) (i : Interrupt) (w : World) (c : Child) :
    Prop where
  launched : p.launcher w.files p.program (p.leading ++ job.arguments) (Child.pace p.interval) =
    .ok c
  ending : c.ending = .ok (.code 0)
  undisturbed : c.Undisturbed i p.interval w.signals
  output : c.output = []
  errors : c.errors = []
  files : c.files c.looks = w.files

/-- The verdict on a silent compiler is whether there was a file at the output path before. -/
theorem Silent.invoke (h : p.Silent job i w c) : ∃ run w',
    p.backend.invoke job i w = (.ok run, w') ∧ ∀ path, job.output = some path → run.verdict =
      if w.files.isFile path then .accepted (.file path)
      else .rejected "Compilation produced no output unit.".toList := by
  obtain ⟨run, w', hrun, hfiles, hjudged⟩ :=
    p.invoke_judged job i w h.launched h.ending h.undisturbed
  have hquiet : Transcript.read (Text.decode c.output) = [] ∧
      Transcript.read (Text.decode c.errors) = [] := by
    rw [h.output, h.errors]
    exact ⟨rfl, rfl⟩
  have hnothing : run.diagnostics = [] := by rw [hjudged.streams, hquiet.1, hquiet.2]; rfl
  refine ⟨run, w', hrun, fun path hpath => ?_⟩
  rw [h.files] at hfiles
  split
  · next hfile =>
    exact (hjudged.accepted _).mpr ⟨path, hpath, rfl, rfl, hfiles ▸ hfile,
      by simp [hquiet.1], by simp [hquiet.2]⟩
  · next hfile =>
    rw [hjudged.rejected fun u hu => ?_, hnothing, hjudged.exited 0 rfl]
    · rfl
    · obtain ⟨path', hpath', -, -, hfile', -⟩ := (hjudged.accepted u).mp hu
      obtain rfl : path = path' := Option.some.inj (hpath.symm.trans hpath')
      exact hfile (hfiles ▸ hfile')

end CompilerProgram

namespace Service

variable {s : Service} {q : Request} {o : Options} {w w' : World} {i : Interrupt} {f : Staged}
  {p : CompilerProgram} {c : Child}

/-- The output path is the source path exactly if both have the same ending. If they have not, a
silent compiler is never taken for a success; if they have, it always is. -/
theorem compile_silent (s : Service) (q : Request) (w : World) :
    (∀ token, let f := s.stager.paths q.unitName token true
      f.output = some f.source ↔ s.stager.unitExtension = s.stager.sourceExtension) ∧
    ∀ (p : CompilerProgram) (x : Session) (o : Options) (i : Interrupt) (f : Staged) (w' : World)
      (c : Child), s.invoker.backend = p.backend → Stager.Fresh w q.unitName →
      s.Reaches q o w i f w' → p.Silent (s.job q w f) i w' c →
      (s.stager.unitExtension ≠ s.stager.sourceExtension →
        (s.compile x w q o).result =
          .error (.fault (.rejected "Compilation produced no output unit.".toList q.source))) ∧
      (s.stager.unitExtension = s.stager.sourceExtension →
        ∃ run w'', p.backend.invoke (s.job q w f) i w' = (.ok run, w'') ∧
          run.verdict = .accepted (.file f.source) ∧
          (i.fault? w''.signals.tick = none →
            .loaded (.file f.source) ∈ (s.compile x w q o).events)) := by
  refine ⟨Stager.paths_output_eq_source_iff s.stager q.unitName,
    fun p x o i f w' c hbackend hfresh hreach hsilent => ?_⟩
  have hwrites : s.invoker.backend.writesOutput = true := by rw [hbackend]; rfl
  have hticked : Stager.Fresh w.tick q.unitName := ⟨hfresh.slash, hfresh.unused⟩
  obtain ⟨v, hstage, hfiles⟩ := hreach.staged_files
  rw [hwrites] at hstage
  have hpaths : f = s.stager.paths q.unitName (w.freshName w.drawn) true :=
    (Stager.stage_ok hstage).1
  obtain ⟨path, houtput⟩ : ∃ path, f.output = some path := ⟨_, by rw [hpaths]; rfl⟩
  have hjob : (s.job q w f).output = some path := by simp [job, Job.ofStaged, hwrites, houtput]
  have hfile : w'.files.isFile path = true ↔ s.stager.unitExtension = s.stager.sourceExtension := by
    rw [hfiles]
    exact Stager.isFile_output_iff hticked hstage houtput
  obtain ⟨run, w'', hrun, hverdict⟩ := hsilent.invoke
  obtain ⟨rest, w₃, hrest, -, hevents⟩ := (s.compile_passage x w q o).remainder hreach
  have hcall : s.invoker.backend.invoke (s.job q w f) i w' = (.ok run, w'') := by
    rw [hbackend, hrun]
  refine ⟨fun hne => ?_, fun heq => ⟨run, w'', hrun, ?_⟩⟩
  · have hrejected := hverdict path hjob
    rw [if_neg (fun h => hne (hfile.mp h))] at hrejected
    exact hrest.result_of_rejected hcall hrejected
  · have hsame : f.output = some f.source := by
      rw [hpaths]
      exact (Stager.paths_output_eq_source_iff ..).mpr heq
    obtain rfl : path = f.source := Option.some.inj (houtput.symm.trans hsame)
    have haccepted := hverdict f.source hjob
    rw [if_pos (hfile.mpr heq)] at haccepted
    refine ⟨haccepted, fun hclear => ?_⟩
    obtain ⟨rfl, -, -⟩ := hrest.of_clean hcall haccepted hclear
    rw [hevents]
    simp

/-! ### The source as a unit -/

/-- A service with one directory for its files, whose compiler process does nothing at all. -/
def idle (unitExtension : Text) : Service where
  catalog := .ofReferences []
  stager := ⟨"/t".toList, "fsx".toList, unitExtension, false⟩
  invoker := {
    profile := "netcore".toList
    backend := CompilerProgram.backend {
      program := "true".toList
      launcher := fun t _ _ _ => .ok ⟨0, .ok (.code 0), fun _ => t, [], []⟩ } }
  loader := ⟨fun _ => pure ⟨[], fun _ => Act.panic []⟩⟩

def idleRequest : Request := ⟨"s".toList, "calc".toList, []⟩

def idleWorld : World where
  files := { entries := [(["t".toList], .directory)] }
  freshName := fun _ => "0123456789abcdef0123456789abcdef".toList

theorem fresh_idleWorld : Stager.Fresh idleWorld idleRequest.unitName := by
  refine ⟨by decide, FileTree.unused_of_entries fun x hx name hname hfront => ?_⟩
  obtain rfl := List.mem_singleton.mp hx
  obtain rfl : "t".toList = name := Option.some.inj hname
  exact absurd hfront.length_le (by decide)

theorem idle_reaches (unitExtension : Text) : ∃ f w',
    f.source = "/t/calc-0123456789abcdef0123456789abcdef.fsx".toList ∧
      (idle unitExtension).Reaches idleRequest {} idleWorld {} f w' := by
  have hsource : Path.join "/t".toList (Scratch.fileName (Scratch.stem "calc".toList
      (idleWorld.freshName 0)) "fsx".toList) =
        "/t/calc-0123456789abcdef0123456789abcdef.fsx".toList := by decide +kernel
  have hwritten : (idleWorld.files.write "/t/calc-0123456789abcdef0123456789abcdef.fsx".toList
      (Text.encode "s".toList)).1.toOption = some () := by decide +kernel
  rw [← hsource] at hwritten
  obtain ⟨v, hstage⟩ := (idle unitExtension).stager.exists_stage idleRequest.unitName
    idleRequest.source true idleWorld.tick hwritten
  exact ⟨_, v, hsource, rfl, rfl, v, hstage, rfl⟩

/-- The idle service rejects its request, but not if its units end like its sources. -/
theorem compile_idle :
    ((idle "dll".toList).compile {} idleWorld idleRequest {}).result =
      .error (.fault (.rejected "Compilation produced no output unit.".toList "s".toList)) ∧
    .loaded (.file "/t/calc-0123456789abcdef0123456789abcdef.fsx".toList) ∈
      ((idle "fsx".toList).compile {} idleWorld idleRequest {}).events := by
  have hsilent (p : CompilerProgram) (hp : p.launcher =
      fun t _ _ _ => .ok ⟨0, .ok (.code 0), fun _ => t, [], []⟩) (job : Job) (w : World) :
      p.Silent job {} w ⟨0, .ok (.code 0), fun _ => w.files, [], []⟩ :=
    ⟨by rw [hp], rfl, Child.undisturbed_of_isInert rfl w.signals, rfl, rfl, rfl⟩
  constructor
  · obtain ⟨f, w', -, hreach⟩ := idle_reaches "dll".toList
    exact ((compile_silent _ idleRequest idleWorld).2 _ {} {} {} f w' _ rfl fresh_idleWorld hreach
      (hsilent _ rfl _ _)).1 (by decide)
  · obtain ⟨f, w', hsource, hreach⟩ := idle_reaches "fsx".toList
    obtain ⟨run, w'', -, -, hloaded⟩ := ((compile_silent _ idleRequest idleWorld).2 _ {} {} {} f w' _
      rfl fresh_idleWorld hreach (hsilent _ rfl _ _)).2 rfl
    exact hsource ▸ hloaded rfl

end Service

end Scriptorium
