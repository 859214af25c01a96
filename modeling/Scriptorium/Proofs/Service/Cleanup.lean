import Scriptorium.Proofs.FileTree.Removal
import Scriptorium.Proofs.Service.Course

/-! What is left of the scratch files of a request. A request is compared with the same request that
removes nothing: both come to the same result, and the files of the first are those of the second
after the source and then the output have been removed, whatever compiler and loader did to them and
however the request ended. -/

namespace Scriptorium

/-! ### Removing the scratch files -/

/-- What keeps scratch files from being removed, the source first. -/
def Staged.stuck (f : Staged) (t : FileTree) : List (Text × IoError) :=
  ((t.stuck? f.source).map (f.source, ·)).toList ++
    f.output.toList.filterMap fun path => ((t.without f.source).stuck? path).map (path, ·)

/-- `w'` is `w` after the scratch files have been removed as far as that is possible. -/
structure Swept (reports : Bool) (f : Staged) (w w' : World) : Prop where
  /-- The source is gone unless it could not be removed. -/
  source : w.files.stuck? f.source = none → ¬w'.files.Holds f.source
  /-- So is the output, whether or not the source could be removed. -/
  output : ∀ path ∈ f.output, (w.files.without f.source).stuck? path = none → ¬w'.files.Holds path
  /-- Whatever could not be removed is reported, and nothing else. -/
  reported : w'.reports = w.reports ++ if reports then f.stuck w.files else []
  /-- Two paths are reported once each. -/
  once : f.output ≠ some f.source → ((f.stuck w.files).map Prod.fst).Nodup
  /-- No place is touched that neither of the two paths leads to. -/
  untouched : ∀ l, (∀ e, w.files.find false f.source ≠ .ok (.taken l e)) →
    (∀ path ∈ f.output, ∀ e, (w.files.without f.source).find false path ≠ .ok (.taken l e)) →
      w'.files.get? l = w.files.get? l
  /-- Nothing else in the world changes. -/
  rest : ∃ t rs, w' = { w with files := t, reports := rs }

namespace World

theorem discard_eq (reports : Bool) (path : Text) (w : World) :
    w.discard reports path =
      { w with
        files := w.files.without path
        reports := w.reports ++
          if reports then ((w.files.stuck? path).map (path, ·)).toList else [] } := by
  unfold discard FileTree.without FileTree.stuck?
  cases w.files.remove path with
  | ok t => cases reports <;> simp [Except.toOption]
  | error e => cases e <;> cases reports <;> simp [Except.toOption]

end World

namespace Stager

theorem discard_swept (s : Stager) (f : Staged) (w : World) :
    Swept s.reports f w (s.discard f w) := by
  obtain ⟨source, output⟩ := f
  cases output with
  | none =>
    simp only [discard, World.discard_eq, Option.toList_none, List.foldl_nil]
    refine ⟨FileTree.not_holds_without, by simp, ?_, fun _ => ?_,
      fun l hl _ => FileTree.get?_without hl, ⟨_, _, rfl⟩⟩
    · simp [Staged.stuck]
    · cases h : w.files.stuck? source <;> simp [Staged.stuck, h]
  | some path =>
    simp only [discard, World.discard_eq, Option.toList_some, List.foldl_cons, List.foldl_nil]
    refine ⟨fun h hholds => FileTree.not_holds_without h hholds.of_without, ?_, ?_, fun hne => ?_,
      ?_, ⟨_, _, rfl⟩⟩
    · intro p hp h
      obtain rfl : path = p := by simpa using hp
      exact FileTree.not_holds_without h
    · cases s.reports <;> cases h : (w.files.without source).stuck? path <;> simp [Staged.stuck, h]
    · have hne : source ≠ path := fun e => hne (e ▸ rfl)
      cases h : w.files.stuck? source <;> cases h' : (w.files.without source).stuck? path <;>
        simp [Staged.stuck, h, h', hne]
    · intro l hsource houtput
      rw [FileTree.get?_without (houtput path rfl), FileTree.get?_without hsource]

/-- The source is written under a fresh name; a write cut short leaves nothing behind. -/
theorem stage_apply (s : Stager) (unitName source : Text) (withOutput : Bool) (w : World) :
    s.stage unitName source withOutput w =
      let f := s.paths unitName (w.freshName w.drawn) withOutput
      match Act.write f.source (Text.encode source) (.notStaged f.source)
          { w with drawn := w.drawn + 1 } with
      | (.ok (), w) => (.ok f, w)
      | (.error h, w) => (.error h, s.discard f w) := by
  unfold stage
  rw [Act.bind_apply]
  dsimp only [Act.draw]
  rw [Act.bind_apply]
  unfold Act.onHalt
  rcases Act.write _ _ _ _ with ⟨_ | _, _⟩ <;> rfl

end Stager

/-! ### Requests -/

namespace Service

/-- The scratch files that a request names, if it gets so far. -/
def scratchFiles (s : Service) (q : Request) (w : World) : Staged :=
  s.stager.paths q.unitName (w.freshName w.drawn) s.invoker.backend.writesOutput

/-- A request gets past its first look at the interrupt. -/
def Admits (o : Options) (w : World) : Prop :=
  ∃ i, o.start? w.signals = some i ∧ i.fault? w.signals.tick = none

/-- What is left of a request after its first look at the interrupt, if it removes nothing. -/
def proceedKeeping (s : Service) (q : Request) (i : Interrupt) (references : ReferenceSet) :
    Step (Option Instance) := do
  let token ← Step.act Act.draw
  let f := s.stager.paths q.unitName token s.invoker.backend.writesOutput
  Step.act (Act.write f.source (Text.encode q.source) (.notStaged f.source))
  Step.mark (.staged f)
  let run ← s.invoker.invoke f references i
  s.conclude q i run

/-- A request that leaves its scratch files where they are. -/
def runKeeping (s : Service) (q : Request) (o : Options) : Step (Option Instance) :=
  s.opening q o (s.proceedKeeping q)

/-- Up to the removal of its scratch files a request is the one that removes nothing. -/
theorem proceed_eq_keeping (s : Service) (q : Request) (i : Interrupt) (references : ReferenceSet)
    (c : Course) :
    (s.proceed q i references c).1 = (s.proceedKeeping q i references c).1 ∧
      (s.proceed q i references c).2.world =
        s.stager.discard (s.scratchFiles q c.world) (s.proceedKeeping q i references c).2.world := by
  unfold proceed proceedKeeping
  rw [Step.act_bind, Step.act_bind, Stager.stage_apply]
  dsimp only [Act.draw]
  rw [Step.act_bind]
  rcases Act.write _ _ _ _ with ⟨h | _, w⟩
  · exact ⟨rfl, rfl⟩
  · dsimp only
    rw [Step.mark_bind, Step.mark_bind]
    exact ⟨rfl, rfl⟩

/-- However a request ends, by a value, a fault or a panic, its result is that of the request that
removes nothing. If it names scratch files, both of them are swept; if it ends before that, there is
nothing to sweep. -/
theorem compile_sweeps_scratch_files (s : Service) (x : Session) (w : World) (q : Request)
    (o : Options) :
    let kept := s.runKeeping q o ⟨w, x.gate, []⟩
    let a := s.compile x w q o
    a.result = kept.1 ∧
      (Admits o w → Swept s.stager.reports (s.scratchFiles q w) kept.2.world a.world) ∧
      (¬Admits o w →
        a.world = kept.2.world ∧ a.world.files = w.files ∧ a.world.reports = w.reports) := by
  have hresult : (s.compile x w q o).result = (s.run q o ⟨w, x.gate, []⟩).1 := rfl
  have hworld : (s.compile x w q o).world = (s.run q o ⟨w, x.gate, []⟩).2.world := rfl
  dsimp only
  rw [hresult, hworld, run_eq_opening, runKeeping, opening_apply, opening_apply]
  dsimp only
  cases hstart : o.start? w.signals with
  | none => exact ⟨rfl, fun ⟨i, hi, _⟩ => by simp [hstart] at hi, fun _ => ⟨rfl, rfl, rfl⟩⟩
  | some i =>
    dsimp only
    cases hfault : i.fault? w.signals.tick with
    | some fault =>
      refine ⟨rfl, fun ⟨j, hj, hnone⟩ => ?_, fun _ => ⟨rfl, rfl, rfl⟩⟩
      obtain rfl : i = j := by simpa [hstart] using hj
      simp [hfault] at hnone
    | none =>
      obtain ⟨hsame, hdiscard⟩ := proceed_eq_keeping s q i (s.catalog.merge w.files q.references)
        (Course.looked ⟨w, x.gate, []⟩ none)
      refine ⟨hsame, fun _ => ?_, fun hnot => absurd ⟨i, hstart, hfault⟩ hnot⟩
      rw [hdiscard]
      exact Stager.discard_swept s.stager _ _

end Service

end Scriptorium
