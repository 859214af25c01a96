import Scriptorium.Proofs.Service.Cleanup
import Scriptorium.Proofs.Service.Counting
import Scriptorium.Proofs.Service.Passage

/-! Panics of the service itself. If neither compiler nor loader panics, a request panics exactly if its
timeout ends beyond the last reading of the clock: the deadline is a sum of two times, and nobody looks
whether there is such a moment. By then the request has been counted, so each of these requests is
missing from the outcomes. -/

namespace Scriptorium

namespace Act

variable {α β : Type} {a : Act α} {f : α → Act β}

/-- Whatever the world is, the act does not end in a panic. -/
def NeverPanics (a : Act α) : Prop := ∀ w m, (a w).1 ≠ .error (.panic m)

/-- A sequence does not panic if its first act does not, nor what follows with a value that the first
one has come to. -/
theorem NeverPanics.bind (ha : a.NeverPanics)
    (hf : ∀ w x w', a w = (.ok x, w') → (f x).NeverPanics) : (a >>= f).NeverPanics := by
  intro w m h
  rcases bind_error h with hpanic | ⟨x, w', hx, hpanic⟩
  · exact ha w m hpanic
  · exact hf w x w' hx w' m hpanic

end Act

/-- A loader that does not panic, neither when it loads a unit nor when it constructs a type of one
that it has loaded. -/
structure Loader.Calm (l : Loader) : Prop where
  load : ∀ u, (l.load u).NeverPanics
  construct : ∀ u w loaded w', l.load u w = (.ok loaded, w') →
    ∀ name, (loaded.instantiate name).NeverPanics

theorem Loader.Calm.materialize {l : Loader} (h : l.Calm) (u : CompiledUnit) :
    (l.materialize u).NeverPanics := by
  refine (h.load u).bind fun w loaded w' hloaded v m hpanic => ?_
  cases htypes : loaded.types with
  | nil =>
    rw [htypes] at hpanic
    exact nomatch hpanic
  | cons first rest =>
    rw [htypes] at hpanic
    dsimp only at hpanic
    rw [Act.map_apply] at hpanic
    cases hmade : (loaded.instantiate first v).1 with
    | ok i =>
      rw [hmade] at hpanic
      exact nomatch hpanic
    | error e =>
      rw [hmade] at hpanic
      exact h.construct u w loaded w' hloaded first v m (hmade.trans (by simpa [Except.map] using hpanic))

theorem Stager.stage_neverPanics (s : Stager) (unitName source : Text) (withOutput : Bool) :
    (s.stage unitName source withOutput).NeverPanics := by
  intro w m h
  rw [stage_apply] at h
  unfold Act.write at h
  dsimp only at h
  rcases hwrite : w.files.write (s.paths unitName (w.freshName w.drawn) withOutput).source
    (Text.encode source) with ⟨e | u, t⟩
  · rw [hwrite] at h
    exact nomatch h
  · rw [hwrite] at h
    exact nomatch h

namespace Service

/-- Compiler and loader of a service do not panic. -/
structure Calm (s : Service) : Prop where
  compile : ∀ job i, (s.invoker.backend.invoke job i).NeverPanics
  loader : s.loader.Calm

variable {s : Service} {x : Session} {q : Request} {o : Options} {w w' : World} {i : Interrupt}
  {job : Job} {es : List Event} {r : Except Halt (Option Instance)} {m : Text} {c : Call}
  {cs : List Call}

/-- From the call of the compiler on, only compiler and loader can panic. -/
theorem Remainder.ne_panic (hcalm : s.Calm) (h : s.Remainder q job i w es r w') :
    r ≠ .error (.panic m) := by
  cases h with
  | failed hcall =>
    intro hpanic
    obtain rfl := Except.error.inj hpanic
    exact hcalm.compile job i w m (congrArg Prod.fst hcall)
  | rejected => exact nofun
  | stopped => exact nofun
  | loaded => exact hcalm.loader.materialize _ _ m

theorem Passage.started_of_panic (hcalm : s.Calm) (h : s.Passage q o w es r w')
    (hr : r = .error (.panic m)) : o.start? w.signals = none := by
  cases h with
  | unstarted hstart => exact hstart
  | unstaged hstart hclear hstage =>
    obtain rfl := Except.error.inj hr
    exact absurd (congrArg Prod.fst hstage) (s.stager.stage_neverPanics _ _ _ w.tick m)
  | stopped | held => exact nomatch hr
  | called hreach hrest => exact absurd hr (hrest.ne_panic hcalm)

theorem compile_of_unstarted (x : Session) (q : Request) (h : o.start? w.signals = none) :
    s.compile x w q o = ⟨.error (.panic "overflow when adding duration to instant".toList),
      ⟨x.statistics.countRequest, x.gate⟩, w, []⟩ := by
  rw [compile, run_eq_opening, opening_apply]
  dsimp only
  rw [h]
  rfl

theorem compile_panic_iff (hcalm : s.Calm) (x : Session) (w : World) (q : Request) (o : Options) :
    (∃ m, (s.compile x w q o).result = .error (.panic m)) ↔ o.overruns w.signals = true := by
  rw [← Options.start?_eq_none_iff]
  constructor
  · rintro ⟨m, hm⟩
    exact (s.compile_passage x w q o).started_of_panic hcalm hm
  · intro h
    exact ⟨_, by rw [compile_of_unstarted x q h]⟩

/-! ### Calls one after another -/

/-- The timeout of a call ends beyond the last reading of its clock. -/
def Call.overruns (c : Call) : Bool := c.ask.options.overruns c.world.signals

theorem count_panicked (hcalm : ∀ c ∈ cs, (s.during c).Calm) (x : Session) :
    (s.outcomes x cs).count .panicked = cs.countP Call.overruns := by
  induction cs generalizing x with
  | nil => rfl
  | cons c cs ih =>
    have hpanic := compile_panic_iff (hcalm c List.mem_cons_self) x c.world c.ask.toRequest c.ask.options
    have houtcome : Outcome.ofResult (s.answer x c).result = .panicked ↔ c.overruns = true := by
      refine Iff.trans ?_ hpanic
      change Outcome.ofResult (s.answer x c).result = _ ↔ ∃ m, (s.answer x c).result = _
      rcases (s.answer x c).result with (fault | m) | (_ | made)
      case error.fault => cases fault <;> simp [Outcome.ofResult, Outcome.ofFault]
      all_goals simp [Outcome.ofResult]
    rw [outcomes_cons, List.count_cons, List.countP_cons,
      ih (fun c hc => hcalm c (List.mem_cons_of_mem _ hc))]
    simp [houtcome]

/-- A timeout is accepted exactly if the clock reaches its end, and then it is reported only after all
of it has passed. Over any calls whose compilers and loaders do not panic, a call panics exactly if its
timeout is not accepted; it has been counted as a request then, and leaves everything else as it is.
So the outcomes add up to the requests if and only if all timeouts are accepted, and otherwise each of
the others is missing. -/
theorem calls_panic_iff_overrun (s : Service) (cs : List Call) (hcalm : ∀ c ∈ cs, (s.during c).Calm) :
    let t := (s.after {} cs).statistics
    (∀ (o : Options) (g : Signals), ((∃ i, o.start? g = some i) ↔
        ∀ d ∈ o.timeout, g.now + d.nanoseconds < Signals.clockEnd) ∧
      ∀ i, o.start? g = some i → ∀ g', ∀ d, i.fault? g' = some (.timedOut d) →
        o.timeout = some d ∧ g.now + d.nanoseconds ≤ g'.now) ∧
    (∀ c ∈ cs, ∀ x, ((∃ m, (s.answer x c).result = .error (.panic m)) ↔ c.overruns = true) ∧
      (c.overruns = true → s.answer x c =
        ⟨.error (.panic "overflow when adding duration to instant".toList),
          ⟨x.statistics.countRequest, x.gate⟩, c.world, []⟩)) ∧
    t.requests = t.answered + cs.countP Call.overruns ∧
    (t.requests = t.answered ↔ ∀ c ∈ cs, c.overruns = false) := by
  intro t
  have hcounts : t.Counts (s.outcomes {} cs) := counts_after (x := {}) Statistics.counts_nil cs
  have hrequests : t.requests = t.answered + cs.countP Call.overruns := by
    rw [hcounts.requests_eq, count_panicked hcalm]
  refine ⟨fun o g => ⟨?_, fun i hstart g' d hfault => ?_⟩, fun c hc x =>
    ⟨compile_panic_iff (hcalm c hc) x c.world c.ask.toRequest c.ask.options,
      fun hover => compile_of_unstarted x _ (Options.start?_eq_none_iff.mpr hover)⟩, hrequests, ?_⟩
  · rw [← Options.overruns_eq_false_iff]
    simp [Options.start?_eq_some_iff]
  · obtain ⟨-, rfl⟩ := Options.start?_eq_some_iff.mp hstart
    exact (Options.interruptAt_timedOut_iff.mp hfault).2
  · rw [hrequests, Nat.add_eq_left, List.countP_eq_zero]
    simp

/-! ### The longest timeout -/

/-- A service whose compiler always makes a unit without types. -/
def barren : Service where
  catalog := .ofReferences []
  stager := ⟨"/t".toList, "fsx".toList, "dll".toList, false⟩
  invoker := ⟨⟨false, true, fun _ _ => pure ⟨[], 0, some (.image [])⟩⟩, []⟩
  loader := ⟨fun _ => pure ⟨[], fun _ => Act.fail .cancelled⟩⟩

def barrenCall (timeout : Option Duration) : Call where
  ask := .request ⟨"s".toList, "u".toList, []⟩ { timeout }
  world := { files := { entries := [(["t".toList], .directory)] }, freshName := fun _ => ['0'] }
  compile := barren.invoker.backend.invoke
  load := barren.loader.load

theorem barren_calm (timeout : Option Duration) : (barren.during (barrenCall timeout)).Calm where
  compile _ _ _ _ := nofun
  loader := {
    load := fun _ _ _ => nofun
    construct := fun _ w loaded w' hloaded name v m h => by
      obtain rfl : ⟨[], fun _ => Act.fail .cancelled⟩ = loaded := Except.ok.inj (congrArg Prod.fst hloaded)
      exact nomatch h }

/-- With the longest timeout there is, the call panics and is missing from the outcomes. -/
theorem calls_panic_longest :
    let longest := barrenCall (some (.ofParts 0xffffffffffffffff 999999999))
    let t := (barren.after {} [barrenCall none, longest]).statistics
    (∃ m, (barren.answer {} longest).result = .error (.panic m)) ∧
      t.requests = 2 ∧ t.answered = 1 ∧ t.requests = t.answered + 1 := by
  intro longest t
  have hcalm : ∀ c ∈ [barrenCall none, longest], (barren.during c).Calm := by
    simp [longest, barren_calm]
  obtain ⟨-, hpanic, hrequests, -⟩ := calls_panic_iff_overrun barren _ hcalm
  have hover : longest.overruns = true := by decide +kernel
  have hcount : [barrenCall none, longest].countP Call.overruns = 1 := by decide +kernel
  rw [hcount] at hrequests
  exact ⟨(hpanic longest (by simp) {}).1.mpr hover, by decide +kernel, by decide +kernel, hrequests⟩

end Service

end Scriptorium
