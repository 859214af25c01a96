import Scriptorium.Proofs.Interrupt.Firing
import Scriptorium.Proofs.Service.Course

/-! The ways a request can pass through a service. Each rule of `Passage` is one way: it says which
calls were made, in which worlds, and what they came to, and with that what the request did, how it
ended and what it left. Every request passes by one of these rules, so what holds of each rule holds
of every request. -/

namespace Scriptorium

/-! ### Steps -/

namespace Step

variable {α β : Type}

theorem act_apply (a : Act α) (c : Course) :
    act a c = ((a c.world).1, { c with world := (a c.world).2 }) := rfl

theorem discarding_apply (s : Stager) (f : Staged) (body : Step α) (c : Course) :
    discarding s f body c = ((body c).1, { (body c).2 with
      world := s.discard f (body c).2.world, events := (body c).2.events ++ [.discarded f] }) := rfl

theorem throughGate_bind (body : Step α) (f : α → Step β) (c : Course) : ∃ g,
    (throughGate body >>= f) c = (((body >>= f) c).1, { ((body >>= f) c).2 with gate := g }) := by
  rw [bind_apply, bind_apply, throughGate]
  rcases body c with ⟨(fault | m) | a, c'⟩
  · exact ⟨c'.gate, rfl⟩
  · exact ⟨.poisoned, rfl⟩
  · exact ⟨(f a c').2.gate, rfl⟩

theorem throughGate_events (body : Step α) (c : Course) :
    (throughGate body c).2.events = (body c).2.events := by
  unfold throughGate
  rcases body c with ⟨(fault | m) | a, c'⟩ <;> rfl

theorem throughGate_ok {body : Step α} {a : α} {c c' : Course}
    (h : throughGate body c = (.ok a, c')) : body c = (.ok a, c') := by
  unfold throughGate at h
  rcases hbody : body c with ⟨(fault | m) | b, c₁⟩
  · rw [hbody] at h
    cases h
  · rw [hbody] at h
    cases h
  · rwa [hbody] at h

end Step

namespace Invoker

theorem call_apply (v : Invoker) (job : Job) (i : Interrupt) (c : Course) :
    v.call job i c = match v.backend.invoke job i c.world with
      | (.ok run, w) =>
        (.ok run, { c with world := w, events := c.events ++ [.invoked job, .returned run] })
      | (.error h, w) => (.error h, { c with world := w, events := c.events ++ [.invoked job] }) := by
  unfold call
  rw [Step.mark_bind, Step.act_bind]
  dsimp only
  rcases v.backend.invoke job i c.world with ⟨h | run, w⟩
  · rfl
  · dsimp only
    rw [Step.mark_bind]
    change (_, _) = _
    simp

/-- What is looked at before a compiler behind a gate. -/
def looks (v : Invoker) : List Event := if v.gated then [.checked none] else []

/-- An invoker that finds the world `w` calls its compiler in the world `w'`. -/
def Enters (v : Invoker) (i : Interrupt) (w w' : World) : Prop :=
  if v.gated then i.fault? w.signals.tick = none ∧ w' = w.tick else w' = w

variable {v v' : Invoker} {i : Interrupt} {f : Staged} {references : ReferenceSet} {job : Job}
  {run : CompilerRun} {w : World} {c c' : Course}

theorem enters_of_gated (hgate : v.gated = true) (hclear : i.fault? w.signals.tick = none) :
    v.Enters i w w.tick := by
  rw [Enters, if_pos hgate]
  exact ⟨hclear, rfl⟩

theorem enters_of_ungated (hgate : ¬v.gated = true) : v.Enters i w w := by
  rw [Enters, if_neg hgate]

theorem invoke_apply (v : Invoker) (f : Staged) (references : ReferenceSet) (i : Interrupt)
    (c : Course) : v.invoke f references i c =
      let job := Job.ofStaged v.profile v.backend.writesOutput f references
      if v.gated then match i.fault? c.world.signals.tick with
        | some fault => (.error (.fault fault), c.looked (some fault))
        | none => Step.throughGate (v.call job i) (c.looked none)
      else v.call job i c := by
  unfold invoke
  cases v.gated with
  | false => rfl
  | true =>
    dsimp only
    rw [if_pos rfl, if_pos rfl, Step.throughGate, Step.check_bind]
    cases i.fault? c.world.signals.tick <;> rfl

theorem call_ok (h : v.call job i c = (.ok run, c')) :
    v.backend.invoke job i c.world = (.ok run, c'.world) := by
  rw [call_apply] at h
  rcases hcall : v.backend.invoke job i c.world with ⟨e | run', w'⟩
  · rw [hcall] at h
    cases h
  · rw [hcall] at h
    cases h
    rfl

theorem invoke_ok (h : v.invoke f references i c = (.ok run, c')) :
    ∃ w', v.Enters i c.world w' ∧
      v.backend.invoke (Job.ofStaged v.profile v.backend.writesOutput f references) i w' =
        (.ok run, c'.world) := by
  rw [invoke_apply] at h
  dsimp only at h
  split at h
  · next hgate =>
    split at h
    · cases h
    · next hclear =>
      exact ⟨c.world.tick, enters_of_gated hgate hclear, call_ok (Step.throughGate_ok h)⟩
  · next hgate => exact ⟨c.world, enters_of_ungated hgate, call_ok h⟩

theorem call_congr (h : v'.backend.invoke job i c.world = v.backend.invoke job i c.world) :
    v'.call job i c = v.call job i c := by
  rw [call_apply, call_apply, h]

/-- Only the answer to the one call matters of a compiler. -/
theorem invoke_congr (hprofile : v'.profile = v.profile)
    (hwrites : v'.backend.writesOutput = v.backend.writesOutput)
    (hreentrant : v'.backend.reentrant = v.backend.reentrant)
    (h : ∀ w', v.Enters i c.world w' →
      let job := Job.ofStaged v.profile v.backend.writesOutput f references
      v'.backend.invoke job i w' = v.backend.invoke job i w') :
    v'.invoke f references i c = v.invoke f references i c := by
  have hgated : v'.gated = v.gated := by rw [gated, gated, hreentrant]
  rw [invoke_apply, invoke_apply, hprofile, hwrites, hgated]
  dsimp only at h ⊢
  split
  · next hgate =>
    split
    · rfl
    · next hclear =>
      unfold Step.throughGate
      rw [call_congr (c := c.looked none) (h _ (enters_of_gated hgate hclear))]
  · next hgate => exact call_congr (h _ (enters_of_ungated hgate))

end Invoker

/-! ### Requests -/

namespace Service

/-- The job that a request has for its compiler. -/
def job (s : Service) (q : Request) (w : World) (f : Staged) : Job :=
  Job.ofStaged s.invoker.profile s.invoker.backend.writesOutput f
    (s.catalog.merge w.files q.references)

/-- A request gets to its compiler: its interrupt `i` has not fired by the first look, its source is
staged as `f`, and the gate, if there is one, lets it through. The compiler finds the world `w'`. -/
structure Reaches (s : Service) (q : Request) (o : Options) (w : World) (i : Interrupt) (f : Staged)
    (w' : World) : Prop where
  started : o.start? w.signals = some i
  admitted : i.fault? w.signals.tick = none
  staged : ∃ w₁,
    s.stager.stage q.unitName q.source s.invoker.backend.writesOutput w.tick = (.ok f, w₁) ∧
      s.invoker.Enters i w₁ w'

theorem Reaches.staged_files {s : Service} {q : Request} {o : Options} {w w' : World} {i : Interrupt}
    {f : Staged} (h : s.Reaches q o w i f w') : ∃ v,
    s.stager.stage q.unitName q.source s.invoker.backend.writesOutput w.tick = (.ok f, v) ∧
      w'.files = v.files := by
  obtain ⟨v, hstage, henter⟩ := h.staged
  refine ⟨v, hstage, ?_⟩
  unfold Invoker.Enters at henter
  split at henter
  · rw [henter.2]
    rfl
  · rw [henter]

/-- The ways from the call of a compiler to the end of its request. -/
inductive Remainder (s : Service) (q : Request) (job : Job) (i : Interrupt) (w : World) :
    List Event → Except Halt (Option Instance) → World → Prop
  | failed {h : Halt} {w' : World} (hcall : s.invoker.backend.invoke job i w = (.error h, w')) :
      Remainder s q job i w [] (.error h) w'
  | rejected {run : CompilerRun} {report : Text} {w' : World}
      (hcall : s.invoker.backend.invoke job i w = (.ok run, w'))
      (hverdict : run.verdict = .rejected report) :
      Remainder s q job i w [.returned run] (.error (.fault (.rejected report q.source))) w'
  | stopped {run : CompilerRun} {u : CompiledUnit} {fault : Fault} {w' : World}
      (hcall : s.invoker.backend.invoke job i w = (.ok run, w'))
      (hverdict : run.verdict = .accepted u) (hfault : i.fault? w'.signals.tick = some fault) :
      Remainder s q job i w [.returned run, .checked (some fault)] (.error (.fault fault)) w'.tick
  | loaded {run : CompilerRun} {u : CompiledUnit} {w' : World}
      (hcall : s.invoker.backend.invoke job i w = (.ok run, w'))
      (hverdict : run.verdict = .accepted u) (hclear : i.fault? w'.signals.tick = none) :
      Remainder s q job i w [.returned run, .checked none, .loaded u]
        (s.loader.materialize u w'.tick).1 (s.loader.materialize u w'.tick).2

/-- The ways of a request through a service: what it does, how it ends, and what it leaves. -/
inductive Passage (s : Service) (q : Request) (o : Options) (w : World) :
    List Event → Except Halt (Option Instance) → World → Prop
  | unstarted (hstart : o.start? w.signals = none) :
      Passage s q o w [] (.error (.panic "overflow when adding duration to instant".toList)) w
  | stopped {i : Interrupt} {fault : Fault} (hstart : o.start? w.signals = some i)
      (hfault : i.fault? w.signals.tick = some fault) :
      Passage s q o w [.checked (some fault)] (.error (.fault fault)) w.tick
  | unstaged {i : Interrupt} {h : Halt} {w' : World} (hstart : o.start? w.signals = some i)
      (hclear : i.fault? w.signals.tick = none)
      (hstage : s.stager.stage q.unitName q.source s.invoker.backend.writesOutput w.tick =
        (.error h, w')) :
      Passage s q o w [.checked none] (.error h) w'
  | held {i : Interrupt} {f : Staged} {fault : Fault} {w' : World}
      (hstart : o.start? w.signals = some i) (hclear : i.fault? w.signals.tick = none)
      (hstage : s.stager.stage q.unitName q.source s.invoker.backend.writesOutput w.tick =
        (.ok f, w'))
      (hgate : s.invoker.gated = true) (hfault : i.fault? w'.signals.tick = some fault) :
      Passage s q o w [.checked none, .staged f, .checked (some fault), .discarded f]
        (.error (.fault fault)) (s.stager.discard f w'.tick)
  | called {i : Interrupt} {f : Staged} {w' w'' : World} {es : List Event}
      {r : Except Halt (Option Instance)} (hreach : s.Reaches q o w i f w')
      (hrest : s.Remainder q (s.job q w f) i w' es r w'') :
      Passage s q o w
        (.checked none :: .staged f :: (s.invoker.looks ++ .invoked (s.job q w f) :: es) ++
          [.discarded f]) r (s.stager.discard f w'')

/-- A rejected run ends its request; an accepted one is loaded unless the interrupt has fired. -/
theorem conclude_apply (s : Service) (q : Request) (i : Interrupt) (run : CompilerRun)
    (c : Course) : s.conclude q i run c = match run.verdict with
      | .rejected report => (.error (.fault (.rejected report q.source)), c)
      | .accepted u => match i.fault? c.world.signals.tick with
        | some fault => (.error (.fault fault), c.looked (some fault))
        | none => ((s.loader.materialize u c.world.tick).1,
            { c with
              world := (s.loader.materialize u c.world.tick).2
              events := c.events ++ [.checked none, .loaded u] }) := by
  unfold conclude
  cases run.verdict with
  | rejected report => rfl
  | accepted u =>
    dsimp only
    rw [Step.check_bind]
    cases i.fault? c.world.signals.tick with
    | some fault => rfl
    | none =>
      dsimp only
      rw [Step.mark_bind, Step.act_apply]
      simp [Course.looked, World.tick]

theorem remainder_of_call (s : Service) (q : Request) (job : Job) (i : Interrupt) (c : Course) :
    let e := (s.invoker.call job i >>= s.conclude q i) c
    ∃ es, e.2.events = c.events ++ .invoked job :: es ∧
      s.Remainder q job i c.world es e.1 e.2.world := by
  dsimp only
  rw [Step.bind_apply, Invoker.call_apply]
  rcases hcall : s.invoker.backend.invoke job i c.world with ⟨h | run, w⟩
  · exact ⟨_, rfl, .failed hcall⟩
  · dsimp only
    rw [conclude_apply]
    cases hverdict : run.verdict with
    | rejected report => exact ⟨_, rfl, .rejected hcall hverdict⟩
    | accepted u =>
      dsimp only
      cases hfault : i.fault? w.signals.tick with
      | some fault => exact ⟨_, by simp [Course.looked], .stopped hcall hverdict hfault⟩
      | none => exact ⟨_, by simp, .loaded hcall hverdict hfault⟩

theorem remainder_of_invoke (s : Service) (q : Request) (f : Staged) (references : ReferenceSet)
    (i : Interrupt) (c : Course) :
    let job := Job.ofStaged s.invoker.profile s.invoker.backend.writesOutput f references
    let e := (s.invoker.invoke f references i >>= s.conclude q i) c
    (∃ w' es, s.invoker.Enters i c.world w' ∧
      e.2.events = c.events ++ (s.invoker.looks ++ .invoked job :: es) ∧
        s.Remainder q job i w' es e.1 e.2.world) ∨
    ∃ fault, s.invoker.gated = true ∧ i.fault? c.world.signals.tick = some fault ∧
      e.1 = .error (.fault fault) ∧ e.2.events = c.events ++ [.checked (some fault)] ∧
        e.2.world = c.world.tick := by
  intro job e
  have he : e = (s.invoker.invoke f references i >>= s.conclude q i) c := rfl
  rw [Step.bind_apply, Invoker.invoke_apply] at he
  by_cases hgate : s.invoker.gated = true
  · rw [if_pos hgate] at he
    cases hfault : i.fault? c.world.signals.tick with
    | some fault =>
      rw [hfault] at he
      exact .inr ⟨fault, hgate, rfl, by rw [he], by rw [he]; rfl, by rw [he]; rfl⟩
    | none =>
      obtain ⟨g, hg⟩ := Step.throughGate_bind (s.invoker.call job i) (s.conclude q i) (c.looked none)
      rw [Step.bind_apply] at hg
      rw [hfault, hg] at he
      obtain ⟨es, hevents, hrest⟩ := s.remainder_of_call q job i (c.looked none)
      refine .inl ⟨c.world.tick, es, Invoker.enters_of_gated hgate hfault, ?_, he ▸ hrest⟩
      rw [he]
      simpa [Invoker.looks, hgate, Course.looked] using hevents
  · rw [if_neg hgate, ← Step.bind_apply] at he
    obtain ⟨es, hevents, hrest⟩ := s.remainder_of_call q job i c
    exact .inl ⟨c.world, es, Invoker.enters_of_ungated hgate,
      by simpa [he, Invoker.looks, hgate] using hevents, he ▸ hrest⟩

theorem proceed_of_unstaged (s : Service) (q : Request) (i : Interrupt) (references : ReferenceSet)
    (c : Course) {h : Halt} {w : World}
    (hstage : s.stager.stage q.unitName q.source s.invoker.backend.writesOutput c.world =
      (.error h, w)) :
    s.proceed q i references c = (.error h, { c with world := w }) := by
  rw [proceed, Step.act_bind, hstage]

/-- What a request does after its source has been staged, and the removal of its files. -/
theorem proceed_of_staged (s : Service) (q : Request) (i : Interrupt) (references : ReferenceSet)
    (c : Course) {f : Staged} {w : World}
    (h : s.stager.stage q.unitName q.source s.invoker.backend.writesOutput c.world = (.ok f, w)) :
    let e := (s.invoker.invoke f references i >>= s.conclude q i)
      { c with world := w, events := c.events ++ [.staged f] }
    s.proceed q i references c = (e.1, { e.2 with
      world := s.stager.discard f e.2.world, events := e.2.events ++ [.discarded f] }) := by
  rw [proceed, Step.act_bind, h]
  dsimp only
  rw [Step.mark_bind, Step.discarding_apply]

theorem passage_of_staged (s : Service) (q : Request) {o : Options} {w w₁ : World} {i : Interrupt}
    {f : Staged} (g : Gate) (hstart : o.start? w.signals = some i)
    (hclear : i.fault? w.signals.tick = none)
    (hstage : s.stager.stage q.unitName q.source s.invoker.backend.writesOutput w.tick =
      (.ok f, w₁)) :
    let e := (s.invoker.invoke f (s.catalog.merge w.files q.references) i >>= s.conclude q i)
      ⟨w₁, g, [.checked none, .staged f]⟩
    s.Passage q o w (e.2.events ++ [.discarded f]) e.1 (s.stager.discard f e.2.world) := by
  intro e
  rcases s.remainder_of_invoke q f (s.catalog.merge w.files q.references) i
      ⟨w₁, g, [.checked none, .staged f]⟩ with
    ⟨w', es, henter, hevents, hrest⟩ | ⟨fault, hgate, hfault, hresult, hevents, hworld⟩
  · rw [show e.2.events = _ from hevents]
    exact .called ⟨hstart, hclear, w₁, hstage, henter⟩ hrest
  · rw [show e.2.events = _ from hevents, show e.1 = _ from hresult,
      show e.2.world = _ from hworld]
    exact .held hstart hclear hstage hgate hfault

theorem compile_passage (s : Service) (x : Session) (w : World) (q : Request) (o : Options) :
    let a := s.compile x w q o
    s.Passage q o w a.events a.result a.world := by
  have hrun : s.compile x w q o =
      let e := s.run q o ⟨w, x.gate, []⟩
      ⟨e.1, ⟨count x.statistics.countRequest e.1, e.2.gate⟩, e.2.world, e.2.events⟩ := rfl
  rw [hrun, run_eq_opening, opening_apply]
  dsimp only
  cases hstart : o.start? w.signals with
  | none => exact .unstarted hstart
  | some i =>
    dsimp only
    cases hfault : i.fault? w.signals.tick with
    | some fault => exact .stopped hstart hfault
    | none =>
      dsimp only
      rcases hstage : s.stager.stage q.unitName q.source s.invoker.backend.writesOutput w.tick with
        ⟨h | f, w₁⟩
      · rw [proceed_of_unstaged s q i _ (Course.looked ⟨w, x.gate, []⟩ none) hstage]
        exact .unstaged hstart hfault hstage
      · rw [proceed_of_staged s q i _ (Course.looked ⟨w, x.gate, []⟩ none) hstage]
        exact passage_of_staged s q x.gate hstart hfault hstage

end Service

end Scriptorium
