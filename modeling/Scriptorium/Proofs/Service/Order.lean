import Mathlib.Data.List.Basic
import Scriptorium.Proofs.Diagnostic.Report
import Scriptorium.Proofs.Service.Passage

/-! The order in which a request does things. Whatever compiler and loader do, and whenever its
interrupt fires, a request calls its compiler at most once and after staging, loads at most the unit
of the run that this compiler returned, and that only if the run is clean and the interrupt had not
fired after it, and removes its files last. -/

namespace Scriptorium

/-! ### Acts -/

namespace Act

variable {α : Type} {a : Act α} {y z : α} {h : Halt} {w w₁ w₂ : World}

theorem ok_unique (hy : a w = (.ok y, w₁)) (hz : a w = (.ok z, w₂)) : y = z ∧ w₁ = w₂ := by
  obtain ⟨hvalue, hworld⟩ := Prod.mk.inj (hy.symm.trans hz)
  exact ⟨Except.ok.inj hvalue, hworld⟩

theorem ok_ne_error (hy : a w = (.ok y, w₁)) : a w ≠ (.error h, w₂) := by
  intro hh
  cases hy.symm.trans hh

end Act

/-- A compiler in the host that returned a run too late might as well not have run. -/
theorem EntryPoint.invoke_of_late (e : EntryPoint) {job : Job} {i : Interrupt} {w w₁ : World}
    {run : CompilerRun} {fault : Fault} (hclear : i.fault? w.signals.tick = none)
    (hcall : e.call job w.tick = (.ok (.ok run), w₁))
    (hlate : i.fault? w₁.signals.tick = some fault) :
    e.backend.invoke job i w = (.error (.fault fault), w₁.tick) := by
  unfold backend
  dsimp only
  rw [Act.bind_apply, Act.check_of_clear hclear]
  dsimp only
  rw [Act.bind_apply, hcall]
  dsimp only
  rw [Act.bind_apply, Act.check_of_fault hlate]

theorem Loader.materialize_congr {l l' : Loader} {u : CompiledUnit} {w : World}
    (h : l.load u w = l'.load u w) : l.materialize u w = l'.materialize u w := by
  unfold materialize
  rw [Act.bind_apply, Act.bind_apply, h]

namespace Service

variable {s : Service} {q : Request} {o : Options} {x : Session} {w : World}

/-! ### Calls -/

/-- A request gets to its loader: the compiler it reached returned the clean run `run` with the unit
`u`, and the interrupt had not fired after that. The loader finds the world as the compiler left it,
a moment later. -/
inductive Loads (s : Service) (q : Request) (o : Options) (w : World) (f : Staged) :
    CompilerRun → CompiledUnit → World → Prop
  | intro {i : Interrupt} {w₁ w₂ : World} {run : CompilerRun} {u : CompiledUnit}
      (reached : s.Reaches q o w i f w₁)
      (returned : s.invoker.backend.invoke (s.job q w f) i w₁ = (.ok run, w₂))
      (unit : run.unit = some u) (status : run.exitStatus = 0) (clean : run.hasErrors = false)
      (clear : i.fault? w₂.signals.tick = none) : Loads s q o w f run u w₂.tick

/-- The service with another compiler and another loader. -/
def replace (s : Service) (b : Backend) (l : Loader) : Service :=
  { s with invoker := { s.invoker with backend := b }, loader := l }

/-- What a request does from first to last. -/
structure Orderly (s : Service) (x : Session) (w : World) (q : Request) (o : Options)
    (a : Answer) : Prop where
  /-- An interrupt that has fired by the first look ends the request there; nothing is staged, and
  neither compiler nor loader is called. -/
  stopped : ∀ i fault, o.start? w.signals = some i → i.fault? w.signals.tick = some fault →
    a.result = .error (.fault fault) ∧ a.events = [.checked (some fault)] ∧ a.world = w.tick
  /-- The compiler is called once at most, and for a source that has been staged. -/
  invoked : ∀ before job after, a.events = before ++ .invoked job :: after →
    (∀ j, .invoked j ∉ before ++ after) ∧
      ∃ i f w', s.Reaches q o w i f w' ∧ .staged f ∈ before ∧ job = s.job q w f
  /-- The loader is called once at most, right after a look at the interrupt that found it silent,
  and only with the unit of the clean run that the compiler has just returned. -/
  loaded : ∀ before u after, a.events = before ++ .loaded u :: after →
    (∀ v, .loaded v ∉ before ++ after) ∧
      ∃ earlier f run w', before = earlier ++ [.returned run, .checked none] ∧
        s.Loads q o w f run u w'
  /-- Loading and constructing come before the removal of the files, which is the last thing done,
  and they decide the result. -/
  kept : ∀ f run u w', s.Loads q o w f run u w' →
    (∃ before, a.events = before ++ [.loaded u, .discarded f]) ∧
      a.result = (s.loader.materialize u w').1 ∧
      a.world = s.stager.discard f (s.loader.materialize u w').2
  /-- A compiler in the host whose interrupt has fired by the time it returns a run has its request
  interrupted, whatever the run is. -/
  interrupted : ∀ (e : EntryPoint) i f w₁ run w₂, s.invoker.backend = e.backend →
    s.Reaches q o w i f w₁ → i.fault? w₁.signals.tick = none →
    e.call (s.job q w f) w₁.tick = (.ok (.ok run), w₂) → (i.fault? w₂.signals).isSome →
    ∃ fault, a.result = .error (.fault fault) ∧ (fault = .cancelled ∨ ∃ d, fault = .timedOut d)
  /-- A run that a compiler did return is rejected if it is no success, even if the interrupt has
  fired meanwhile. -/
  rejected : ∀ i f w₁ run w₂, s.Reaches q o w i f w₁ →
    s.invoker.backend.invoke (s.job q w f) i w₁ = (.ok run, w₂) →
    run.unit = none ∨ run.exitStatus ≠ 0 ∨ run.hasErrors = true →
    a.result =
      .error (.fault (.rejected (Transcript.report run.diagnostics run.exitStatus) q.source))
  /-- No other call is made: with a compiler and a loader that answer the same to these two calls,
  and anything to others, the request is answered the same. -/
  alone : ∀ (b : Backend) (l : Loader), b.writesOutput = s.invoker.backend.writesOutput →
    b.reentrant = s.invoker.backend.reentrant →
    (∀ i f w', s.Reaches q o w i f w' →
      b.invoke (s.job q w f) i w' = s.invoker.backend.invoke (s.job q w f) i w') →
    (∀ f run u w', s.Loads q o w f run u w' → l.load u w' = s.loader.load u w') →
    (s.replace b l).compile x w q o = a

variable {i i' : Interrupt} {f f' : Staged} {w₁ w₁' w₂ w' : World} {job : Job} {run : CompilerRun}
  {u : CompiledUnit} {es : List Event} {r : Except Halt (Option Instance)}

/-! ### The call of the compiler -/

theorem Passage.of_stopped {fault : Fault} (hp : s.Passage q o w es r w')
    (hstart : o.start? w.signals = some i) (hfault : i.fault? w.signals.tick = some fault) :
    r = .error (.fault fault) ∧ es = [.checked (some fault)] ∧ w' = w.tick := by
  have hnot {j : Interrupt} (hj : o.start? w.signals = some j) : j.fault? w.signals.tick ≠ none := by
    obtain rfl := Option.some.inj (hstart.symm.trans hj)
    simp [hfault]
  cases hp with
  | unstarted hnone => simp [hstart] at hnone
  | stopped hj hfault' =>
    obtain rfl := Option.some.inj (hstart.symm.trans hj)
    obtain rfl := Option.some.inj (hfault.symm.trans hfault')
    exact ⟨rfl, rfl, rfl⟩
  | unstaged hj hclear _ | held hj hclear _ _ _ => exact absurd hclear (hnot hj)
  | called hreach _ => exact absurd hreach.admitted (hnot hreach.started)

theorem Reaches.unique (h : s.Reaches q o w i f w₁) (h' : s.Reaches q o w i' f' w₁') :
    i = i' ∧ f = f' ∧ w₁ = w₁' := by
  obtain rfl : i = i' := Option.some.inj (h.started.symm.trans h'.started)
  obtain ⟨v, hstage, henter⟩ := h.staged
  obtain ⟨v', hstage', henter'⟩ := h'.staged
  obtain ⟨rfl, rfl⟩ := Act.ok_unique hstage hstage'
  refine ⟨rfl, rfl, ?_⟩
  unfold Invoker.Enters at henter henter'
  split at henter
  · next hgate =>
    rw [if_pos hgate] at henter'
    exact henter.2.trans henter'.2.symm
  · next hgate =>
    rw [if_neg hgate] at henter'
    exact henter.trans henter'.symm

theorem Passage.remainder (hp : s.Passage q o w es r w') (h : s.Reaches q o w i f w₁) :
    ∃ rest w₂, s.Remainder q (s.job q w f) i w₁ rest r w₂ ∧ w' = s.stager.discard f w₂ ∧
      es = .checked none :: .staged f :: (s.invoker.looks ++ .invoked (s.job q w f) :: rest) ++
        [.discarded f] := by
  obtain ⟨v, hstaged, henter⟩ := h.staged
  cases hp with
  | unstarted hstart => simp [h.started] at hstart
  | stopped hstart hfault =>
    obtain rfl := Option.some.inj (h.started.symm.trans hstart)
    simp [h.admitted] at hfault
  | unstaged hstart hclear hstage => exact absurd hstage (Act.ok_ne_error hstaged)
  | held hstart hclear hstage hgate hfault =>
    obtain rfl := Option.some.inj (h.started.symm.trans hstart)
    obtain ⟨-, rfl⟩ := Act.ok_unique hstaged hstage
    rw [Invoker.Enters, if_pos hgate, hfault] at henter
    simp at henter
  | called hreach hrest =>
    obtain ⟨rfl, rfl, rfl⟩ := h.unique hreach
    exact ⟨_, _, hrest, rfl, rfl⟩

theorem Remainder.notMem_invoked (h : s.Remainder q job i w es r w') (j : Job) :
    .invoked j ∉ es := by
  cases h <;> simp

theorem Remainder.result_of_halt {h : Halt} (hrest : s.Remainder q job i w es r w')
    (hcall : s.invoker.backend.invoke job i w = (.error h, w₂)) : r = .error h := by
  cases hrest with
  | failed hcall' =>
    cases hcall.symm.trans hcall'
    rfl
  | rejected hcall' _ | stopped hcall' _ _ | loaded hcall' _ _ =>
    exact absurd hcall (Act.ok_ne_error hcall')

theorem Remainder.of_clean (h : s.Remainder q job i w es r w')
    (hcall : s.invoker.backend.invoke job i w = (.ok run, w₂))
    (hverdict : run.verdict = .accepted u) (hclear : i.fault? w₂.signals.tick = none) :
    es = [.returned run, .checked none, .loaded u] ∧ r = (s.loader.materialize u w₂.tick).1 ∧
      w' = (s.loader.materialize u w₂.tick).2 := by
  cases h with
  | failed hcall' => exact absurd hcall' (Act.ok_ne_error hcall)
  | rejected hcall' hverdict' =>
    obtain ⟨rfl, rfl⟩ := Act.ok_unique hcall hcall'
    simp [hverdict] at hverdict'
  | stopped hcall' hverdict' hfault =>
    obtain ⟨-, rfl⟩ := Act.ok_unique hcall hcall'
    simp [hclear] at hfault
  | loaded hcall' hverdict' hclear' =>
    obtain ⟨rfl, rfl⟩ := Act.ok_unique hcall hcall'
    obtain rfl : u = _ := by simpa [hverdict] using hverdict'
    exact ⟨rfl, rfl, rfl⟩

theorem Remainder.result_of_rejected {report : Text} (h : s.Remainder q job i w es r w')
    (hcall : s.invoker.backend.invoke job i w = (.ok run, w₂))
    (hverdict : run.verdict = .rejected report) :
    r = .error (.fault (.rejected report q.source)) := by
  cases h with
  | failed hcall' => exact absurd hcall' (Act.ok_ne_error hcall)
  | rejected hcall' hverdict' =>
    obtain ⟨rfl, rfl⟩ := Act.ok_unique hcall hcall'
    obtain rfl : report = _ := by simpa [hverdict] using hverdict'
    rfl
  | stopped hcall' hverdict' _ | loaded hcall' hverdict' _ =>
    obtain ⟨rfl, rfl⟩ := Act.ok_unique hcall hcall'
    simp [hverdict] at hverdict'

/-! ### No other calls -/

/-- The loader of a request that got through to it is asked once. -/
theorem conclude_replace {b : Backend} {l : Loader} {c : Course}
    (hreach : s.Reaches q o w i f w₁)
    (hcall : s.invoker.backend.invoke (s.job q w f) i w₁ = (.ok run, c.world))
    (hload : ∀ f run u w', s.Loads q o w f run u w' → l.load u w' = s.loader.load u w') :
    (s.replace b l).conclude q i run c = s.conclude q i run c := by
  rw [conclude_apply, conclude_apply]
  cases hverdict : run.verdict with
  | rejected report => rfl
  | accepted u =>
    dsimp only
    cases hclear : i.fault? c.world.signals.tick with
    | some fault => rfl
    | none =>
      obtain ⟨hunit, hstatus, herrors⟩ := CompilerRun.verdict_eq_accepted_iff.mp hverdict
      have hsame := Loader.materialize_congr (hload _ _ _ _
        (.intro hreach hcall hunit hstatus herrors hclear))
      simp only [replace, hsame]

theorem invoke_conclude_replace {b : Backend} {l : Loader} {g : Gate}
    (hwrites : b.writesOutput = s.invoker.backend.writesOutput)
    (hreentrant : b.reentrant = s.invoker.backend.reentrant)
    (hreach : ∀ w', s.invoker.Enters i w₁ w' → s.Reaches q o w i f w')
    (hcall : ∀ i f w', s.Reaches q o w i f w' →
      b.invoke (s.job q w f) i w' = s.invoker.backend.invoke (s.job q w f) i w')
    (hload : ∀ f run u w', s.Loads q o w f run u w' → l.load u w' = s.loader.load u w')
    (es : List Event) :
    let references := s.catalog.merge w.files q.references
    ((s.replace b l).invoker.invoke f references i >>= (s.replace b l).conclude q i) ⟨w₁, g, es⟩ =
      (s.invoker.invoke f references i >>= s.conclude q i) ⟨w₁, g, es⟩ := by
  dsimp only
  have hinvoke : (s.replace b l).invoker.invoke f (s.catalog.merge w.files q.references) i
      ⟨w₁, g, es⟩ = s.invoker.invoke f (s.catalog.merge w.files q.references) i ⟨w₁, g, es⟩ :=
    Invoker.invoke_congr rfl hwrites hreentrant fun w' henter => hcall i f w' (hreach w' henter)
  rw [Step.bind_apply, Step.bind_apply, hinvoke]
  rcases hreturn : s.invoker.invoke f (s.catalog.merge w.files q.references) i ⟨w₁, g, es⟩ with
    ⟨h | run, c⟩
  · rfl
  · obtain ⟨w', henter, hcalled⟩ := Invoker.invoke_ok hreturn
    exact conclude_replace (hreach w' henter) hcalled hload

theorem compile_replace (s : Service) (x : Session) (w : World) (q : Request) (o : Options)
    {b : Backend} {l : Loader} (hwrites : b.writesOutput = s.invoker.backend.writesOutput)
    (hreentrant : b.reentrant = s.invoker.backend.reentrant)
    (hcall : ∀ i f w', s.Reaches q o w i f w' →
      b.invoke (s.job q w f) i w' = s.invoker.backend.invoke (s.job q w f) i w')
    (hload : ∀ f run u w', s.Loads q o w f run u w' → l.load u w' = s.loader.load u w') :
    (s.replace b l).compile x w q o = s.compile x w q o := by
  have hwrites' : (s.replace b l).invoker.backend.writesOutput = s.invoker.backend.writesOutput :=
    hwrites
  have hrun : (s.replace b l).run q o ⟨w, x.gate, []⟩ = s.run q o ⟨w, x.gate, []⟩ := by
    rw [run_eq_opening, run_eq_opening, opening_apply, opening_apply]
    dsimp only
    cases hstart : o.start? w.signals with
    | none => rfl
    | some i =>
      dsimp only
      cases hclear : i.fault? w.signals.tick with
      | some fault => rfl
      | none =>
        dsimp only
        rcases hstage : s.stager.stage q.unitName q.source s.invoker.backend.writesOutput w.tick
          with ⟨h | f, v⟩
        · rw [proceed_of_unstaged s q i _ (Course.looked ⟨w, x.gate, []⟩ none) hstage]
          rw [← hwrites'] at hstage
          exact proceed_of_unstaged (s.replace b l) q i _ (Course.looked ⟨w, x.gate, []⟩ none) hstage
        · have hreach (w' : World) (henter : s.invoker.Enters i v w') : s.Reaches q o w i f w' :=
            ⟨hstart, hclear, v, hstage, henter⟩
          rw [proceed_of_staged s q i _ (Course.looked ⟨w, x.gate, []⟩ none) hstage]
          rw [← hwrites'] at hstage
          rw [proceed_of_staged (s.replace b l) q i _ (Course.looked ⟨w, x.gate, []⟩ none) hstage]
          have hsame := invoke_conclude_replace (l := l) (g := x.gate) hwrites hreentrant hreach hcall
            hload [.checked none, .staged f]
          dsimp only [Course.looked, List.cons_append, List.nil_append]
          exact congrArg (fun e : Except Halt (Option Instance) × Course => (e.1, ({ e.2 with
            world := s.stager.discard f e.2.world
            events := e.2.events ++ [.discarded f] } : Course))) hsame
  unfold compile
  rw [hrun]

/-! ### The order -/

/-- The compiler is called once at most, for a source that has been staged. -/
theorem Passage.invoked {before after : List Event} (hp : s.Passage q o w es r w')
    (hes : es = before ++ .invoked job :: after) : (∀ j, .invoked j ∉ before ++ after) ∧
      ∃ i f w₁, s.Reaches q o w i f w₁ ∧ .staged f ∈ before ∧ job = s.job q w f := by
  have hmem : .invoked job ∈ es := by simp [hes]
  cases hp with
  | unstarted | stopped | unstaged | held => simp at hmem
  | @called i f w₁ w₂ rest r hreach hrest =>
    have hlooks (j : Job) : .invoked j ∉ s.invoker.looks := by
      unfold Invoker.looks
      split <;> simp
    obtain rfl : job = s.job q w f := by
      simpa [hlooks, hrest.notMem_invoked] using hmem
    have hfront (j : Job) : .invoked j ∉ .checked none :: .staged f :: s.invoker.looks := by
      simp [hlooks]
    have hback (j : Job) : .invoked j ∉ rest ++ [.discarded f] := by
      simp [hrest.notMem_invoked]
    have hsplit : (.checked none :: .staged f :: s.invoker.looks) ++
        .invoked (s.job q w f) :: (rest ++ [.discarded f]) =
          before ++ .invoked (s.job q w f) :: after := by simpa using hes
    obtain ⟨rfl, -, rfl⟩ := (List.append_cons_inj_of_notMem (hfront _) (hback _)).mp hsplit
    refine ⟨fun j => ?_, i, f, w₁, hreach, by simp, rfl⟩
    rw [List.mem_append, not_or]
    exact ⟨hfront j, hback j⟩

/-- The loader is called once at most, for the unit of a clean run. -/
theorem Passage.loaded {before after : List Event} (hp : s.Passage q o w es r w')
    (hes : es = before ++ .loaded u :: after) : (∀ v, .loaded v ∉ before ++ after) ∧
      ∃ earlier f run w₁, before = earlier ++ [.returned run, .checked none] ∧
        s.Loads q o w f run u w₁ := by
  have hmem : .loaded u ∈ es := by simp [hes]
  have hlooks (v : CompiledUnit) : .loaded v ∉ s.invoker.looks := by
    unfold Invoker.looks
    split <;> simp
  cases hp with
  | unstarted | stopped | unstaged | held => simp at hmem
  | @called i f w₁ w₂ rest r hreach hrest =>
    cases hrest with
    | failed | rejected | stopped => simp [hlooks] at hmem
    | @loaded run u' w₃ hcall hverdict hclear =>
      obtain rfl : u = u' := by simpa [hlooks] using hmem
      obtain ⟨hunit, hstatus, hclean⟩ := CompilerRun.verdict_eq_accepted_iff.mp hverdict
      have hfront (v : CompiledUnit) : .loaded v ∉ .checked none :: .staged f ::
          s.invoker.looks ++ [.invoked (s.job q w f), .returned run, .checked none] := by
        simp [hlooks]
      have hsplit : (.checked none :: .staged f :: s.invoker.looks ++
          [.invoked (s.job q w f), .returned run, .checked none]) ++ .loaded u :: [.discarded f] =
            before ++ .loaded u :: after := by simpa using hes
      have hback (v : CompiledUnit) : Event.loaded v ∉ [.discarded f] := by simp
      obtain ⟨rfl, -, rfl⟩ := (List.append_cons_inj_of_notMem (hfront _) (hback _)).mp hsplit
      refine ⟨fun v => ?_, .checked none :: .staged f :: s.invoker.looks ++
        [.invoked (s.job q w f)], f, run, _, by simp,
        .intro hreach hcall hunit hstatus hclean hclear⟩
      rw [List.mem_append, not_or]
      exact ⟨hfront v, hback v⟩

/-- Whatever compiler and loader do and whenever the interrupt fires, a request keeps the order: no
unit of a run that was rejected or came too late is ever loaded. -/
theorem compile_orderly (s : Service) (x : Session) (w : World) (q : Request) (o : Options) :
    s.Orderly x w q o (s.compile x w q o) := by
  have hp := s.compile_passage x w q o
  refine ⟨fun i fault => hp.of_stopped, fun _ _ _ => hp.invoked, fun _ _ _ => hp.loaded,
    fun f run u w' hload => ?_, fun e i f w₁ run w₂ hbackend hreach hclear hcall hfired => ?_,
    fun i f w₁ run w₂ hreach hcall hfailed => ?_, fun b l => s.compile_replace x w q o⟩
  · obtain ⟨hreach, hcall, hunit, hstatus, hclean, hclear⟩ := hload
    obtain ⟨rest, w₃, hrest, hworld, hevents⟩ := hp.remainder hreach
    obtain ⟨rfl, hresult, rfl⟩ := hrest.of_clean hcall
      (CompilerRun.verdict_eq_accepted_iff.mpr ⟨hunit, hstatus, hclean⟩) hclear
    refine ⟨⟨.checked none :: .staged f :: s.invoker.looks ++
      [.invoked (s.job q w f), .returned run, .checked none], ?_⟩, hresult, hworld⟩
    rw [hevents]
    simp
  · obtain ⟨rest, w₃, hrest, -, -⟩ := hp.remainder hreach
    obtain ⟨fault, hlate⟩ := Option.isSome_iff_exists.mp
      (Interrupt.isSome_fault?_of_precedes (Signals.precedes_tick w₂.signals) hfired)
    have hreturn := e.invoke_of_late hclear hcall hlate
    rw [← hbackend] at hreturn
    exact ⟨fault, hrest.result_of_halt hreturn, Interrupt.fault?_eq hlate⟩
  · obtain ⟨rest, w₃, hrest, -, -⟩ := hp.remainder hreach
    refine hrest.result_of_rejected hcall (CompilerRun.verdict_eq_rejected fun u haccepted => ?_)
    obtain ⟨hunit, hstatus, hclean⟩ := CompilerRun.verdict_eq_accepted_iff.mp haccepted
    simp [hunit, hstatus, hclean] at hfailed

/-- A service with a compiler in its host, whose caller cancels the request while it works. -/
def cancelled : Service where
  catalog := .ofReferences []
  stager := ⟨"/t".toList, "fsx".toList, "so".toList, false⟩
  invoker := {
    profile := "netcore".toList
    backend := EntryPoint.backend {
      name := "host".toList
      call := fun _ w => (.ok (.ok ⟨[], 0, some (.image [])⟩),
        { w with signals := w.signals.cancel 0 }) } }
  loader := ⟨fun _ => pure ⟨[], fun _ => Act.panic []⟩⟩

example :
    let w : World := {
      files := { entries := [(["t".toList], .directory)] }
      freshName := fun _ => "0123456789abcdef0123456789abcdef".toList }
    let q : Request := ⟨[], "a".toList, []⟩
    let f : Staged := ⟨"/t/a-0123456789abcdef0123456789abcdef.fsx".toList, none⟩
    (cancelled.compile {} w q { token := some 0 }).events =
      [.checked none, .staged f, .invoked (cancelled.job q w f), .discarded f] := by decide +kernel

end Service

end Scriptorium
