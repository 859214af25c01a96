import Scriptorium.Proofs.Scratch.Staging
import Scriptorium.Proofs.Service.Likeness
import Scriptorium.Proofs.Service.Order

/-! One request in two worlds. What a request comes to follows from its files, from what its
interrupt shows at the looks, and from what compiler and loader reply; nothing that is kept from
earlier requests has a part in it. So where two worlds are alike in these, under any relation of texts
that putting together and trimming respect, the request comes to the like in both. -/

namespace Scriptorium

open Text (Respected)

variable {R : Text → Text → Prop}

namespace Invoker

variable {v : Invoker} {i : Interrupt} {g : Signals} {w w' : World} {fault : Fault}

/-- What a look at the gate finds. Where there is no gate, nobody looks. -/
def look (v : Invoker) (i : Interrupt) (g : Signals) : Option Fault :=
  if v.gated then i.fault? g.tick else none

theorem look_eq_some_iff :
    v.look i g = some fault ↔ v.gated = true ∧ i.fault? g.tick = some fault := by
  unfold look
  cases v.gated <;> simp

theorem look_of_enters (h : v.Enters i w w') : v.look i w.signals = none := by
  unfold look
  unfold Enters at h
  split at h
  · next hgate => rw [if_pos hgate, h.1]
  · next hgate => rw [if_neg hgate]

theorem exists_enters (h : v.look i w.signals = none) : ∃ w', v.Enters i w w' := by
  unfold look at h
  split at h
  · next hgate => exact ⟨_, enters_of_gated hgate h⟩
  · next hgate => exact ⟨_, enters_of_ungated hgate⟩

end Invoker

/-- Calls of compilers and loaders. -/
def Event.isCall : Event → Bool
  | .invoked _ | .loaded _ => true
  | _ => false

def Service.Answer.calls (a : Service.Answer) : List Event := a.events.filter Event.isCall

/-- Like replies of loaders. If they are loaded units, these export like types, and constructing the
first ones comes to the like. -/
inductive LoadsLike (R : Text → Text → Prop) :
    Except Halt LoadedUnit × World → Except Halt LoadedUnit × World → Prop
  | halted {h h' : Halt} {v v' : World} (hlike : h.Like R h') :
      LoadsLike R (.error h, v) (.error h', v')
  | loaded {l l' : LoadedUnit} {v v' : World} (htypes : List.Forall₂ R l.types l'.types)
      (hinstance : ∀ a ∈ l.types.head?, ∀ a' ∈ l'.types.head?,
        EndsLike R (Instance.Like R) (l.instantiate a v).1 (l'.instantiate a' v').1) :
      LoadsLike R (.ok l, v) (.ok l', v')

/-- Like replies of compilers. If they are runs, the interrupts show the same at the last look, and
loaders that are called then reply the like. -/
inductive RepliesLike (R : Text → Text → Prop) (i i' : Interrupt) (l l' : Loader) :
    Except Halt CompilerRun × World → Except Halt CompilerRun × World → Prop
  | halted {h h' : Halt} {v v' : World} (hlike : h.Like R h') :
      RepliesLike R i i' l l' (.error h, v) (.error h', v')
  | ran {run run' : CompilerRun} {v v' : World} (hrun : run.Like R run')
      (hlook : i.fault? v.signals.tick = i'.fault? v'.signals.tick)
      (hload : ∀ u u', run.verdict = .accepted u → run'.verdict = .accepted u' →
        LoadsLike R (l.load u v.tick) (l'.load u' v'.tick)) :
      RepliesLike R i i' l l' (.ok run, v) (.ok run', v')

theorem Loader.materialize_like {l l' : Loader} {u u' : CompiledUnit} {w w' : World}
    (h : LoadsLike R (l.load u w) (l'.load u' w')) :
    ResultsLike R (l.materialize u w).1 (l'.materialize u' w').1 := by
  unfold materialize
  rw [Act.bind_apply, Act.bind_apply]
  generalize l.load u w = reply at h ⊢
  generalize l'.load u' w' = reply' at h ⊢
  cases h with
  | halted hlike => exact .halt hlike
  | @loaded l l' v v' htypes hinstance =>
    dsimp only
    generalize l.types = types at htypes hinstance ⊢
    generalize l'.types = types' at htypes hinstance ⊢
    cases htypes with
    | nil => exact .value .none
    | @cons a a' as as' =>
      have hlike := hinstance a rfl a' rfl
      dsimp only
      rw [Act.map_apply, Act.map_apply]
      generalize (l.instantiate a v).1 = r at hlike ⊢
      generalize (l'.instantiate a' v').1 = r' at hlike ⊢
      cases hlike with
      | value h => exact .value (.some h)
      | halt h => exact .halt h

namespace Service

variable {s s' : Service} {q : Request} {o : Options} {w w' v : World} {i i' : Interrupt}
  {job job' : Job} {es es' : List Event} {r r' : Except Halt (Option Instance)}

/-! ### One world, one answer -/

theorem Remainder.call_eq {c : Course} (h : s.Remainder q job i c.world es r v) :
    let e := (s.invoker.call job i >>= s.conclude q i) c
    e.1 = r ∧ e.2.events = c.events ++ .invoked job :: es ∧ e.2.world = v := by
  dsimp only
  rw [Step.bind_apply, Invoker.call_apply]
  cases h with
  | failed hcall =>
    rw [hcall]
    exact ⟨rfl, rfl, rfl⟩
  | rejected hcall hverdict =>
    rw [hcall]
    dsimp only
    rw [conclude_apply, hverdict]
    exact ⟨rfl, rfl, rfl⟩
  | stopped hcall hverdict hfault =>
    rw [hcall]
    dsimp only
    rw [conclude_apply, hverdict]
    dsimp only
    rw [hfault]
    exact ⟨rfl, by simp [Course.looked], rfl⟩
  | loaded hcall hverdict hclear =>
    rw [hcall]
    dsimp only
    rw [conclude_apply, hverdict]
    dsimp only
    rw [hclear]
    exact ⟨rfl, by simp, rfl⟩

theorem Remainder.unique {v' : World} (h : s.Remainder q job i w es r v)
    (h' : s.Remainder q job i w es' r' v') : es = es' ∧ r = r' ∧ v = v' := by
  obtain ⟨hresult, hevents, hworld⟩ := h.call_eq (c := ⟨w, .sound, []⟩)
  obtain ⟨hresult', hevents', hworld'⟩ := h'.call_eq (c := ⟨w, .sound, []⟩)
  exact ⟨(List.cons.inj (hevents.symm.trans hevents')).2, hresult.symm.trans hresult',
    hworld.symm.trans hworld'⟩

theorem compile_of_staged {f : Staged} (x : Session) (hstart : o.start? w.signals = some i)
    (hclear : i.fault? w.signals.tick = none)
    (hstage : s.stager.stage q.unitName q.source s.invoker.backend.writesOutput w.tick =
      (.ok f, v)) :
    let e := (s.invoker.invoke f (s.catalog.merge w.files q.references) i >>= s.conclude q i)
      ⟨v, x.gate, [.checked none, .staged f]⟩
    s.compile x w q o = ⟨e.1, ⟨count x.statistics.countRequest e.1, e.2.gate⟩,
      s.stager.discard f e.2.world, e.2.events ++ [.discarded f]⟩ := by
  have hrun : s.run q o ⟨w, x.gate, []⟩ = s.proceed q i (s.catalog.merge w.files q.references)
      (Course.looked ⟨w, x.gate, []⟩ none) := by
    rw [run_eq_opening, opening_apply, hstart]
    dsimp only
    rw [hclear]
  rw [compile, hrun, proceed_of_staged s q i _ (Course.looked ⟨w, x.gate, []⟩ none) hstage]
  rfl

/-- A request passes in one way only, whatever is kept from the requests before it. -/
theorem Passage.compile_eq (hp : s.Passage q o w es r v) (x : Session) :
    let a := s.compile x w q o
    a.result = r ∧ a.events = es ∧ a.world = v := by
  have hrun : s.compile x w q o =
      let e := s.run q o ⟨w, x.gate, []⟩
      ⟨e.1, ⟨count x.statistics.countRequest e.1, e.2.gate⟩, e.2.world, e.2.events⟩ := rfl
  cases hp with
  | unstarted hstart =>
    rw [hrun, run_eq_opening, opening_apply]
    dsimp only
    rw [hstart]
    exact ⟨rfl, rfl, rfl⟩
  | stopped hstart hfault => exact (s.compile_passage x w q o).of_stopped hstart hfault
  | unstaged hstart hclear hstage =>
    rw [hrun, run_eq_opening, opening_apply]
    dsimp only
    rw [hstart]
    dsimp only
    rw [hclear]
    dsimp only
    rw [proceed_of_unstaged s q _ _ (Course.looked ⟨w, x.gate, []⟩ none) hstage]
    exact ⟨rfl, rfl, rfl⟩
  | held hstart hclear hstage hgate hfault =>
    rw [compile_of_staged x hstart hclear hstage, Step.bind_apply, Invoker.invoke_apply,
      if_pos hgate]
    dsimp only
    rw [hfault]
    exact ⟨rfl, rfl, rfl⟩
  | called hreach hrest =>
    obtain ⟨es', v', hrest', hworld, hevents⟩ := (s.compile_passage x w q o).remainder hreach
    obtain ⟨rfl, hresult, rfl⟩ := hrest.unique hrest'
    exact ⟨hresult.symm, hevents, hworld⟩

/-! ### Two worlds, like answers -/

/-- Two services with one setup. Their compilers and loaders may be different ones, and one of them
may have a gate. -/
structure SameSetup (s s' : Service) : Prop where
  catalog : s.catalog = s'.catalog
  stager : s.stager = s'.stager
  profile : s.invoker.profile = s'.invoker.profile
  writesOutput : s.invoker.backend.writesOutput = s'.invoker.backend.writesOutput

/-- What a request meets in two worlds is alike: its interrupts show the same at all looks, and its
compilers and loaders reply the like. -/
structure MeetsLike (R : Text → Text → Prop) (s s' : Service) (q : Request) (o : Options)
    (w w' : World) : Prop where
  started : (o.start? w.signals).isSome = (o.start? w'.signals).isSome
  first : ∀ i i', o.start? w.signals = some i → o.start? w'.signals = some i' →
    i.fault? w.signals.tick = i'.fault? w'.signals.tick
  gate : ∀ i i', o.start? w.signals = some i → o.start? w'.signals = some i' →
    i.fault? w.signals.tick = none →
      s.invoker.look i w.signals.tick = s'.invoker.look i' w'.signals.tick
  replies : ∀ i i' f f' v v', s.Reaches q o w i f v → s'.Reaches q o w' i' f' v' →
    RepliesLike R i i' s.loader s'.loader (s.invoker.backend.invoke (s.job q w f) i v)
      (s'.invoker.backend.invoke (s'.job q w' f') i' v')

theorem signals_of_staged {e : Except Halt Staged} (h : s.stager.stage q.unitName q.source
    s.invoker.backend.writesOutput w.tick = (e, v)) : v.signals = w.signals.tick := by
  have hkept := s.stager.signals_of_stage q.unitName q.source s.invoker.backend.writesOutput w.tick
  rwa [h] at hkept

namespace MeetsLike

theorem exists_start (h : MeetsLike R s s' q o w w') (hstart : o.start? w.signals = some i) :
    ∃ i', o.start? w'.signals = some i' ∧ i.fault? w.signals.tick = i'.fault? w'.signals.tick := by
  obtain ⟨i', hstart'⟩ : ∃ i', o.start? w'.signals = some i' :=
    Option.isSome_iff_exists.mp (by rw [← h.started, hstart]; rfl)
  exact ⟨i', hstart', h.first i i' hstart hstart'⟩

/-- Both find the same at the gate, whatever staging came to. -/
theorem look_eq {e e' : Except Halt Staged} {v v' : World} (h : MeetsLike R s s' q o w w')
    (hstart : o.start? w.signals = some i) (hstart' : o.start? w'.signals = some i')
    (hclear : i.fault? w.signals.tick = none)
    (hstage : s.stager.stage q.unitName q.source s.invoker.backend.writesOutput w.tick = (e, v))
    (hstage' : s'.stager.stage q.unitName q.source s'.invoker.backend.writesOutput w'.tick =
      (e', v')) :
    s.invoker.look i v.signals = s'.invoker.look i' v'.signals := by
  rw [signals_of_staged hstage, signals_of_staged hstage', h.gate i i' hstart hstart' hclear]

end MeetsLike

theorem Reaches.exists_like {f : Staged} (hmeets : MeetsLike R s s' q o w w')
    (hstage : EndsLike R (Staged.Like R)
      (s.stager.stage q.unitName q.source s.invoker.backend.writesOutput w.tick).1
      (s'.stager.stage q.unitName q.source s'.invoker.backend.writesOutput w'.tick).1)
    (h : s.Reaches q o w i f v) : ∃ i' f' v', s'.Reaches q o w' i' f' v' ∧ f.Like R f' := by
  obtain ⟨i', hstart', hfirst⟩ := hmeets.exists_start h.started
  obtain ⟨v₁, hstaged, henter⟩ := h.staged
  rcases hstage' : s'.stager.stage q.unitName q.source s'.invoker.backend.writesOutput w'.tick with
    ⟨e', v₁'⟩
  have hlook := hmeets.look_eq h.started hstart' h.admitted hstaged hstage'
  obtain ⟨v', henter'⟩ := Invoker.exists_enters (hlook.symm.trans (Invoker.look_of_enters henter))
  rw [hstaged, hstage'] at hstage
  cases hstage with
  | value hpaths =>
    exact ⟨i', _, v', ⟨hstart', hfirst.symm.trans h.admitted, _, hstage', henter'⟩, hpaths⟩

theorem Remainder.exists_like (hR : Respected R)
    (hreplies : RepliesLike R i i' s.loader s'.loader (s.invoker.backend.invoke job i w)
      (s'.invoker.backend.invoke job' i' w'))
    (h : s.Remainder q job i w es r v) : ∃ es' r' v', s'.Remainder q job' i' w' es' r' v' ∧
      ResultsLike R r r' ∧
      List.Forall₂ (Event.Like R) (es.filter Event.isCall) (es'.filter Event.isCall) := by
  rcases hcall' : s'.invoker.backend.invoke job' i' w' with ⟨reply', v₁'⟩
  rw [hcall'] at hreplies
  cases h with
  | failed hcall =>
    rw [hcall] at hreplies
    cases hreplies with
    | halted hlike => exact ⟨_, _, _, .failed hcall', .halt hlike, .nil⟩
  | rejected hcall hverdict =>
    rw [hcall] at hreplies
    cases hreplies with
    | ran hrun hlook hload =>
      obtain ⟨report', hverdict', hreport⟩ := CompilerRun.verdict_of_rejected hR hrun hverdict
      exact ⟨_, _, _, .rejected hcall' hverdict', .halt (.fault (.rejected hreport (hR.refl _))), .nil⟩
  | stopped hcall hverdict hfault =>
    rw [hcall] at hreplies
    cases hreplies with
    | ran hrun hlook hload =>
      obtain ⟨u', hverdict', -⟩ := CompilerRun.verdict_of_accepted hR hrun hverdict
      exact ⟨_, _, _, .stopped hcall' hverdict' (hlook ▸ hfault), .halt (.fault (Fault.like_refl hR _)),
        .nil⟩
  | loaded hcall hverdict hclear =>
    rw [hcall] at hreplies
    cases hreplies with
    | ran hrun hlook hload =>
      obtain ⟨u', hverdict', hu⟩ := CompilerRun.verdict_of_accepted hR hrun hverdict
      exact ⟨_, _, _, .loaded hcall' hverdict' (hlook ▸ hclear),
        Loader.materialize_like (hload _ _ hverdict hverdict'), .cons (.loaded hu) .nil⟩

/-- The calls of a request that got to its compiler: this one, and what the rest of it calls. -/
theorem filter_called (v : Invoker) (f : Staged) (job : Job) (es : List Event) :
    List.filter Event.isCall
      (.checked none :: .staged f :: (v.looks ++ .invoked job :: es) ++ [.discarded f]) =
        .invoked job :: es.filter Event.isCall := by
  have hlooks : v.looks.filter Event.isCall = [] := by
    unfold Invoker.looks
    split <;> rfl
  simp [List.filter_cons, Event.isCall, hlooks]

theorem Passage.exists_like (hR : Respected R) (hsetup : SameSetup s s')
    (hfiles : w.files = w'.files) (hmeets : MeetsLike R s s' q o w w')
    (hstage : EndsLike R (Staged.Like R)
      (s.stager.stage q.unitName q.source s.invoker.backend.writesOutput w.tick).1
      (s'.stager.stage q.unitName q.source s'.invoker.backend.writesOutput w'.tick).1)
    (hp : s.Passage q o w es r v) : ∃ es' r' v', s'.Passage q o w' es' r' v' ∧
      ResultsLike R r r' ∧
      List.Forall₂ (Event.Like R) (es.filter Event.isCall) (es'.filter Event.isCall) := by
  rcases hstage' : s'.stager.stage q.unitName q.source s'.invoker.backend.writesOutput w'.tick with
    ⟨e', v'⟩
  cases hp with
  | unstarted hstart =>
    have hnone : (o.start? w'.signals).isSome = false := by rw [← hmeets.started, hstart]; rfl
    exact ⟨_, _, _, .unstarted (by simpa using hnone), .halt (.panic (hR.refl _)), .nil⟩
  | stopped hstart hfault =>
    obtain ⟨i', hstart', hfirst⟩ := hmeets.exists_start hstart
    exact ⟨_, _, _, .stopped hstart' (hfirst.symm.trans hfault),
      .halt (.fault (Fault.like_refl hR _)), .nil⟩
  | unstaged hstart hclear hfailed =>
    obtain ⟨i', hstart', hfirst⟩ := hmeets.exists_start hstart
    rw [hfailed, hstage'] at hstage
    cases hstage with
    | halt hlike =>
      exact ⟨_, _, _, .unstaged hstart' (hfirst.symm.trans hclear) hstage', .halt hlike, .nil⟩
  | held hstart hclear hstaged hgate hfault =>
    obtain ⟨i', hstart', hfirst⟩ := hmeets.exists_start hstart
    have hlook := hmeets.look_eq hstart hstart' hclear hstaged hstage'
    rw [Invoker.look_eq_some_iff.mpr ⟨hgate, hfault⟩] at hlook
    obtain ⟨hgate', hfault'⟩ := Invoker.look_eq_some_iff.mp hlook.symm
    rw [hstaged, hstage'] at hstage
    cases hstage with
    | value hpaths =>
      exact ⟨_, _, _, .held hstart' (hfirst.symm.trans hclear) hstage' hgate' hfault',
        .halt (.fault (Fault.like_refl hR _)), .nil⟩
  | @called i f w₁ w₂ es r hreach hrest =>
    obtain ⟨i', f', w₁', hreach', hpaths⟩ := hreach.exists_like hmeets hstage
    have hjob : (s.job q w f).Like R (s'.job q w' f') := by
      unfold job
      rw [hsetup.catalog, hsetup.profile, hsetup.writesOutput, hfiles]
      exact Job.ofStaged_like hR hpaths _ _ _
    obtain ⟨es', r', v', hrest', hresult, hcalls⟩ :=
      hrest.exists_like hR (hmeets.replies _ _ _ _ _ _ hreach hreach')
    refine ⟨_, _, _, .called hreach' hrest', hresult, ?_⟩
    rw [filter_called, filter_called]
    exact .cons (.invoked hjob) hcalls

/-- Requests that meet the like are answered alike and make like calls. -/
theorem compile_like (hR : Respected R) (hsetup : SameSetup s s') (hfiles : w.files = w'.files)
    (hmeets : MeetsLike R s s' q o w w')
    (hstage : EndsLike R (Staged.Like R)
      (s.stager.stage q.unitName q.source s.invoker.backend.writesOutput w.tick).1
      (s'.stager.stage q.unitName q.source s'.invoker.backend.writesOutput w'.tick).1)
    (x x' : Session) :
    ResultsLike R (s.compile x w q o).result (s'.compile x' w' q o).result ∧
      List.Forall₂ (Event.Like R) (s.compile x w q o).calls (s'.compile x' w' q o).calls := by
  obtain ⟨es', r', v', hp', hresult, hcalls⟩ :=
    (s.compile_passage x w q o).exists_like hR hsetup hfiles hmeets hstage
  obtain ⟨hresult', hevents', -⟩ := hp'.compile_eq x'
  exact ⟨hresult'.symm ▸ hresult, by rwa [Answer.calls, Answer.calls, hevents']⟩

end Service

end Scriptorium
