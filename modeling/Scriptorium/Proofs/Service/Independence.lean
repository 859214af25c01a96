import Scriptorium.Calls
import Scriptorium.Proofs.Service.Parallel

/-! Requests to one service do not influence each other. All that a service keeps from one request
to the next are its counters and its gate, and neither is asked about anything: a poisoned gate
opens. The files of a request bear a token that no other request has, and where two requests agree in
all but the tokens, they come to the same but for the tokens. The gate adds one look, and where that
finds what the look before it found, nobody notices that the gate is there. -/

namespace Scriptorium

open Scratch (IsToken)
open Text (Alike Respected Solid respected_alike respected_eq)

/-! ### Up to the tokens -/

namespace Scratch.IsToken

theorem solid {token : Text} (h : IsToken token) : Solid token where
  ne_nil := by
    rintro rfl
    have hlength := h.length
    simp at hlength
  not_blank c hc := by
    have hdigits : "0123456789abcdef".toList.all (fun c => !Text.isBlank c) = true := rfl
    simpa using List.all_eq_true.mp hdigits c (h.hexadecimal hc)

end Scratch.IsToken

/-- The next name that a world has to give. -/
def World.token (w : World) : Text := w.freshName w.drawn

/-- Staging one source among the same files comes to the same, up to the tokens. -/
theorem Stager.stage_like {unitName : Text} {w w' : World} (s : Stager)
    (hfiles : w.files = w'.files) (hnew : New w.files unitName w.token)
    (hnew' : New w'.files unitName w'.token) (source : Text) (withOutput : Bool) :
    EndsLike (Alike w.token w'.token) (Staged.Like (Alike w.token w'.token))
      (s.stage unitName source withOutput w).1 (s.stage unitName source withOutput w').1 := by
  obtain ⟨front, hfront⟩ := s.exists_front unitName
  have hpath (ending : Text) : Alike w.token w'.token (s.pathOf unitName w.token ending)
      (s.pathOf unitName w'.token ending) := by
    rw [hfront, hfront]
    exact (Alike.refl _ _ front).append (.name (.refl _ _ _))
  obtain ⟨r, hr⟩ := s.stage_new w.files unitName source withOutput
  rw [hr w rfl hnew, hr w' hfiles.symm (hfiles ▸ hnew')]
  cases r with
  | error e => exact .halt (.fault (.notStaged (hpath _) (.same e)))
  | ok =>
    refine .value ⟨hpath _, ?_⟩
    cases withOutput with
    | true => exact .some (hpath _)
    | false => exact .none

namespace Service

variable {s : Service} {x : Session} {c : Call} {cs : List Call}

/-! ### The gate -/

/-- The service with its compiler declared to be able to run beside itself, or not to be. -/
def declared (s : Service) (reentrant : Bool) : Service :=
  { s with invoker.backend.reentrant := reentrant }

/-- The compiler of a call panics, and it does so behind the gate. -/
def Panics (s : Service) (c : Call) : Prop :=
  s.invoker.gated = true ∧ ∃ i f v m v',
    (s.during c).Reaches c.ask.toRequest c.ask.options c.world i f v ∧
      c.compile ((s.during c).job c.ask.toRequest c.world f) i v = (.error (.panic m), v')

theorem gate_answer_of_panics (h : s.Panics c) (x : Session) :
    (s.answer x c).session.gate = .poisoned := by
  obtain ⟨hgate, i, f, v, m, v', ⟨hstart, hclear, w₁, hstage, henter⟩, hcall⟩ := h
  have hgate : (s.during c).invoker.gated = true := hgate
  rw [Invoker.Enters, if_pos hgate] at henter
  obtain ⟨hopen, rfl⟩ := henter
  have hinvoke : (s.during c).invoker.backend.invoke
      ((s.during c).job c.ask.toRequest c.world f) i w₁.tick = (.error (.panic m), v') := hcall
  rw [answer, compile_of_staged x hstart hclear hstage, Step.bind_apply, Invoker.invoke_apply,
    if_pos hgate]
  dsimp only
  rw [hopen]
  dsimp only
  rw [Step.throughGate, Invoker.call_apply, show (Course.looked _ none).world = w₁.tick from rfl]
  unfold job at hinvoke
  rw [hinvoke]

theorem gate_after_of_panics (hne : cs ≠ []) (h : ∀ c ∈ cs, s.Panics c) (x : Session) :
    (s.after x cs).gate = .poisoned := by
  obtain ⟨earlier, c, rfl⟩ := (List.eq_nil_or_concat cs).resolve_left hne
  rw [after, List.concat_eq_append, List.foldl_append]
  exact gate_answer_of_panics (h c (by simp)) _

/-- A call in which a look at the gate finds an interrupt fired just if the first look did, and in
which compiler, last look and loader come to the same behind the gate as without it. -/
structure Steady (s : Service) (c : Call) : Prop where
  firing : ∀ i, c.ask.options.start? c.world.signals = some i →
    (i.fault? c.world.signals.tick).isSome = (i.fault? c.world.signals.tick.tick).isSome
  replies : ∀ i f v,
    ((s.declared true).during c).Reaches c.ask.toRequest c.ask.options c.world i f v →
    let job := (s.during c).job c.ask.toRequest c.world f
    RepliesLike Eq i i ⟨c.load⟩ ⟨c.load⟩ (c.compile job i v) (c.compile job i v.tick)

theorem Steady.meets (h : s.Steady c) :
    MeetsLike Eq ((s.declared true).during c) ((s.declared false).during c) c.ask.toRequest
      c.ask.options c.world c.world where
  started := rfl
  first i i' hi hi' := by rw [Option.some.inj (hi.symm.trans hi')]
  gate i i' hi hi' hclear := by
    obtain rfl := Option.some.inj (hi.symm.trans hi')
    have hagain := h.firing i hi
    rw [hclear] at hagain
    have hfree : ((s.declared true).during c).invoker.look i c.world.signals.tick = none := rfl
    have hguarded : ((s.declared false).during c).invoker.look i c.world.signals.tick =
        i.fault? c.world.signals.tick.tick := rfl
    rw [hfree, hguarded]
    exact (Option.not_isSome_iff_eq_none.mp (by simp [← hagain])).symm
  replies i i' f f' v v' hreach hreach' := by
    obtain rfl := Option.some.inj (hreach.started.symm.trans hreach'.started)
    obtain ⟨v₁, hstage, rfl⟩ := hreach.staged
    obtain ⟨v₁', hstage', -, rfl⟩ := hreach'.staged
    obtain ⟨rfl, rfl⟩ := Act.ok_unique hstage hstage'
    exact h.replies i f v hreach

/-- The result of an answer, and the calls that were made for it. -/
def Answer.upshot (a : Answer) : Except Halt (Option Instance) × List Event := (a.result, a.calls)

/-- Where a second look finds what the first found, nobody notices the gate. -/
theorem upshot_of_steady (h : s.Steady c) (x x' : Session) :
    ((s.declared true).answer x c).upshot = ((s.declared false).answer x' c).upshot := by
  have hsame (e : Except Halt Staged) : EndsLike Eq (Staged.Like Eq) e e := by
    cases e with
    | ok f => exact .value (f.like_refl respected_eq)
    | error h => exact .halt (h.like_refl respected_eq)
  have hsetup : SameSetup ((s.declared true).during c) ((s.declared false).during c) :=
    ⟨rfl, rfl, rfl, rfl⟩
  obtain ⟨hresult, hcalls⟩ := compile_like respected_eq hsetup rfl h.meets (hsame _) x x'
  refine Prod.ext hresult.eq ?_
  rw [← List.forall₂_eq_eq_eq]
  exact hcalls.imp fun _ _ => Event.Like.eq

theorem upshots_of_steady (h : ∀ c ∈ cs, s.Steady c) (x x' : Session) :
    ((s.declared true).answers x cs).map Answer.upshot =
      ((s.declared false).answers x' cs).map Answer.upshot := by
  induction cs generalizing x x' with
  | nil => rfl
  | cons c cs ih =>
    rw [answers, answers, List.map_cons, List.map_cons,
      upshot_of_steady (h c List.mem_cons_self) x x',
      ih fun c hc => h c (List.mem_cons_of_mem _ hc)]

/-! ### Requests one after another -/

/-- Texts that differ in the tokens of two calls only. -/
abbrev Call.upTo (c c' : Call) : Text → Text → Prop := Alike c.world.token c'.world.token

/-- What an answer shows outside the service. -/
def Answer.visible (a : Answer) : Except Halt (Option Instance) × List Event × World :=
  (a.result, a.events, a.world)

theorem visible_answer (s : Service) (x x' : Session) (c : Call) :
    (s.answer x c).visible = (s.answer x' c).visible := by
  obtain ⟨hresult, hevents, hworld⟩ := Passage.compile_eq
    ((s.during c).compile_passage x' c.world c.ask.toRequest c.ask.options) x
  exact Prod.ext hresult (Prod.ext hevents hworld)

theorem visible_answers (s : Service) (x x' : Session) (cs : List Call) :
    (s.answers x cs).map Answer.visible = cs.map fun c => (s.answer x' c).visible := by
  induction cs generalizing x with
  | nil => rfl
  | cons c cs ih =>
    rw [answers, List.map_cons, List.map_cons, ih, s.visible_answer x x']

/-- A request runs normally: if it gets to its compiler, that is called, and if this returns a clean
run, the request comes to what the loader makes of it. -/
structure Served (s : Service) (c : Call) (a : Answer) : Prop where
  invoked : ∀ i f v, (s.during c).Reaches c.ask.toRequest c.ask.options c.world i f v →
    .invoked ((s.during c).job c.ask.toRequest c.world f) ∈ a.events
  loaded : ∀ f run u v, (s.during c).Loads c.ask.toRequest c.ask.options c.world f run u v →
    a.result = ((s.during c).loader.materialize u v).1

/-- Every request runs normally, whatever the gate has been through. -/
theorem served_answer (s : Service) (x : Session) (c : Call) : s.Served c (s.answer x c) := by
  have hp := (s.during c).compile_passage x c.world c.ask.toRequest c.ask.options
  refine ⟨fun i f v hreach => ?_, fun f run u v hload => ?_⟩
  · obtain ⟨rest, v', -, -, hevents⟩ := hp.remainder hreach
    rw [answer, hevents]
    simp
  · obtain ⟨hreach, hcall, hunit, hstatus, hclean, hclear⟩ := hload
    obtain ⟨rest, v', hrest, -, -⟩ := hp.remainder hreach
    exact (hrest.of_clean hcall
      (CompilerRun.verdict_eq_accepted_iff.mpr ⟨hunit, hstatus, hclean⟩) hclear).2.1

/-- Requests do not influence each other, and nobody notices the gate. -/
structure Independent (s : Service) : Prop where
  /-- Each of any requests one after another is answered as if it were the first. -/
  sequence : ∀ x cs,
    (s.answers x cs).map Answer.visible = cs.map fun c => (s.answer {} c).visible
  /-- A request that is made twice, among the same files and with the like replies of compiler and
  loader, is answered alike and makes like calls, whatever was kept from the requests before it. Its
  tokens are new both times, and all that is like differs in them only. -/
  repeated : ∀ x x' (c c' : Call), c.ask = c'.ask → c.world.files = c'.world.files →
    Stager.New c.world.files c.ask.toRequest.unitName c.world.token →
    Stager.New c'.world.files c'.ask.toRequest.unitName c'.world.token →
    MeetsLike (c.upTo c') (s.during c) (s.during c') c.ask.toRequest c.ask.options c.world
      c'.world →
    ResultsLike (c.upTo c') (s.answer x c).result (s.answer x' c').result ∧
      List.Forall₂ (Event.Like (c.upTo c')) (s.answer x c).calls (s.answer x' c').calls
  /-- After panics behind the gate, however many, the gate is poisoned, and the next request runs
  normally and is answered as if it were the first. -/
  poisoned : ∀ x cs c, cs ≠ [] → (∀ c ∈ cs, s.Panics c) →
    let a := s.answer (s.after x cs) c
    (s.after x cs).gate = .poisoned ∧ s.Served c a ∧ a.visible = (s.answer {} c).visible
  /-- Over calls in which a look at the gate finds what the first look found, a service with the gate
  and one without it come to the same results and make the same calls. -/
  gate : ∀ x x' cs, (∀ c ∈ cs, s.Steady c) →
    ((s.declared true).answers x cs).map Answer.upshot =
      ((s.declared false).answers x' cs).map Answer.upshot

/-- Whatever compilers and loaders do, requests to one service are independent of each other. -/
theorem requests_independent (s : Service) : s.Independent where
  sequence x cs := s.visible_answers x {} cs
  repeated x x' c c' hask hfiles hnew hnew' hmeets := by
    have hR : Respected (c.upTo c') := respected_alike hnew.isToken.solid hnew'.isToken.solid
    have hsetup : SameSetup (s.during c) (s.during c') := ⟨rfl, rfl, rfl, rfl⟩
    rw [← hask] at hnew'
    have hstage := @Stager.stage_like _ c.world.tick c'.world.tick s.stager hfiles hnew hnew'
      c.ask.toRequest.source s.invoker.backend.writesOutput
    have hlike := compile_like hR hsetup hfiles hmeets hstage x x'
    rwa [answer, answer, ← hask]
  poisoned x cs c hne h :=
    ⟨gate_after_of_panics hne h x, s.served_answer _ c, s.visible_answer _ {} c⟩
  gate x x' cs h := upshots_of_steady h x x'

/-- A service with a gate. -/
def touchy : Service where
  catalog := .ofReferences []
  stager := ⟨"/t".toList, "fsx".toList, "dll".toList, false⟩
  invoker := ⟨⟨false, false, fun _ _ => Act.panic []⟩, []⟩
  loader := ⟨fun _ => pure ⟨[], fun _ => Act.panic []⟩⟩

/-- A call of it in a world with one directory and one name to draw. -/
def touchyCall (token : Text) (compile : Act CompilerRun) : Call where
  ask := .plain "s".toList [] "u".toList
  world := { files := { entries := [(["t".toList], .directory)] }, freshName := fun _ => token }
  compile _ _ := compile
  load _ := pure ⟨[], fun _ => Act.panic []⟩

theorem touchy_new {token : Text} (h : IsToken token) (compile : Act CompilerRun) :
    Stager.New (touchyCall token compile).world.files "u".toList token := by
  refine ⟨h, FileTree.unused_of_entries fun x hx name hname hfront => ?_⟩
  obtain rfl := List.mem_singleton.mp hx
  obtain rfl : "t".toList = name := Option.some.inj hname
  exact absurd hfront.length_le (by simp [Scratch.stem, h.length])

/-- What a compiler returns that found nothing to compile. -/
def emptyRun : CompilerRun := ⟨[], 0, some (.image [])⟩

theorem touchy_replies (R : Text → Text → Prop) (token token' : Text) (w w' : World) :
    RepliesLike R {} {} ⟨(touchyCall token (pure emptyRun)).load⟩
      ⟨(touchyCall token' (pure emptyRun)).load⟩ (.ok emptyRun, w) (.ok emptyRun, w') :=
  .ran ⟨.nil, rfl, .some (.image _)⟩ rfl fun _ _ _ _ => .loaded .nil (by simp)

theorem requests_independent_touchy :
    let token := "0123456789abcdef0123456789abcdef".toList
    let token' := "fedcba9876543210fedcba9876543210".toList
    let broken := touchyCall token (Act.panic [])
    let sound := touchyCall token (pure emptyRun)
    let again := touchyCall token' (pure emptyRun)
    (touchy.after {} [broken, broken]).gate = .poisoned ∧
      touchy.Served sound (touchy.answer (touchy.after {} [broken, broken]) sound) ∧
      (touchy.answer (touchy.after {} [broken, broken]) sound).result.toOption = some none ∧
      (touchy.answers {} [broken, sound]).map Answer.visible =
        [(touchy.answer {} broken).visible, (touchy.answer {} sound).visible] ∧
      ((touchy.declared true).answers {} [sound]).map Answer.upshot =
        ((touchy.declared false).answers {} [sound]).map Answer.upshot ∧
      List.Forall₂ (Event.Like (sound.upTo again)) (touchy.answer {} sound).calls
        (touchy.answer {} again).calls := by
  intro token token' broken sound again
  have hindependent := touchy.requests_independent
  have htoken : IsToken token := ⟨by decide, by decide⟩
  have htoken' : IsToken token' := ⟨by decide, by decide⟩
  have hpanics : touchy.Panics broken := by
    obtain ⟨v, hstage⟩ := touchy.stager.exists_stage "u".toList "s".toList false broken.world.tick
      (by decide +kernel)
    exact ⟨rfl, {}, _, v.tick, [], v.tick,
      ⟨rfl, rfl, v, hstage, Invoker.enters_of_gated rfl rfl⟩, rfl⟩
  have hinert {g : Signals} {i : Interrupt} (h : Options.start? {} g = some i) : i = {} :=
    (Option.some.inj h).symm
  have hclear (g : Signals) : Interrupt.fault? {} g = none := rfl
  have hsteady : touchy.Steady sound := by
    refine ⟨fun i hi => ?_, fun i f v hreach => ?_⟩
    · rw [hinert hi, hclear, hclear]
    · rw [hinert hreach.started]
      exact touchy_replies Eq token token v v.tick
  have hmeets : MeetsLike (sound.upTo again) (touchy.during sound) (touchy.during again)
      sound.ask.toRequest sound.ask.options sound.world again.world := by
    refine ⟨rfl, fun i i' hi hi' => ?_, fun i i' hi hi' _ => ?_, fun i i' f f' v v' h h' => ?_⟩
    · rw [hinert hi, hinert hi', hclear, hclear]
    · rw [hinert hi, hinert hi', Invoker.look, Invoker.look, hclear, hclear, ite_self, ite_self]
    · rw [hinert h.started, hinert h'.started]
      exact touchy_replies _ token token' v v'
  have hask (t t' : Text) :
      (touchyCall t (pure emptyRun)).ask = (touchyCall t' (pure emptyRun)).ask := rfl
  have hfiles (t t' : Text) : (touchyCall t (pure emptyRun)).world.files =
      (touchyCall t' (pure emptyRun)).world.files := rfl
  have hpoisoned :=
    hindependent.poisoned {} [broken, broken] sound (by simp) (by simpa using hpanics)
  have hrepeated := hindependent.repeated {} {} sound again (hask _ _) (hfiles _ _)
    (touchy_new htoken _) (touchy_new htoken' _) hmeets
  exact ⟨hpoisoned.1, hpoisoned.2.1, by decide +kernel, hindependent.sequence {} [broken, sound],
    hindependent.gate {} {} [sound] (by simpa using hsteady), hrepeated.2⟩

end Service

end Scriptorium
