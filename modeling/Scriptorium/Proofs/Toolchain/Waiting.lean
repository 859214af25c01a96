import Mathlib.Data.Nat.Find
import Scriptorium.Proofs.Toolchain.Child
import Scriptorium.Toolchain.CompilerProgram

/-! Two ways to wait for a child process. A parent whose interrupt cannot fire waits without looking;
any other looks again and again. Both come to the same as long as no look finds that the interrupt has
fired. The first look that does ends the waiting with its fault, and so does one at which the system
cannot tell how the child is; the child is then killed with its group, and awaited, before the parent
goes on. -/

namespace Scriptorium

/-- What waiting returns: the status of the child, or why there is none. -/
def Waited.result (program : Text) : Waited → Except Fault ExitStatus
  | ended status => .ok status
  | killed f => .error f
  | lost e => .error (.notRun program e)

namespace Child

variable {c : Child} {i : Interrupt} {interval k : Nat} {unseen : IoError → Fault} {w : World}
  {g : Signals} {status : ExitStatus} {f : Fault} {e : IoError}

/-! ### Stopping -/

/-- The child is found running, and the look at the interrupt that follows is the first to find that
it has fired. -/
structure StoppedAt (c : Child) (i : Interrupt) (interval : Nat) (g : Signals) (k : Nat) (f : Fault) :
    Prop where
  running : k < c.looks
  clear : ∀ j < k, i.fault? (g.atLook (pace interval) j) = none
  fired : i.fault? (g.atLook (pace interval) k) = some f

theorem undisturbed_or_stoppedAt (c : Child) (i : Interrupt) (interval : Nat) (g : Signals) :
    c.Undisturbed i interval g ∨ ∃ k f, c.StoppedAt i interval g k f := by
  by_cases h : ∃ k, k < c.looks ∧ (i.fault? (g.atLook (pace interval) k)).isSome
  · obtain ⟨hrunning, hfired⟩ := Nat.find_spec h
    obtain ⟨f, hf⟩ := Option.isSome_iff_exists.mp hfired
    refine .inr ⟨Nat.find h, f, hrunning, fun j hj => ?_, hf⟩
    have hearlier := Nat.find_min h hj
    simpa [Nat.lt_trans hj hrunning] using hearlier
  · refine .inl fun k hk => ?_
    have hk := not_and.mp (not_exists.mp h k) hk
    simpa using hk

/-! ### Ways to wait -/

theorem attend_of_isInert (h : i.isInert = true) :
    c.attend i interval unseen w = c.await interval w := if_pos h

theorem attend_of_not_isInert (h : i.isInert = false) :
    c.attend i interval unseen w = c.watch i interval unseen 0 c.looks w :=
  if_neg (by simp [h])

/-- A parent that looks and is not stopped sees the child to its end. -/
theorem attend_of_undisturbed (unseen : IoError → Fault) (h : i.isInert = false)
    (hclear : c.Undisturbed i interval w.signals) :
    ∃ g, c.attend i interval unseen w = match c.ending with
      | .ok status => ⟨.ended status, rounds interval c.looks ++ [.looked (.ok (some status))],
          { w with files := c.files c.looks, signals := g }⟩
      | .error e => ⟨.killed (unseen e), rounds interval c.looks ++ .looked (.error e) :: termination,
          { w with files := c.files c.looks, signals := g }⟩ := by
  obtain ⟨g, hwatch⟩ := watch_of_undisturbed unseen hclear
  refine ⟨g, ?_⟩
  rw [attend_of_not_isInert h, hwatch, watch]
  cases c.ending <;> rfl

/-- However a child that is not stopped is waited for, the same is returned, and of the world only
the files, which are as the child left them, and the clock have changed. -/
theorem result_of_undisturbed (program : Text) (interval : Nat)
    (hclear : c.Undisturbed i interval w.signals) :
    let x := c.attend i interval (.notRun program) w
    x.waited.result program = c.ending.mapError (.notRun program) ∧
      ∃ g, x.world = { w with files := c.files c.looks, signals := g } := by
  intro x
  cases hinert : i.isInert with
  | true =>
    have hx : x = c.await interval w := attend_of_isInert hinert
    rw [hx, await]
    cases c.ending <;> exact ⟨rfl, _, rfl⟩
  | false =>
    obtain ⟨g, hx⟩ := attend_of_undisturbed (.notRun program) hinert hclear
    rw [show x = _ from hx]
    cases c.ending <;> exact ⟨rfl, _, rfl⟩

end Child

namespace CompilerProgram

open Child

/-- How a compiler process is waited for. -/
def attend (p : CompilerProgram) (c : Child) (i : Interrupt) (w : World) : Attendance :=
  c.attend i p.interval (.notRun p.program) w

/-- What a parent that looks at its interrupt makes of a child. -/
structure Polled (p : CompilerProgram) (c : Child) (i : Interrupt) (w : World) (x : Attendance) :
    Prop where
  /-- The status of the child is returned exactly if it ends with that status and none of the looks at
  the interrupt, one each time it is found running, finds that it has fired. -/
  returned_iff : ∀ status, x.waited.result p.program = .ok status ↔
    c.ending = .ok status ∧ c.Undisturbed i p.interval w.signals
  /-- Nothing has been done to it then but to look. -/
  unharmed : ∀ status, x.waited.result p.program = .ok status →
    x.deeds = rounds p.interval c.looks ++ [.looked (.ok (some status))]
  /-- Otherwise the fault of the first look that finds that it has fired is returned, and the child has
  been killed with its group, and awaited. -/
  stopped : ∀ k f, c.StoppedAt i p.interval w.signals k f →
    x.waited.result p.program = .error f ∧
      x.deeds = rounds p.interval k ++
        [.looked (.ok none), .checked (some f), .killedGroup, .killed, .awaited] ∧
      x.world.files = c.files k
  /-- There is such a first look if the child has been disturbed at all. -/
  settled : c.Undisturbed i p.interval w.signals ∨
    ∃ k f, c.StoppedAt i p.interval w.signals k f
  /-- A child that is found to have ended is not reported as interrupted. -/
  atOnce : ∀ status, c.looks = 0 → c.ending = .ok status →
    x.waited.result p.program = .ok status ∧ x.deeds = [.looked (.ok (some status))]
  /-- A child of which the system cannot tell whether it has ended has been killed just so. -/
  unseen : ∀ e, c.ending = .error e → c.Undisturbed i p.interval w.signals →
    x.waited.result p.program = .error (.notRun p.program e) ∧
      x.deeds = rounds p.interval c.looks ++
        [.looked (.error e), .killedGroup, .killed, .awaited]

variable {p : CompilerProgram} {c : Child} {i i' : Interrupt} {w : World} {job : Job}

theorem attend_of_stoppedAt {k : Nat} {f : Fault} (h : i.isInert = false)
    (hs : c.StoppedAt i p.interval w.signals k f) :
    p.attend c i w = ⟨.killed f,
      rounds p.interval k ++ .looked (.ok none) :: .checked (some f) :: termination,
      { w with files := c.files k, signals := w.signals.atLook (pace p.interval) k }⟩ :=
  (attend_of_not_isInert h).trans (watch_of_first hs.running hs.clear hs.fired)

theorem result_of_clear (hclear : c.Undisturbed i p.interval w.signals) :
    (p.attend c i w).waited.result p.program = c.ending.mapError (.notRun p.program) :=
  (result_of_undisturbed p.program p.interval hclear).1

theorem result_eq_ok_iff (h : i.isInert = false) {status : ExitStatus} :
    (p.attend c i w).waited.result p.program = .ok status ↔
      c.ending = .ok status ∧ c.Undisturbed i p.interval w.signals := by
  constructor
  · intro hstatus
    rcases c.undisturbed_or_stoppedAt i p.interval w.signals with hclear | ⟨k, f, hs⟩
    · refine ⟨?_, hclear⟩
      rw [result_of_clear hclear] at hstatus
      cases hend : c.ending with
      | error e =>
        rw [hend] at hstatus
        cases hstatus
      | ok status' =>
        rw [hend] at hstatus
        cases hstatus
        rfl
    · rw [attend_of_stoppedAt h hs] at hstatus
      cases hstatus
  · rintro ⟨hend, hclear⟩
    rw [result_of_clear hclear, hend]
    rfl

theorem polled (p : CompilerProgram) (c : Child) (w : World) (h : i.isInert = false) :
    Polled p c i w (p.attend c i w) := by
  have hdeeds (hclear : c.Undisturbed i p.interval w.signals) :=
    attend_of_undisturbed (.notRun p.program) h hclear
  refine ⟨fun status => result_eq_ok_iff h, fun status hstatus => ?_, fun k f hs => ?_,
    c.undisturbed_or_stoppedAt i p.interval w.signals, fun status hlooks hend => ?_,
    fun e hend hclear => ?_⟩
  · obtain ⟨hend, hclear⟩ := (result_eq_ok_iff h).mp hstatus
    obtain ⟨g, hx⟩ := hdeeds hclear
    rw [attend, hx, hend]
  · rw [attend_of_stoppedAt h hs]
    exact ⟨rfl, rfl, rfl⟩
  · have hclear : c.Undisturbed i p.interval w.signals := fun k hk => by omega
    obtain ⟨g, hx⟩ := hdeeds hclear
    rw [attend, hx, hend, hlooks]
    exact ⟨rfl, rfl⟩
  · obtain ⟨g, hx⟩ := hdeeds hclear
    rw [attend, hx, hend]
    exact ⟨rfl, rfl⟩

theorem invoke_of_launched (i : Interrupt)
    (h : p.launcher w.files p.program (p.leading ++ job.arguments) (pace p.interval) = .ok c) :
    let x := p.attend c i w
    p.backend.invoke job i w =
      (((x.waited.result p.program).map fun status => runOf c status job.output x.world.files).mapError
        .fault, x.world) := by
  intro x
  change p.invoke job i w = _
  rw [invoke, h]
  dsimp only [wait]
  rw [show c.attend i p.interval (.notRun p.program) w = x from rfl]
  cases x.waited <;> rfl

/-- Waiting with looks at an interrupt and waiting without any agree: an interrupt that fires at none
of the looks makes no difference to what is returned, nor to what becomes of the files; the first
look that finds it fired, and nothing else, ends the waiting early, and no child is left running
or unawaited then. -/
theorem polling_agrees_with_blocking (p : CompilerProgram) (c : Child) (w : World) :
    (∀ i, i.isInert = false → Polled p c i w (p.attend c i w)) ∧
    (∀ i i', c.Undisturbed i p.interval w.signals → i'.isInert = true →
      (p.attend c i w).waited.result p.program = (p.attend c i' w).waited.result p.program ∧
        ∃ g, (p.attend c i w).world = { (p.attend c i' w).world with signals := g }) ∧
    ∀ job i, p.launcher w.files p.program (p.leading ++ job.arguments) (pace p.interval) = .ok c →
      let x := p.attend c i w
      p.backend.invoke job i w =
        (((x.waited.result p.program).map fun status =>
          runOf c status job.output x.world.files).mapError .fault, x.world) := by
  refine ⟨fun i => p.polled c w, fun i i' hclear hinert => ?_, fun job i => invoke_of_launched i⟩
  obtain ⟨hresult, g, hworld⟩ := result_of_undisturbed p.program p.interval hclear
  obtain ⟨hresult', g', hworld'⟩ := result_of_undisturbed p.program p.interval
    (undisturbed_of_isInert (c := c) hinert w.signals)
  refine ⟨hresult.trans hresult'.symm, g, ?_⟩
  rw [attend, attend, hworld, hworld']

/-- A child that is found running three times. -/
def unhurried : Child where
  looks := 3
  ending := .ok (.code 0)
  files := fun _ => {}
  output := []
  errors := []

/-- A token that is cancelled during the first sleep stops the child at the second look, and one that
is cancelled after the last look does not stop it, as if it had not been looked at. -/
theorem polling_agrees_unhurried :
    let p : CompilerProgram := ⟨"fsc".toList, [], 10, fun _ _ _ _ => .ok unhurried⟩
    let w (moment : Nat) : World :=
      { freshName := fun _ => [], signals := { cancellations := [(0, moment)] } }
    let i : Interrupt := { token := some 0 }
    (p.attend unhurried i (w 1)).waited.result p.program = .error .cancelled ∧
      (p.attend unhurried i (w 1)).deeds =
        [.looked (.ok none), .checked none, .slept 10, .looked (.ok none), .checked (some .cancelled),
          .killedGroup, .killed, .awaited] ∧
      (p.backend.invoke ⟨[], [], none⟩ i (w 1)).1 = .error (.fault .cancelled) ∧
      (p.attend unhurried i (w 150000)).waited.result p.program = .ok (.code 0) ∧
      (p.attend unhurried {} (w 150000)).waited.result p.program = .ok (.code 0) := by
  intro p w i
  have hstopped : unhurried.StoppedAt i p.interval (w 1).signals 1 .cancelled :=
    ⟨by decide, by decide, by decide⟩
  have hclear : unhurried.Undisturbed i p.interval (w 150000).signals := by
    unfold Undisturbed
    decide
  obtain ⟨hpolled, -, hinvoke⟩ := p.polling_agrees_with_blocking unhurried (w 1)
  obtain ⟨hearly, hdeeds, -⟩ := (hpolled i rfl).stopped 1 .cancelled hstopped
  obtain ⟨hpolled', hsame, -⟩ := p.polling_agrees_with_blocking unhurried (w 150000)
  have hlate := ((hpolled' i rfl).returned_iff (.code 0)).mpr ⟨rfl, hclear⟩
  refine ⟨hearly, hdeeds, ?_, hlate, ?_⟩
  · rw [hinvoke ⟨[], [], none⟩ i rfl]
    dsimp only
    rw [hearly]
    rfl
  · rw [← (hsame i {} hclear rfl).1, hlate]

end CompilerProgram

end Scriptorium
