import Scriptorium.Proofs.Interrupt.Firing
import Scriptorium.Toolchain.Child

/-! Waiting for a child to its end. The parent that looks at its interrupt and the parent that need
not look come to the same: if the interrupt has not fired by any look, the child ends by itself, and
of the world only the files and the clock have changed. -/

namespace Scriptorium

namespace Signals

variable {g : Signals} {pace : Nat}

/-- The clock and the tokens at the `k`-th look of a parent that sleeps between the looks. -/
def atLook (g : Signals) (pace : Nat) : Nat → Signals
  | 0 => g.tick
  | k + 1 => (g.tick.wait pace).atLook pace k

/-- The clock and the tokens after `n` looks with a sleep behind each. -/
def afterLooks (g : Signals) (pace : Nat) : Nat → Signals
  | 0 => g
  | n + 1 => (g.tick.wait pace).afterLooks pace n

theorem atLook_eq (g : Signals) (pace k : Nat) : g.atLook pace k = (g.afterLooks pace k).tick := by
  induction k generalizing g with
  | zero => rfl
  | succ k ih => exact ih (g.tick.wait pace)

end Signals

namespace Child

variable {c : Child} {i : Interrupt} {interval seen left n : Nat} {unseen : IoError → Fault}
  {w : World} {status : ExitStatus} {f : Fault}

/-- No look at the interrupt finds that it has fired. -/
def Undisturbed (c : Child) (i : Interrupt) (interval : Nat) (g : Signals) : Prop :=
  ∀ k < c.looks, i.fault? (g.atLook (pace interval) k) = none

theorem undisturbed_of_isInert (h : i.isInert = true) (g : Signals) :
    c.Undisturbed i interval g := by
  intro k _
  obtain ⟨hdeadline, htoken⟩ : i.deadline = none ∧ i.token = none := by
    simpa [Interrupt.isInert] using h
  simp [Interrupt.fault?, hdeadline, htoken]

/-! ### Looking -/

/-- What a parent does in `n` rounds. -/
def rounds (interval n : Nat) : List Deed := (List.replicate n (round interval)).flatten

theorem watch_of_clear (h : i.fault? w.signals.tick = none) :
    c.watch i interval unseen seen (left + 1) w =
      (c.watch i interval unseen (seen + 1) left
        { w with signals := w.signals.tick.wait (pace interval) }).after (round interval) := by
  rw [watch, Act.check_of_clear h]
  rfl

theorem watch_of_fault (h : i.fault? w.signals.tick = some f) :
    c.watch i interval unseen seen (left + 1) w =
      ⟨.killed f, .looked (.ok none) :: .checked (some f) :: termination,
        { w with files := c.files seen, signals := w.signals.tick }⟩ := by
  rw [watch, Act.check_of_fault h]
  rfl

theorem rounds_succ (interval n : Nat) :
    rounds interval (n + 1) = round interval ++ rounds interval n := by
  rw [rounds, List.replicate_succ, List.flatten_cons, ← rounds]

theorem watch_pass (n : Nat) (h : ∀ k < n, i.fault? (w.signals.atLook (pace interval) k) = none) :
    c.watch i interval unseen seen (n + left) w =
      (c.watch i interval unseen (seen + n) left
        { w with signals := w.signals.afterLooks (pace interval) n }).after (rounds interval n) := by
  induction n generalizing seen w with
  | zero => rw [Nat.zero_add]; rfl
  | succ n ih =>
    have hlook : i.fault? w.signals.tick = none := h 0 (Nat.succ_pos n)
    have hlater : c.watch i interval unseen (seen + 1) (n + left)
        { w with signals := w.signals.tick.wait (pace interval) } = _ :=
      ih fun k hk => h (k + 1) (Nat.succ_lt_succ hk)
    rw [Nat.add_right_comm, watch_of_clear hlook, hlater, Nat.add_right_comm, rounds_succ]
    simp only [Attendance.after, List.append_assoc]
    rfl

/-! ### Ends -/

/-- A child that no look has stopped comes to its own end, or out of sight. -/
theorem watch_of_undisturbed (unseen : IoError → Fault) (h : c.Undisturbed i interval w.signals) :
    ∃ g, c.watch i interval unseen 0 c.looks w =
      (c.watch i interval unseen c.looks 0 { w with signals := g }).after
        (rounds interval c.looks) := by
  have hpass : c.watch i interval unseen 0 (c.looks + 0) w = _ := watch_pass c.looks h
  rw [Nat.add_zero, Nat.zero_add] at hpass
  exact ⟨_, hpass⟩

/-- The first look that finds that the interrupt has fired is the last one. -/
theorem watch_of_first {k : Nat} (hk : k < c.looks)
    (hclear : ∀ j < k, i.fault? (w.signals.atLook (pace interval) j) = none)
    (hfired : i.fault? (w.signals.atLook (pace interval) k) = some f) :
    c.watch i interval unseen 0 c.looks w =
      ⟨.killed f, rounds interval k ++ .looked (.ok none) :: .checked (some f) :: termination,
        { w with files := c.files k, signals := w.signals.atLook (pace interval) k }⟩ := by
  obtain ⟨left, hlooks⟩ : ∃ left, c.looks = k + (left + 1) := ⟨c.looks - k - 1, by omega⟩
  rw [Signals.atLook_eq] at hfired
  rw [hlooks, watch_pass k hclear, watch_of_fault hfired, Nat.zero_add, Signals.atLook_eq]
  rfl

theorem wait_ended (hend : c.ending = .ok status) (h : c.Undisturbed i interval w.signals) :
    ∃ g, c.wait i interval unseen w =
      (.ended status, { w with files := c.files c.looks, signals := g }) := by
  unfold wait attend
  split
  · exact ⟨_, by rw [await, hend]; rfl⟩
  · obtain ⟨g, hwatch⟩ := watch_of_undisturbed unseen h
    exact ⟨g, by rw [hwatch, watch, hend]; rfl⟩

end Child

end Scriptorium
