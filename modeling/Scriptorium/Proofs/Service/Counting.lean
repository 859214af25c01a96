import Scriptorium.Calls

/-! What the counters of a service say. One call adds one to the requests, and one to the counter of
the way it ended, unless it ended in a panic. From this, after any calls the counters are the
numbers of calls that ended in each way, whatever compilers and loaders did. -/

namespace Scriptorium

/-- The ways in which a call can end. -/
inductive Outcome
  /-- An instance of the first exported type. -/
  | constructed
  /-- A unit that exports no type. -/
  | empty
  | rejected
  /-- A unit that could not be loaded, or whose type has no working constructor. -/
  | unusable
  /-- Cancelled, or out of time. -/
  | interrupted
  /-- The source could not be staged, or the compiler could not be run. -/
  | failed
  | panicked
  deriving DecidableEq

namespace Outcome

def ofFault : Fault → Outcome
  | .rejected .. => rejected
  | .notLoaded _ | .notConstructed .. => unusable
  | .cancelled | .timedOut _ => interrupted
  | .notStaged .. | .notRun .. => failed

def ofResult : Except Halt (Option Instance) → Outcome
  | .ok (some _) => constructed
  | .ok none => empty
  | .error (.fault f) => ofFault f
  | .error (.panic _) => panicked

/-- Every outcome is one of the seven. -/
theorem length_eq (ks : List Outcome) :
    ks.length = ks.count constructed + ks.count empty + ks.count rejected + ks.count unusable +
      ks.count interrupted + ks.count failed + ks.count panicked := by
  induction ks with
  | nil => rfl
  | cons k ks ih =>
    simp only [List.length_cons, List.count_cons, ih]
    cases k <;> simp <;> omega

end Outcome

namespace Statistics

variable {t t' : Statistics} {ks later : List Outcome}

/-- The counters after calls with the outcomes `ks`. -/
structure Counts (t : Statistics) (ks : List Outcome) : Prop where
  requests : t.requests = ks.length
  instances : t.instances = ks.count .constructed
  emptyUnits : t.emptyUnits = ks.count .empty
  compileFailures : t.compileFailures = ks.count .rejected
  runtimeFailures : t.runtimeFailures = ks.count .unusable
  interrupted : t.interrupted = ks.count .interrupted
  otherFailures : t.otherFailures = ks.count .failed

/-- How many requests have been answered. -/
def answered (t : Statistics) : Nat :=
  t.instances + t.emptyUnits + t.compileFailures + t.runtimeFailures + t.interrupted +
    t.otherFailures

/-- No counter of `t` is beyond that of `t'`. -/
structure Within (t t' : Statistics) : Prop where
  requests : t.requests ≤ t'.requests
  instances : t.instances ≤ t'.instances
  emptyUnits : t.emptyUnits ≤ t'.emptyUnits
  compileFailures : t.compileFailures ≤ t'.compileFailures
  runtimeFailures : t.runtimeFailures ≤ t'.runtimeFailures
  interrupted : t.interrupted ≤ t'.interrupted
  otherFailures : t.otherFailures ≤ t'.otherFailures

theorem counts_nil : Counts {} [] := ⟨rfl, rfl, rfl, rfl, rfl, rfl, rfl⟩

theorem Counts.concat (h : t.Counts ks) (r : Except Halt (Option Instance)) :
    (Service.count t.countRequest r).Counts (ks ++ [.ofResult r]) := by
  obtain ⟨hrequests, hinstances, hempty, hrejected, hunusable, hinterrupted, hfailed⟩ := h
  rcases r with (fault | m) | (_ | i)
  case error.fault =>
    cases fault <;> constructor <;>
      simp [Service.count, countRequest, countFault, Outcome.ofResult, Outcome.ofFault, *]
  all_goals
    constructor <;> simp [Service.count, countRequest, countSuccess, Outcome.ofResult, *]

theorem Counts.requests_eq (h : t.Counts ks) : t.requests = t.answered + ks.count .panicked := by
  rw [h.requests, Outcome.length_eq, answered, h.instances, h.emptyUnits, h.compileFailures,
    h.runtimeFailures, h.interrupted, h.otherFailures]

/-- Further outcomes take nothing back. -/
theorem Counts.within (h : t.Counts ks) (h' : t'.Counts (ks ++ later)) : t.Within t' := by
  have hcount (k : Outcome) : ks.count k ≤ (ks ++ later).count k := by
    rw [List.count_append]
    exact Nat.le_add_right _ _
  refine ⟨?_, h.instances ▸ h'.instances ▸ hcount _, h.emptyUnits ▸ h'.emptyUnits ▸ hcount _,
    h.compileFailures ▸ h'.compileFailures ▸ hcount _,
    h.runtimeFailures ▸ h'.runtimeFailures ▸ hcount _, h.interrupted ▸ h'.interrupted ▸ hcount _,
    h.otherFailures ▸ h'.otherFailures ▸ hcount _⟩
  rw [h.requests, h'.requests, List.length_append]
  exact Nat.le_add_right _ _

end Statistics

namespace Service

variable {s : Service} {x : Session} {ks : List Outcome}

/-- How calls one after another end. -/
def outcomes (s : Service) (x : Session) (cs : List Call) : List Outcome :=
  (s.answers x cs).map fun a => .ofResult a.result

theorem outcomes_cons (s : Service) (x : Session) (c : Call) (cs : List Call) :
    s.outcomes x (c :: cs) =
      .ofResult (s.answer x c).result :: s.outcomes (s.answer x c).session cs := rfl

theorem outcomes_append (s : Service) (x : Session) (cs later : List Call) :
    s.outcomes x (cs ++ later) = s.outcomes x cs ++ s.outcomes (s.after x cs) later := by
  induction cs generalizing x with
  | nil => rfl
  | cons c cs ih =>
    rw [List.cons_append, outcomes_cons, outcomes_cons, ih, List.cons_append]
    rfl

theorem length_outcomes (s : Service) (x : Session) (cs : List Call) :
    (s.outcomes x cs).length = cs.length := by
  induction cs generalizing x with
  | nil => rfl
  | cons c cs ih => rw [outcomes_cons, List.length_cons, ih, List.length_cons]

theorem counts_answer (h : x.statistics.Counts ks) (c : Call) :
    (s.answer x c).session.statistics.Counts (ks ++ [.ofResult (s.answer x c).result]) :=
  h.concat (s.answer x c).result

theorem counts_after (h : x.statistics.Counts ks) (cs : List Call) :
    (s.after x cs).statistics.Counts (ks ++ s.outcomes x cs) := by
  induction cs generalizing x ks with
  | nil => rwa [outcomes, answers, List.map_nil, List.append_nil]
  | cons c cs ih =>
    rw [outcomes_cons, List.append_cons]
    exact ih (counts_answer h c)

/-- After any calls of a service, plain ones or with options, every call has been counted once as a
request, and once by the way it ended unless it panicked; and no later call takes anything back. -/
theorem calls_counted (s : Service) (cs : List Call) :
    let t := (s.after {} cs).statistics
    (s.outcomes {} cs).length = cs.length ∧ t.Counts (s.outcomes {} cs) ∧
      t.requests = t.answered + (s.outcomes {} cs).count .panicked ∧
      ∀ later, t.Within (s.after {} (cs ++ later)).statistics := by
  have hcounts (cs : List Call) : (s.after {} cs).statistics.Counts (s.outcomes {} cs) :=
    counts_after (x := {}) Statistics.counts_nil cs
  refine ⟨s.length_outcomes {} cs, hcounts cs, (hcounts cs).requests_eq, fun later => ?_⟩
  have hlater := hcounts (cs ++ later)
  rw [outcomes_append] at hlater
  exact (hcounts cs).within hlater

end Service

end Scriptorium
