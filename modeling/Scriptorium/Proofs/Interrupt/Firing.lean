import Scriptorium.World

/-! An interrupt that has fired stays fired. The clock is never set back and no cancellation is taken
back, so whatever stopped a request at one moment, something stops it at every later one. When it
fires follows from the options it was started from and the moment of that, unless its deadline is one
that the clock does not reach; then it is not started at all. -/

namespace Scriptorium

namespace Signals

variable {g g' : Signals} {t : TokenId}

/-- What may become of the clock and the tokens. -/
structure Precedes (g g' : Signals) : Prop where
  now : g.now ≤ g'.now
  cancellations : g.cancellations ⊆ g'.cancellations

theorem precedes_tick (g : Signals) : g.Precedes g.tick := ⟨Nat.le_add_right _ _, List.Subset.refl _⟩

theorem Precedes.isCancelled (h : g.Precedes g') (ht : g.isCancelled t = true) :
    g'.isCancelled t = true := by
  obtain ⟨c, hc, hmoment⟩ := List.any_eq_true.mp ht
  obtain ⟨htoken, hpast⟩ := Bool.and_eq_true_iff.mp hmoment
  have hstill : c.2 ≤ g'.now := Nat.le_trans (of_decide_eq_true hpast) h.now
  exact List.any_eq_true.mpr ⟨c, h.cancellations hc, by simp [htoken, hstill]⟩

end Signals

namespace Interrupt

variable {i : Interrupt} {g g' : Signals} {f : Fault}

theorem isSome_fault?_iff : (i.fault? g).isSome ↔
    i.token.any g.isCancelled = true ∨ ∃ d ∈ i.deadline, d.1 ≤ g.now := by
  unfold fault?
  cases i.token.any g.isCancelled with
  | true => simp
  | false =>
    cases i.deadline with
    | none => simp
    | some d => by_cases hd : d.1 ≤ g.now <;> simp [hd]

theorem fault?_eq (h : i.fault? g = some f) : f = .cancelled ∨ ∃ d, f = .timedOut d := by
  unfold fault? at h
  split at h
  · exact .inl (Option.some.inj h).symm
  · split at h
    · next moment timeout _ =>
      split at h
      · exact .inr ⟨timeout, (Option.some.inj h).symm⟩
      · simp at h
    · simp at h

theorem isSome_fault?_of_precedes (h : g.Precedes g') (hf : (i.fault? g).isSome) :
    (i.fault? g').isSome := by
  rw [isSome_fault?_iff] at hf ⊢
  refine hf.imp (fun htoken => ?_) fun ⟨d, hd, hpast⟩ => ⟨d, hd, Nat.le_trans hpast h.now⟩
  obtain ⟨t, ht, hcancelled⟩ := Option.any_eq_true .. |>.mp htoken
  exact Option.any_eq_true .. |>.mpr ⟨t, ht, h.isCancelled hcancelled⟩

end Interrupt

/-! ### Starting -/

namespace Options

variable {o : Options} {g : Signals} {i : Interrupt} {moment : Nat} {d : Duration}

/-- The deadline lies beyond the last reading of the clock. -/
def overruns (o : Options) (g : Signals) : Bool :=
  o.timeout.any fun d => Signals.clockEnd ≤ g.now + d.nanoseconds

/-- The interrupt that is started at `moment`. -/
def interruptAt (o : Options) (moment : Nat) : Interrupt where
  deadline := o.timeout.map fun d => (moment + d.nanoseconds, d)
  token := o.token

theorem overruns_eq_false_iff : o.overruns g = false ↔
    ∀ d ∈ o.timeout, g.now + d.nanoseconds < Signals.clockEnd := by
  unfold overruns
  cases o.timeout <;> simp

/-- Nothing but an overrun keeps an interrupt from being started. -/
theorem start?_eq (o : Options) (g : Signals) :
    o.start? g = if o.overruns g then none else some (o.interruptAt g.now) := by
  unfold start? overruns interruptAt
  cases o.timeout with
  | none => rfl
  | some d =>
    by_cases hreach : g.now + d.nanoseconds < Signals.clockEnd
    · simp [Signals.deadline?, hreach]
    · simp [Signals.deadline?, hreach, Nat.not_lt.mp hreach]

theorem start?_eq_none_iff : o.start? g = none ↔ o.overruns g = true := by simp [start?_eq]

theorem start?_eq_some_iff :
    o.start? g = some i ↔ o.overruns g = false ∧ i = o.interruptAt g.now := by
  cases h : o.overruns g <;> simp [start?_eq, h, eq_comm]

theorem interruptAt_cancelled_iff :
    (o.interruptAt moment).fault? g = some .cancelled ↔ o.token.any g.isCancelled = true := by
  unfold interruptAt Interrupt.fault?
  cases o.token.any g.isCancelled with
  | true => simp
  | false =>
    cases o.timeout with
    | none => simp
    | some d => by_cases h : moment + d.nanoseconds ≤ g.now <;> simp [h]

theorem interruptAt_timedOut_iff : (o.interruptAt moment).fault? g = some (.timedOut d) ↔
    o.token.any g.isCancelled = false ∧ o.timeout = some d ∧ moment + d.nanoseconds ≤ g.now := by
  unfold interruptAt Interrupt.fault?
  cases o.token.any g.isCancelled with
  | true => simp
  | false =>
    cases o.timeout with
    | none => simp
    | some d' =>
      by_cases hlate : moment + d'.nanoseconds ≤ g.now
      · simp only [Option.map_some, hlate, if_true, Bool.false_eq_true, if_false, Option.some.injEq,
          Fault.timedOut.injEq, true_and]
        exact ⟨fun heq => ⟨heq, heq ▸ hlate⟩, And.left⟩
      · simp only [Option.map_some, hlate, if_false, Bool.false_eq_true, reduceCtorEq, false_iff,
          Option.some.injEq, true_and]
        rintro ⟨rfl, h⟩
        exact hlate h

theorem interruptAt_clear_iff : (o.interruptAt moment).fault? g = none ↔
    o.token.any g.isCancelled = false ∧ ∀ d ∈ o.timeout, g.now < moment + d.nanoseconds := by
  rw [← Option.not_isSome_iff_eq_none, Interrupt.isSome_fault?_iff]
  simp [interruptAt]

end Options

/-! ### Looking -/

/-- The world after somebody looked at the clock. -/
def World.tick (w : World) : World := { w with signals := w.signals.tick }

namespace Act

variable {i : Interrupt} {o : Options} {w w' : World}

theorem start_ok (h : start o w = (.ok i, w')) : w' = w ∧ i = o.interruptAt w.signals.now := by
  unfold start at h
  split at h
  · next j hstart =>
    cases h
    exact ⟨rfl, (Options.start?_eq_some_iff.mp hstart).2⟩
  · cases h

theorem check_of_fault {fault : Fault} (hf : i.fault? w.signals.tick = some fault) :
    check i w = (.error (.fault fault), w.tick) := by
  unfold check
  dsimp only
  rw [hf]
  rfl

theorem check_of_clear (hf : i.fault? w.signals.tick = none) :
    check i w = (.ok (), w.tick) := by
  unfold check
  dsimp only
  rw [hf]
  rfl

end Act

end Scriptorium
