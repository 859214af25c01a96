import Mathlib.Data.List.Basic
import Mathlib.Logic.Relation
import Scriptorium.Proofs.Interrupt.Firing

/-! Interrupts that share a token. They are started from any options at any moments and copied as
often as one likes, tokens are cancelled, and the clock runs on, all in any order. What a check
answers is told from what has happened before it alone: whether the token was cancelled, and how long
ago the interrupt was started that the checked copy goes back to. -/

namespace Scriptorium

open Relation (ReflTransGen)

/-- What happens to interrupts and tokens. Copies of interrupts are numbered as they come up. -/
inductive Happening
  | cancelled (t : TokenId)
  | started (o : Options) (moment : Nat)
  | copied (k : Nat)
  | checked (k : Nat) (moment : Nat) (answer : Except Halt Unit)

/-- The start that a copy of an interrupt goes back to. -/
structure Origin where
  options : Options
  moment : Nat

/-- The origins of all copies, from what has happened, the latest first. -/
def origins : List Happening → List Origin
  | [] => []
  | .started o moment :: past => origins past ++ [⟨o, moment⟩]
  | .copied k :: past => origins past ++ (origins past)[k]?.toList
  | .cancelled _ :: past | .checked .. :: past => origins past

/-- Interrupts in use: the world, all copies there are, and what has happened, the latest first. -/
structure Usage where
  world : World
  copies : List Interrupt := []
  past : List Happening := []

/-- One turn of the use of interrupts. -/
inductive Usage.Turn : Usage → Usage → Prop
  | passed {σ : Usage} {nanoseconds : Nat} :
      Turn σ { σ with world := { σ.world with signals := σ.world.signals.wait nanoseconds } }
  /-- Whoever has the token cancels it. -/
  | cancelled {σ : Usage} {t : TokenId} :
      Turn σ { σ with
        world := { σ.world with signals := σ.world.signals.cancel t }
        past := .cancelled t :: σ.past }
  | started {σ : Usage} {o : Options} {i : Interrupt} {w : World}
      (h : Act.start o σ.world = (.ok i, w)) :
      Turn σ ⟨w, σ.copies ++ [i], .started o σ.world.signals.now :: σ.past⟩
  | copied {σ : Usage} {k : Nat} {i : Interrupt} (h : σ.copies[k]? = some i) :
      Turn σ ⟨σ.world, σ.copies ++ [i], .copied k :: σ.past⟩
  | checked {σ : Usage} {k : Nat} {i : Interrupt} {answer : Except Halt Unit} {w : World}
      (h : σ.copies[k]? = some i) (hcheck : Act.check i σ.world = (answer, w)) :
      Turn σ ⟨w, σ.copies, .checked k w.signals.now answer :: σ.past⟩

/-! ### What the past says -/

/-- By `moment` the token has been cancelled, in the course of `past` or because that had been arranged
in the world `w₀`. -/
def Cancelled (w₀ : World) (past : List Happening) (moment : Nat) (t : TokenId) : Prop :=
  .cancelled t ∈ past ∨ ∃ c ∈ w₀.signals.cancellations, c.1 = t ∧ c.2 ≤ moment

namespace Origin

def Cancelled (b : Origin) (w₀ : World) (past : List Happening) (moment : Nat) : Prop :=
  ∃ t ∈ b.options.token, Scriptorium.Cancelled w₀ past moment t

/-- The timeout is `d`, and at least that much time has passed since the start. -/
def Late (b : Origin) (moment : Nat) (d : Duration) : Prop :=
  b.options.timeout = some d ∧ b.moment + d.nanoseconds ≤ moment

end Origin

/-- What a check of the `k`-th copy has to answer at `moment`. -/
def Answered (w₀ : World) (past : List Happening) (k moment : Nat) (answer : Except Halt Unit) :
    Prop :=
  ∃ b, (origins past)[k]? = some b ∧ b.moment ≤ moment ∧
    (answer = .error (.fault .cancelled) ↔ b.Cancelled w₀ past moment) ∧
    (∀ d, answer = .error (.fault (.timedOut d)) ↔ ¬b.Cancelled w₀ past moment ∧ b.Late moment d) ∧
    (answer = .ok () ↔ ¬b.Cancelled w₀ past moment ∧ ∀ d, ¬b.Late moment d)

/-- All that is noted happened by the moment `now`, in this order, and every check was answered as it
has to be. -/
def Faithful (w₀ : World) : List Happening → (now : Nat) → Prop
  | [], _ => True
  | .checked k moment answer :: past, now =>
    moment ≤ now ∧ Answered w₀ past k moment answer ∧ Faithful w₀ past moment
  | .started _ moment :: past, now => moment ≤ now ∧ Faithful w₀ past moment
  | .cancelled _ :: past, now | .copied _ :: past, now => Faithful w₀ past now

section

variable {w₀ w : World} {past later : List Happening} {now now' moment moment' k k' : Nat} {b : Origin}
  {t : TokenId} {answer answer' : Except Halt Unit} {σ σ' : Usage} {h : Halt} {i : Interrupt}

theorem Faithful.mono (hf : Faithful w₀ past now) (hnow : now ≤ now') : Faithful w₀ past now' := by
  induction past with
  | nil => trivial
  | cons e past ih =>
    cases e with
    | checked k moment answer => exact ⟨Nat.le_trans hf.1 hnow, hf.2⟩
    | started o moment => exact ⟨Nat.le_trans hf.1 hnow, hf.2⟩
    | cancelled t | copied k => exact ih hf

theorem Faithful.of_suffix (hf : Faithful w₀ later now) (hpast : past <:+ later) :
    Faithful w₀ past now := by
  induction later generalizing now with
  | nil =>
    obtain rfl := List.suffix_nil.mp hpast
    trivial
  | cons e later ih =>
    rcases List.suffix_cons_iff.mp hpast with rfl | hearlier
    · exact hf
    · cases e with
      | checked k moment answer => exact (ih hf.2.2 hearlier).mono hf.1
      | started o moment => exact (ih hf.2 hearlier).mono hf.1
      | cancelled t | copied k => exact ih hf hearlier

theorem Faithful.moment_le (hf : Faithful w₀ past now) (hb : b ∈ origins past) : b.moment ≤ now := by
  induction past generalizing now with
  | nil => simp [origins] at hb
  | cons e past ih =>
    cases e with
    | checked k moment answer => exact Nat.le_trans (ih hf.2.2 hb) hf.1
    | started o moment =>
      rcases List.mem_append.mp hb with hb | hb
      · exact Nat.le_trans (ih hf.2 hb) hf.1
      · obtain rfl := List.mem_singleton.mp hb
        exact hf.1
    | cancelled t => exact ih hf hb
    | copied k =>
      rcases List.mem_append.mp hb with hb | hb
      · exact ih hf hb
      · exact ih hf (List.mem_of_getElem? (Option.mem_toList.mp hb))

theorem origins_prefix (hpast : past <:+ later) : origins past <+: origins later := by
  induction later with
  | nil =>
    obtain rfl := List.suffix_nil.mp hpast
    exact List.prefix_rfl
  | cons e later ih =>
    rcases List.suffix_cons_iff.mp hpast with rfl | hearlier
    · exact List.prefix_rfl
    · cases e with
      | checked k moment answer | cancelled t => exact ih hearlier
      | started o moment | copied k => exact (ih hearlier).trans (List.prefix_append _ _)

theorem Cancelled.mono (h : Cancelled w₀ past moment t) (hpast : past <:+ later)
    (hmoment : moment ≤ moment') : Cancelled w₀ later moment' t :=
  h.imp (fun hmem => hpast.subset hmem) fun ⟨c, hc, htoken, hpast⟩ =>
    ⟨c, hc, htoken, Nat.le_trans hpast hmoment⟩

/-- A copy of an interrupt that has failed fails again, and the fault stays what it is unless the token
has been cancelled meanwhile. -/
theorem Answered.lasting (ha : Answered w₀ past k moment answer)
    (ha' : Answered w₀ later k' moment' answer') (hpast : past <:+ later) (hmoment : moment ≤ moment')
    (hsame : (origins later)[k']? = (origins past)[k]?) (herror : answer = .error h) :
    answer' = answer ∨ answer' = .error (.fault .cancelled) ∧
      ∃ d, answer = .error (.fault (.timedOut d)) := by
  subst herror
  obtain ⟨b, hb, -, hcancelled, htimed, hok⟩ := ha
  obtain ⟨b', hb', -, hcancelled', htimed', -⟩ := ha'
  obtain rfl : b' = b := Option.some.inj (hb'.symm.trans (hsame.trans hb))
  by_cases hdone : b'.Cancelled w₀ past moment
  · obtain ⟨t, ht, hgone⟩ := hdone
    rw [hcancelled.mpr ⟨t, ht, hgone⟩]
    exact .inl (hcancelled'.mpr ⟨t, ht, hgone.mono hpast hmoment⟩)
  · obtain ⟨d, hlate⟩ : ∃ d, b'.Late moment d := by
      by_contra hnone
      exact nomatch hok.mpr ⟨hdone, not_exists.mp hnone⟩
    have hearlier := (htimed d).mpr ⟨hdone, hlate⟩
    by_cases hdone' : b'.Cancelled w₀ later moment'
    · exact .inr ⟨hcancelled'.mpr hdone', d, hearlier⟩
    · rw [hearlier]
      exact .inl ((htimed' d).mpr ⟨hdone', hlate.1, Nat.le_trans hlate.2 hmoment⟩)

/-! ### Runs -/

/-- The copies are the interrupts that the past says, the past is faithful, and a token counts as
cancelled if the past or `w₀` says so. -/
structure Usage.Kept (w₀ : World) (σ : Usage) : Prop where
  copies : σ.copies = (origins σ.past).map fun b => b.options.interruptAt b.moment
  faithful : Faithful w₀ σ.past σ.world.signals.now
  arranged : w₀.signals.cancellations ⊆ σ.world.signals.cancellations
  happened : ∀ t, .cancelled t ∈ σ.past →
    ∃ m ≤ σ.world.signals.now, (t, m) ∈ σ.world.signals.cancellations
  known : ∀ c ∈ σ.world.signals.cancellations,
    c ∈ w₀.signals.cancellations ∨ .cancelled c.1 ∈ σ.past

namespace Usage.Kept

theorem start (w₀ : World) : Kept w₀ ⟨w₀, [], []⟩ :=
  ⟨rfl, trivial, List.Subset.refl _, by simp, fun _ hc => .inl hc⟩

theorem isCancelled_iff (h : Kept w₀ σ) {g : Signals} (hnow : σ.world.signals.now ≤ g.now)
    (hsame : g.cancellations = σ.world.signals.cancellations) (t : TokenId) :
    g.isCancelled t = true ↔ Cancelled w₀ σ.past g.now t := by
  rw [Signals.isCancelled, hsame, List.any_eq_true]
  constructor
  · rintro ⟨c, hc, hmoment⟩
    obtain ⟨htoken, hpast⟩ := Bool.and_eq_true_iff.mp hmoment
    have htoken : c.1 = t := beq_iff_eq.mp htoken
    rcases h.known c hc with hc | hc
    · exact .inr ⟨c, hc, htoken, of_decide_eq_true hpast⟩
    · exact .inl (htoken ▸ hc)
  · rintro (hmem | ⟨c, hc, rfl, hpast⟩)
    · obtain ⟨m, hm, hc⟩ := h.happened t hmem
      exact ⟨(t, m), hc, by simp [Nat.le_trans hm hnow]⟩
    · exact ⟨c, h.arranged hc, by simp [hpast]⟩

theorem answered (h : Kept w₀ σ) (hcopy : σ.copies[k]? = some i)
    (hcheck : Act.check i σ.world = (answer, w)) :
    w = σ.world.tick ∧ Answered w₀ σ.past k w.signals.now answer := by
  obtain ⟨b, hb, rfl⟩ : ∃ b, (origins σ.past)[k]? = some b ∧ b.options.interruptAt b.moment = i := by
    simpa [h.copies] using hcopy
  let g := σ.world.signals.tick
  have hnow : σ.world.signals.now ≤ g.now := Nat.le_add_right _ _
  have hcancelled : b.options.token.any g.isCancelled = true ↔ b.Cancelled w₀ σ.past g.now := by
    simp only [Option.any_eq_true, h.isCancelled_iff hnow rfl]
    rfl
  have hstarted : b.moment ≤ g.now :=
    Nat.le_trans (h.faithful.moment_le (List.mem_of_getElem? hb)) hnow
  have hnot : b.options.token.any g.isCancelled = false ↔ ¬b.Cancelled w₀ σ.past g.now := by
    rw [← hcancelled, Bool.not_eq_true]
  -- the fault of the interrupt and the answer of the check are the same
  obtain ⟨hw, hfault⟩ : w = σ.world.tick ∧ answer =
      ((b.options.interruptAt b.moment).fault? g).elim (.ok ()) fun f => .error (.fault f) := by
    cases hf : (b.options.interruptAt b.moment).fault? g with
    | some f =>
      cases (Act.check_of_fault hf).symm.trans hcheck
      exact ⟨rfl, rfl⟩
    | none =>
      cases (Act.check_of_clear hf).symm.trans hcheck
      exact ⟨rfl, rfl⟩
  subst hw
  refine ⟨rfl, b, hb, hstarted, ?_, fun d => ?_, ?_⟩
  · have hiff : (b.options.interruptAt b.moment).fault? g = some .cancelled ↔ _ :=
      Options.interruptAt_cancelled_iff
    change _ ↔ b.Cancelled w₀ σ.past g.now
    rw [← hcancelled, ← hiff, hfault]
    cases (b.options.interruptAt b.moment).fault? g <;> simp
  · change _ ↔ ¬b.Cancelled w₀ σ.past g.now ∧ _
    rw [← hnot, Origin.Late]
    change _ ↔ _ ∧ _ ∧ b.moment + d.nanoseconds ≤ g.now
    rw [← Options.interruptAt_timedOut_iff, hfault]
    cases (b.options.interruptAt b.moment).fault? g <;> simp
  · change _ ↔ ¬b.Cancelled w₀ σ.past g.now ∧ ∀ d, ¬b.Late g.now d
    have hlate : (∀ d, ¬b.Late g.now d) ↔ ∀ d ∈ b.options.timeout, g.now < b.moment + d.nanoseconds := by
      simp [Origin.Late]
    rw [← hnot, hlate, ← Options.interruptAt_clear_iff, hfault]
    cases (b.options.interruptAt b.moment).fault? g <;> simp

theorem pass (h : Kept w₀ σ) {g : Signals} (hnow : σ.world.signals.now ≤ g.now)
    (hsame : g.cancellations = σ.world.signals.cancellations) :
    Kept w₀ { σ with world := { σ.world with signals := g } } where
  copies := h.copies
  faithful := h.faithful.mono hnow
  arranged := hsame ▸ h.arranged
  happened t ht := by
    obtain ⟨m, hm, hc⟩ := h.happened t ht
    exact ⟨m, Nat.le_trans hm hnow, hsame ▸ hc⟩
  known c hc := h.known c (hsame ▸ hc)

end Usage.Kept

theorem Usage.Turn.kept (hturn : Turn σ σ') (h : Kept w₀ σ) : Kept w₀ σ' := by
  cases hturn with
  | passed => exact h.pass (Nat.le_add_right _ _) rfl
  | @cancelled t =>
    exact {
      copies := h.copies
      faithful := h.faithful
      arranged := fun c hc => List.mem_cons_of_mem _ (h.arranged hc)
      happened := fun t' ht' => by
        rcases List.mem_cons.mp ht' with heq | ht'
        · obtain rfl : t' = t := by simpa using heq
          exact ⟨_, Nat.le_refl _, List.mem_cons_self⟩
        · obtain ⟨m, hm, hc⟩ := h.happened t' ht'
          exact ⟨m, hm, List.mem_cons_of_mem _ hc⟩
      known := fun c hc => by
        rcases List.mem_cons.mp hc with rfl | hc
        · exact .inr List.mem_cons_self
        · exact (h.known c hc).imp_right (List.mem_cons_of_mem _) }
  | started hstart =>
    obtain ⟨rfl, rfl⟩ := Act.start_ok hstart
    exact {
      copies := by simp [origins, h.copies]
      faithful := ⟨Nat.le_refl _, h.faithful⟩
      arranged := h.arranged
      happened := fun t ht => h.happened t (by simpa using ht)
      known := fun c hc => (h.known c hc).imp_right (List.mem_cons_of_mem _) }
  | @copied k i hcopy =>
    obtain ⟨b, hb, rfl⟩ : ∃ b, (origins σ.past)[k]? = some b ∧
        b.options.interruptAt b.moment = i := by simpa [h.copies] using hcopy
    exact {
      copies := by simp [origins, h.copies, hb]
      faithful := h.faithful
      arranged := h.arranged
      happened := fun t ht => h.happened t (by simpa using ht)
      known := fun c hc => (h.known c hc).imp_right (List.mem_cons_of_mem _) }
  | checked hcopy hcheck =>
    obtain ⟨rfl, hanswered⟩ := h.answered hcopy hcheck
    have hpass := h.pass (g := σ.world.signals.tick) (Nat.le_add_right _ _) rfl
    exact {
      copies := h.copies
      faithful := ⟨Nat.le_refl _, hanswered, hpass.faithful⟩
      arranged := hpass.arranged
      happened := fun t ht => hpass.happened t (by simpa using ht)
      known := fun c hc => (hpass.known c hc).imp_right (List.mem_cons_of_mem _) }

theorem Usage.kept_of_run (hrun : ReflTransGen Turn ⟨w₀, [], []⟩ σ) : Kept w₀ σ := by
  induction hrun with
  | refl => exact .start w₀
  | tail _ hturn ih => exact hturn.kept ih

/-- What is true of the checks in a run that began in the world `w₀`. -/
structure Usage.Consistent (w₀ : World) (σ : Usage) : Prop where
  /-- A check answers what has happened before it: it reports a cancellation if the interrupt has a
  token that was cancelled, else the timeout if that much time has passed since the start, and
  nothing otherwise. -/
  answered : ∀ k moment answer past, .checked k moment answer :: past <:+ σ.past →
    Answered w₀ past k moment answer
  /-- After a check has failed, every later one of the same copy fails, and of any other that goes back
  to the same start. The fault stays the same, but a cancellation may take the place of a timeout. -/
  lasting : ∀ k moment answer past k' moment' answer' later,
    .checked k' moment' answer' :: later <:+ σ.past → .checked k moment answer :: past <:+ later →
    k' = k ∨ (origins later)[k']? = (origins past)[k]? → ∀ h, answer = .error h →
      answer' = answer ∨ answer' = .error (.fault .cancelled) ∧
        ∃ d, answer = .error (.fault (.timedOut d))
  /-- Every copy is the interrupt that was started at its origin. -/
  copies : σ.copies = (origins σ.past).map fun b => b.options.interruptAt b.moment

theorem Act.check_of_isInert (hinert : i.isInert = true) (w : World) : (check i w).1 = .ok () := by
  obtain ⟨deadline, token⟩ := i
  obtain ⟨hdeadline, htoken⟩ := Bool.and_eq_true_iff.mp hinert
  obtain rfl : deadline = none := by simpa using hdeadline
  obtain rfl : token = none := by simpa using htoken
  rfl

/-- However interrupts are started, copied and checked, tokens cancelled and time passes, the checks
are consistent with what happened before them; and an inert interrupt never fires. -/
theorem Usage.checks_consistent (hrun : ReflTransGen Turn ⟨w₀, [], []⟩ σ) :
    Consistent w₀ σ ∧ ∀ i : Interrupt, i.isInert = true → ∀ w, (Act.check i w).1 = .ok () := by
  have h := kept_of_run hrun
  refine ⟨⟨fun k moment answer past hpast => (h.faithful.of_suffix hpast).2.1, ?_, h.copies⟩,
    fun i => Act.check_of_isInert⟩
  intro k moment answer past k' moment' answer' later hlater hpast hsame e herror
  obtain ⟨-, hanswered', hfaithful⟩ := h.faithful.of_suffix hlater
  obtain ⟨hmoment, hanswered, -⟩ := hfaithful.of_suffix hpast
  have hearlier : past <:+ later := (List.suffix_cons _ _).trans hpast
  refine hanswered.lasting hanswered' hearlier hmoment ?_ herror
  rcases hsame with rfl | hsame
  · obtain ⟨b, hb, -⟩ := hanswered
    obtain ⟨rest, hrest⟩ := origins_prefix hearlier
    rw [← hrest, List.getElem?_append_left (List.getElem?_eq_some_iff.mp hb).1]
  · exact hsame

end

/-- Two copies of one interrupt, and another interrupt started from the same options later. The second
copy runs out of time, and the cancellation reaches all of them. -/
theorem Usage.checks_consistent_shared :
    let w : World := { freshName := fun _ => [] }
    let o : Options := ⟨some ⟨5⟩, some 0⟩
    let timedOut : Except Halt Unit := .error (.fault (.timedOut ⟨5⟩))
    let cancelled : Except Halt Unit := .error (.fault .cancelled)
    let past : List Happening := [.checked 0 0 (.ok ()), .copied 0, .started o 0]
    let later : List Happening := .started o 5 :: .cancelled 0 :: .checked 1 5 timedOut :: past
    ∃ σ, ReflTransGen Turn ⟨w, [], []⟩ σ ∧
      σ.past = .checked 0 9 cancelled :: .checked 2 5 cancelled :: later ∧
      Answered w past 1 5 timedOut ∧ Answered w later 2 5 cancelled ∧
      (cancelled = timedOut ∨ cancelled = cancelled ∧ ∃ d, timedOut = .error (.fault (.timedOut d))) := by
  intro w o timedOut cancelled past later
  have hfirst : ReflTransGen Turn ⟨w, [], []⟩ _ :=
    (((ReflTransGen.refl.tail (.started (o := o) rfl)).tail (.copied (k := 0) rfl)).tail
      (.checked (k := 0) rfl rfl)).tail (@Turn.passed _ 5)
  have hsecond := ((hfirst.tail (.checked (k := 1) rfl rfl)).tail (.cancelled (t := 0))).tail
    (.started (o := o) rfl)
  have hrun := ((hsecond.tail (.checked (k := 2) rfl rfl)).tail (@Turn.passed _ 4)).tail
    (.checked (k := 0) rfl rfl)
  have hanswered := (checks_consistent hrun).1.answered
  have hlasting := (checks_consistent hrun).1.lasting
  exact ⟨_, hrun, rfl, hanswered 1 5 timedOut past ⟨_ :: _ :: later.take 2, rfl⟩,
    hanswered 2 5 cancelled later ⟨[_], rfl⟩,
    hlasting 1 5 timedOut past 0 9 cancelled (.checked 2 5 cancelled :: later) List.suffix_rfl
      ⟨.checked 2 5 cancelled :: later.take 2, rfl⟩ (.inr rfl) _ rfl⟩

end Scriptorium
