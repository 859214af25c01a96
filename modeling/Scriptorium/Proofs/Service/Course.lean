import Scriptorium.Service

/-! How the steps of a request act on its course, one law for each step with what follows it. A
sequence runs its second step where the first one left the course, and not at all if the first one
ended early. From these the course of a whole request up to its first look at the interrupt. -/

namespace Scriptorium

variable {α β : Type}

theorem Act.bind_apply (a : Act α) (f : α → Act β) (w : World) :
    (a >>= f) w = match a w with
      | (.ok x, w) => f x w
      | (.error h, w) => (.error h, w) := by
  change ExceptT.bindCont f (a w).1 (a w).2 = _
  rcases a w with ⟨_ | _, _⟩ <;> rfl

/-- A sequence ends early in its first act or in what follows that one. -/
theorem Act.bind_error {a : Act α} {f : α → Act β} {w : World} {h : Halt}
    (herror : ((a >>= f) w).1 = .error h) :
    (a w).1 = .error h ∨ ∃ x w', a w = (.ok x, w') ∧ (f x w').1 = .error h := by
  rw [bind_apply] at herror
  rcases ha : a w with ⟨e | x, w'⟩
  · rw [ha] at herror
    exact .inl (Except.error.inj herror ▸ rfl)
  · rw [ha] at herror
    exact .inr ⟨x, w', rfl, herror⟩

theorem Act.map_apply (f : α → β) (a : Act α) (w : World) :
    (f <$> a) w = ((a w).1.map f, (a w).2) := by
  rw [map_eq_pure_bind, bind_apply]
  rcases a w with ⟨_ | _, _⟩ <;> rfl

/-- The course after a look at the interrupt that found `fault`. -/
def Course.looked (c : Course) (fault : Option Fault) : Course :=
  { c with
    world := { c.world with signals := c.world.signals.tick }
    events := c.events ++ [.checked fault] }

namespace Step

theorem bind_apply (a : Step α) (f : α → Step β) (c : Course) :
    (a >>= f) c = match a c with
      | (.ok x, c) => f x c
      | (.error h, c) => (.error h, c) := by
  change ExceptT.bindCont f (a c).1 (a c).2 = _
  rcases a c with ⟨_ | _, _⟩ <;> rfl

theorem bind_of_ok {a : Step α} {c c' : Course} {x : α} (h : a c = (.ok x, c')) (f : α → Step β) :
    (a >>= f) c = f x c' := by
  rw [bind_apply, h]

theorem act_bind (a : Act α) (f : α → Step β) (c : Course) :
    (act a >>= f) c = match a c.world with
      | (.ok x, w) => f x { c with world := w }
      | (.error h, w) => (.error h, { c with world := w }) := by
  rw [bind_apply]
  unfold act
  rcases a c.world with ⟨_ | _, _⟩ <;> rfl

theorem files_bind (f : FileTree → Step β) (c : Course) :
    (files >>= f) c = f c.world.files c := bind_of_ok rfl f

theorem mark_bind (e : Event) (f : Unit → Step β) (c : Course) :
    (mark e >>= f) c = f () { c with events := c.events ++ [e] } := bind_of_ok rfl f

theorem check_apply (i : Interrupt) (c : Course) :
    check i c = match i.fault? c.world.signals.tick with
      | some f => (.error (.fault f), c.looked (some f))
      | none => (.ok (), c.looked none) := by
  unfold check Act.check
  dsimp only
  cases i.fault? c.world.signals.tick <;> rfl

theorem check_bind (i : Interrupt) (f : Unit → Step β) (c : Course) :
    (check i >>= f) c = match i.fault? c.world.signals.tick with
      | some fault => (.error (.fault fault), c.looked (some fault))
      | none => f () (c.looked none) := by
  rw [bind_apply, check_apply]
  cases i.fault? c.world.signals.tick <;> rfl

theorem start_bind (o : Options) (f : Interrupt → Step β) (c : Course) :
    (act (Act.start o) >>= f) c = match o.start? c.world.signals with
      | none => (.error (.panic "overflow when adding duration to instant".toList), c)
      | some i => f i c := by
  rw [act_bind]
  unfold Act.start
  cases o.start? c.world.signals <;> rfl

end Step

namespace Service

/-- The opening of a request, up to its first look at the interrupt. -/
def opening (s : Service) (q : Request) (o : Options) (rest : Interrupt → ReferenceSet → Step α) :
    Step α := do
  let i ← Step.act (Act.start o)
  let references := s.catalog.merge (← Step.files) q.references
  Step.check i
  rest i references

/-- A request panics if its clock cannot be started, ends at its first look if the interrupt has
fired by then, and goes on otherwise. -/
theorem opening_apply (s : Service) (q : Request) (o : Options)
    (rest : Interrupt → ReferenceSet → Step α) (c : Course) :
    s.opening q o rest c = match o.start? c.world.signals with
      | none => (.error (.panic "overflow when adding duration to instant".toList), c)
      | some i => match i.fault? c.world.signals.tick with
        | some f => (.error (.fault f), c.looked (some f))
        | none => rest i (s.catalog.merge c.world.files q.references) (c.looked none) := by
  unfold opening
  rw [Step.start_bind]
  cases o.start? c.world.signals with
  | none => rfl
  | some i =>
    dsimp only
    rw [Step.files_bind, Step.check_bind]

/-- What is left of a request after its first look at the interrupt. -/
def proceed (s : Service) (q : Request) (i : Interrupt) (references : ReferenceSet) :
    Step (Option Instance) := do
  let staged ← Step.act (s.stager.stage q.unitName q.source s.invoker.backend.writesOutput)
  Step.mark (.staged staged)
  Step.discarding s.stager staged do
    let run ← s.invoker.invoke staged references i
    s.conclude q i run

theorem run_eq_opening (s : Service) (q : Request) (o : Options) :
    s.run q o = s.opening q o (s.proceed q) := rfl

theorem compile_congr (s : Service) (x : Session) (w : World) (q q' : Request) (o : Options)
    (hsource : q.source = q'.source) (hname : q.unitName = q'.unitName)
    (hmerge : s.catalog.merge w.files q.references = s.catalog.merge w.files q'.references) :
    s.compile x w q o = s.compile x w q' o := by
  have hproceed : s.proceed q = s.proceed q' := by
    unfold proceed conclude
    rw [hsource, hname]
  have hrun : s.run q o ⟨w, x.gate, []⟩ = s.run q' o ⟨w, x.gate, []⟩ := by
    simp only [run_eq_opening, opening_apply, hproceed, hmerge]
  unfold compile
  rw [hrun]

end Service

end Scriptorium
