import Scriptorium.Proofs.Reference.Batches
import Scriptorium.Proofs.Text.Case

/-! References that differ in case only. They are one reference to a set and to a request if their
lower cases agree, and these depend on where words end: a capital sigma at the end of a word is
lowered like the final small one, and the small one that is not final stays as it is. So a reference
and a variant of it are kept beside each other exactly if one has a capital sigma at the end of a
word and the other has the small one there. -/

namespace Scriptorium

variable {s t : Text}

namespace Request

theorem withReferences_pair_iff (q : Request) (s t : Text) :
    q.withReferences [s, t] = q.withReferences [s] ↔
      Text.lower t ∈ q.references.map Text.lower ∨ Text.lower s = Text.lower t := by
  have hsplit : q.withReferences [s, t] = q.withReferences [s] ↔
      fresh ([s].map Text.lower ++ q.references.map Text.lower) [t] = [] := by
    simp only [withReferences, ← List.singleton_append (l := [t]), fresh_append]
    simp
  rw [hsplit, fresh_singleton_eq_nil_iff, List.mem_append, List.map_singleton, List.mem_singleton,
    or_comm, eq_comm]

end Request

/-- Of two references that differ in case only, a set that has taken the first refuses and contains
the second, and a request given both keeps what it keeps of the first alone, exactly if the same
words end in a capital sigma in both, unless it had the second already. -/
theorem variant_refused_iff (h : Text.SameButCase s t) (set : ReferenceSet) (q : Request) :
    let same := ∀ i, Text.FinalSigma s i ↔ Text.FinalSigma t i
    (((set.insert s).add t).1 = false ↔ set.contains t = true ∨ same) ∧
      ((set.insert s).contains t = true ↔ set.contains t = true ∨ same) ∧
      (q.withReferences [s, t] = q.withReferences [s] ↔
        Text.lower t ∈ q.references.map Text.lower ∨ same) := by
  intro same
  have hcontains : (set.insert s).contains t = true ↔ set.contains t = true ∨ same := by
    rw [ReferenceSet.contains_insert, Bool.or_eq_true, beq_iff_eq, Text.lower_eq_iff h]
  refine ⟨?_, hcontains, ?_⟩
  · rw [ReferenceSet.add_eq, Bool.not_eq_false', hcontains]
  · rw [Request.withReferences_pair_iff, Text.lower_eq_iff h]

/-- A word in capitals and the same word in small letters, both kept. -/
theorem variants_kept_apart :
    let s := "ΦΩΣ".toList
    let t := "φωσ".toList
    Text.SameButCase s t ∧ ((ReferenceSet.empty.insert s).add t).1 = true ∧
      (ReferenceSet.empty.insert s).contains t = false ∧
      (Request.withReferences ⟨[], [], []⟩ [s, t]).references = [s, t] := by
  intro s t
  have hcase : Text.SameButCase s t := by decide +kernel
  have hdiffer : ¬∀ i, Text.FinalSigma s i ↔ Text.FinalSigma t i := fun h =>
    absurd (h 2) (by decide +kernel)
  obtain ⟨hadd, hcontains, hrequest⟩ := variant_refused_iff hcase .empty ⟨[], [], []⟩
  simp only [ReferenceSet.contains_empty, Bool.false_eq_true, hdiffer, or_self, iff_false,
    Bool.not_eq_false, Bool.not_eq_true] at hadd hcontains
  refine ⟨hcase, hadd, hcontains, ?_⟩
  decide +kernel

end Scriptorium
