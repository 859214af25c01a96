import Scriptorium.Proofs.Text.Utf8
import Scriptorium.Toolchain.Backend

/-! How paths are printed among the arguments of a compiler. A path that is text is printed as it is.
What is printed of any other path is no name for it: it names another path, which is text, and which
is printed in the same way. -/

namespace Scriptorium

namespace Path

variable {p q : Raw}

/-- The path is text. -/
def IsText (p : Raw) : Prop := ∃ s, p = raw s

/-- The path is absolute. -/
def startsAtRoot (p : Raw) : Bool := p.head? == some 0x2f

theorem display_raw (s : Text) : display (raw s) = s := Text.decode_encode s

theorem raw_display_iff : raw (display p) = p ↔ IsText p := by
  constructor
  · exact fun h => ⟨_, h.symm⟩
  · rintro ⟨s, rfl⟩
    rw [display_raw]

theorem IsText.display_inj (hp : IsText p) (hq : IsText q) : display p = display q ↔ p = q := by
  refine ⟨fun h => ?_, congrArg display⟩
  rw [← raw_display_iff.mpr hp, ← raw_display_iff.mpr hq, h]

theorem isAbsolute_display (h : startsAtRoot p = true) : isAbsolute (display p) = true := by
  obtain ⟨rest, rfl⟩ : ∃ rest, p = 0x2f :: rest :=
    List.head?_eq_some_iff.mp (by simpa [startsAtRoot] using h)
  have hslash : display (0x2f :: rest) = '/' :: display rest :=
    Text.decode_encode_append ['/'] rest
  rw [hslash]
  rfl

theorem startsAtRoot_raw (s : Text) : startsAtRoot (raw s) = isAbsolute s := by
  rw [Bool.eq_iff_iff]
  constructor
  · intro h
    simpa only [display_raw] using isAbsolute_display h
  · intro h
    obtain ⟨rest, rfl⟩ : ∃ rest, s = '/' :: rest :=
      List.head?_eq_some_iff.mp (by simpa [isAbsolute] using h)
    rfl

/-- A file in a directory whose path does not end in a slash. -/
def below (dir : Raw) (name : Text) : Raw := dir ++ 0x2f :: raw name

theorem display_below (dir : Raw) (name : Text) :
    display (below dir name) = display dir ++ '/' :: name :=
  Text.decode_append_cons_encode dir (by decide) name

theorem isText_below_iff {dir : Raw} {name : Text} : IsText (below dir name) ↔ IsText dir := by
  have hslash (s : Text) : raw (s ++ '/' :: name) = below (raw s) name := Text.encode_append s _
  rw [← raw_display_iff, display_below, hslash, below, below, List.append_left_inj,
    raw_display_iff]

/-- What is printed of a path that is not text is the name of another path. -/
theorem exists_isText_of_not_isText (h : ¬IsText p) (hroot : startsAtRoot p = true) :
    ∃ q, q ≠ p ∧ IsText q ∧ startsAtRoot q = true ∧ display q = display p := by
  refine ⟨raw (display p), mt raw_display_iff.mp h, ⟨_, rfl⟩, ?_, display_raw _⟩
  rw [startsAtRoot_raw, isAbsolute_display hroot]

end Path

namespace Job

theorem arguments_ofStaged (profile : Text) (writesOutput : Bool) (f : Staged)
    (references : ReferenceSet) :
    (ofStaged profile writesOutput f references).arguments =
      flags ++ ["--targetprofile:".toList ++ profile]
        ++ (if writesOutput then f.output else none).toList.map ("-o:".toList ++ ·)
        ++ [f.source] ++ references.entries.map ("-r:".toList ++ ·) := by
  have hprinted (o : Option Text) : (o.map Path.raw).toList.map Path.display = o.toList := by
    cases o with
    | none => rfl
    | some path => exact congrArg (fun p => [p]) (Path.display_raw path)
  simp only [ofStaged, argumentList, hprinted, Path.display_raw]

end Job

end Scriptorium
