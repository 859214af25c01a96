import Mathlib.Data.List.Forall2
import Scriptorium.Proofs.Text.Cut
import Scriptorium.Proofs.Text.Trim

/-! Texts that differ in a name only. Where the first text has the one name, the second has the
other; whoever puts texts together and trims them, and does not look into names, goes on with texts
that differ in the name only. -/

namespace Scriptorium.Text

variable {R : Text → Text → Prop} {m n a b a' b' : Text} {ls ls' : List Text}

/-- A relation of texts that is kept by putting together and by trimming. -/
structure Respected (R : Text → Text → Prop) : Prop where
  refl : ∀ a, R a a
  append : ∀ {a b a' b'}, R a b → R a' b' → R (a ++ a') (b ++ b')
  trim : ∀ {a b}, R a b → R (trim a) (trim b)

theorem respected_eq : Respected Eq where
  refl := Eq.refl
  append h h' := by rw [h, h']
  trim h := by rw [h]

theorem Respected.flatMap (hR : Respected R) (h : List.Forall₂ R ls ls') (s : Text) :
    R (ls.flatMap (s ++ ·)) (ls'.flatMap (s ++ ·)) := by
  induction h with
  | nil => exact hR.refl []
  | cons hl _ ih => exact hR.append (hR.append (hR.refl s) hl) ih

theorem Respected.unlines (hR : Respected R) (h : List.Forall₂ R ls ls') :
    R (unlines ls) (unlines ls') := by
  cases h with
  | nil => exact hR.refl _
  | cons hl hls =>
    rw [unlines_cons, unlines_cons]
    exact hR.append hl (hR.flatMap hls ['\n'])

/-- Texts with `m` in the one where `n` is in the other. -/
inductive Alike (m n : Text) : Text → Text → Prop
  | nil : Alike m n [] []
  | cons {a b : Text} (c : Char) (h : Alike m n a b) : Alike m n (c :: a) (c :: b)
  | name {a b : Text} (h : Alike m n a b) : Alike m n (m ++ a) (n ++ b)

namespace Alike

theorem refl (m n a : Text) : Alike m n a a := by
  induction a with
  | nil => exact .nil
  | cons c a ih => exact .cons c ih

theorem append (h : Alike m n a b) (h' : Alike m n a' b') : Alike m n (a ++ a') (b ++ b') := by
  induction h with
  | nil => exact h'
  | cons c _ ih => exact .cons c ih
  | name _ ih =>
    rw [List.append_assoc, List.append_assoc]
    exact .name ih

theorem reverse (h : Alike m n a b) : Alike m.reverse n.reverse a.reverse b.reverse := by
  induction h with
  | nil => exact .nil
  | cons c _ ih =>
    rw [List.reverse_cons, List.reverse_cons]
    exact ih.append (.cons c .nil)
  | name _ ih =>
    have hname : Alike m.reverse n.reverse (m.reverse ++ []) (n.reverse ++ []) := .name .nil
    rw [List.append_nil, List.append_nil] at hname
    rw [List.reverse_append, List.reverse_append]
    exact ih.append hname

end Alike

/-- A name that trimming does not touch. -/
structure Solid (m : Text) : Prop where
  ne_nil : m ≠ []
  not_blank : ∀ c ∈ m, isBlank c = false

namespace Solid

theorem reverse (h : Solid m) : Solid m.reverse :=
  ⟨by simpa using h.ne_nil, fun c hc => h.not_blank c (List.mem_reverse.mp hc)⟩

theorem trimStart_append (h : Solid m) (a : Text) : trimStart (m ++ a) = m ++ a := by
  obtain ⟨c, m, rfl⟩ := List.exists_cons_of_ne_nil h.ne_nil
  exact trimStart_cons_of_not (h.not_blank c List.mem_cons_self)

end Solid

theorem Alike.trimStart (hm : Solid m) (hn : Solid n) (h : Alike m n a b) :
    Alike m n (trimStart a) (trimStart b) := by
  induction h with
  | nil => exact .nil
  | cons c h ih =>
    cases hc : isBlank c with
    | true =>
      rw [trimStart_cons_of_blank hc, trimStart_cons_of_blank hc]
      exact ih
    | false =>
      rw [trimStart_cons_of_not hc, trimStart_cons_of_not hc]
      exact .cons c h
  | name h =>
    rw [hm.trimStart_append, hn.trimStart_append]
    exact .name h

theorem respected_alike (hm : Solid m) (hn : Solid n) : Respected (Alike m n) where
  refl := .refl m n
  append := .append
  trim h := by
    have hback := ((h.trimStart hm hn).reverse.trimStart hm.reverse hn.reverse).reverse
    rwa [List.reverse_reverse, List.reverse_reverse] at hback

end Scriptorium.Text
