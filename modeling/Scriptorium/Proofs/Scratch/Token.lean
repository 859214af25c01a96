import Scriptorium.Proofs.Scratch.Output

/-! Tokens in file names. A token is a word of 32 hexadecimal digits, so neither the dash before it
nor the dot behind it can be taken for a part of it, and two files of different tokens never bear the
same name, whatever units they belong to. -/

namespace Scriptorium.Scratch

open Text

variable {c : Char} {token token' unitName unitName' a b : Text}

theorem notMem_of_isAlphanum (h : ∀ x ∈ token, x.isAlphanum = true) (hc : c.isAlphanum = false) :
    c ∉ token := by
  intro hmem
  simp [h c hmem] at hc

/-- A fresh name as the world supplies it. -/
structure IsToken (token : Text) : Prop where
  length : token.length = 32
  hexadecimal : token ⊆ "0123456789abcdef".toList

namespace IsToken

theorem isAlphanum (h : IsToken token) : ∀ c ∈ token, c.isAlphanum = true := by
  intro c hc
  have hdigits : "0123456789abcdef".toList.all Char.isAlphanum = true := rfl
  exact List.all_eq_true.mp hdigits c (h.hexadecimal hc)

theorem notMem (h : IsToken token) (hc : c.isAlphanum = false) : c ∉ token :=
  notMem_of_isAlphanum h.isAlphanum hc

end IsToken

/-- The word behind the last dash of a file name can be read off, as long as no dash follows it. -/
theorem word_of_fileName (h : ∀ c ∈ token, c.isAlphanum = true)
    (h' : ∀ c ∈ token', c.isAlphanum = true) (ha : '-' ∉ a) (hb : '-' ∉ b)
    (heq : fileName (stem unitName token) a = fileName (stem unitName' token') b) :
    token = token' := by
  have hdash {t ending : Text} (ht : ∀ c ∈ t, c.isAlphanum = true) (hending : '-' ∉ ending) :
      '-' ∉ t ++ '.' :: ending := by
    simp [notMem_of_isAlphanum ht (c := '-') (by decide), hending]
  simp only [fileName, stem, List.append_assoc, List.cons_append] at heq
  -- the last dash stands in front of the word, and the first dot after it behind
  have hlast := congrArg (cutLast? '-') heq
  rw [cutLast?_append (hdash h ha), cutLast?_append (hdash h' hb)] at hlast
  obtain ⟨-, hbehind⟩ := Prod.mk.inj (Option.some.inj hlast)
  exact (append_cons_inj_of_first hbehind (notMem_of_isAlphanum h (by decide))
    (notMem_of_isAlphanum h' (by decide))).1

/-- The names of two files with different tokens differ, as long as no dash follows the token. -/
theorem token_of_fileName (h : IsToken token) (h' : IsToken token') (ha : '-' ∉ a) (hb : '-' ∉ b)
    (heq : fileName (stem unitName token) a = fileName (stem unitName' token') b) :
    token = token' :=
  word_of_fileName h.isAlphanum h'.isAlphanum ha hb heq

end Scriptorium.Scratch
