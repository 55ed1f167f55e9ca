/-
**What stands at the front of a text.**

Main definitions:

* `ShaderEffect.Text.after?` — what follows a fixed word at the front of a text.

Main results:

* `ShaderEffect.Text.after?_eq_some_iff` — the word and what follows it are the text.
-/

set_option autoImplicit false

namespace ShaderEffect.Text

/-- What follows `word`, if the text starts with it. -/
def after? : (word cs : List Char) → Option (List Char)
  | [], cs => some cs
  | _ :: _, [] => none
  | w :: ws, c :: cs => if w = c then after? ws cs else none

/-- The word and what follows it are the text. -/
theorem after?_eq_some_iff {word cs rest : List Char} :
    after? word cs = some rest ↔ cs = word ++ rest := by
  induction word generalizing cs with
  | nil => simp [after?]
  | cons w ws ih =>
    cases cs with
    | nil => simp [after?]
    | cons c cs =>
      unfold after?
      split
      · rename_i h
        subst h
        simp [ih]
      · rename_i h
        have : c ≠ w := fun e => h e.symm
        simp [this]

theorem length_after?_le {word cs rest : List Char} (h : after? word cs = some rest) :
    rest.length ≤ cs.length := by
  rw [after?_eq_some_iff.1 h, List.length_append]
  omega

end ShaderEffect.Text
