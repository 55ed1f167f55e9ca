/-
**The arguments of a call.**

Commas part the arguments of a call, but for those inside further parentheses.

Main definitions:

* `ShaderEffect.Arguments` — the arguments of a call, of which there is at least one, and what
  follows the parenthesis that closes it;
* `ShaderEffect.splitArguments` — the arguments of a call after its opening parenthesis.

Main results:

* `ShaderEffect.text_of_splitArguments` — with commas between them the arguments are the text up to
  the closing parenthesis.
-/

set_option autoImplicit false

namespace ShaderEffect

/-- The arguments of a call, and what follows it. -/
structure Arguments where
  /-- The first argument. -/
  first : List Char
  /-- The other arguments. -/
  others : List (List Char)
  /-- What follows the closing parenthesis. -/
  after : List Char
  deriving DecidableEq

namespace Arguments

/-- Adds a character in front of the first argument. -/
def push (c : Char) (a : Arguments) : Arguments := { a with first := c :: a.first }

/-- Adds an empty argument in front of the first one. -/
def part (a : Arguments) : Arguments := ⟨[], a.first :: a.others, a.after⟩

/-- The text that the arguments stand for, with the closing parenthesis and what follows. -/
def text (a : Arguments) : List Char := a.first ++ a.others.flatMap (',' :: ·) ++ ')' :: a.after

@[simp] theorem text_push (c : Char) (a : Arguments) : (a.push c).text = c :: a.text := rfl

@[simp] theorem text_part (a : Arguments) : a.part.text = ',' :: a.text := by
  simp [part, text]

end Arguments

/-- The arguments of a call after its opening parenthesis, inside `depth` further ones. -/
def splitArguments : (depth : Nat) → List Char → Option Arguments
  | _, [] => none
  | depth, c :: cs =>
    if c = '(' then (splitArguments (depth + 1) cs).map (Arguments.push c)
    else if c = ')' then
      match depth with
      | 0 => some ⟨[], [], cs⟩
      | n + 1 => (splitArguments n cs).map (Arguments.push c)
    else if c = ',' ∧ depth = 0 then (splitArguments depth cs).map Arguments.part
    else (splitArguments depth cs).map (Arguments.push c)

/-- With commas between them the arguments are the text up to the closing parenthesis. -/
theorem text_of_splitArguments {cs : List Char} :
    ∀ {depth : Nat} {a : Arguments}, splitArguments depth cs = some a → a.text = cs := by
  induction cs with
  | nil => intro depth a h; simp [splitArguments] at h
  | cons c cs ih =>
    intro depth a h
    unfold splitArguments at h
    split at h
    · obtain ⟨b, hb, rfl⟩ := Option.map_eq_some_iff.1 h
      rw [Arguments.text_push, ih hb]
    · split at h
      · rename_i hc
        subst hc
        cases depth with
        | zero =>
          simp only [Option.some.injEq] at h
          subst h
          rfl
        | succ n =>
          obtain ⟨b, hb, rfl⟩ := Option.map_eq_some_iff.1 h
          rw [Arguments.text_push, ih hb]
      · split at h
        · rename_i hc
          obtain ⟨b, hb, rfl⟩ := Option.map_eq_some_iff.1 h
          rw [Arguments.text_part, ih hb, hc.1]
        · obtain ⟨b, hb, rfl⟩ := Option.map_eq_some_iff.1 h
          rw [Arguments.text_push, ih hb]

/-- How much text there is in arguments behind the first one, with their commas. -/
def argumentsLength : List (List Char) → Nat
  | [] => 0
  | a :: as => a.length + 1 + argumentsLength as

theorem length_flatMap_comma (as : List (List Char)) :
    (as.flatMap (',' :: ·)).length = argumentsLength as := by
  induction as with
  | nil => rfl
  | cons a as ih =>
    simp only [List.flatMap_cons, List.length_append, List.length_cons, ih, argumentsLength]

/-- The other arguments and what follows a call are parts of its text. -/
theorem length_of_splitArguments {depth : Nat} {cs : List Char} {a : Arguments}
    (h : splitArguments depth cs = some a) :
    a.first.length + argumentsLength a.others + a.after.length + 1 = cs.length := by
  rw [← text_of_splitArguments h, Arguments.text, List.length_append, List.length_append,
    List.length_cons, length_flatMap_comma]
  omega

end ShaderEffect
