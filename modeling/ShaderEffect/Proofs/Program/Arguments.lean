/-
**What the arguments of a call are.**

Splitting the arguments of a call goes once through its text and counts the parentheses that are
open.  What comes out of it can be said without counting: in each argument parentheses are balanced
and no comma stands outside of them, and with commas between them the arguments are the text up to
the parenthesis that closes the call.

Main definitions:

* `ShaderEffect.Text.Balanced`, `ShaderEffect.Text.IsArgument` — texts with balanced parentheses,
  and those among them that no comma parts;
* `ShaderEffect.Arguments.Splits` — **the arguments of a call**.

Main results:

* `ShaderEffect.splitArguments_eq_some_iff` — **what splitting finds is the arguments**;
* `ShaderEffect.Arguments.exists_splits_iff` — a call has arguments if its parenthesis is closed.
-/

import ShaderEffect.Program.Arguments

set_option autoImplicit false

namespace ShaderEffect

/-! ### Balanced parentheses -/

namespace Text

/-- Every parenthesis in the text is closed in it, and none is closed that was not opened in it. -/
inductive Balanced : List Char → Prop where
  | nil : Balanced []
  | cons {c : Char} {cs : List Char} (hopen : c ≠ '(') (hclose : c ≠ ')') (h : Balanced cs) :
      Balanced (c :: cs)
  | parens {inner rest : List Char} (hinner : Balanced inner) (hrest : Balanced rest) :
      Balanced ('(' :: inner ++ ')' :: rest)

/-- Parentheses are balanced in the text, and no comma stands outside of them. -/
inductive IsArgument : List Char → Prop where
  | nil : IsArgument []
  | cons {c : Char} {cs : List Char} (hopen : c ≠ '(') (hclose : c ≠ ')') (hcomma : c ≠ ',')
      (h : IsArgument cs) : IsArgument (c :: cs)
  | parens {inner rest : List Char} (hinner : Balanced inner) (hrest : IsArgument rest) :
      IsArgument ('(' :: inner ++ ')' :: rest)

theorem Balanced.append {cs ds : List Char} (hcs : Balanced cs) (hds : Balanced ds) :
    Balanced (cs ++ ds) := by
  induction hcs with
  | nil => exact hds
  | cons hopen hclose _ ih => exact .cons hopen hclose ih
  | parens hinner _ _ ih =>
    rw [List.append_assoc, List.cons_append]
    exact .parens hinner ih

theorem IsArgument.balanced {cs : List Char} (h : IsArgument cs) : Balanced cs := by
  induction h with
  | nil => exact .nil
  | cons hopen hclose _ _ ih => exact .cons hopen hclose ih
  | parens hinner _ ih => exact .parens hinner ih

/-- Arguments with commas in front of them. -/
theorem balanced_flatMap {ts : List (List Char)} (h : ∀ t ∈ ts, IsArgument t) :
    Balanced (ts.flatMap (',' :: ·)) := by
  induction ts with
  | nil => exact .nil
  | cons t ts ih =>
    obtain ⟨ht, hts⟩ := List.forall_mem_cons.1 h
    exact .cons (by decide) (by decide) (ht.balanced.append (ih hts))

/-- An argument inside so many parentheses that are opened before it. -/
inductive IsArgumentWithin : Nat → List Char → Prop where
  | zero {cs : List Char} (h : IsArgument cs) : IsArgumentWithin 0 cs
  | succ {depth : Nat} {inner rest : List Char} (hinner : Balanced inner)
      (hrest : IsArgumentWithin depth rest) :
      IsArgumentWithin (depth + 1) (inner ++ ')' :: rest)

namespace IsArgumentWithin

variable {depth : Nat} {cs : List Char}

/-- A parenthesis in front is closed by the first one that is closed too often. -/
theorem parens (h : IsArgumentWithin (depth + 1) cs) : IsArgumentWithin depth ('(' :: cs) := by
  obtain _ | @⟨_, inner, rest, hinner, hrest⟩ := h
  cases hrest with
  | zero hrest => exact .zero (.parens hinner hrest)
  | @succ depth middle rest hmiddle hrest =>
    have h := IsArgumentWithin.succ (Balanced.parens hinner hmiddle) hrest
    simpa only [List.cons_append, List.append_assoc] using h

/-- A character in front that is no parenthesis, nor a comma outside of parentheses. -/
theorem cons {c : Char} (hopen : c ≠ '(') (hclose : c ≠ ')') (hcomma : ¬(c = ',' ∧ depth = 0))
    (h : IsArgumentWithin depth cs) : IsArgumentWithin depth (c :: cs) := by
  cases h with
  | zero h => exact .zero (.cons hopen hclose (fun hc => hcomma ⟨hc, rfl⟩) h)
  | succ hinner hrest => exact .succ (.cons hopen hclose hinner) hrest

end IsArgumentWithin

end Text

/-! ### Arguments -/

namespace Arguments

/-- The text after the opening parenthesis of a call has these arguments. -/
structure Splits (a : Arguments) (cs : List Char) : Prop where
  /-- With commas between them the arguments are the text up to the closing parenthesis. -/
  text : a.text = cs
  first : Text.IsArgument a.first
  others : ∀ t ∈ a.others, Text.IsArgument t

/-- Adds a text in front of the first argument. -/
def pushAll (cs : List Char) (a : Arguments) : Arguments := { a with first := cs ++ a.first }

theorem push_pushAll (c : Char) (cs : List Char) (a : Arguments) :
    (a.pushAll cs).push c = a.pushAll (c :: cs) := rfl

theorem pushAll_pushAll (cs ds : List Char) (a : Arguments) :
    (a.pushAll ds).pushAll cs = a.pushAll (cs ++ ds) := by
  simp [pushAll]

end Arguments

/-! ### Splitting, step by step -/

section Splitting

variable {depth : Nat} {c : Char} {cs rest : List Char} {a : Arguments}

theorem splitArguments_open :
    splitArguments depth ('(' :: cs) = (splitArguments (depth + 1) cs).map (.push '(') := by
  cases depth <;> rw [splitArguments, if_pos rfl]

theorem splitArguments_close :
    splitArguments (depth + 1) (')' :: cs) = (splitArguments depth cs).map (.push ')') := by
  rw [splitArguments, if_neg (by decide), if_pos rfl]

theorem splitArguments_end : splitArguments 0 (')' :: cs) = some ⟨[], [], cs⟩ := by
  rw [splitArguments, if_neg (by decide), if_pos rfl]

theorem splitArguments_comma :
    splitArguments 0 (',' :: cs) = (splitArguments 0 cs).map .part := by
  rw [splitArguments, if_neg (by decide), if_neg (by decide), if_pos ⟨rfl, rfl⟩]

theorem splitArguments_cons (hopen : c ≠ '(') (hclose : c ≠ ')')
    (hcomma : ¬(c = ',' ∧ depth = 0)) :
    splitArguments depth (c :: cs) = (splitArguments depth cs).map (.push c) := by
  cases depth <;> rw [splitArguments, if_neg hopen, if_neg hclose, if_neg hcomma]

/-- Inside parentheses a balanced text belongs to the argument. -/
theorem splitArguments_balanced (h : Text.Balanced cs) (depth : Nat) (rest : List Char) :
    splitArguments (depth + 1) (cs ++ rest) =
      (splitArguments (depth + 1) rest).map (.pushAll cs) := by
  induction h generalizing depth rest with
  | nil => exact (Option.map_id_apply ..).symm
  | cons hopen hclose _ ih =>
    rw [List.cons_append, splitArguments_cons hopen hclose (by simp), ih, Option.map_map]
    rfl
  | @parens inner cs _ _ ihinner ih =>
    rw [List.append_assoc, List.cons_append, splitArguments_open, ihinner, List.cons_append,
      splitArguments_close, ih]
    simp only [Option.map_map, Function.comp_def, Arguments.push_pushAll,
      Arguments.pushAll_pushAll, List.cons_append]

/-- An argument is found whole, if nothing more belongs to it. -/
theorem splitArguments_isArgument (h : Text.IsArgument cs) (rest : List Char) :
    splitArguments 0 (cs ++ rest) = (splitArguments 0 rest).map (.pushAll cs) := by
  induction h with
  | nil => exact (Option.map_id_apply ..).symm
  | cons hopen hclose hcomma _ ih =>
    rw [List.cons_append, splitArguments_cons hopen hclose fun h => hcomma h.1, ih, Option.map_map]
    rfl
  | @parens inner cs hinner _ ih =>
    rw [List.append_assoc, List.cons_append, splitArguments_open,
      splitArguments_balanced hinner 0, List.cons_append, splitArguments_close, ih]
    simp only [Option.map_map, Function.comp_def, Arguments.push_pushAll,
      Arguments.pushAll_pushAll, List.cons_append]

/-- Arguments are found where they stand. -/
theorem splitArguments_of_isArgument {first : List Char} {others : List (List Char)}
    (hfirst : Text.IsArgument first) (hothers : ∀ t ∈ others, Text.IsArgument t)
    (after : List Char) :
    splitArguments 0 (Arguments.text ⟨first, others, after⟩) = some ⟨first, others, after⟩ := by
  induction others generalizing first with
  | nil =>
    simp only [Arguments.text, List.flatMap_nil, List.append_nil]
    rw [splitArguments_isArgument hfirst, splitArguments_end, Option.map_some, Arguments.pushAll,
      List.append_nil]
  | cons t ts ih =>
    obtain ⟨ht, hts⟩ := List.forall_mem_cons.1 hothers
    have hrest := ih ht hts
    simp only [Arguments.text, List.flatMap_cons, List.append_assoc, List.cons_append] at hrest ⊢
    rw [splitArguments_isArgument hfirst, splitArguments_comma, hrest, Option.map_some,
      Option.map_some, Arguments.part, Arguments.pushAll, List.append_nil]

/-- What splitting finds are arguments, inside as many parentheses as were open. -/
theorem isArgument_of_splitArguments (h : splitArguments depth cs = some a) :
    Text.IsArgumentWithin depth a.first ∧ ∀ t ∈ a.others, Text.IsArgument t := by
  induction cs generalizing depth a with
  | nil => cases h
  | cons c cs ih =>
    unfold splitArguments at h
    split at h
    case isTrue hopen =>
      obtain ⟨b, hb, rfl⟩ := Option.map_eq_some_iff.1 h
      obtain ⟨hfirst, hothers⟩ := ih hb
      exact ⟨hopen ▸ hfirst.parens, hothers⟩
    case isFalse hopen =>
      split at h
      case isTrue hclose =>
        cases depth with
        | zero =>
          cases h
          exact ⟨.zero .nil, by simp⟩
        | succ depth =>
          obtain ⟨b, hb, rfl⟩ := Option.map_eq_some_iff.1 h
          obtain ⟨hfirst, hothers⟩ := ih hb
          exact ⟨hclose ▸ .succ .nil hfirst, hothers⟩
      case isFalse hclose =>
        split at h
        case isTrue hcomma =>
          obtain ⟨b, hb, rfl⟩ := Option.map_eq_some_iff.1 h
          obtain ⟨-, rfl⟩ := hcomma
          obtain ⟨hfirst, hothers⟩ := ih hb
          obtain ⟨hfirst⟩ := hfirst
          exact ⟨.zero .nil, List.forall_mem_cons.2 ⟨hfirst, hothers⟩⟩
        case isFalse hcomma =>
          obtain ⟨b, hb, rfl⟩ := Option.map_eq_some_iff.1 h
          obtain ⟨hfirst, hothers⟩ := ih hb
          exact ⟨hfirst.cons hopen hclose hcomma, hothers⟩

/-- **What splitting finds is the arguments** of the call. -/
theorem splitArguments_eq_some_iff : splitArguments 0 cs = some a ↔ a.Splits cs := by
  constructor
  · intro h
    obtain ⟨hfirst, hothers⟩ := isArgument_of_splitArguments h
    obtain ⟨hfirst⟩ := hfirst
    exact ⟨text_of_splitArguments h, hfirst, hothers⟩
  · rintro ⟨rfl, hfirst, hothers⟩
    exact splitArguments_of_isArgument hfirst hothers a.after

end Splitting

namespace Arguments

variable {a b : Arguments} {cs : List Char}

/-- A call has its arguments in one way only. -/
theorem Splits.unique (ha : a.Splits cs) (hb : b.Splits cs) : a = b :=
  Option.some.inj ((splitArguments_eq_some_iff.2 ha).symm.trans (splitArguments_eq_some_iff.2 hb))

/-- What follows a call is shorter than its text. -/
theorem Splits.length_after_lt (h : a.Splits cs) : a.after.length < cs.length := by
  rw [← length_of_splitArguments (splitArguments_eq_some_iff.2 h)]
  omega

theorem length_le_argumentsLength {t : List Char} {ts : List (List Char)} (h : t ∈ ts) :
    t.length ≤ argumentsLength ts := by
  induction h with
  | head ts =>
    rw [argumentsLength]
    omega
  | tail t' _ ih =>
    rw [argumentsLength]
    omega

/-- The arguments of a call besides the first are shorter than its text. -/
theorem Splits.length_lt_of_mem {t : List Char} (h : a.Splits cs) (ht : t ∈ a.others) :
    t.length < cs.length := by
  have hargument := length_le_argumentsLength ht
  rw [← length_of_splitArguments (splitArguments_eq_some_iff.2 h)]
  omega

/-- A call has arguments if its parenthesis is closed. -/
theorem exists_splits_iff :
    (∃ a : Arguments, a.Splits cs) ↔
      ∃ inner after, Text.Balanced inner ∧ cs = inner ++ ')' :: after := by
  constructor
  · rintro ⟨a, rfl, hfirst, hothers⟩
    exact ⟨a.first ++ a.others.flatMap (',' :: ·), a.after,
      hfirst.balanced.append (Text.balanced_flatMap hothers), rfl⟩
  · rintro ⟨inner, after, hinner, rfl⟩
    induction hinner with
    | nil => exact ⟨⟨[], [], after⟩, rfl, .nil, by simp⟩
    | @cons c cs hopen hclose _ ih =>
      obtain ⟨a, htext, hfirst, hothers⟩ := ih
      by_cases hcomma : c = ','
      · subst hcomma
        exact ⟨a.part, by rw [text_part, htext]; rfl, .nil,
          List.forall_mem_cons.2 ⟨hfirst, hothers⟩⟩
      · exact ⟨a.push c, by rw [text_push, htext]; rfl, .cons hopen hclose hcomma hfirst, hothers⟩
    | @parens inner rest hinner _ _ ih =>
      obtain ⟨a, htext, hfirst, hothers⟩ := ih
      refine ⟨a.pushAll ('(' :: inner ++ [')']), ?_, ?_, hothers⟩
      · simp only [pushAll, text, List.append_assoc, List.cons_append, List.nil_append] at htext ⊢
        rw [htext]
      · have h := Text.IsArgument.parens hinner hfirst
        simpa only [pushAll, List.append_assoc, List.cons_append, List.nil_append] using h

end Arguments

end ShaderEffect
