/-
**How deep a place is in parentheses.**

Splitting the arguments of a call counts the parentheses that are open.  The count is a fact about
texts: it is how many more parentheses a text opens than it closes.  Where a parenthesis is opened
the count goes up to one, and the parenthesis is closed where it first comes back to zero.  Both
parts of what splitting does follow the count: it comes to an end if the count does so, and between
the commas that it cuts at the count never falls below zero.

Main definitions:

* `ShaderEffect.Text.depth` — how many more parentheses are opened than closed;
* `ShaderEffect.Text.depthFrom` — the same from one position of a text to another;
* `ShaderEffect.Text.Closes` — **the parenthesis that closes another one**.

Main results:

* `ShaderEffect.Text.Balanced.depth_eq_zero`, `ShaderEffect.Text.Balanced.depth_nonneg`,
  `ShaderEffect.Text.IsArgument.depth_pos` — how deep places in an argument are;
* `ShaderEffect.Text.Closes.isLeast` — a parenthesis is closed where the count is zero first;
* `ShaderEffect.splitArguments_isSome_iff` — splitting comes to an end if the count falls by one
  more than what was open;
* `ShaderEffect.Arguments.Splits.closes` — **the arguments end where the parenthesis is closed**.
-/

import Mathlib.Order.Bounds.Basic
import ShaderEffect.Proofs.Program.Arguments

set_option autoImplicit false

namespace ShaderEffect

namespace Text

/-! ### Depth -/

/-- How many more parentheses a text opens than it closes. -/
def depth (cs : List Char) : Int := cs.count '(' - cs.count ')'

section

variable {c : Char} {cs ds p q : List Char}

@[simp] theorem depth_nil : depth [] = 0 := rfl

@[simp] theorem depth_append : depth (cs ++ ds) = depth cs + depth ds := by
  simp only [depth, List.count_append]
  omega

@[simp] theorem depth_open : depth ('(' :: cs) = depth cs + 1 := by
  simp only [depth, List.count_cons_self, List.count_cons_of_ne (show '(' ≠ ')' by decide)]
  omega

@[simp] theorem depth_close : depth (')' :: cs) = depth cs - 1 := by
  simp only [depth, List.count_cons_self, List.count_cons_of_ne (show ')' ≠ '(' by decide)]
  omega

theorem depth_cons_of_ne (hopen : c ≠ '(') (hclose : c ≠ ')') : depth (c :: cs) = depth cs := by
  rw [depth, List.count_cons_of_ne hopen, List.count_cons_of_ne hclose, depth]

theorem Balanced.depth_eq_zero (h : Balanced cs) : depth cs = 0 := by
  induction h with
  | nil => rfl
  | cons hopen hclose _ ih => rw [depth_cons_of_ne hopen hclose, ih]
  | parens _ _ ihinner ih =>
    rw [depth_append, depth_open, depth_close, ihinner, ih]
    rfl

/-- **No front of a balanced text closes more parentheses than it opens.** -/
theorem Balanced.depth_nonneg (h : Balanced cs) (hp : p <+: cs) : 0 ≤ depth p := by
  obtain ⟨q, hp⟩ := hp
  induction h generalizing p q with
  | nil => rw [(List.append_eq_nil_iff.1 hp).1, depth_nil]
  | cons hopen hclose _ ih =>
    cases p with
    | nil => rw [depth_nil]
    | cons d p =>
      obtain ⟨rfl, htail⟩ := List.cons.inj hp
      rw [depth_cons_of_ne hopen hclose]
      exact ih q htail
  | @parens inner rest hinner _ ihinner ih =>
    rw [List.cons_append] at hp
    cases p with
    | nil => rw [depth_nil]
    | cons d p =>
      obtain ⟨rfl, htail⟩ := List.cons.inj hp
      rw [depth_open]
      -- the front ends in these parentheses, or behind them
      obtain ⟨s, hinside, -⟩ | ⟨s, rfl, hbehind⟩ := List.append_eq_append_iff.1 htail
      · have := ihinner s hinside.symm
        omega
      · rw [depth_append, hinner.depth_eq_zero]
        cases s with
        | nil => decide
        | cons d s =>
          obtain ⟨rfl, hrest⟩ := List.cons.inj hbehind
          rw [depth_close]
          have := ih q hrest.symm
          omega

/-- **A comma in an argument stands in parentheses of it.** -/
theorem IsArgument.depth_pos (h : IsArgument cs) (hp : p ++ ',' :: q = cs) : 0 < depth p := by
  induction h generalizing p with
  | nil => simp at hp
  | cons hopen hclose hcomma _ ih =>
    cases p with
    | nil => exact absurd (List.cons.inj hp).1.symm hcomma
    | cons d p =>
      obtain ⟨rfl, htail⟩ := List.cons.inj hp
      rw [depth_cons_of_ne hopen hclose]
      exact ih htail
  | @parens inner rest hinner _ ih =>
    rw [List.cons_append] at hp
    cases p with
    | nil => exact absurd (List.cons.inj hp).1 (by decide)
    | cons d p =>
      obtain ⟨rfl, htail⟩ := List.cons.inj hp
      rw [depth_open]
      obtain ⟨s, hinside, -⟩ | ⟨s, rfl, hbehind⟩ := List.append_eq_append_iff.1 htail
      · have := hinner.depth_nonneg ⟨s, hinside.symm⟩
        omega
      · rw [depth_append, hinner.depth_eq_zero]
        cases s with
        | nil => exact absurd (List.cons.inj hbehind).1 (by decide)
        | cons d s =>
          obtain ⟨rfl, hrest⟩ := List.cons.inj hbehind
          rw [depth_close]
          have := ih hrest.symm
          omega

end

/-! ### Closing parentheses -/

/-- How many of the parentheses opened from position `o` on are open in front of position `k`. -/
def depthFrom (cs : List Char) (o k : Nat) : Int := depth ((cs.take k).drop o)

/-- **The parenthesis opened at position `o` is closed at position `i`**: it stays open up to there,
and then none is open any more. -/
structure Closes (cs : List Char) (o i : Nat) : Prop where
  behind : o < i
  closing : cs[i]? = some ')'
  open_until : ∀ k, o < k → k ≤ i → 0 < depthFrom cs o k
  closed : depthFrom cs o (i + 1) = 0

section

variable {cs : List Char} {o i j : Nat}

/-- A text from a parenthesis on. -/
theorem take_drop_of_open (ho : cs[o]? = some '(') (j : Nat) :
    (cs.take (o + 1 + j)).drop o = '(' :: (cs.drop (o + 1)).take j := by
  obtain ⟨hlt, hget⟩ := List.getElem?_eq_some_iff.1 ho
  rw [List.drop_take, List.drop_eq_getElem_cons hlt, hget, show o + 1 + j - o = j + 1 by omega,
    List.take_succ_cons]

/-- What stands behind a parenthesis adds to it. -/
theorem depthFrom_of_open (ho : cs[o]? = some '(') (j : Nat) :
    depthFrom cs o (o + 1 + j) = depth ((cs.drop (o + 1)).take j) + 1 := by
  rw [depthFrom, take_drop_of_open ho, depth_open]

/-- **A parenthesis is closed where the count of open ones is zero first.** -/
theorem Closes.isLeast (h : Closes cs o i) :
    IsLeast {k | o < k ∧ depthFrom cs o k = 0} (i + 1) := by
  refine ⟨⟨Nat.lt_succ_of_lt h.behind, h.closed⟩, fun k hk => Nat.succ_le_of_lt ?_⟩
  by_contra hle
  exact (h.open_until k hk.1 (Nat.le_of_not_lt hle)).ne' hk.2

/-- The parentheses opened up to a closed one are closed. -/
theorem Balanced.closes {inner after : List Char} (hinner : Balanced inner)
    (ho : cs[o]? = some '(') (hcs : cs.drop (o + 1) = inner ++ ')' :: after) :
    Closes cs o (o + 1 + inner.length) where
  behind := by omega
  closing := by
    rw [← List.getElem?_drop, hcs, List.getElem?_append_right (Nat.le_refl _), Nat.sub_self]
    rfl
  open_until := by
    intro k hk hle
    obtain ⟨j, rfl⟩ := Nat.exists_eq_add_of_le (Nat.succ_le_of_lt hk)
    have hj : j ≤ inner.length := by omega
    have hnonneg := hinner.depth_nonneg (List.take_prefix j inner)
    rw [depthFrom_of_open ho, hcs, List.take_append_of_le_length hj]
    omega
  closed := by
    rw [Nat.add_assoc, depthFrom_of_open ho, hcs, List.take_length_add_append, depth_append,
      hinner.depth_eq_zero]
    rfl

end

end Text

/-! ### Splitting by depth -/

/-- **Splitting comes to an end if as many parentheses are closed as were open**, that of the call
included. -/
theorem splitArguments_isSome_iff {depth : Nat} {cs : List Char} :
    (splitArguments depth cs).isSome ↔ ∃ j, Text.depth (cs.take j) = -(depth + 1 : Int) := by
  induction cs generalizing depth with
  | nil =>
    refine iff_of_false (by rw [splitArguments]; simp) ?_
    rintro ⟨j, hj⟩
    rw [List.take_nil, Text.depth_nil] at hj
    omega
  | cons c cs ih =>
    have hcons : (∃ j, Text.depth ((c :: cs).take j) = -(depth + 1 : Int)) ↔
        ∃ j, Text.depth (c :: cs.take j) = -(depth + 1 : Int) := by
      constructor
      · rintro ⟨j, hj⟩
        cases j with
        | zero =>
          rw [List.take_zero, Text.depth_nil] at hj
          omega
        | succ j => exact ⟨j, hj⟩
      · rintro ⟨j, hj⟩
        exact ⟨j + 1, hj⟩
    rw [hcons]
    by_cases hopen : c = '('
    · subst hopen
      rw [splitArguments_open, Option.isSome_map, ih]
      refine exists_congr fun j => ?_
      rw [Text.depth_open]
      omega
    by_cases hclose : c = ')'
    · subst hclose
      cases depth with
      | zero =>
        rw [splitArguments_end]
        exact iff_of_true rfl ⟨0, rfl⟩
      | succ depth =>
        rw [splitArguments_close, Option.isSome_map, ih]
        refine exists_congr fun j => ?_
        rw [Text.depth_close]
        omega
    · simp only [Text.depth_cons_of_ne hopen hclose, ← ih]
      by_cases hcomma : c = ',' ∧ depth = 0
      · obtain ⟨rfl, rfl⟩ := hcomma
        rw [splitArguments_comma, Option.isSome_map]
      · rw [splitArguments_cons hopen hclose hcomma, Option.isSome_map]

namespace Arguments

variable {a : Arguments} {cs : List Char} {o : Nat}

/-- The text of the arguments, with commas between them. -/
def inner (a : Arguments) : List Char := a.first ++ a.others.flatMap (',' :: ·)

theorem Splits.balanced_inner (h : a.Splits cs) : Text.Balanced a.inner :=
  h.first.balanced.append (Text.balanced_flatMap h.others)

theorem Splits.inner_append (h : a.Splits cs) : a.inner ++ ')' :: a.after = cs := h.text

/-- **The arguments of a call end where its parenthesis is closed.** -/
theorem Splits.closes (h : a.Splits (cs.drop (o + 1))) (ho : cs[o]? = some '(') :
    Text.Closes cs o (o + 1 + a.inner.length) :=
  h.balanced_inner.closes ho h.inner_append.symm

/-- A call has arguments if its parenthesis is closed somewhere. -/
theorem exists_splitArguments_iff (ho : cs[o]? = some '(') :
    (∃ a, splitArguments 0 (cs.drop (o + 1)) = some a) ↔ ∃ i, Text.Closes cs o i := by
  constructor
  · rintro ⟨a, ha⟩
    exact ⟨_, (splitArguments_eq_some_iff.1 ha).closes ho⟩
  · rintro ⟨i, hi⟩
    obtain ⟨j, rfl⟩ := Nat.exists_eq_add_of_le (Nat.succ_le_of_lt hi.behind)
    rw [← Option.isSome_iff_exists, splitArguments_isSome_iff]
    have hclosed := hi.closed
    rw [Nat.add_assoc, Text.depthFrom_of_open ho] at hclosed
    exact ⟨j + 1, by omega⟩

end Arguments

end ShaderEffect
