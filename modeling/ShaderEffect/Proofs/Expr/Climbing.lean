/-
**Climbing reads sums of products.**

One loop reads sums and products.  It is given a level, and goes on with the operators that bind
more tightly than that; what stands behind an operator is read by the same loop at the level of the
operator.  The grammar has sums of products instead, and a loop for each of the two.  Both read the
same: at the level of products nothing binds more tightly, at the level of sums the loop reads a
product, and at the lowest level a sum.

Main definitions:

* `ShaderEffect.Expr.Reader.run`, `ShaderEffect.Expr.leaving` — what is read, and what is left;
* `ShaderEffect.Expr.chainOf` — operands with operators of one kind between them.

Main results:

* `ShaderEffect.Expr.leaving_infixes_zero` — a loop at the lowest level finishes the product that it
  is in, and then the sum;
* `ShaderEffect.Expr.run_sumOf` — **climbing reads a chain of chains**.
-/

import ShaderEffect.Expr.Parse

set_option autoImplicit false

namespace ShaderEffect.Expr

variable {α β : Type}

/-! ### What is read and what is left -/

/-- What a reader reads off a list of tokens, and what is left of it. -/
def Reader.run (r : Reader α) (ts : List Token) : Except SyntaxFault (α × List Token) :=
  match r ts with
  | .error fault => .error fault
  | .ok x => .ok (x.value, x.rest)

/-- What a loop has read, and what is left. -/
def leaving {ts : List Token} :
    Except SyntaxFault (α × { rest : List Token // rest.length ≤ ts.length }) →
      Except SyntaxFault (α × List Token)
  | .error fault => .error fault
  | .ok (a, ⟨rest, _⟩) => .ok (a, rest)

@[simp] theorem bind_ok (a : α) (f : α → Except SyntaxFault β) :
    (Except.ok a : Except SyntaxFault α).bind f = f a := rfl

theorem bind_assoc {γ : Type} (x : Except SyntaxFault α) (f : α → Except SyntaxFault β)
    (g : β → Except SyntaxFault γ) : (x.bind f).bind g = x.bind fun a => (f a).bind g := by
  cases x <;> rfl

/-! ### Chains -/

/-- The operation a token stands for between products. -/
def additive? : Token → Option Arith
  | .plus => some .add
  | .minus => some .sub
  | _ => none

/-- The operation a token stands for between signed operands. -/
def multiplicative? : Token → Option Arith
  | .star => some .mul
  | .slash => some .div
  | _ => none

/-- The operands that follow `left` with the operators of one kind between them, grouped to the
left. -/
def chain (operator? : Token → Option Arith) (operand : Reader Expr) (left : Expr) :
    (ts : List Token) → Except SyntaxFault (Expr × { rest : List Token // rest.length ≤ ts.length })
  | [] => .ok (left, ⟨[], Nat.le_refl _⟩)
  | t :: ts =>
    match operator? t with
    | none => .ok (left, ⟨t :: ts, Nat.le_refl _⟩)
    | some op =>
      match operand ts with
      | .error fault => .error fault
      | .ok r =>
        match chain operator? operand (.arith op left r.value) r.rest with
        | .error fault => .error fault
        | .ok (e, ⟨rest, h⟩) =>
          .ok (e, ⟨rest, Nat.le_succ_of_le (Nat.le_trans h (Nat.le_of_lt r.shorter))⟩)
termination_by ts => ts.length
decreasing_by exact Nat.lt_succ_of_lt r.shorter

/-- One operand and those that follow it. -/
def chainOf (operator? : Token → Option Arith) (operand : Reader Expr) : Reader Expr := fun ts =>
  match operand ts with
  | .error fault => .error fault
  | .ok r =>
    match chain operator? operand r.value r.rest with
    | .error fault => .error fault
    | .ok x => .ok ⟨x.1, x.2.val, Nat.lt_of_le_of_lt x.2.property r.shorter⟩

section Chains

variable {operator? : Token → Option Arith} {r : Reader Expr} {ts rest : List Token}

theorem run_chainOf : (chainOf operator? r).run ts =
    (r.run ts).bind fun x => leaving (chain operator? r x.1 x.2) := by
  unfold Reader.run chainOf
  cases r ts with
  | error fault => rfl
  | ok x =>
    dsimp only [bind_ok]
    cases chain operator? r x.value x.rest with
    | error fault => rfl
    | ok y => rfl

theorem leaving_chain_nil (left : Expr) :
    leaving (chain operator? r left []) = .ok (left, []) := by
  rw [chain]
  rfl

/-- A chain ends at a token that is none of its operators. -/
theorem leaving_chain_of_none (left : Expr) {t : Token} (h : operator? t = none) :
    leaving (chain operator? r left (t :: ts)) = .ok (left, t :: ts) := by
  rw [chain, h]
  rfl

/-- A chain goes on with the operand behind an operator. -/
theorem leaving_chain_of_some (left : Expr) {t : Token} {op : Arith} (h : operator? t = some op) :
    leaving (chain operator? r left (t :: ts)) =
      (r.run ts).bind fun x => leaving (chain operator? r (.arith op left x.1) x.2) := by
  rw [chain, h]
  unfold Reader.run
  dsimp only
  cases r ts with
  | error fault => rfl
  | ok x =>
    dsimp only [bind_ok]
    cases chain operator? r (.arith op left x.value) x.rest with
    | error fault => rfl
    | ok y => rfl

end Chains

/-! ### Climbing -/

section Climbing

variable {r : Reader Expr} {ts rest : List Token} {level : Nat}

theorem run_climb : (climb r level).run ts =
    (r.run ts).bind fun x => leaving (infixes r level x.1 x.2) := by
  unfold Reader.run
  rw [climb]
  cases r ts with
  | error fault => rfl
  | ok x =>
    dsimp only [bind_ok]
    cases infixes r level x.value x.rest with
    | error fault => rfl
    | ok y => rfl

theorem leaving_infixes_nil (left : Expr) : leaving (infixes r level left []) = .ok (left, []) := by
  rw [infixes]
  rfl

/-- The loop ends at a token that binds no more tightly than its level. -/
theorem leaving_infixes_of_le (left : Expr) {t : Token}
    (h : ∀ op, operator? t = some op → op.precedence ≤ level) :
    leaving (infixes r level left (t :: ts)) = .ok (left, t :: ts) := by
  rw [infixes]
  cases hop : operator? t with
  | none => rfl
  | some op =>
    dsimp only
    rw [if_neg (Nat.not_lt.2 (h op hop))]
    rfl

/-- The loop goes on behind an operator that binds more tightly, with what is read at the level of
that operator. -/
theorem leaving_infixes_of_lt (left : Expr) {t : Token} {op : Arith} (hop : operator? t = some op)
    (h : level < op.precedence) : leaving (infixes r level left (t :: ts)) =
      ((climb r op.precedence).run ts).bind fun x =>
        leaving (infixes r level (.arith op left x.1) x.2) := by
  rw [infixes, hop]
  unfold Reader.run
  dsimp only
  rw [if_pos h]
  cases climb r op.precedence ts with
  | error fault => rfl
  | ok x =>
    dsimp only [bind_ok]
    cases infixes r level (.arith op left x.value) x.rest with
    | error fault => rfl
    | ok y => rfl

theorem precedence_le_two (op : Arith) : op.precedence ≤ 2 := by
  cases op <;> decide

/-- Nothing binds more tightly than products do. -/
theorem leaving_infixes_two (left : Expr) : leaving (infixes r 2 left ts) = .ok (left, ts) := by
  cases ts with
  | nil => exact leaving_infixes_nil left
  | cons t ts => exact leaving_infixes_of_le left fun op _ => precedence_le_two op

/-- Behind the operator of a product stands one operand. -/
theorem run_climb_two : (climb r 2).run ts = r.run ts := by
  rw [run_climb]
  cases r.run ts with
  | error fault => rfl
  | ok x => exact leaving_infixes_two x.1

/-- A token is an operator of a product, an operator of a sum, or none. -/
theorem operator?_cases (t : Token) :
    (∃ op, multiplicative? t = some op ∧ operator? t = some op ∧ op.precedence = 2) ∨
      (multiplicative? t = none ∧
        ∃ op, additive? t = some op ∧ operator? t = some op ∧ op.precedence = 1) ∨
      (multiplicative? t = none ∧ additive? t = none ∧ operator? t = none) := by
  cases t with
  | star => exact Or.inl ⟨_, rfl, rfl, rfl⟩
  | slash => exact Or.inl ⟨_, rfl, rfl, rfl⟩
  | plus => exact Or.inr (Or.inl ⟨rfl, _, rfl, rfl, rfl⟩)
  | minus => exact Or.inr (Or.inl ⟨rfl, _, rfl, rfl, rfl⟩)
  | _ => exact Or.inr (Or.inr ⟨rfl, rfl, rfl⟩)

/-- What a reader leaves is shorter than what it was given. -/
theorem length_lt_of_run {x : Expr × List Token} (h : r.run ts = .ok x) :
    x.2.length < ts.length := by
  unfold Reader.run at h
  cases hr : r ts with
  | error fault =>
    rw [hr] at h
    cases h
  | ok y =>
    rw [hr] at h
    cases h
    exact y.shorter

/-- At the level of sums the loop finishes the product that it is in. -/
theorem leaving_infixes_one (left : Expr) :
    leaving (infixes r 1 left ts) = leaving (chain multiplicative? r left ts) := by
  obtain ⟨n, hn⟩ : ∃ n, ts.length = n := ⟨_, rfl⟩
  induction n using Nat.strongRecOn generalizing left ts with
  | ind n ih =>
    subst hn
    cases ts with
    | nil => rw [leaving_infixes_nil, leaving_chain_nil]
    | cons t ts =>
      obtain ⟨op, hproduct, hop, hprecedence⟩ | ⟨hproduct, hother⟩ :
          (∃ op, multiplicative? t = some op ∧ operator? t = some op ∧ op.precedence = 2) ∨
            (multiplicative? t = none ∧ ∀ op, operator? t = some op → op.precedence ≤ 1) := by
        rcases operator?_cases t with h | ⟨h, op, -, hop, hprecedence⟩ | ⟨h, -, hnone⟩
        · exact Or.inl h
        · refine Or.inr ⟨h, fun op' hop' => ?_⟩
          exact Nat.le_of_eq (Option.some.inj (hop.symm.trans hop') ▸ hprecedence)
        · exact Or.inr ⟨h, fun op' hop' => by simp [hnone] at hop'⟩
      · rw [leaving_infixes_of_lt left hop (by omega), leaving_chain_of_some left hproduct,
          hprecedence, run_climb_two]
        cases hrun : r.run ts with
        | error fault => rfl
        | ok x =>
          exact ih _ (Nat.lt_succ_of_lt (length_lt_of_run hrun)) _ rfl
      · rw [leaving_infixes_of_le left hother, leaving_chain_of_none left hproduct]

/-- Behind the operator of a sum stands a product. -/
theorem run_climb_one : (climb r 1).run ts = (chainOf multiplicative? r).run ts := by
  rw [run_climb, run_chainOf]
  simp only [leaving_infixes_one]

/-- A chain that has come to its end does not go on there. -/
theorem leaving_chain_again {operator? : Token → Option Arith} {left e : Expr}
    (h : leaving (chain operator? r left ts) = .ok (e, rest)) (e' : Expr) :
    leaving (chain operator? r e' rest) = .ok (e', rest) := by
  obtain ⟨n, hn⟩ : ∃ n, ts.length = n := ⟨_, rfl⟩
  induction n using Nat.strongRecOn generalizing left ts with
  | ind n ih =>
    subst hn
    cases ts with
    | nil =>
      rw [leaving_chain_nil] at h
      cases h
      exact leaving_chain_nil e'
    | cons t ts =>
      cases hop : operator? t with
      | none =>
        rw [leaving_chain_of_none left hop] at h
        cases h
        exact leaving_chain_of_none e' hop
      | some op =>
        rw [leaving_chain_of_some left hop] at h
        cases hrun : r.run ts with
        | error fault =>
          rw [hrun] at h
          cases h
        | ok x =>
          rw [hrun] at h
          exact ih _ (Nat.lt_succ_of_lt (length_lt_of_run hrun)) h rfl

/-- **At the lowest level the loop finishes the product that it is in, and then the sum.** -/
theorem leaving_infixes_zero (left : Expr) : leaving (infixes r 0 left ts) =
    (leaving (chain multiplicative? r left ts)).bind fun x =>
      leaving (chain additive? (chainOf multiplicative? r) x.1 x.2) := by
  obtain ⟨n, hn⟩ : ∃ n, ts.length = n := ⟨_, rfl⟩
  induction n using Nat.strongRecOn generalizing left ts with
  | ind n ih =>
    subst hn
    cases ts with
    | nil => rw [leaving_infixes_nil, leaving_chain_nil, bind_ok, leaving_chain_nil]
    | cons t ts =>
      rcases operator?_cases t with ⟨op, hproduct, hop, hprecedence⟩ |
        ⟨hproduct, op, hsum, hop, hprecedence⟩ | ⟨hproduct, hsum, hnone⟩
      · rw [leaving_infixes_of_lt left hop (by omega), leaving_chain_of_some left hproduct,
          hprecedence, run_climb_two, bind_assoc]
        cases hrun : r.run ts with
        | error fault => rfl
        | ok x => exact ih _ (Nat.lt_succ_of_lt (length_lt_of_run hrun)) _ rfl
      · rw [leaving_infixes_of_lt left hop (by omega), leaving_chain_of_none left hproduct,
          bind_ok, leaving_chain_of_some left hsum, hprecedence, run_climb_one]
        cases hrun : (chainOf multiplicative? r).run ts with
        | error fault => rfl
        | ok x =>
          -- no product goes on behind the one that was read
          have hend : leaving (chain multiplicative? r (.arith op left x.1) x.2) =
              .ok (.arith op left x.1, x.2) := by
            rw [run_chainOf] at hrun
            cases hfirst : r.run ts with
            | error fault =>
              rw [hfirst] at hrun
              cases hrun
            | ok y =>
              rw [hfirst] at hrun
              exact leaving_chain_again hrun _
          rw [bind_ok, bind_ok, ih _ (Nat.lt_succ_of_lt (length_lt_of_run hrun)) _ rfl, hend,
            bind_ok]
      · rw [leaving_infixes_of_le left (by simp [hnone]), leaving_chain_of_none left hproduct,
          bind_ok, leaving_chain_of_none left hsum]

/-- **Climbing reads a chain of chains.** -/
theorem run_sumOf : (sumOf r).run ts =
    (chainOf additive? (chainOf multiplicative? r)).run ts := by
  rw [sumOf, run_climb, run_chainOf, run_chainOf, bind_assoc]
  simp only [leaving_infixes_zero]

end Climbing

end ShaderEffect.Expr
