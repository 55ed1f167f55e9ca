/-
**How high the tree of an expression is.**

An expression is evaluated, searched for its variables and given up again by walking down its tree.
The levels that may be open at once bound how far an expression is nested, and with it most of the
height of its tree; but the operators in one row take no levels, and each of them stands above those
in front of it.

A phrase is as high as its own row has operators, and as its highest operand.  An operand with `n`
levels leaves one less to what is in it, and adds to that an atom, no more than `n` percent signs,
and the operators of a product and of a sum; over all levels that is no more than `n * (n + 2 * k)`,
if no row has more than `k` operators.

Main definitions:

* `ShaderEffect.Expr.height` — **the height of the tree**;
* `ShaderEffect.Expr.Form.operators`, `ShaderEffect.Expr.Form.longest` — the operators in one row;
* `ShaderEffect.Expr.Form.allowance` — what is left to the operands of a row.

Main results:

* `ShaderEffect.Expr.Form.longest_lt_height`, `ShaderEffect.Expr.Form.height_le` — between which
  bounds the height lies;
* `ShaderEffect.Expression.heights_bounded_iff` — **heights are bounded as far as rows are**;
* `ShaderEffect.Expression.heights_not_bounded` — they are not bounded altogether.
-/

import Mathlib.Tactic.Ring
import ShaderEffect.Proofs.Expr.Nesting

set_option autoImplicit false

namespace ShaderEffect

namespace Expr

/-- The height of the tree of an expression: how many parts lie one in the other. -/
def height : Expr → Nat
  | number _ => 1
  | var _ => 1
  | percent e => e.height + 1
  | negate e => e.height + 1
  | arith _ l r => max l.height r.height + 1
  | unary _ e => e.height + 1
  | binary _ a b => max a.height b.height + 1
  | clamp a b c => max a.height (max b.height c.height) + 1

theorem height_pos (e : Expr) : 0 < e.height := by
  cases e <;> exact Nat.succ_pos _

theorem height_iterate_percent (e : Expr) (k : Nat) :
    (Expr.percent^[k] e).height = e.height + k := by
  induction k with
  | zero => rfl
  | succ k ih =>
    rw [Function.iterate_succ_apply', height, ih]
    rfl

namespace Form

variable {p : Phrase}

/-- The operators in the row of a sum or of a product. -/
def operators : {p : Phrase} → Form p → Nat
  | _, times _ l _ => l.operators + 1
  | _, add _ l _ => l.operators + 1
  | _, _ => 0

/-- The most operators that stand in one row somewhere in a phrase. -/
def longest : {p : Phrase} → Form p → Nat
  | _, number _ => 0
  | _, var _ => 0
  | _, parens s => s.longest
  | _, unary _ a => a.longest
  | _, binary _ a b => max a.longest b.longest
  | _, clamp a b c => max a.longest (max b.longest c.longest)
  | _, operand a _ => a.longest
  | _, minus s => s.longest
  | _, plus s => s.longest
  | _, unsigned o => o.longest
  | _, factor s => s.longest
  | _, times _ l r => max (l.operators + 1) (max l.longest r.longest)
  | _, term q => q.longest
  | _, add _ l r => max (l.operators + 1) (max l.longest r.longest)

theorem operators_le_longest (f : Form p) : f.operators ≤ f.longest := by
  cases f with
  | times _ l r | add _ l r => exact Nat.le_max_left _ _
  | _ => exact Nat.zero_le _

/-! ### Every operator of a row is higher than those in front of it -/

theorem operators_lt_height (f : Form p) : f.operators < f.tree.height := by
  induction f with
  | times _ l r ihl _ | add _ l r ihl _ =>
    exact Nat.succ_lt_succ (Nat.lt_of_lt_of_le ihl (Nat.le_max_left _ _))
  | _ => exact height_pos _

/-- The tree is higher than any row is long. -/
theorem longest_lt_height (f : Form p) : f.longest < f.tree.height := by
  induction f with
  | number _ | var _ => exact Nat.one_pos
  | parens _ ih | plus _ ih | unsigned _ ih | factor _ ih | term _ ih => exact ih
  | unary _ _ ih | minus _ ih => exact Nat.lt_succ_of_lt ih
  | binary _ a b iha ihb =>
    simp only [longest, tree, height]
    omega
  | clamp a b c iha ihb ihc =>
    simp only [longest, tree, height]
    omega
  | operand a k ih =>
    rw [longest, tree, height_iterate_percent]
    exact Nat.lt_of_lt_of_le ih (Nat.le_add_right _ _)
  | times _ l r ihl ihr | add _ l r ihl ihr =>
    have hrow := l.operators_lt_height
    simp only [longest, tree, height]
    omega

/-! ### What is not in a row takes levels -/

/-- What a phrase may add to the operators of its row if it has so many levels, and no row in it is
longer than that. -/
def allowance (n k : Nat) : Phrase → Nat
  | .signed | .product => n * (n + 2 * k)
  | .sum => n * (n + 2 * k) + k
  | .atom => n * (n + 2 * k) + (2 * k + 1)
  | .operand => n * (n + 2 * k) + (2 * k + 1) + n

section Allowance

variable {n k : Nat}

/-- What is left below a level, and what the level adds. -/
theorem allowance_succ :
    allowance (n + 1) k .signed = allowance n k .signed + (2 * n + 2 * k + 1) := by
  simp only [allowance]
  ring

theorem allowance_signed_lt : allowance n k .signed < allowance (n + 1) k .signed := by
  rw [allowance_succ]
  omega

theorem allowance_operand_le : allowance n k .operand ≤ allowance (n + 1) k .signed := by
  rw [allowance_succ]
  simp only [allowance]
  omega

theorem operators_signed (f : Form .signed) : f.operators = 0 := by
  cases f <;> rfl

theorem operators_atom (f : Form .atom) : f.operators = 0 := by
  cases f <;> rfl

theorem operators_operand (f : Form .operand) : f.operators = 0 := by
  cases f
  rfl

/-- A sum that stands in an atom. -/
theorem height_lt_of_sum {s : Form .sum} (hlongest : s.longest ≤ k)
    (h : s.tree.height ≤ allowance n k .sum + s.operators) :
    s.tree.height < allowance n k .atom := by
  have hrow := Nat.le_trans s.operators_le_longest hlongest
  simp only [allowance] at h ⊢
  omega

/-- A row that goes on with one more operand. -/
theorem height_arith_le {op : Arith} {l r : Expr} {m row : Nat} (hl : l.height ≤ m + row)
    (hr : r.height ≤ m) : (arith op l r).height ≤ m + (row + 1) :=
  Nat.succ_le_succ (Nat.max_le.2 ⟨hl, Nat.le_trans hr (Nat.le_add_right _ _)⟩)

/-- **What bounds the height of a phrase**: its own row, its levels, and the rows in it. -/
theorem height_le_allowance_add (f : Form p) (hlevels : f.levels ≤ n) (hlongest : f.longest ≤ k) :
    f.tree.height ≤ allowance n k p + f.operators := by
  -- by induction on the form, for all numbers of levels, as what is in an operand has one less
  induction f generalizing n with
  | number _ | var _ => exact Nat.le_add_left _ _
  | parens s ih => exact Nat.le_of_lt (height_lt_of_sum hlongest (ih hlevels hlongest))
  | unary _ a ih => exact height_lt_of_sum hlongest (ih hlevels hlongest)
  | binary _ a b iha ihb =>
    rw [levels, Nat.max_le] at hlevels
    rw [longest, Nat.max_le] at hlongest
    exact max_lt (height_lt_of_sum hlongest.1 (iha hlevels.1 hlongest.1))
      (height_lt_of_sum hlongest.2 (ihb hlevels.2 hlongest.2))
  | clamp a b c iha ihb ihc =>
    rw [levels, Nat.max_le, Nat.max_le] at hlevels
    rw [longest, Nat.max_le, Nat.max_le] at hlongest
    exact max_lt (height_lt_of_sum hlongest.1 (iha hlevels.1 hlongest.1))
      (max_lt (height_lt_of_sum hlongest.2.1 (ihb hlevels.2.1 hlongest.2.1))
        (height_lt_of_sum hlongest.2.2 (ihc hlevels.2.2 hlongest.2.2)))
  | operand a j ih =>
    rw [levels, Nat.max_le] at hlevels
    have hatom := ih hlevels.1 hlongest
    rw [operators_atom] at hatom
    rw [tree, height_iterate_percent]
    show a.tree.height + j ≤ allowance n k .atom + n
    exact Nat.add_le_add hatom hlevels.2
  | minus s ih =>
    cases n with
    | zero => exact absurd hlevels (Nat.not_succ_le_zero _)
    | succ n =>
      have hsigned := ih (Nat.le_of_succ_le_succ hlevels) hlongest
      rw [operators_signed] at hsigned
      exact Nat.lt_of_le_of_lt hsigned allowance_signed_lt
  | plus s ih =>
    cases n with
    | zero => exact absurd hlevels (Nat.not_succ_le_zero _)
    | succ n =>
      have hsigned := ih (Nat.le_of_succ_le_succ hlevels) hlongest
      rw [operators_signed] at hsigned
      exact Nat.le_trans hsigned (Nat.le_of_lt allowance_signed_lt)
  | unsigned o ih =>
    cases n with
    | zero => exact absurd hlevels (Nat.not_succ_le_zero _)
    | succ n =>
      have hoperand := ih (Nat.le_of_succ_le_succ hlevels) hlongest
      rw [operators_operand] at hoperand
      exact Nat.le_trans hoperand allowance_operand_le
  | factor s ih =>
    have hsigned := ih hlevels hlongest
    rwa [operators_signed] at hsigned
  | times _ l r ihl ihr =>
    rw [levels, Nat.max_le] at hlevels
    rw [longest, Nat.max_le, Nat.max_le] at hlongest
    have hsigned := ihr hlevels.2 hlongest.2.2
    rw [operators_signed] at hsigned
    -- the operand on the right is no row of this product
    exact height_arith_le (ihl hlevels.1 hlongest.2.1) hsigned
  | term q ih =>
    have hrow := Nat.le_trans q.operators_le_longest hlongest
    exact Nat.le_trans (ih hlevels hlongest) (Nat.add_le_add_left hrow _)
  | add _ l r ihl ihr =>
    rw [levels, Nat.max_le] at hlevels
    rw [longest, Nat.max_le, Nat.max_le] at hlongest
    have hrow := Nat.le_trans r.operators_le_longest hlongest.2.2
    have hproduct := ihr hlevels.2 hlongest.2.2
    -- the product on the right has a row of its own, but not a longer one than there may be
    exact height_arith_le (ihl hlevels.1 hlongest.2.1)
      (Nat.le_trans hproduct (Nat.add_le_add_left hrow _))

end Allowance

/-- Within the levels that may be open, the tree is as high as rows are long, up to a factor. -/
theorem height_le (f : Form .sum) (hlevels : f.levels ≤ maxLevels) :
    f.tree.height ≤ maxLevels * maxLevels + 2 * (maxLevels + 1) * f.longest := by
  have h := f.height_le_allowance_add hlevels (Nat.le_refl _)
  have hrow := f.operators_le_longest
  simp only [allowance, maxLevels] at h ⊢
  omega

end Form

end Expr

/-! ### Rows of operators -/

namespace Expression

open ShaderEffect.Expr (Form Cuts maxLevels)

/-- The tree of an expression is higher than any row in it is long, and higher than the longest by
no more than a factor and a constant. -/
theorem height_bounds {source : String} {f : Form .sum} {x : Expression}
    (htokens : Expr.tokenize source.toList = .ok f.tokens) (hparse : parse source = .ok x) :
    f.longest < x.tree.height ∧
      x.tree.height ≤ maxLevels * maxLevels + 2 * (maxLevels + 1) * f.longest := by
  rw [parse_form htokens] at hparse
  split at hparse
  · obtain rfl := Except.ok.inj hparse
    exact ⟨f.longest_lt_height, f.height_le ‹_›⟩
  · cases hparse

/-- **Heights are bounded as far as rows are.**  The trees of some expressions have a bounded height
just if there is a bound on their rows of operators: each tree is higher than any row of operators
is long, and higher than the longest of them by no more than a factor and a constant. -/
theorem heights_bounded_iff (sources : String → Prop) :
    ((∃ b, ∀ source x, sources source → parse source = .ok x → x.tree.height ≤ b) ↔
      ∃ k, ∀ source (f : Form .sum) x, sources source →
        Expr.tokenize source.toList = .ok f.tokens → parse source = .ok x → f.longest ≤ k) ∧
    ∀ source (f : Form .sum) x, sources source →
      Expr.tokenize source.toList = .ok f.tokens → parse source = .ok x →
        f.longest < x.tree.height ∧
          x.tree.height ≤ maxLevels * maxLevels + 2 * (maxLevels + 1) * f.longest := by
  refine ⟨⟨?_, ?_⟩, fun source f x _ htokens hparse => height_bounds htokens hparse⟩
  · rintro ⟨b, hb⟩
    refine ⟨b, fun source f x hsource htokens hparse => ?_⟩
    have hlower := (height_bounds htokens hparse).1
    exact Nat.le_trans (Nat.le_of_lt hlower) (hb source x hsource hparse)
  · rintro ⟨k, hk⟩
    refine ⟨maxLevels * maxLevels + 2 * (maxLevels + 1) * k, fun source x hsource hparse => ?_⟩
    obtain ⟨f, htokens⟩ := exists_form hparse
    have hrow := hk source f x hsource htokens hparse
    exact Nat.le_trans (height_bounds htokens hparse).2
      (Nat.add_le_add_left (Nat.mul_le_mul_left _ hrow) _)

end Expression

/-! ### A sum of widths -/

namespace Expr

namespace Form

/-- The width, and that many times the width again. -/
def widths : Nat → Form .sum
  | 0 => ofOperand (.operand (.var "WIDTH") 0)
  | k + 1 => @add .plus .add rfl (widths k) (.factor (.unsigned (.operand (.var "WIDTH") 0)))

theorem levels_widths (k : Nat) : (widths k).levels = 1 := by
  induction k with
  | zero => rfl
  | succ k ih =>
    show max (widths k).levels 1 = 1
    rw [ih, Nat.max_self]

theorem operators_widths (k : Nat) : (widths k).operators = k := by
  induction k with
  | zero => rfl
  | succ k ih => exact congrArg Nat.succ ih

end Form

end Expr

namespace Expression

open ShaderEffect.Expr (Form Cuts Token maxLevels)

/-- A sum of widths as characters. -/
def widths : Nat → List Char
  | 0 => "$WIDTH".toList
  | k + 1 => widths k ++ '+' :: "$WIDTH".toList

/-- The text is cut into the tokens of the sum, also if something stands behind it. -/
theorem cuts_widths (k : Nat) {cs rest : List Char} {ts : List Token}
    (hcs : ∀ d ∈ cs.head?, Expr.isNameChar d = false) (h : Cuts cs ts rest) :
    Cuts (widths k ++ cs) ((Form.widths k).tokens ++ ts) rest := by
  induction k generalizing cs ts with
  | zero => exact .width hcs h
  | succ k ih =>
    have hplus : ∀ d ∈ ('+' :: ("$WIDTH".toList ++ cs)).head?, Expr.isNameChar d = false := by
      intro d hd
      obtain rfl : '+' = d := Option.some.inj hd
      decide
    show Cuts (widths k ++ '+' :: "$WIDTH".toList ++ cs)
      ((Form.widths k).tokens ++ [.plus, .var "WIDTH"] ++ ts) rest
    rw [List.append_assoc, List.append_assoc]
    exact ih hplus (.punctuation .plus (.width hcs h))

theorem tokenize_widths (k : Nat) :
    Expr.tokenize (String.ofList (widths k)).toList = .ok (Form.widths k).tokens := by
  have hcuts := cuts_widths k (by simp) (.nil [])
  rw [List.append_nil, List.append_nil] at hcuts
  rwa [String.toList_ofList, Expr.tokenize_eq_ok_iff]

/-- A sum of any length is parsed. -/
theorem parse_widths (k : Nat) : parse (String.ofList (widths k)) =
    .ok ⟨String.ofList (widths k), (Form.widths k).tree⟩ := by
  rw [parse_form (tokenize_widths k), Form.levels_widths]
  rfl

/-- Three widths are a row of two operators. -/
theorem heights_bounded_iff_widths :
    Expr.tokenize (String.ofList (widths 2)).toList = .ok (Form.widths 2).tokens ∧
      ∃ x, parse (String.ofList (widths 2)) = .ok x ∧ (Form.widths 2).longest < x.tree.height :=
  ⟨tokenize_widths 2, _, parse_widths 2,
    ((heights_bounded_iff (· = String.ofList (widths 2))).2 _ _ _ rfl
      (tokenize_widths 2) (parse_widths 2)).1⟩

/-- **Heights are not bounded**: a sum of widths has one level, and is as high as it is long. -/
theorem heights_not_bounded :
    ¬ ∃ b, ∀ source x, parse source = .ok x → x.tree.height ≤ b := by
  rintro ⟨b, hb⟩
  have hlt := (Form.widths b).operators_lt_height
  rw [Form.operators_widths] at hlt
  exact Nat.not_le.2 hlt (hb _ _ (parse_widths b))

end Expression

end ShaderEffect
