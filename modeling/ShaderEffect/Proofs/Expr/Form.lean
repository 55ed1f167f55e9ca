/-
**Size expressions as they are written.**

`ShaderEffect.Expr.Derives` says that tokens have a derivation.  Here a derivation is a tree of its
own, so that what is lost in the tree of the expression can be counted in it: parentheses, plus
signs, and which operators stand in one row.

Main definitions:

* `ShaderEffect.Expr.Form` — **the derivations of a phrase**;
* `ShaderEffect.Expr.Form.tokens`, `ShaderEffect.Expr.Form.tree`, `ShaderEffect.Expr.Form.levels` —
  the tokens, the expression they stand for, and how many levels are open at once.

Main results:

* `ShaderEffect.Expr.Form.derives`, `ShaderEffect.Expr.Derives.exists_form` — forms are derivations,
  and there are no others;
* `ShaderEffect.Expression.parse_form` — **the forms that are parsed**;
* `ShaderEffect.Expression.exists_form` — what is parsed has a form.
-/

import ShaderEffect.Proofs.Expr.Parse

set_option autoImplicit false

namespace ShaderEffect

namespace Expr

/-- The derivations of a phrase. -/
inductive Form : Phrase → Type where
  | number (v : Float) : Form .atom
  | var (x : String) : Form .atom
  | parens (s : Form .sum) : Form .atom
  | unary (f : Unary) (a : Form .sum) : Form .atom
  | binary (f : Binary) (a b : Form .sum) : Form .atom
  | clamp (a b c : Form .sum) : Form .atom
  /-- An atom with so many percent signs behind it. -/
  | operand (a : Form .atom) (k : Nat) : Form .operand
  | minus (s : Form .signed) : Form .signed
  | plus (s : Form .signed) : Form .signed
  | unsigned (o : Form .operand) : Form .signed
  | factor (s : Form .signed) : Form .product
  | times {t : Token} {op : Arith} (hop : multiplicative? t = some op) (l : Form .product)
      (r : Form .signed) : Form .product
  | term (q : Form .product) : Form .sum
  | add {t : Token} {op : Arith} (hop : additive? t = some op) (l : Form .sum)
      (r : Form .product) : Form .sum

namespace Form

variable {p : Phrase}

/-- The tokens of a phrase. -/
def tokens : {p : Phrase} → Form p → List Token
  | _, number v => [.number v]
  | _, var x => [.var x]
  | _, parens s => .lparen :: s.tokens ++ [.rparen]
  | _, unary f a => .ident (Function.unary f).name :: .lparen :: a.tokens ++ [.rparen]
  | _, binary f a b =>
    .ident (Function.binary f).name :: .lparen :: a.tokens ++ .comma :: b.tokens ++ [.rparen]
  | _, clamp a b c =>
    .ident Function.clamp.name :: .lparen :: a.tokens ++ .comma :: b.tokens ++ .comma :: c.tokens ++
      [.rparen]
  | _, operand a k => a.tokens ++ List.replicate k .percent
  | _, minus s => .minus :: s.tokens
  | _, plus s => .plus :: s.tokens
  | _, unsigned o => o.tokens
  | _, factor s => s.tokens
  | _, @times t _ _ l r => l.tokens ++ t :: r.tokens
  | _, term q => q.tokens
  | _, @add t _ _ l r => l.tokens ++ t :: r.tokens

/-- The expression that a phrase stands for. -/
def tree : {p : Phrase} → Form p → Expr
  | _, number v => .number v
  | _, var x => .var x
  | _, parens s => s.tree
  | _, unary f a => .unary f a.tree
  | _, binary f a b => .binary f a.tree b.tree
  | _, clamp a b c => .clamp a.tree b.tree c.tree
  | _, operand a k => Expr.percent^[k] a.tree
  | _, minus s => .negate s.tree
  | _, plus s => s.tree
  | _, unsigned o => o.tree
  | _, factor s => s.tree
  | _, @times _ op _ l r => .arith op l.tree r.tree
  | _, term q => q.tree
  | _, @add _ op _ l r => .arith op l.tree r.tree

/-- How many levels are open at once in a phrase. -/
def levels : {p : Phrase} → Form p → Nat
  | _, number _ => 0
  | _, var _ => 0
  | _, parens s => s.levels
  | _, unary _ a => a.levels
  | _, binary _ a b => max a.levels b.levels
  | _, clamp a b c => max a.levels (max b.levels c.levels)
  | _, operand a k => max a.levels k
  | _, minus s => s.levels + 1
  | _, plus s => s.levels + 1
  | _, unsigned o => o.levels + 1
  | _, factor s => s.levels
  | _, times _ l r => max l.levels r.levels
  | _, term q => q.levels
  | _, add _ l r => max l.levels r.levels

/-- A form is a derivation. -/
theorem derives (f : Form p) : Derives p f.tokens f.tree f.levels := by
  induction f with
  | number v => exact .number v
  | var x => exact .var x
  | parens _ ih => exact .parens ih
  | unary f _ ih => exact .unary f ih
  | binary f _ _ iha ihb => exact .binary f iha ihb
  | clamp _ _ _ iha ihb ihc => exact .clamp iha ihb ihc
  | operand _ k ih => exact .operand ih k
  | minus _ ih => exact .minus ih
  | plus _ ih => exact .plus ih
  | unsigned _ ih => exact .unsigned ih
  | factor _ ih => exact .factor ih
  | times hop _ _ ihl ihr => exact .times hop ihl ihr
  | term _ ih => exact .term ih
  | add hop _ _ ihl ihr => exact .add hop ihl ihr

end Form

/-- A derivation is one of a form. -/
theorem Derives.exists_form {p : Phrase} {ts : List Token} {e : Expr} {n : Nat}
    (h : Derives p ts e n) : ∃ f : Form p, f.tokens = ts ∧ f.tree = e ∧ f.levels = n := by
  induction h with
  | number v => exact ⟨.number v, rfl, rfl, rfl⟩
  | var x => exact ⟨.var x, rfl, rfl, rfl⟩
  | parens _ ih =>
    obtain ⟨s, rfl, rfl, rfl⟩ := ih
    exact ⟨.parens s, rfl, rfl, rfl⟩
  | unary f _ ih =>
    obtain ⟨a, rfl, rfl, rfl⟩ := ih
    exact ⟨.unary f a, rfl, rfl, rfl⟩
  | binary f _ _ iha ihb =>
    obtain ⟨a, rfl, rfl, rfl⟩ := iha
    obtain ⟨b, rfl, rfl, rfl⟩ := ihb
    exact ⟨.binary f a b, rfl, rfl, rfl⟩
  | clamp _ _ _ iha ihb ihc =>
    obtain ⟨a, rfl, rfl, rfl⟩ := iha
    obtain ⟨b, rfl, rfl, rfl⟩ := ihb
    obtain ⟨c, rfl, rfl, rfl⟩ := ihc
    exact ⟨.clamp a b c, rfl, rfl, rfl⟩
  | operand _ k ih =>
    obtain ⟨a, rfl, rfl, rfl⟩ := ih
    exact ⟨.operand a k, rfl, rfl, rfl⟩
  | minus _ ih =>
    obtain ⟨s, rfl, rfl, rfl⟩ := ih
    exact ⟨.minus s, rfl, rfl, rfl⟩
  | plus _ ih =>
    obtain ⟨s, rfl, rfl, rfl⟩ := ih
    exact ⟨.plus s, rfl, rfl, rfl⟩
  | unsigned _ ih =>
    obtain ⟨o, rfl, rfl, rfl⟩ := ih
    exact ⟨.unsigned o, rfl, rfl, rfl⟩
  | factor _ ih =>
    obtain ⟨s, rfl, rfl, rfl⟩ := ih
    exact ⟨.factor s, rfl, rfl, rfl⟩
  | times hop _ _ ihl ihr =>
    obtain ⟨l, rfl, rfl, rfl⟩ := ihl
    obtain ⟨r, rfl, rfl, rfl⟩ := ihr
    exact ⟨.times hop l r, rfl, rfl, rfl⟩
  | term _ ih =>
    obtain ⟨q, rfl, rfl, rfl⟩ := ih
    exact ⟨.term q, rfl, rfl, rfl⟩
  | add hop _ _ ihl ihr =>
    obtain ⟨l, rfl, rfl, rfl⟩ := ihl
    obtain ⟨r, rfl, rfl, rfl⟩ := ihr
    exact ⟨.add hop l r, rfl, rfl, rfl⟩

end Expr

/-! ### The forms that are parsed -/

namespace Expression

open ShaderEffect.Expr (Form maxLevels)

variable {source : String} {x : Expression} {f : Form .sum}

/-- **A form is parsed**, unless too many levels are open in it. -/
theorem parse_form (h : Expr.tokenize source.toList = .ok f.tokens) :
    parse source = if f.levels ≤ maxLevels then .ok ⟨source, f.tree⟩
      else .error (.grammar .tooDeep) := by
  rw [parse, treeOf, h]
  dsimp only
  rw [f.derives.parseTokens_eq, Expr.within]
  by_cases hle : f.levels ≤ maxLevels
  · rw [if_pos hle, if_pos hle]
  · rw [if_neg hle, if_neg hle]

/-- What is parsed has a form. -/
theorem exists_form (h : parse source = .ok x) :
    ∃ f : Form .sum, Expr.tokenize source.toList = .ok f.tokens := by
  obtain ⟨-, ts, htokens, htree⟩ := parse_eq_ok_iff.1 h
  obtain ⟨n, hderives, -⟩ := Expr.parseTokens_eq_ok_iff.1 htree
  obtain ⟨f, rfl, -, -⟩ := hderives.exists_form
  exact ⟨f, htokens⟩

end Expression

end ShaderEffect
