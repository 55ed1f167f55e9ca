/-
**The grammar of size expressions, as derivations.**

    sum     := product (('+' | '-') product)*
    product := signed (('*' | '/') signed)*
    signed  := ('+' | '-') signed | operand
    operand := atom '%'*
    atom    := number | variable | '(' sum ')' | name '(' sum (',' sum)* ')'

A name is that of a function, and stands before as many sums as the function has arguments.  A
derivation says which tokens belong to a phrase, what tree they stand for, and how many levels are
open at once: each signed operand is a level around what stands in it, and the percent signs of an
operand are levels inside that of the operand, one more for each.  Operators of one kind group to
the left.

Main definitions:

* `ShaderEffect.Expr.Function.name` — the names of the functions;
* `ShaderEffect.Expr.Phrase`, `ShaderEffect.Expr.Derives` — **the grammar**;
* `ShaderEffect.Expr.calls` — the calls in an expression.

Main results:

* `ShaderEffect.Expr.Function.ofName?_eq_some_iff` — a name is understood as the function it is the
  name of;
* `ShaderEffect.Expr.Derives.starts` — what a phrase can start with.
-/

import Mathlib.Logic.Function.Iterate
import ShaderEffect.Proofs.Expr.Climbing

set_option autoImplicit false

namespace ShaderEffect.Expr

/-! ### Functions -/

/-- The name of a function. -/
def Function.name : Function → String
  | .unary .floor => "floor"
  | .unary .ceil => "ceil"
  | .unary .round => "round"
  | .unary .abs => "abs"
  | .unary .sqrt => "sqrt"
  | .binary .min => "min"
  | .binary .max => "max"
  | .binary .pow => "pow"
  | .clamp => "clamp"

/-- A name is understood as the function it is the name of, and no other name is. -/
theorem Function.ofName?_eq_some_iff {s : String} {f : Function} :
    Function.ofName? s = some f ↔ s = f.name := by
  constructor
  · intro h
    unfold Function.ofName? at h
    split at h <;> cases h <;> rfl
  · rintro rfl
    match f with
    | .unary g => cases g <;> rfl
    | .binary g => cases g <;> rfl
    | .clamp => rfl

/-! ### Derivations -/

/-- What tokens form. -/
inductive Phrase where
  | sum
  | product
  | signed
  | operand
  | atom
  deriving DecidableEq, Repr

/-- The tokens form a phrase that stands for a tree, and so many levels are open at once in it. -/
inductive Derives : Phrase → List Token → Expr → Nat → Prop where
  | number (v : Float) : Derives .atom [.number v] (.number v) 0
  | var (x : String) : Derives .atom [.var x] (.var x) 0
  | parens {ts : List Token} {e : Expr} {n : Nat} (h : Derives .sum ts e n) :
      Derives .atom (.lparen :: ts ++ [.rparen]) e n
  | unary (f : Unary) {ts : List Token} {a : Expr} {n : Nat} (h : Derives .sum ts a n) :
      Derives .atom (.ident (Function.unary f).name :: .lparen :: ts ++ [.rparen]) (.unary f a) n
  | binary (f : Binary) {ts us : List Token} {a b : Expr} {n m : Nat} (ha : Derives .sum ts a n)
      (hb : Derives .sum us b m) :
      Derives .atom (.ident (Function.binary f).name :: .lparen :: ts ++ .comma :: us ++ [.rparen])
        (.binary f a b) (max n m)
  | clamp {ts us vs : List Token} {a b c : Expr} {n m k : Nat} (ha : Derives .sum ts a n)
      (hb : Derives .sum us b m) (hc : Derives .sum vs c k) :
      Derives .atom (.ident Function.clamp.name :: .lparen :: ts ++ .comma :: us ++ .comma :: vs ++
        [.rparen]) (.clamp a b c) (max n (max m k))
  | operand {ts : List Token} {e : Expr} {n : Nat} (h : Derives .atom ts e n) (k : Nat) :
      Derives .operand (ts ++ List.replicate k .percent) (Expr.percent^[k] e) (max n k)
  | minus {ts : List Token} {e : Expr} {n : Nat} (h : Derives .signed ts e n) :
      Derives .signed (.minus :: ts) (.negate e) (n + 1)
  | plus {ts : List Token} {e : Expr} {n : Nat} (h : Derives .signed ts e n) :
      Derives .signed (.plus :: ts) e (n + 1)
  | unsigned {ts : List Token} {e : Expr} {n : Nat} (h : Derives .operand ts e n) :
      Derives .signed ts e (n + 1)
  | factor {ts : List Token} {e : Expr} {n : Nat} (h : Derives .signed ts e n) :
      Derives .product ts e n
  | times {ts us : List Token} {t : Token} {op : Arith} {l r : Expr} {n m : Nat}
      (hop : multiplicative? t = some op) (hl : Derives .product ts l n)
      (hr : Derives .signed us r m) : Derives .product (ts ++ t :: us) (.arith op l r) (max n m)
  | term {ts : List Token} {e : Expr} {n : Nat} (h : Derives .product ts e n) :
      Derives .sum ts e n
  | add {ts us : List Token} {t : Token} {op : Arith} {l r : Expr} {n m : Nat}
      (hop : additive? t = some op) (hl : Derives .sum ts l n)
      (hr : Derives .product us r m) : Derives .sum (ts ++ t :: us) (.arith op l r) (max n m)

/-! ### What phrases start with -/

/-- Whether a phrase can start with the token. -/
def Token.starts : Token → Bool
  | .number _ | .var _ | .ident _ | .plus | .minus | .lparen => true
  | _ => false

/-- Whether the token is a sign. -/
def Token.isSign : Token → Bool
  | .plus | .minus => true
  | _ => false

variable {p : Phrase} {ts : List Token} {e : Expr} {n : Nat}

/-- An atom starts with a token of its own, and no phrase starts otherwise, but for its signs. -/
theorem Derives.starts (h : Derives p ts e n) :
    ∃ t us, ts = t :: us ∧ t.starts ∧ (p = .atom ∨ p = .operand → t.isSign = false) := by
  induction h with
  | number v => exact ⟨_, _, rfl, rfl, fun _ => rfl⟩
  | var x => exact ⟨_, _, rfl, rfl, fun _ => rfl⟩
  | parens _ _ => exact ⟨_, _, rfl, rfl, fun _ => rfl⟩
  | unary _ _ _ => exact ⟨_, _, rfl, rfl, fun _ => rfl⟩
  | binary _ _ _ _ _ => exact ⟨_, _, rfl, rfl, fun _ => rfl⟩
  | clamp _ _ _ _ _ _ => exact ⟨_, _, rfl, rfl, fun _ => rfl⟩
  | operand _ _ ih =>
    obtain ⟨t, us, rfl, ht, hsign⟩ := ih
    exact ⟨t, _, rfl, ht, fun _ => hsign (Or.inl rfl)⟩
  | minus _ _ => exact ⟨_, _, rfl, rfl, by simp⟩
  | plus _ _ => exact ⟨_, _, rfl, rfl, by simp⟩
  | unsigned _ ih | factor _ ih | term _ ih =>
    obtain ⟨t, us, rfl, ht, -⟩ := ih
    exact ⟨t, us, rfl, ht, by simp⟩
  | times _ _ _ ih _ | add _ _ _ ih _ =>
    obtain ⟨t, us, rfl, ht, -⟩ := ih
    exact ⟨t, _, rfl, ht, by simp⟩

/-! ### Calls -/

/-- The calls in an expression, each with the function and its arguments. -/
def calls : Expr → List (Function × List Expr)
  | number _ | var _ => []
  | percent e | negate e => e.calls
  | arith _ l r => l.calls ++ r.calls
  | unary f a => (.unary f, [a]) :: a.calls
  | binary f a b => (.binary f, [a, b]) :: (a.calls ++ b.calls)
  | clamp a b c => (.clamp, [a, b, c]) :: (a.calls ++ b.calls ++ c.calls)

/-- A call has as many arguments as its function takes, so that there is such a call. -/
theorem isSome_call?_of_mem_calls {f : Function} {args : List Expr} (h : (f, args) ∈ e.calls) :
    (call? f args).isSome := by
  induction e with
  | number _ | var _ => simp [calls] at h
  | percent e ih | negate e ih => exact ih h
  | arith _ l r ihl ihr => exact (List.mem_append.1 h).elim ihl ihr
  | unary g a ih =>
    rcases List.mem_cons.1 h with h | h
    · cases h
      rfl
    · exact ih h
  | binary g a b iha ihb =>
    rcases List.mem_cons.1 h with h | h
    · cases h
      rfl
    · exact (List.mem_append.1 h).elim iha ihb
  | clamp a b c iha ihb ihc =>
    rcases List.mem_cons.1 h with h | h
    · cases h
      rfl
    · exact (List.mem_append.1 h).elim (fun h => (List.mem_append.1 h).elim iha ihb) ihc

end ShaderEffect.Expr
