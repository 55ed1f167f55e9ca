/-
**The grammar of size expressions.**

    sum     := product (('+' | '-') product)*
    product := signed (('*' | '/') signed)*
    signed  := ('+' | '-') signed | atom '%'*
    atom    := number | variable | '(' sum ')' | name '(' [sum (',' sum)*] ')'

Sums and products are read by one loop, which climbs from operators that bind loosely to those that
bind more tightly.  A sign, the inside of a parenthesis and a percent sign each open a level, and so
does an atom itself; no more than `ShaderEffect.Expr.maxLevels` may be open at once.  The readers
recurse on the number of levels that are left, and their loops on the tokens that are left.

Main definitions:

* `ShaderEffect.Expr.SyntaxFault` — why tokens form no expression;
* `ShaderEffect.Expr.climb`, `ShaderEffect.Expr.signedOf` — the readers;
* `ShaderEffect.Expr.parseTokens` — the expression that a list of tokens forms.
-/

import ShaderEffect.Expr.Basic
import ShaderEffect.Expr.Token

set_option autoImplicit false

namespace ShaderEffect.Expr

/-- How many levels may be open at once. -/
def maxLevels : Nat := 256

/-- Why a list of tokens is not an expression. -/
inductive SyntaxFault where
  /-- There are no tokens. -/
  | empty
  /-- Another token, or the end, stands where `wanted` has to. -/
  | expected (wanted : Token) (found : Option Token)
  /-- There is no function of this name. -/
  | unknownFunction (name : String)
  /-- A function has another number of arguments. -/
  | wrongArity (name : String) (arity : Nat) (given : Nat)
  /-- No operand starts with this token. -/
  | unexpected (found : Token)
  /-- An operand is missing at the end. -/
  | unexpectedEnd
  /-- A token follows a complete expression. -/
  | trailing (found : Token)
  /-- Too many levels are open. -/
  | tooDeep
  deriving DecidableEq

/-- A reader of something that starts at the front of a list of tokens. -/
abbrev Reader (α : Type) : Type := (ts : List Token) → Except SyntaxFault (Reading α ts)

/-! ### Operators -/

/-- The operation that a token stands for between operands. -/
def operator? : Token → Option Arith
  | .plus => some .add
  | .minus => some .sub
  | .star => some .mul
  | .slash => some .div
  | _ => none

mutual

/-- An operand, and what the operators behind it that bind more tightly than `level` join to it. -/
def climb (signed : Reader Expr) (level : Nat) : Reader Expr := fun ts =>
  match signed ts with
  | .error fault => .error fault
  | .ok r =>
    match infixes signed level r.value r.rest with
    | .error fault => .error fault
    | .ok (e, ⟨rest, h⟩) => .ok ⟨e, rest, Nat.lt_of_le_of_lt h r.shorter⟩
termination_by ts => ts.length
decreasing_by exact r.shorter

/-- What the operators that bind more tightly than `level` join to `left`.  What stands behind an
operator goes on as long as its operators bind more tightly than that one. -/
def infixes (signed : Reader Expr) (level : Nat) (left : Expr) :
    (ts : List Token) → Except SyntaxFault (Expr × { rest : List Token // rest.length ≤ ts.length })
  | [] => .ok (left, ⟨[], Nat.le_refl _⟩)
  | t :: ts =>
    match operator? t with
    | none => .ok (left, ⟨t :: ts, Nat.le_refl _⟩)
    | some op =>
      if level < op.precedence then
        match climb signed op.precedence ts with
        | .error fault => .error fault
        | .ok r =>
          match infixes signed level (.arith op left r.value) r.rest with
          | .error fault => .error fault
          | .ok (e, ⟨rest, h⟩) =>
            .ok (e, ⟨rest, Nat.le_succ_of_le (Nat.le_trans h (Nat.le_of_lt r.shorter))⟩)
      else .ok (left, ⟨t :: ts, Nat.le_refl _⟩)
termination_by ts => ts.length
decreasing_by
  · exact Nat.lt_succ_self _
  · exact Nat.lt_succ_of_lt r.shorter

end

/-- An operand and all that operators join to it. -/
def sumOf (signed : Reader Expr) : Reader Expr := climb signed 0

/-! ### Atoms -/

/-- The token `wanted`. -/
def expect (wanted : Token) : Reader Unit
  | [] => .error (.expected wanted none)
  | t :: _ => if t = wanted then .ok (.ofHead ()) else .error (.expected wanted t)

/-- The arguments after the first one, each behind a comma. -/
def moreArguments (argument : Reader Expr) :
    (ts : List Token) →
      Except SyntaxFault (List Expr × { rest : List Token // rest.length ≤ ts.length })
  | .comma :: ts =>
    match argument ts with
    | .error fault => .error fault
    | .ok r =>
      match moreArguments argument r.rest with
      | .error fault => .error fault
      | .ok (es, ⟨rest, h⟩) =>
        .ok (r.value :: es, ⟨rest, Nat.le_succ_of_le (Nat.le_trans h (Nat.le_of_lt r.shorter))⟩)
  | ts => .ok ([], ⟨ts, Nat.le_refl _⟩)
termination_by ts => ts.length
decreasing_by exact Nat.lt_succ_of_lt r.shorter

/-- The arguments of a call, and the parenthesis that closes it. -/
def arguments (argument : Reader Expr) : Reader (List Expr)
  | .rparen :: _ => .ok (.ofHead [])
  | ts =>
    match argument ts with
    | .error fault => .error fault
    | .ok r =>
      match moreArguments argument r.rest with
      | .error fault => .error fault
      | .ok (es, ⟨rest, h⟩) =>
        match expect .rparen rest with
        | .error fault => .error fault
        | .ok close =>
          .ok ⟨r.value :: es, close.rest,
            Nat.lt_trans close.shorter (Nat.lt_of_le_of_lt h r.shorter)⟩

/-- The rest of a call, after the name of its function. -/
def callOf (sum : Reader Expr) (name : String) : Reader Expr := fun ts =>
  match Function.ofName? name with
  | none => .error (.unknownFunction name)
  | some f =>
    match expect .lparen ts with
    | .error fault => .error fault
    | .ok opening =>
      match arguments sum opening.rest with
      | .error fault => .error fault
      | .ok r =>
        match call? f r.value with
        | none => .error (.wrongArity name f.arity r.value.length)
        | some e => .ok ⟨e, r.rest, Nat.lt_trans r.shorter opening.shorter⟩

/-- A number, a variable, a parenthesis or a call. -/
def atomOf (sum : Reader Expr) : Reader Expr
  | [] => .error .unexpectedEnd
  | .number v :: _ => .ok (.ofHead (.number v))
  | .var x :: _ => .ok (.ofHead (.var x))
  | .lparen :: ts =>
    match sum ts with
    | .error fault => .error fault
    | .ok r =>
      match expect .rparen r.rest with
      | .error fault => .error fault
      | .ok close =>
        .ok ⟨r.value, close.rest, Nat.lt_trans close.shorter (Nat.lt_succ_of_lt r.shorter)⟩
  | .ident name :: ts =>
    match callOf sum name ts with
    | .error fault => .error fault
    | .ok r => .ok ⟨r.value, r.rest, Nat.lt_succ_of_lt r.shorter⟩
  | t :: _ => .error (.unexpected t)

/-- The percent signs after an operand, no more than there are levels left. -/
def percents (levels : Nat) (e : Expr) :
    (ts : List Token) → Except SyntaxFault (Expr × { rest : List Token // rest.length ≤ ts.length })
  | .percent :: ts =>
    match levels with
    | 0 => .error .tooDeep
    | n + 1 =>
      match percents n (.percent e) ts with
      | .error fault => .error fault
      | .ok (e', ⟨rest, h⟩) => .ok (e', ⟨rest, Nat.le_succ_of_le h⟩)
  | ts => .ok (e, ⟨ts, Nat.le_refl _⟩)

/-! ### Signed operands -/

/-- A signed operand, with so many levels left. -/
def signedOf : Nat → Reader Expr
  | 0, _ => .error .tooDeep
  | n + 1, .minus :: ts =>
    match signedOf n ts with
    | .error fault => .error fault
    | .ok r => .ok ⟨.negate r.value, r.rest, Nat.lt_succ_of_lt r.shorter⟩
  | n + 1, .plus :: ts =>
    match signedOf n ts with
    | .error fault => .error fault
    | .ok r => .ok ⟨r.value, r.rest, Nat.lt_succ_of_lt r.shorter⟩
  | n + 1, ts =>
    match atomOf (sumOf (signedOf n)) ts with
    | .error fault => .error fault
    | .ok r =>
      match percents n r.value r.rest with
      | .error fault => .error fault
      | .ok (e, ⟨rest, h⟩) => .ok ⟨e, rest, Nat.lt_of_le_of_lt h r.shorter⟩

/-- The expression that a list of tokens forms. -/
def parseTokens (ts : List Token) : Except SyntaxFault Expr :=
  if ts.isEmpty then .error .empty
  else
    match sumOf (signedOf maxLevels) ts with
    | .error fault => .error fault
    | .ok r =>
      match r.rest with
      | [] => .ok r.value
      | t :: _ => .error (.trailing t)

end ShaderEffect.Expr
