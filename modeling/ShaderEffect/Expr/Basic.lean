/-
**Size expressions as trees.**

Main definitions:

* `ShaderEffect.Expr.Function` — the named functions and their numbers of arguments;
* `ShaderEffect.Expr` — numbers, variables, percentages, signs, arithmetic and calls;
* `ShaderEffect.Expr.call?` — a call of a function, which exists for the right number of arguments
  only;
* `ShaderEffect.Expr.reads` — the names an expression reads, from left to right.
-/

set_option autoImplicit false

namespace ShaderEffect

/-- The four operations of arithmetic. -/
inductive Arith where
  | add
  | sub
  | mul
  | div
  deriving DecidableEq, Repr

/-- How tightly an operation binds its operands. -/
def Arith.precedence : Arith → Nat
  | add | sub => 1
  | mul | div => 2

/-- The functions of one argument. -/
inductive Unary where
  | floor
  | ceil
  | round
  | abs
  | sqrt
  deriving DecidableEq, Repr

/-- The functions of two arguments. -/
inductive Binary where
  | min
  | max
  | pow
  deriving DecidableEq, Repr

/-- A size expression. -/
inductive Expr where
  | number (value : Float)
  | var (name : String)
  /-- So many hundredths of the axis. -/
  | percent (e : Expr)
  | negate (e : Expr)
  | arith (op : Arith) (left right : Expr)
  | unary (f : Unary) (e : Expr)
  | binary (f : Binary) (first second : Expr)
  /-- The first argument, raised to the second and then lowered to the third. -/
  | clamp (e low high : Expr)
  deriving DecidableEq

namespace Expr

/-- A function that has a name. -/
inductive Function where
  | unary (f : Unary)
  | binary (f : Binary)
  | clamp
  deriving DecidableEq, Repr

/-- The function of a name. -/
def Function.ofName? : String → Option Function
  | "floor" => some (.unary .floor)
  | "ceil" => some (.unary .ceil)
  | "round" => some (.unary .round)
  | "abs" => some (.unary .abs)
  | "sqrt" => some (.unary .sqrt)
  | "min" => some (.binary .min)
  | "max" => some (.binary .max)
  | "pow" => some (.binary .pow)
  | "clamp" => some .clamp
  | _ => none

/-- How many arguments a function takes. -/
def Function.arity : Function → Nat
  | unary _ => 1
  | binary _ => 2
  | clamp => 3

/-- The call of a function on a list of arguments of the right length. -/
def call? : Function → List Expr → Option Expr
  | .unary f, [a] => some (.unary f a)
  | .binary f, [a, b] => some (.binary f a b)
  | .clamp, [a, b, c] => some (.clamp a b c)
  | _, _ => none

/-- A call exists exactly for as many arguments as the function takes. -/
theorem call?_isSome {f : Function} {args : List Expr} :
    (call? f args).isSome ↔ args.length = f.arity := by
  match f, args with
  | .unary _, [] => simp [call?, Function.arity]
  | .unary _, [_] => simp [call?, Function.arity]
  | .unary _, _ :: _ :: _ => simp [call?, Function.arity]
  | .binary _, [] => simp [call?, Function.arity]
  | .binary _, [_] => simp [call?, Function.arity]
  | .binary _, [_, _] => simp [call?, Function.arity]
  | .binary _, _ :: _ :: _ :: _ => simp [call?, Function.arity]
  | .clamp, [] => simp [call?, Function.arity]
  | .clamp, [_] => simp [call?, Function.arity]
  | .clamp, [_, _] => simp [call?, Function.arity]
  | .clamp, [_, _, _] => simp [call?, Function.arity]
  | .clamp, _ :: _ :: _ :: _ :: _ => simp [call?, Function.arity]

/-- The names of the variables an expression reads, from left to right, with repetitions. -/
def reads : Expr → List String
  | number _ => []
  | var name => [name]
  | percent e => e.reads
  | negate e => e.reads
  | arith _ l r => l.reads ++ r.reads
  | unary _ e => e.reads
  | binary _ a b => a.reads ++ b.reads
  | clamp a b c => a.reads ++ b.reads ++ c.reads

end Expr

end ShaderEffect
