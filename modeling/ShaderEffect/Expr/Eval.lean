/-
**The value of a size expression.**

An expression has a value on an axis in an environment, unless it reads an unknown variable or
divides by zero.  Operands are evaluated from left to right.

Main definitions:

* `ShaderEffect.Expr.EvalFault` — why an expression has no value;
* `ShaderEffect.Expr.eval` — the value of an expression;
* `ShaderEffect.Expr.toPixels` — a value as a number of pixels.

Main results:

* `ShaderEffect.Expr.toNat_toPixels` — a number of pixels is the nearest one from one on.
-/

import ShaderEffect.Expr.Basic
import ShaderEffect.Expr.Environment
import ShaderEffect.Decimal.Double

set_option autoImplicit false

namespace ShaderEffect

/-! ### The functions -/

/-- The smaller of two numbers, and of two zeros the second; what is not a number is ignored. -/
def lesser (a b : Float) : Float :=
  if a.isNaN then b else if b.isNaN then a else if a < b then a else b

/-- The larger of two numbers, and of two zeros the second; what is not a number is ignored. -/
def greater (a b : Float) : Float :=
  if a.isNaN then b else if b.isNaN then a else if b < a then a else b

/-- What a function of one argument computes. -/
def Unary.apply : Unary → Float → Float
  | floor, x => x.floor
  | ceil, x => x.ceil
  | round, x => x.round
  | abs, x => x.abs
  | sqrt, x => x.sqrt

/-- What a function of two arguments computes. -/
def Binary.apply : Binary → Float → Float → Float
  | min, x, y => lesser x y
  | max, x, y => greater x y
  | pow, x, y => x.pow y

namespace Expr

/-- Why an expression has no value. -/
inductive EvalFault where
  /-- A variable that the environment does not know. -/
  | unknownVariable (name : String)
  /-- A divisor that is zero. -/
  | divisionByZero
  /-- A value that is infinite or not a number. -/
  | notFinite (value : Float)
  deriving DecidableEq

/-- What an operation of arithmetic computes. -/
def applyArith : Arith → Float → Float → Except EvalFault Float
  | .add, x, y => .ok (x + y)
  | .sub, x, y => .ok (x - y)
  | .mul, x, y => .ok (x * y)
  | .div, x, y => if y == 0.0 then .error .divisionByZero else .ok (x / y)

/-- The value of an expression on an axis. -/
def eval (env : Environment) (axis : Axis) : Expr → Except EvalFault Float
  | number v => .ok v
  | var x =>
    match env.get? x with
    | some v => .ok v
    | none => .error (.unknownVariable x)
  | percent e => do
    let v ← e.eval env axis
    return v * env.extent axis / 100.0
  | negate e => do
    let v ← e.eval env axis
    return -v
  | arith op l r => do
    let x ← l.eval env axis
    let y ← r.eval env axis
    applyArith op x y
  | unary f e => do
    let v ← e.eval env axis
    return f.apply v
  | binary f a b => do
    let x ← a.eval env axis
    let y ← b.eval env axis
    return f.apply x y
  | clamp a b c => do
    let x ← a.eval env axis
    let low ← b.eval env axis
    let high ← c.eval env axis
    return lesser (greater x low) high

/-- The value of an expression if it is finite. -/
def finiteValue (env : Environment) (axis : Axis) (e : Expr) : Except EvalFault Float := do
  let v ← e.eval env axis
  if v.isFinite then return v else throw (.notFinite v)

/-- The largest number of pixels along an axis. -/
def maxPixels : Nat := UInt32.size - 1

/-- A finite value as a number of pixels: the nearest whole number, a half upwards, kept between one
and the largest extent. -/
def toPixels (v : Float) : UInt32 :=
  UInt32.ofNat (max 1 (min maxPixels (Decimal.roundToInt v).toNat))

theorem toNat_toPixels (v : Float) :
    (toPixels v).toNat = max 1 (min maxPixels (Decimal.roundToInt v).toNat) := by
  unfold toPixels
  rw [UInt32.toNat_ofNat']
  apply Nat.mod_eq_of_lt
  have hsize : UInt32.size = 4294967296 := rfl
  unfold maxPixels
  omega

end Expr

end ShaderEffect
