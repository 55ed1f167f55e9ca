/-
**Doubles as exact numbers.**

A finite double is a whole number times a power of two.  This module takes a double apart into
the two, and puts the double nearest to a given fraction together, in exact arithmetic on natural
numbers.

Main definitions:

* `ShaderEffect.Decimal.Dyadic`, `ShaderEffect.Decimal.magnitude` — the exact absolute value of a
  finite double;
* `ShaderEffect.Decimal.roundHalfUp`, `ShaderEffect.Decimal.roundHalfEven` — a fraction rounded to
  a whole number;
* `ShaderEffect.Decimal.nearestBits`, `ShaderEffect.Decimal.ofFraction` — the double nearest to a
  fraction;
* `ShaderEffect.Decimal.roundToInt` — a double rounded to a whole number, halves away from zero.

Main results:

* `ShaderEffect.Decimal.roundHalfUp_le`, `ShaderEffect.Decimal.lt_roundHalfUp` — a fraction is
  rounded to the whole number within half a unit, and a half goes up.
-/

set_option autoImplicit false

namespace ShaderEffect.Decimal

/-! ### Taking a double apart -/

/-- The number `significand * 2 ^ exponent`. -/
structure Dyadic where
  /-- The whole number. -/
  significand : Nat
  /-- The power of two it is multiplied by. -/
  exponent : Int
  deriving DecidableEq, Repr

/-- Whether the sign bit is set. -/
def isNegative (x : Float) : Bool := x.toBits.toNat / Nat.pow 2 63 == 1

/-- The exact absolute value of a finite double. -/
def magnitude (x : Float) : Dyadic :=
  let exponent : Nat := x.toBits.toNat / Nat.pow 2 52 % Nat.pow 2 11
  let fraction : Nat := x.toBits.toNat % Nat.pow 2 52
  if exponent = 0 then ⟨fraction, -1074⟩ else ⟨Nat.pow 2 52 + fraction, (exponent : Int) - 1075⟩

/-- The numerator of a dyadic number over `Dyadic.den`. -/
def Dyadic.num (d : Dyadic) : Nat := d.significand * Nat.pow 2 d.exponent.toNat

/-- A power of two. -/
def Dyadic.den (d : Dyadic) : Nat := Nat.pow 2 (-d.exponent).toNat

/-! ### Rounding fractions -/

/-- `num / den` rounded to the nearest whole number, a half upwards. -/
def roundHalfUp (num den : Nat) : Nat := (2 * num + den) / (2 * den)

/-- `num / den` rounded to the nearest whole number, a half to the even neighbour. -/
def roundHalfEven (num den : Nat) : Nat :=
  let q := num / den
  let r := num % den
  if 2 * r < den then q
  else if den < 2 * r then q + 1
  else if q % 2 = 0 then q else q + 1

/-- The rounded value is at most half a unit too large. -/
theorem roundHalfUp_le {num den : Nat} : 2 * den * roundHalfUp num den ≤ 2 * num + den :=
  Nat.mul_div_le _ _

/-- The rounded value is less than half a unit too small, so a half goes up. -/
theorem lt_roundHalfUp {num den : Nat} (h : 0 < den) :
    2 * num < 2 * den * roundHalfUp num den + den := by
  have h2 : 0 < 2 * den := by omega
  have := Nat.lt_mul_div_succ (2 * num + den) h2
  rw [Nat.mul_add, Nat.mul_one] at this
  unfold roundHalfUp
  omega

/-! ### Putting a double together -/

/-- The power of two of the leading binary digit of `num / den`. -/
def leadingBit (num den : Nat) : Int :=
  let e : Int := (num.log2 : Int) - (den.log2 : Int)
  if num * Nat.pow 2 (-e).toNat < den * Nat.pow 2 e.toNat then e - 1 else e

/-- The bits of the double nearest to `num / den`, ties to the even neighbour.  A significand that
rounds up to the next power of two carries into the exponent, and what lies beyond the largest
double is infinite. -/
def nearestBits (num den : Nat) : Nat :=
  if num = 0 then 0
  else
    let q : Int := max (leadingBit num den - 52) (-1074)
    let m := roundHalfEven (num * Nat.pow 2 (-q).toNat) (den * Nat.pow 2 q.toNat)
    min ((q + 1074).toNat * Nat.pow 2 52 + m) (2047 * Nat.pow 2 52)

/-- The double nearest to the fraction `num / den`, with the given sign. -/
def ofFraction (negative : Bool) (num den : Nat) : Float :=
  Float.ofBits (UInt64.ofNat (nearestBits num den + if negative then Nat.pow 2 63 else 0))

/-! ### Rounding a double to a whole number -/

/-- The whole number nearest to a finite double, a half away from zero. -/
def roundToInt (x : Float) : Int :=
  let d := magnitude x
  let n : Int := roundHalfUp d.num d.den
  if isNegative x then -n else n

end ShaderEffect.Decimal
