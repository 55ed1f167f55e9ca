/-
**The fewest decimal digits that identify a double.**

The reals that are read as a given double form an interval around it.  Of the decimal grids, from
coarse to fine, the first one with a point in the interval is taken, and on it the point nearest to
the double.

Main definitions:

* `ShaderEffect.Decimal.Digits` — the number `digits * 10 ^ exponent`;
* `ShaderEffect.Decimal.Dyadic.readsBack` — whether a decimal number lies in the interval;
* `ShaderEffect.Decimal.shortest` — the selected decimal number.
-/

import ShaderEffect.Decimal.Double

set_option autoImplicit false

namespace ShaderEffect.Decimal

/-- The number `digits * 10 ^ exponent`. -/
structure Digits where
  /-- The digits, as one whole number. -/
  digits : Nat
  /-- The power of ten of the last digit. -/
  exponent : Int
  deriving DecidableEq, Repr

/-- Which of two equally near decimal numbers is taken. -/
inductive Tie where
  /-- The one that ends in an even digit. -/
  | toEven
  /-- The larger one. -/
  | upward
  deriving DecidableEq, Repr

/-- Compares `a * 10 ^ i` with `b * 2 ^ j`. -/
def compareScaled (a : Nat) (i : Int) (b : Nat) (j : Int) : Ordering :=
  compare (a * Nat.pow 10 i.toNat * Nat.pow 2 (-j).toNat)
    (b * Nat.pow 2 j.toNat * Nat.pow 10 (-i).toNat)

/-- Whether the gap below the number is half the gap above it: a power of two above the least
exponent. -/
def Dyadic.narrowBelow (x : Dyadic) : Bool :=
  x.significand == Nat.pow 2 52 && decide (-1074 < x.exponent)

/-- Whether `d` is read as `x`: it lies between the midpoints to the two neighbours of `x`, and a
midpoint itself belongs to the even neighbour. -/
def Dyadic.readsBack (x : Dyadic) (d : Digits) : Bool :=
  let low := 4 * x.significand - if x.narrowBelow then 1 else 2
  let high := 4 * x.significand + 2
  let even := x.significand % 2 == 0
  let toLow := compareScaled d.digits d.exponent low (x.exponent - 2)
  let toHigh := compareScaled d.digits d.exponent high (x.exponent - 2)
  (toLow == .gt || (even && toLow == .eq)) && (toHigh == .lt || (even && toHigh == .eq))

/-- The point of the grid `10 ^ g` that is read as `x` and nearest to it, if there is one.  Only the
two neighbours of `x` on the grid can be. -/
def Dyadic.onGrid? (tie : Tie) (x : Dyadic) (g : Int) : Option Digits :=
  let num := x.num * Nat.pow 10 (-g).toNat
  let den := x.den * Nat.pow 10 g.toNat
  let below : Digits := ⟨num / den, g⟩
  let above : Digits := ⟨num / den + 1, g⟩
  match x.readsBack below, x.readsBack above with
  | false, false => none
  | true, false => some below
  | false, true => some above
  | true, true =>
    let r := 2 * (num % den)
    if r < den then some below
    else if den < r then some above
    else match tie with
      | .upward => some above
      | .toEven => if below.digits % 2 = 0 then some below else some above

/-- A grid too coarse to have a point near `x`. -/
def Dyadic.coarseGrid (x : Dyadic) : Int :=
  ((x.significand.log2 : Int) + x.exponent) * 3 / 10 + 2

/-- A decimal number with the fewest digits that is read as `x`, the nearest of these.  The search
runs over the grids from coarse to fine; were none found, the exact value would be given. -/
def shortest (tie : Tie) (x : Dyadic) : Digits :=
  if x.significand = 0 then ⟨0, 0⟩
  else
    ((List.range 24).findSome? fun (i : Nat) => x.onGrid? tie (x.coarseGrid - (i : Int))).getD
      ⟨x.num * Nat.pow 5 (-x.exponent).toNat, min x.exponent 0⟩

end ShaderEffect.Decimal
