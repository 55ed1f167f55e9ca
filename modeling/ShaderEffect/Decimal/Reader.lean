/-
**Reading decimal numbers.**

A decimal number is a whole number times a power of ten; it is read as the double nearest to it.

Main definitions:

* `ShaderEffect.Decimal.ofDigits` — the value of a run of decimal digits;
* `ShaderEffect.Decimal.ofDecimal` — the double nearest to `digits * 10 ^ exponent`;
* `ShaderEffect.Decimal.read?` — the double written as digits, an optional point, and an optional
  exponent.
-/

import ShaderEffect.Decimal.Double

set_option autoImplicit false

namespace ShaderEffect.Decimal

/-- Whether `c` is one of the ten digits. -/
def isDigit (c : Char) : Bool := '0' ≤ c && c ≤ '9'

/-- The value of a digit. -/
def digitValue (c : Char) : Nat := c.toNat - 48

/-- The whole number written by a run of digits, most significant first. -/
def ofDigits (cs : List Char) : Nat := cs.foldl (fun n c => 10 * n + digitValue c) 0

/-- The double nearest to `digits * 10 ^ exponent`.  Beyond `10 ^ 400` every number is infinite, and
below `10 ^ -330` every number is zero, so no larger power is ever computed. -/
def ofDecimal (negative : Bool) (digits : Nat) (exponent : Int) : Float :=
  if digits = 0 then ofFraction negative 0 1
  else if 400 < exponent then ofFraction negative (Nat.pow 10 400) 1
  else if exponent + (digits.log2 / 3 + 1 : Nat) < -330 then ofFraction negative 0 1
  else ofFraction negative (digits * Nat.pow 10 exponent.toNat) (Nat.pow 10 (-exponent).toNat)

/-- The exponent after its mark: an optional sign and digits. -/
def readExponent? : List Char → Option Int
  | '+' :: ds => if ds.all isDigit && !ds.isEmpty then some (ofDigits ds) else none
  | '-' :: ds => if ds.all isDigit && !ds.isEmpty then some (-(ofDigits ds : Int)) else none
  | ds => if ds.all isDigit && !ds.isEmpty then some (ofDigits ds) else none

/-- The exponent at the end of a number: none is zero. -/
def readSuffix? : List Char → Option Int
  | [] => some 0
  | c :: cs => if c = 'e' ∨ c = 'E' then readExponent? cs else none

/-- The double written as digits with at most one point among or around them, and an optional
exponent.  At least one digit stands before the exponent. -/
def read? (cs : List Char) : Option Float :=
  let whole := cs.takeWhile isDigit
  match cs.dropWhile isDigit with
  | '.' :: r =>
    let fraction := r.takeWhile isDigit
    if whole.isEmpty && fraction.isEmpty then none
    else (readSuffix? (r.dropWhile isDigit)).map fun e =>
      ofDecimal false (ofDigits (whole ++ fraction)) (e - fraction.length)
  | r =>
    if whole.isEmpty then none
    else (readSuffix? r).map fun e => ofDecimal false (ofDigits whole) e

end ShaderEffect.Decimal
