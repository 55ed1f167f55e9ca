/-
**The written form of a double.**

The digits of a double are selected by `ShaderEffect.Decimal.shortest`; a `Layout` says how they
are set out.  Two layouts are in use: one for metadata values, one for tokens in error messages.

Main definitions:

* `ShaderEffect.Decimal.Layout` — the decisions of a format;
* `ShaderEffect.Decimal.Layout.render` — the text of a double.
-/

import ShaderEffect.Decimal.Shortest

set_option autoImplicit false

namespace ShaderEffect.Decimal

/-- The decisions of a written form. -/
structure Layout where
  /-- The least power of ten of the leading digit that is written without an exponent. -/
  plainFrom : Int
  /-- The least greater one that is written with an exponent. -/
  plainBelow : Int
  /-- Whether a non-negative exponent has a sign. -/
  exponentPlus : Bool
  /-- Which of two equally near decimal numbers is written. -/
  tie : Tie
  deriving Repr

/-- So many zeros. -/
def zeros (n : Nat) : String := String.ofList (List.replicate n '0')

/-- The digits around a point, with at least one digit on each side. -/
def plainText (digits : String) (point : Int) : String :=
  if point ≤ 0 then "0." ++ zeros (-point).toNat ++ digits
  else if (digits.length : Int) ≤ point then
    digits ++ zeros (point - digits.length).toNat ++ ".0"
  else
    let cs := digits.toList
    String.ofList (cs.take point.toNat) ++ "." ++ String.ofList (cs.drop point.toNat)

/-- One digit before the point, the others after it, and the exponent. -/
def scientificText (plus : Bool) (digits : String) (exponent : Int) : String :=
  let lead := match digits.toList with
    | [] => ""
    | [c] => String.singleton c
    | c :: cs => String.singleton c ++ "." ++ String.ofList cs
  let sign := if exponent < 0 then "-" else if plus then "+" else ""
  lead ++ "e" ++ sign ++ toString exponent.natAbs

/-- The text of a selected decimal number. -/
def Layout.renderDigits (l : Layout) (d : Digits) : String :=
  let digits := toString d.digits
  let lead : Int := d.exponent + digits.length - 1
  if l.plainFrom ≤ lead ∧ lead < l.plainBelow then plainText digits (lead + 1)
  else scientificText l.exponentPlus digits lead

/-- The text of a double. -/
def Layout.render (l : Layout) (x : Float) : String :=
  if x.isNaN then "NaN"
  else
    let sign := if isNegative x then "-" else ""
    if x.isInf then sign ++ "inf"
    else if (magnitude x).significand = 0 then sign ++ "0.0"
    else sign ++ l.renderDigits (shortest l.tie (magnitude x))

end ShaderEffect.Decimal
