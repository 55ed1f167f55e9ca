/-
**The compact text of a free-form value.**

A value is written without blanks.  In strings, quotes, backslashes and control characters are
escaped and nothing else is.

Main definitions:

* `ShaderEffect.Json.quote` — a string with its quotes;
* `ShaderEffect.Json.compact` — the text of a value;
* `ShaderEffect.Json.plainText` — the same, but a string stands for itself.
-/

import ShaderEffect.Json.Value
import ShaderEffect.Decimal.Layout

set_option autoImplicit false

namespace ShaderEffect.Json

/-- Numbers are positional from `10 ^ -5` up to, but not including, `10 ^ 16`, and exponents have a
sign. -/
def numberLayout : Decimal.Layout := ⟨-5, 16, true, .toEven⟩

/-- The text of a number. -/
def Number.compact : Number → String
  | whole n => toString n
  | decimal x => numberLayout.render x

/-- A character as it stands inside quotes. -/
def escape (c : Char) : List Char :=
  if c = '"' then ['\\', '"']
  else if c = '\\' then ['\\', '\\']
  else if c.toNat = 8 then ['\\', 'b']
  else if c.toNat = 9 then ['\\', 't']
  else if c.toNat = 10 then ['\\', 'n']
  else if c.toNat = 12 then ['\\', 'f']
  else if c.toNat = 13 then ['\\', 'r']
  else if c.toNat < 32 then
    ['\\', 'u', '0', '0', Nat.digitChar (c.toNat / 16), Nat.digitChar (c.toNat % 16)]
  else [c]

/-- A string with its quotes. -/
def quote (s : String) : String := String.ofList ('"' :: s.toList.flatMap escape ++ ['"'])

mutual

/-- The text of a value. -/
def compact : Json → String
  | null => "null"
  | bool b => if b then "true" else "false"
  | number n => n.compact
  | text s => quote s
  | array items => "[" ++ compactItems items ++ "]"
  | object members => "\x7b" ++ compactMembers members ++ "\x7d"

/-- The texts of items, with commas between them. -/
def compactItems : List Json → String
  | [] => ""
  | [v] => v.compact
  | v :: vs => v.compact ++ "," ++ compactItems vs

/-- The texts of members, with commas between them. -/
def compactMembers : List (String × Json) → String
  | [] => ""
  | [(k, v)] => quote k ++ ":" ++ v.compact
  | (k, v) :: ms => quote k ++ ":" ++ v.compact ++ "," ++ compactMembers ms

end

/-- The text of a value where text is wanted: a string stands for itself. -/
def plainText : Json → String
  | text s => s
  | v => v.compact

end ShaderEffect.Json
