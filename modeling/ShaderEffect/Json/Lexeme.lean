/-
**Strings, numbers and keywords of a metadata text.**

Each reader here takes one lexeme off the front of a list of characters, or finds it malformed.
Values that are kept are read strictly; values that are skipped are only looked over, so a lone
surrogate or a number out of range does not matter there.

Main definitions:

* `ShaderEffect.Json.Reader`, `ShaderEffect.Json.Front` — a reader of characters, and one of which
  the first character has been seen;
* `ShaderEffect.Json.stringBody`, `ShaderEffect.Json.skipStringBody` — what follows an opening
  quote;
* `ShaderEffect.Json.numeral`, `ShaderEffect.Json.Numeral.value?` — a number as written, and its
  value;
* `ShaderEffect.Json.keyword` — a fixed word.
-/

import ShaderEffect.Reading
import ShaderEffect.Json.Fault
import ShaderEffect.Text.Front
import ShaderEffect.Decimal.Reader

set_option autoImplicit false

namespace ShaderEffect.Json

open Decimal (isDigit ofDigits digitValue)

/-- A reader of something that starts at the front of a text. -/
abbrev Reader (α : Type) : Type := (cs : List Char) → Except Fault (Reading α cs)

/-- A reader of something that starts with the character `c`. -/
abbrev Front (α : Type) : Type :=
  (c : Char) → (cs : List Char) → Except Fault (Reading α (c :: cs))

/-! ### Blanks and keywords -/

/-- Whether a character separates lexemes. -/
def isSpace (c : Char) : Bool := c == ' ' || c == '\n' || c == '\t' || c == '\r'

/-- The text after its leading blanks. -/
def skipSpace (cs : List Char) : List Char := cs.dropWhile isSpace

theorem length_skipSpace_le (cs : List Char) : (skipSpace cs).length ≤ cs.length :=
  (List.dropWhile_suffix _).length_le

theorem length_le_of_skipSpace {cs rest : List Char} {c : Char} (h : skipSpace cs = c :: rest) :
    (c :: rest).length ≤ cs.length := h ▸ length_skipSpace_le cs

/-- What starts with the first character that is not blank. -/
def spaced {α : Type} (front : Front α) : Reader α := fun cs =>
  match h : skipSpace cs with
  | [] => .error .malformed
  | c :: rest =>
    match front c rest with
    | .error fault => .error fault
    | .ok r => .ok (r.after (length_le_of_skipSpace h))

/-- The rest of a fixed word, of which the first letter has been seen. -/
def keyword {α : Type} (value : α) (word : List Char) : Front α := fun _ cs =>
  match h : Text.after? word cs with
  | none => .error .malformed
  | some rest => .ok ⟨value, rest, Nat.lt_succ_of_le (Text.length_after?_le h)⟩

/-- What `body` reads after a character that has been seen, with another value. -/
def inside {α β : Type} (body : Reader α) (f : α → β) : Front β := fun c cs =>
  match body cs with
  | .error fault => .error fault
  | .ok r => .ok ((r.map f).behind c)

/-! ### Strings -/

/-- The value of a hexadecimal digit. -/
def hexValue? (c : Char) : Option Nat :=
  if '0' ≤ c && c ≤ '9' then some (c.toNat - 48)
  else if 'a' ≤ c && c ≤ 'f' then some (c.toNat - 87)
  else if 'A' ≤ c && c ≤ 'F' then some (c.toNat - 55)
  else none

/-- The value of four hexadecimal digits. -/
def hexValue4? (a b c d : Char) : Option Nat :=
  match hexValue? a, hexValue? b, hexValue? c, hexValue? d with
  | some w, some x, some y, some z => some (((w * 16 + x) * 16 + y) * 16 + z)
  | _, _, _, _ => none

/-- The character after a backslash stands for. -/
def shortEscape? : Char → Option Char
  | '"' => some '"'
  | '\\' => some '\\'
  | '/' => some '/'
  | 'b' => some (Char.ofNat 8)
  | 'f' => some (Char.ofNat 12)
  | 'n' => some '\n'
  | 'r' => some '\r'
  | 't' => some '\t'
  | _ => none

/-- Whether a number is the first half of a surrogate pair. -/
def isHighSurrogate (n : Nat) : Bool := 0xD800 ≤ n && n ≤ 0xDBFF

/-- Whether a number is the second half of a surrogate pair. -/
def isLowSurrogate (n : Nat) : Bool := 0xDC00 ≤ n && n ≤ 0xDFFF

/-- The character a surrogate pair stands for. -/
def ofSurrogates (high low : Nat) : Char :=
  Char.ofNat (0x10000 + (high - 0xD800) * 0x400 + (low - 0xDC00))

/-- One character of a string, plain or escaped.  The halves of a surrogate pair stand together. -/
def character : Reader Char
  | '\\' :: 'u' :: a :: b :: c :: d :: '\\' :: 'u' :: e :: f :: g :: h :: cs =>
    match hexValue4? a b c d with
    | none => .error .malformed
    | some n =>
      if isLowSurrogate n then .error .malformed
      else if isHighSurrogate n then
        match hexValue4? e f g h with
        | none => .error .malformed
        | some m =>
          if isLowSurrogate m then
            .ok ⟨ofSurrogates n m, cs, by simp only [List.length_cons]; omega⟩
          else .error .malformed
      else .ok ⟨Char.ofNat n, '\\' :: 'u' :: e :: f :: g :: h :: cs,
        by simp only [List.length_cons]; omega⟩
  | '\\' :: 'u' :: a :: b :: c :: d :: cs =>
    match hexValue4? a b c d with
    | none => .error .malformed
    | some n =>
      if isLowSurrogate n || isHighSurrogate n then .error .malformed
      else .ok ⟨Char.ofNat n, cs, by simp only [List.length_cons]; omega⟩
  | '\\' :: c :: cs =>
    match shortEscape? c with
    | none => .error .malformed
    | some e => .ok ⟨e, cs, by simp only [List.length_cons]; omega⟩
  | c :: cs =>
    if c = '\\' ∨ c.toNat < 32 then .error .malformed else .ok (.ofHead c)
  | [] => .error .malformed

/-- One character of a string that is not kept: four hexadecimal digits are enough. -/
def skipCharacter : Reader Unit
  | '\\' :: 'u' :: a :: b :: c :: d :: cs =>
    if (hexValue4? a b c d).isSome then .ok ⟨(), cs, by simp only [List.length_cons]; omega⟩
    else .error .malformed
  | '\\' :: c :: cs =>
    if (shortEscape? c).isSome then .ok ⟨(), cs, by simp only [List.length_cons]; omega⟩
    else .error .malformed
  | c :: cs =>
    if c = '\\' ∨ c.toNat < 32 then .error .malformed else .ok (.ofHead ())
  | [] => .error .malformed

/-- The characters up to a closing quote, and the quote. -/
def untilQuote {α : Type} (one : Reader α) : Reader (List α)
  | [] => .error .malformed
  | c :: cs =>
    if c = '"' then .ok (.ofHead [])
    else
      match one (c :: cs) with
      | .error fault => .error fault
      | .ok r =>
        match untilQuote one r.rest with
        | .error fault => .error fault
        | .ok s => .ok ⟨r.value :: s.value, s.rest, Nat.lt_trans s.shorter r.shorter⟩
termination_by cs => cs.length
decreasing_by exact r.shorter

/-- The rest of a string after its opening quote. -/
def stringBody : Reader String := fun cs =>
  match untilQuote character cs with
  | .error fault => .error fault
  | .ok r => .ok (r.map String.ofList)

/-- The rest of a string that is not kept. -/
def skipStringBody : Reader Unit := fun cs =>
  match untilQuote skipCharacter cs with
  | .error fault => .error fault
  | .ok r => .ok (r.map fun _ => ())

/-! ### Numbers -/

/-- A number as written. -/
structure Numeral where
  /-- Whether a minus sign stands in front. -/
  negative : Bool
  /-- The digits before the point. -/
  whole : List Char
  /-- The digits after the point, if there is a point. -/
  fraction : Option (List Char)
  /-- The exponent, if there is one. -/
  exponent : Option Int

theorem length_dropDigits_le (cs : List Char) : (cs.dropWhile isDigit).length ≤ cs.length :=
  (List.dropWhile_suffix _).length_le

/-- The digits at the front, of which there has to be one. -/
def digits : Reader (List Char)
  | [] => .error .malformed
  | c :: cs =>
    if isDigit c then
      .ok ⟨c :: cs.takeWhile isDigit, cs.dropWhile isDigit,
        Nat.lt_succ_of_le (length_dropDigits_le cs)⟩
    else .error .malformed

/-- The digits before the point: none follows a leading zero. -/
def wholePart : Reader (List Char)
  | '0' :: c :: _ =>
    if isDigit c then .error .malformed else .ok (.ofHead ['0'])
  | cs => digits cs

/-- The digits after a point, if there is one. -/
def fractionPart :
    (cs : List Char) →
      Except Fault (Option (List Char) × { rest : List Char // rest.length ≤ cs.length })
  | '.' :: cs =>
    match digits cs with
    | .error fault => .error fault
    | .ok r => .ok (some r.value, ⟨r.rest, Nat.le_succ_of_le (Nat.le_of_lt r.shorter)⟩)
  | cs => .ok (none, ⟨cs, Nat.le_refl _⟩)

/-- The digits of an exponent after its mark, with an optional sign. -/
def signedDigits : Reader Int
  | '+' :: cs =>
    match digits cs with
    | .error fault => .error fault
    | .ok r => .ok ⟨ofDigits r.value, r.rest, Nat.lt_succ_of_lt r.shorter⟩
  | '-' :: cs =>
    match digits cs with
    | .error fault => .error fault
    | .ok r => .ok ⟨-(ofDigits r.value : Int), r.rest, Nat.lt_succ_of_lt r.shorter⟩
  | cs =>
    match digits cs with
    | .error fault => .error fault
    | .ok r => .ok (r.map fun ds => (ofDigits ds : Int))

/-- The exponent, if there is one. -/
def exponentPart :
    (cs : List Char) → Except Fault (Option Int × { rest : List Char // rest.length ≤ cs.length })
  | [] => .ok (none, ⟨[], Nat.le_refl _⟩)
  | c :: cs =>
    if c = 'e' ∨ c = 'E' then
      match signedDigits cs with
      | .error fault => .error fault
      | .ok r => .ok (some r.value, ⟨r.rest, Nat.le_succ_of_le (Nat.le_of_lt r.shorter)⟩)
    else .ok (none, ⟨c :: cs, Nat.le_refl _⟩)

/-- A number without its sign. -/
def unsignedNumeral (negative : Bool) : Reader Numeral := fun cs =>
  match wholePart cs with
  | .error fault => .error fault
  | .ok w =>
    match fractionPart w.rest with
    | .error fault => .error fault
    | .ok (fraction, ⟨afterFraction, h⟩) =>
      match exponentPart afterFraction with
      | .error fault => .error fault
      | .ok (exponent, ⟨rest, h'⟩) =>
        .ok ⟨⟨negative, w.value, fraction, exponent⟩, rest,
          Nat.lt_of_le_of_lt (Nat.le_trans h' h) w.shorter⟩

/-- A number as written. -/
def numeral : Reader Numeral
  | '-' :: cs =>
    match unsignedNumeral true cs with
    | .error fault => .error fault
    | .ok r => .ok ⟨r.value, r.rest, Nat.lt_succ_of_lt r.shorter⟩
  | cs => unsignedNumeral false cs

/-! ### The value of a number -/

/-- The largest whole number of a machine word. -/
def maxWord : Nat := UInt64.size - 1

/-- Appends digits to a whole number for as long as it fits a word; also how many digits did not
fit. -/
def accumulate (n : Nat) : List Char → Nat × Nat
  | [] => (n, 0)
  | c :: cs =>
    if 10 * n + digitValue c ≤ maxWord then accumulate (10 * n + digitValue c) cs
    else (n, cs.length + 1)

/-- The double nearest to a power of ten. -/
def powerOfTen (n : Nat) : Float := Decimal.ofDecimal false 1 n

/-- Divides by a power of ten, by no more than `10 ^ 308` at a time. -/
def divideByPower (x : Float) (n : Nat) : Float :=
  if n ≤ 308 then x / powerOfTen n
  else if x == 0.0 then x
  else divideByPower (x / powerOfTen 308) (n - 308)
termination_by n

/-- A whole number times a power of ten, in double arithmetic.  What exceeds the largest double is
out of range. -/
def scale? (n : Nat) (exponent : Int) : Option Float :=
  let x := Decimal.ofFraction false n 1
  if exponent < 0 then some (divideByPower x exponent.natAbs)
  else if 308 < exponent then if n = 0 then some x else none
  else
    let y := x * powerOfTen exponent.toNat
    if y.isInf then none else some y

/-- The value of a number: whole if it is written without point and exponent and fits a word.  The
digits that a word has no room for only count towards the exponent. -/
def Numeral.value? (n : Numeral) : Option Number :=
  let (whole, spilled) := accumulate 0 n.whole
  if n.fraction.isNone && n.exponent.isNone && spilled == 0 then
    if !n.negative then some (.whole whole)
    else if 0 < whole ∧ whole ≤ Nat.pow 2 63 then some (.whole (-(whole : Int)))
    else some (.decimal (-(Decimal.ofFraction false whole 1)))
  else
    let fraction := n.fraction.getD []
    let (significand, dropped) := accumulate whole fraction
    let exponent := (spilled : Int) - ((fraction.length : Int) - dropped) + n.exponent.getD 0
    (scale? significand exponent).map fun x => .decimal (if n.negative then -x else x)

/-- A number with its value. -/
def numberLexeme : Reader Number := fun cs =>
  match numeral cs with
  | .error fault => .error fault
  | .ok r =>
    match r.value.value? with
    | none => .error .malformed
    | some n => .ok (r.map fun _ => n)

end ShaderEffect.Json
