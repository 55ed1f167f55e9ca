/-
**The tokens of size expressions.**

A size expression is a text such as `$WIDTH/2` or `floor($HEIGHT * 50%)`.  It is cut from left to
right into the longest tokens possible; blanks separate tokens and are dropped.

Main definitions:

* `ShaderEffect.Expr.Token` — numbers, variables, names and punctuation;
* `ShaderEffect.Expr.LexFault` — why a text has no tokens;
* `ShaderEffect.Expr.scan` — the lexeme at the front of a text;
* `ShaderEffect.Expr.tokenize` — all tokens of a text.
-/

import ShaderEffect.Reading
import ShaderEffect.Text.Blank
import ShaderEffect.Decimal.Layout
import ShaderEffect.Decimal.Reader

set_option autoImplicit false

namespace ShaderEffect.Expr

open Decimal (isDigit)

/-- A token of a size expression. -/
inductive Token where
  | number (value : Float)
  | var (name : String)
  | ident (name : String)
  | plus
  | minus
  | star
  | slash
  | percent
  | lparen
  | rparen
  | comma
  deriving DecidableEq

/-- Numbers in messages are positional from `10 ^ -4` up to, but not including, `10 ^ 16`. -/
def numberLayout : Decimal.Layout := ⟨-4, 16, false, .upward⟩

/-- The name of a token in messages. -/
def Token.describe : Token → String
  | number value => "Number(" ++ numberLayout.render value ++ ")"
  | var name => "Variable(\"" ++ name ++ "\")"
  | ident name => "Ident(\"" ++ name ++ "\")"
  | plus => "Plus"
  | minus => "Minus"
  | star => "Star"
  | slash => "Slash"
  | percent => "Percent"
  | lparen => "LParen"
  | rparen => "RParen"
  | comma => "Comma"

/-- Why a text cannot be cut into tokens. -/
inductive LexFault where
  /-- A `$` that no name follows. -/
  | bareDollar
  /-- A run of digits and points that is not a number. -/
  | invalidNumber (text : String)
  /-- A character that starts no token. -/
  | unexpectedCharacter (c : Char)
  deriving DecidableEq

/-! ### Character classes -/

/-- Whether `c` can start a name. -/
def isNameStart (c : Char) : Bool := ('a' ≤ c && c ≤ 'z') || ('A' ≤ c && c ≤ 'Z') || c == '_'

/-- Whether `c` can go on in a name. -/
def isNameChar (c : Char) : Bool := isNameStart c || isDigit c

/-- Whether `c` can stand in the part of a number before its exponent. -/
def isNumberChar (c : Char) : Bool := isDigit c || c == '.'

/-- The token that is a single character. -/
def punctuation? : Char → Option Token
  | '+' => some .plus
  | '-' => some .minus
  | '*' => some .star
  | '/' => some .slash
  | '%' => some .percent
  | '(' => some .lparen
  | ')' => some .rparen
  | ',' => some .comma
  | _ => none

/-! ### Lexemes -/

/-- The exponent at the front of a text, if a digit follows its mark and sign, and what comes after
it. -/
def exponentSplit : List Char → List Char × List Char
  | [] => ([], [])
  | mark :: cs =>
    if mark = 'e' ∨ mark = 'E' then
      match cs with
      | '+' :: ds =>
        if (ds.takeWhile isDigit).isEmpty then ([], mark :: cs)
        else (mark :: '+' :: ds.takeWhile isDigit, ds.dropWhile isDigit)
      | '-' :: ds =>
        if (ds.takeWhile isDigit).isEmpty then ([], mark :: cs)
        else (mark :: '-' :: ds.takeWhile isDigit, ds.dropWhile isDigit)
      | ds =>
        if (ds.takeWhile isDigit).isEmpty then ([], mark :: cs)
        else (mark :: ds.takeWhile isDigit, ds.dropWhile isDigit)
    else ([], mark :: cs)

/-- Nothing is lost when an exponent is split off. -/
theorem exponentSplit_append (cs : List Char) :
    (exponentSplit cs).1 ++ (exponentSplit cs).2 = cs := by
  unfold exponentSplit
  repeat' split
  all_goals simp_all [List.takeWhile_append_dropWhile]

theorem length_exponentSplit_le (cs : List Char) :
    (exponentSplit cs).2.length ≤ cs.length := by
  have h := congrArg List.length (exponentSplit_append cs)
  rw [List.length_append] at h
  omega

/-- The run of digits and points at the front of a text, with an exponent, and what follows. -/
def numberSplit (cs : List Char) : List Char × List Char :=
  let tail := exponentSplit (cs.dropWhile isNumberChar)
  (cs.takeWhile isNumberChar ++ tail.1, tail.2)

theorem length_numberSplit_le (cs : List Char) : (numberSplit cs).2.length ≤ cs.length :=
  Nat.le_trans (length_exponentSplit_le _) (List.dropWhile_suffix _).length_le

/-- A number takes its first character. -/
theorem length_numberSplit_lt {c : Char} {cs : List Char} (h : isNumberChar c) :
    (numberSplit (c :: cs)).2.length < (c :: cs).length := by
  have h1 : (numberSplit (c :: cs)).2 = (numberSplit cs).2 := by
    simp [numberSplit, h]
  rw [h1]
  exact Nat.lt_succ_of_le (length_numberSplit_le cs)

theorem length_dropWhile_le (p : Char → Bool) (cs : List Char) :
    (cs.dropWhile p).length ≤ cs.length :=
  (List.dropWhile_suffix _).length_le

/-- The lexeme at the front of a text: a blank, which has no token, or a token. -/
def scan (c : Char) (cs : List Char) : Except LexFault (Reading (Option Token) (c :: cs)) :=
  if Text.isBlank c then .ok (.ofHead none)
  else match punctuation? c with
  | some t => .ok (.ofHead (some t))
  | none =>
    if c = '$' then
      if (cs.takeWhile isNameChar).isEmpty then .error .bareDollar
      else .ok ⟨some (.var (String.ofList (cs.takeWhile isNameChar))), cs.dropWhile isNameChar,
        Nat.lt_succ_of_le (length_dropWhile_le _ _)⟩
    else if h : isNumberChar c then
      match Decimal.read? (numberSplit (c :: cs)).1 with
      | none => .error (.invalidNumber (String.ofList (numberSplit (c :: cs)).1))
      | some v => .ok ⟨some (.number v), (numberSplit (c :: cs)).2, length_numberSplit_lt h⟩
    else if isNameStart c then
      .ok ⟨some (.ident (String.ofList (c :: cs.takeWhile isNameChar))), cs.dropWhile isNameChar,
        Nat.lt_succ_of_le (length_dropWhile_le _ _)⟩
    else .error (.unexpectedCharacter c)

/-! ### Tokens of a text -/

/-- The tokens of a text, from left to right. -/
def tokenize : List Char → Except LexFault (List Token)
  | [] => .ok []
  | c :: cs =>
    match scan c cs with
    | .error fault => .error fault
    | .ok r =>
      match tokenize r.rest with
      | .error fault => .error fault
      | .ok ts => .ok (r.value.toList ++ ts)
termination_by cs => cs.length
decreasing_by exact r.shorter

end ShaderEffect.Expr
