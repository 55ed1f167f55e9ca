/-
**Size expressions as texts.**

An expression is parsed from a text and keeps it.  What goes wrong with it, in the text or in a
value, is a fault, and a fault has a message that quotes the text.

Main definitions:

* `ShaderEffect.Expression` — a text and the tree it stands for;
* `ShaderEffect.ExpressionFault`, `ShaderEffect.ExpressionFault.message` — what can go wrong;
* `ShaderEffect.Expression.parse`, `ShaderEffect.Expression.evaluate`,
  `ShaderEffect.Expression.pixels` — from the text to a value and a number of pixels.
-/

import ShaderEffect.Expr.Parse
import ShaderEffect.Expr.Eval

set_option autoImplicit false

namespace ShaderEffect

/-- What can go wrong with an expression. -/
inductive ExpressionFault where
  /-- The text has no tokens. -/
  | lexical (fault : Expr.LexFault)
  /-- The tokens form no expression. -/
  | grammar (fault : Expr.SyntaxFault)
  /-- The expression has no value. -/
  | value (fault : Expr.EvalFault)
  deriving DecidableEq

namespace ExpressionFault

/-- How a value that is not finite is written. -/
def notFiniteText (v : Float) : String :=
  if v.isNaN then "NaN" else if Decimal.isNegative v then "-inf" else "inf"

/-- What is said about a text that has no tokens. -/
def lexicalMessage (source : String) : Expr.LexFault → String
  | .bareDollar => s!"'$' without a variable name in '{source}'"
  | .invalidNumber text => s!"invalid number '{text}' in '{source}'"
  | .unexpectedCharacter c => s!"unexpected character '{c}' in '{source}'"

/-- What is said about tokens that form no expression. -/
def grammarMessage (source : String) : Expr.SyntaxFault → String
  | .empty => "empty expression"
  | .expected wanted (some found) =>
    s!"expected {wanted.describe}, found {found.describe} in '{source}'"
  | .expected wanted none => s!"expected {wanted.describe} at end of '{source}'"
  | .unknownFunction name => s!"unknown function '{name}' in '{source}'"
  | .wrongArity name arity given =>
    s!"'{name}' takes {arity} argument(s), got {given} in '{source}'"
  | .unexpected found => s!"unexpected {found.describe} in '{source}'"
  | .unexpectedEnd => s!"unexpected end of expression '{source}'"
  | .trailing found => s!"unexpected {found.describe} after end of expression '{source}'"
  | .tooDeep => s!"expression nested too deeply in '{source}'"

/-- What is said about an expression that has no value. -/
def valueMessage (source : String) : Expr.EvalFault → String
  | .unknownVariable name => s!"unknown variable '${name}' in '{source}'"
  | .divisionByZero => s!"division by zero in '{source}'"
  | .notFinite v => s!"'{source}' evaluated to {notFiniteText v}"

/-- The message of a fault of the expression written `source`. -/
def message (source : String) : ExpressionFault → String
  | lexical fault => lexicalMessage source fault
  | grammar fault => grammarMessage source fault
  | value fault => valueMessage source fault

end ExpressionFault

/-- A text together with the expression it stands for. -/
structure Expression where
  /-- The text. -/
  source : String
  /-- The expression. -/
  tree : Expr
  deriving DecidableEq

namespace Expression

/-- The tree of a text. -/
def treeOf (source : String) : Except ExpressionFault Expr :=
  match Expr.tokenize source.toList with
  | .error fault => .error (.lexical fault)
  | .ok ts =>
    match Expr.parseTokens ts with
    | .error fault => .error (.grammar fault)
    | .ok e => .ok e

/-- The expression a text stands for. -/
def parse (source : String) : Except ExpressionFault Expression :=
  match treeOf source with
  | .error fault => .error fault
  | .ok e => .ok ⟨source, e⟩

/-- The finite value of an expression on an axis. -/
def evaluate (e : Expression) (env : Environment) (axis : Axis) : Except ExpressionFault Float :=
  match e.tree.finiteValue env axis with
  | .error fault => .error (.value fault)
  | .ok v => .ok v

/-- The value of an expression as a number of pixels. -/
def pixels (e : Expression) (env : Environment) (axis : Axis) : Except ExpressionFault UInt32 :=
  match e.evaluate env axis with
  | .error fault => .error fault
  | .ok v => .ok (Expr.toPixels v)

/-- The names an expression reads, without the `$`. -/
def reads (e : Expression) : List String := e.tree.reads

end Expression

end ShaderEffect
