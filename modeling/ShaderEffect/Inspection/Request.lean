/-
**What the command line asks for.**

The command line names an effect and, by options, what is to be said about it.  An option of several
letters follows two hyphens, with its value behind an equals sign or in the next argument; options
of one letter follow one hyphen and can stand together, the value of the last one directly behind
it.  After two hyphens alone no argument is an option.  Everything is given at most once.

Main definitions:

* `ShaderEffect.Flag`, `ShaderEffect.Setting` — options without and with a value;
* `ShaderEffect.Item` — what an argument says;
* `ShaderEffect.UsageFault` — why a command line is refused;
* `ShaderEffect.Request`, `ShaderEffect.Request.ofArguments` — what a command line asks for.
-/

import ShaderEffect.Decimal.Reader
import ShaderEffect.Dialect
import ShaderEffect.Size

set_option autoImplicit false

namespace ShaderEffect

/-- An option without a value. -/
inductive Flag where
  /-- Uniforms stand in a block. -/
  | uniformBlock
  /-- No programs are written. -/
  | summary
  /-- More is said about what is read. -/
  | verbose
  deriving DecidableEq

namespace Flag

/-- The name after two hyphens. -/
def name : Flag → String
  | uniformBlock => "uniform-block"
  | summary => "summary"
  | verbose => "verbose"

/-- The letter after one hyphen. -/
def letter : Flag → Char
  | uniformBlock => 'u'
  | summary => 's'
  | verbose => 'v'

/-- All options without a value. -/
def all : List Flag := [uniformBlock, summary, verbose]

end Flag

/-- An option with a value. -/
inductive Setting where
  /-- The file of the settings of the scene. -/
  | config
  /-- The dialect of the programs. -/
  | dialect
  /-- The width of the final output. -/
  | width
  /-- The height of the final output. -/
  | height
  deriving DecidableEq

namespace Setting

/-- The name after two hyphens. -/
def name : Setting → String
  | config => "config"
  | dialect => "gl-version"
  | width => "width"
  | height => "height"

/-- The letter after one hyphen. -/
def letter? : Setting → Option Char
  | config => some 'c'
  | dialect => some 'g'
  | width | height => none

/-- All options with a value. -/
def all : List Setting := [config, dialect, width, height]

end Setting

/-- Why a command line is refused. -/
inductive UsageFault where
  | unknownOption (name : String)
  | missingValue (setting : Setting)
  | unexpectedValue (flag : Flag)
  | badValue (setting : Setting) (value : String)
  | repeated (name : String)
  | missingInput
  | emptyInput
  | extraInput (path : String)
  deriving DecidableEq

/-- What is said about a command line that is refused. -/
def UsageFault.message : UsageFault → String
  | unknownOption name => s!"unexpected option '{name}'"
  | missingValue setting => s!"option '--{setting.name}' needs a value"
  | unexpectedValue flag => s!"option '--{flag.name}' takes no value"
  | badValue setting value => s!"invalid value '{value}' for option '--{setting.name}'"
  | repeated name => s!"option '--{name}' is given more than once"
  | missingInput => "no effect is given"
  | emptyInput => "the path of the effect is empty"
  | extraInput path => s!"unexpected argument '{path}'"

/-! ### Arguments -/

/-- What an argument says. -/
inductive Item where
  | flag (flag : Flag)
  | setting (setting : Setting) (value : String)
  | input (path : String)
  deriving DecidableEq

/-- What the letters after a hyphen say, and the option whose value is still to come. -/
def letterItems : List Char → Except UsageFault (List Item × Option Setting)
  | [] => .ok ([], none)
  | c :: cs =>
    match Flag.all.find? (·.letter = c) with
    | some flag => (letterItems cs).map fun r => (.flag flag :: r.1, r.2)
    | none =>
      match Setting.all.find? (·.letter? = some c) with
      | none => .error (.unknownOption ("-" ++ String.singleton c))
      | some setting =>
        match cs with
        | [] => .ok ([], some setting)
        | '=' :: value => .ok ([.setting setting (String.ofList value)], none)
        | value => .ok ([.setting setting (String.ofList value)], none)

/-- What a name after two hyphens says, with the value behind its equals sign. -/
def namedItems (name : String) (value : Option String) :
    Except UsageFault (List Item × Option Setting) :=
  match Flag.all.find? (·.name = name) with
  | some flag => if value.isSome then .error (.unexpectedValue flag) else .ok ([.flag flag], none)
  | none =>
    match Setting.all.find? (·.name = name), value with
    | none, _ => .error (.unknownOption ("--" ++ name))
    | some setting, none => .ok ([], some setting)
    | some setting, some value => .ok ([.setting setting value], none)

/-- The text behind the first equals sign. -/
def valueBehind (cs : List Char) : Option String :=
  match cs.dropWhile (· != '=') with
  | [] => none
  | _ :: value => some (String.ofList value)

/-- Whether an argument is an option: it starts with a hyphen, and more follows. -/
def isOption (argument : String) : Bool :=
  match argument.toList with
  | '-' :: _ :: _ => true
  | _ => false

/-- What an argument says, and the option whose value is still to come. -/
def argumentItems (argument : String) : Except UsageFault (List Item × Option Setting) :=
  match argument.toList with
  | '-' :: '-' :: cs =>
    namedItems (String.ofList (cs.takeWhile (· != '='))) (valueBehind cs)
  | '-' :: c :: cs => letterItems (c :: cs)
  | _ => .ok ([.input argument], none)

/-- What arguments say, where the value of an option may still have to come. -/
def itemsOf : Option Setting → List String → Except UsageFault (List Item)
  | none, [] => .ok []
  | some setting, [] => .error (.missingValue setting)
  | some setting, argument :: rest =>
    if isOption argument then .error (.missingValue setting)
    else (itemsOf none rest).map (.setting setting argument :: ·)
  | none, argument :: rest =>
    if argument = "--" then .ok (rest.map .input)
    else
      match argumentItems argument with
      | .error fault => .error fault
      | .ok (items, pending) => (itemsOf pending rest).map (items ++ ·)

/-! ### Values -/

/-- The number that digits stand for. -/
def digitsValue (cs : List Char) : Option Nat :=
  if cs ≠ [] ∧ cs.all Decimal.isDigit then some (Decimal.ofDigits cs) else none

/-- The whole number that a text stands for; a sign may stand in front of the digits. -/
def integerOf? (text : String) : Option Int :=
  match text.toList with
  | '+' :: cs => (digitsValue cs).map Int.ofNat
  | '-' :: cs => (digitsValue cs).map fun n => -(n : Int)
  | cs => (digitsValue cs).map Int.ofNat

/-- The extent that a text stands for. -/
def extentOf? (text : String) : Option UInt32 :=
  match integerOf? text with
  | some n => if 0 ≤ n ∧ n.toNat < UInt32.size then some (UInt32.ofNat n.toNat) else none
  | none => none

/-! ### Requests -/

/-- What the command line asks for. -/
structure Request where
  /-- The file of the effect. -/
  input : String
  /-- The file of the settings of the scene. -/
  config : Option String
  /-- The dialect, if it is not that of the settings. -/
  dialect : Option Dialect
  /-- Whether uniforms stand in a block, whatever the settings say. -/
  uniformBlock : Bool
  /-- The size of the final output. -/
  renderSize : Size
  /-- Whether no programs are written. -/
  summary : Bool
  /-- Whether more is said about what is read. -/
  verbose : Bool
  deriving DecidableEq

namespace Request

/-- The value of an option. -/
def value? (items : List Item) (setting : Setting) : Except UsageFault (Option String) :=
  match items.filterMap fun
    | .setting s value => if s = setting then some value else none
    | _ => none with
  | [] => .ok none
  | [value] => .ok (some value)
  | _ => .error (.repeated setting.name)

/-- The value of an option as what it stands for. -/
def read {α : Type} (items : List Item) (setting : Setting) (parse : String → Option α) :
    Except UsageFault (Option α) :=
  match value? items setting with
  | .error fault => .error fault
  | .ok none => .ok none
  | .ok (some text) =>
    match parse text with
    | some a => .ok (some a)
    | none => .error (.badValue setting text)

/-- Whether an option without a value is given. -/
def isSet (items : List Item) (flag : Flag) : Except UsageFault Bool :=
  match items.count (.flag flag) with
  | 0 => .ok false
  | 1 => .ok true
  | _ => .error (.repeated flag.name)

/-- The path of the effect. -/
def inputOf (items : List Item) : Except UsageFault String :=
  match items.filterMap fun
    | .input path => some path
    | _ => none with
  | [] => .error .missingInput
  | [path] => if path = "" then .error .emptyInput else .ok path
  | _ :: path :: _ => .error (.extraInput path)

/-- A path that is not empty. -/
def pathOf? (text : String) : Option String := if text = "" then none else some text

/-- What items ask for; the size is that of a screen unless it is given. -/
def ofItems (items : List Item) : Except UsageFault Request := do
  let config ← read items .config pathOf?
  let dialect ← read items .dialect Dialect.ofName?
  let width ← read items .width extentOf?
  let height ← read items .height extentOf?
  let uniformBlock ← isSet items .uniformBlock
  let summary ← isSet items .summary
  let verbose ← isSet items .verbose
  let input ← inputOf items
  return {
    input := input
    config := config
    dialect := dialect
    uniformBlock := uniformBlock
    renderSize := ⟨width.getD 1920, height.getD 1080⟩
    summary := summary
    verbose := verbose }

/-- What a command line asks for. -/
def ofArguments (arguments : List String) : Except UsageFault Request :=
  match itemsOf none arguments with
  | .error fault => .error fault
  | .ok items => ofItems items

end Request

end ShaderEffect
