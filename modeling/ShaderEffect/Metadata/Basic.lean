/-
**What the metadata of an effect means.**

The inputs and the imported images are the parameters of the effect, the passes give its targets and
the order of drawing.  The names of all parameters and targets are different.

Main definitions:

* `ShaderEffect.InputForm.toParameter` — the parameter of an input;
* `ShaderEffect.importsOf` — the parameters of the imported images;
* `ShaderEffect.Passes`, `ShaderEffect.Passes.add` — targets and the order of drawing;
* `ShaderEffect.Metadata`, `ShaderEffect.Metadata.ofText` — everything the metadata says.
-/

import ShaderEffect.Metadata.Form
import ShaderEffect.Parameter.Basic
import ShaderEffect.Pass.Target
import ShaderEffect.Report
import ShaderEffect.Path

set_option autoImplicit false

namespace ShaderEffect

/-! ### Inputs -/

/-- A value of a kind from the metadata. -/
def valueFor (kind : Kind) (key : String) (json : Json) : Except Failure Value :=
  match Value.ofJson? kind json with
  | some v => .ok v
  | none => .error (.parse (.misfit key json kind))

/-- A value of a kind that may be left out. -/
def optionalValueFor (kind : Kind) (key : String) : Option Json → Except Failure (Option Value)
  | none => .ok none
  | some json => (valueFor kind key json).map some

/-- The number of samples that a sound is wanted with: the last 32 bits of a whole number. -/
def samplesOf (name : String) : Option Json → Except Failure (Option UInt32)
  | none => .ok none
  | some json =>
    match json.natural? with
    | some n => .ok (some (UInt32.ofNat n))
    | none => .error (.parse (.sampleCount json name))

/-- The values to choose from, if all are numbers. -/
def optionNumbers? : List Json → Option (List Int32)
  | [] => some []
  | j :: js =>
    match j.float?, optionNumbers? js with
    | some x, some ns => some (Value.longOf x :: ns)
    | _, _ => none

/-- Each value with its label; a value without one is its own. -/
def labelled : List Int32 → List String → List (Int32 × String)
  | [], _ => []
  | n :: ns, [] => (n, toString n.toInt) :: labelled ns []
  | n :: ns, label :: labels => (n, label) :: labelled ns labels

/-- Adds the values to choose from.  Unless a default is declared, the first one is it. -/
def withOptions (form : InputForm) (p : Parameter) : Report Parameter :=
  match form.values with
  | none => pure p
  | some values =>
    match optionNumbers? values with
    | none => .fail (.parse (.optionValues form.name))
    | some numbers => do
      let labels := form.labels.getD []
      if labels.length ≠ numbers.length then
        Report.warn (.optionLengths form.name numbers.length labels.length)
      let p := match form.default, numbers with
        | none, n :: _ => p.withDefault (.long n)
        | _, _ => p
      return { p with options := labelled numbers labels }

/-- The limits and the neutral value of a parameter. -/
def withLimits (form : InputForm) (p : Parameter) : Except Failure Parameter := do
  let least ← optionalValueFor p.kind "MIN" form.min
  let greatest ← optionalValueFor p.kind "MAX" form.max
  let neutral ← optionalValueFor p.kind "IDENTITY" form.identity
  return { p with min := least, max := greatest, identity := neutral }

/-- The declared default of a parameter. -/
def withDeclaredDefault (form : InputForm) (p : Parameter) : Except Failure Parameter :=
  match form.default with
  | none => .ok p
  | some json => (valueFor p.kind "DEFAULT" json).map p.withDefault

/-- The parameter of an input. -/
def InputForm.toParameter (form : InputForm) : Report Parameter :=
  match Kind.ofName? form.kind with
  | none => .fail (.parse (.unknownKind form.kind))
  | some kind =>
    let p := { Parameter.ofKind form.name kind with label := form.label }
    if kind.isAudio then
      .ofExcept ((samplesOf form.name form.max).map fun n => { p with samples := n })
    else if kind.isSampler then pure p
    else do
      let p ← Report.ofExcept (withLimits form p)
      let p ← if kind = .long then withOptions form p else pure p
      Report.ofExcept (withDeclaredDefault form p)

/-! ### Imported images -/

/-- An image that is imported under a name. -/
def importOf (directory : String) (name : String) (form : ImportForm) : Parameter :=
  .imported name (Path.join directory form.path)

/-- The imported images of an object, each under its key. -/
def namedImports (directory : String) : List (String × Json) → Except Failure (List Parameter)
  | [] => .ok []
  | (name, json) :: rest =>
    match ImportForm.ofJson json with
    | .error fault => .error (.parse (.namedImport name fault))
    | .ok form => (namedImports directory rest).map (importOf directory name form :: ·)

/-- The imported images of a list, each under its own name. -/
def listedImports (directory : String) : List Json → Except Failure (List Parameter)
  | [] => .ok []
  | json :: rest =>
    match ImportForm.ofJson json with
    | .error fault => .error (.parse (.listedImport fault))
    | .ok form =>
      match form.name with
      | none => .error (.parse .importWithoutName)
      | some name => (listedImports directory rest).map (importOf directory name form :: ·)

/-- The imported images. -/
def importsOf (directory : String) : Option Json → Except Failure (List Parameter)
  | none => .ok []
  | some (.object members) => namedImports directory members
  | some (.array items) => listedImports directory items
  | some json => .error (.parse (.importsForm json))

/-! ### Parameters -/

/-- Adds a parameter whose name is new. -/
def addParameter (clash : String → ConfigurationFault) (ps : List Parameter) (p : Parameter) :
    Except Failure (List Parameter) :=
  if p.name ∈ ps.map Parameter.name then .error (.configuration (clash p.name))
  else .ok (ps ++ [p])

/-- Adds the inputs, each as soon as it has been read. -/
def addInputs (ps : List Parameter) : List InputForm → Report (List Parameter)
  | [] => pure ps
  | form :: rest => do
    let p ← form.toParameter
    let ps ← Report.ofExcept (addParameter .duplicateInput ps p)
    addInputs ps rest

/-- Adds the imported images. -/
def addImports (ps : List Parameter) : List Parameter → Except Failure (List Parameter)
  | [] => .ok ps
  | p :: rest =>
    match addParameter .duplicateImport ps p with
    | .error failure => .error failure
    | .ok ps => addImports ps rest

/-- The parameters of an effect: the inputs, and after them the imported images. -/
def parametersOf (directory : String) (form : EffectForm) : Report (List Parameter) := do
  let inputs ← addInputs [] form.inputs
  let imports ← Report.ofExcept (importsOf directory form.imported)
  Report.ofExcept (addImports inputs imports)

/-! ### Passes -/

/-- The targets of an effect and the order of drawing. -/
structure Passes where
  /-- The targets whose contents are kept, in the order of their declaration. -/
  persistent : List Target
  /-- The other targets. -/
  temporary : List Target
  /-- The name of the target of each pass; the empty name is the final output. -/
  order : List String

namespace Passes

/-- No targets and no passes. -/
def empty : Passes := ⟨[], [], []⟩

/-- All targets, the persistent ones first. -/
def targets (ps : Passes) : List Target := ps.persistent ++ ps.temporary

/-- The target of a name. -/
def target? (ps : Passes) (name : String) : Option Target :=
  ps.targets.find? (·.name = name)

/-- Whether two texts are the same but for the case of ASCII letters. -/
def sameWord (s t : String) : Bool := s.toList.map Char.toLower == t.toList.map Char.toLower

/-- A flag: a truth value, a number that is not zero, or a word for a truth value. -/
def flagOf : Option Json → Except Failure Bool
  | none => .ok false
  | some (.bool b) => .ok b
  | some (.number n) => .ok (n.toFloat != 0.0)
  | some (.text s) =>
    if sameWord s "true" then .ok true
    else if sameWord s "false" then .ok false
    else .error (.parse (.flag (.text s)))
  | some json => .error (.parse (.flag json))

/-- The target that a pass declares. -/
def targetOf (name : String) (persistent float : Bool) (form : PassForm) : Target :=
  { Target.ofName name with
    width := form.width.map Json.plainText
    height := form.height.map Json.plainText
    persistent := persistent
    float := float }

/-- Adds a target behind those of its sort. -/
def addTarget (ps : Passes) (t : Target) : Passes :=
  if t.persistent then { ps with persistent := ps.persistent ++ [t] }
  else { ps with temporary := ps.temporary ++ [t] }

/-- Draws into a target once more. -/
def draw (ps : Passes) (name : String) : Passes := { ps with order := ps.order ++ [name] }

/-- Adds a pass.  The first pass that names a target declares it; `taken` are names that no target
may have. -/
def add (taken : List String) (ps : Passes) (form : PassForm) : Report Passes :=
  let name := form.target.getD ""
  if name = "" then pure (ps.draw name)
  else do
    let persistent ← Report.ofExcept (flagOf form.persistent)
    let float ← Report.ofExcept (flagOf form.float)
    match ps.target? name with
    | some t =>
      if t.persistent ≠ persistent ∨ t.float ≠ float then Report.warn (.passFlags name)
      return ps.draw name
    | none =>
      if name ∈ taken then .fail (.configuration (.duplicateTarget name))
      else return (ps.addTarget (targetOf name persistent float form)).draw name

/-- Adds passes in order. -/
def addAll (taken : List String) (ps : Passes) : List PassForm → Report Passes
  | [] => pure ps
  | form :: rest => do
    let ps ← ps.add taken form
    addAll taken ps rest

/-- The passes of an effect; without any, it is drawn once, into the final output. -/
def ofForms (taken : List String) (forms : List PassForm) : Report Passes :=
  if forms.isEmpty then pure (empty.draw "") else addAll taken empty forms

end Passes

/-! ### The whole -/

/-- Everything the metadata of an effect says. -/
structure Metadata where
  description : String
  credit : String
  /-- The version of the effect. -/
  version : String
  /-- The version of the format. -/
  formatVersion : String
  categories : List String
  /-- The inputs, and after them the imported images. -/
  parameters : List Parameter
  passes : Passes

namespace Metadata

/-- The metadata of an effect about which nothing is said, not even that it is drawn. -/
def empty : Metadata := ⟨"", "", "", "", [], [], .empty⟩

/-- The text of a value that may be left out. -/
def textOf (json : Option Json) : String := (json.map Json.plainText).getD ""

/-- What the metadata says, where imported images stand below a directory. -/
def ofForm (directory : String) (form : EffectForm) : Report Metadata := do
  let parameters ← parametersOf directory form
  let passes ← Passes.ofForms (parameters.map Parameter.name) (form.passes.getD [])
  return {
    description := form.description.getD ""
    credit := form.credit.getD ""
    version := textOf form.version
    formatVersion := textOf form.formatVersion
    categories := form.categories
    parameters := parameters
    passes := passes }

/-- What a text says. -/
def ofText (directory text : String) : Report Metadata :=
  match EffectForm.ofText text with
  | .error fault => .fail (.parse (.form fault))
  | .ok form => ofForm directory form

end Metadata

end ShaderEffect
