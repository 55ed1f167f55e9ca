/-
**Documents.**

A document is an effect that has been read: what its metadata says, the bodies of its two programs,
and where they came from.  Hosts give its parameters values, and rendering gives its targets sizes
and buffers; nothing else about it changes.

Main definitions:

* `ShaderEffect.Document` — a document;
* `ShaderEffect.Document.inputs`, `ShaderEffect.Document.images`, `ShaderEffect.Document.samplers` —
  parameters and targets by what they are for;
* `ShaderEffect.Document.resize` — the sizes of the targets for a frame;
* `ShaderEffect.Document.generate` — the programs of the document;
* `ShaderEffect.Document.text` — a summary.
-/

import ShaderEffect.Metadata.Basic
import ShaderEffect.Metadata.Comment
import ShaderEffect.Program.Source
import ShaderEffect.Settings

set_option autoImplicit false

namespace ShaderEffect

/-- An effect that has been read. -/
structure Document extends Metadata where
  /-- The file of the fragment program, if the effect comes from a file. -/
  path : Option String
  /-- The source of the fragment program, cut at its metadata. -/
  source : Source
  /-- The body of the vertex program. -/
  vertex : String
  /-- The directory that imported images stand below. -/
  importsDirectory : String
  /-- Why the effect could not be read; such a document is empty. -/
  failure : Option Failure
  /-- The number of the scene that took the document last. -/
  parent : Option Nat

namespace Document

/-- The name of the document: that of its file, without extension. -/
def name (d : Document) : String := (d.path.map Path.stem).getD ""

/-! ### Parameters -/

/-- The inputs, in the order of their declaration. -/
def inputs (d : Document) : List Parameter := d.parameters.takeWhile fun p => !p.isImport

/-- The inputs of a kind. -/
def inputsOfKind (d : Document) (kind : Kind) : List Parameter :=
  d.inputs.filter fun p => p.kind = kind

/-- The inputs that are images. -/
def imageInputs (d : Document) : List Parameter := d.inputsOfKind .image

/-- The inputs that are sounds. -/
def audioInputs (d : Document) : List Parameter := d.inputs.filter fun p => p.kind.isAudio

/-- The imported images. -/
def imageImports (d : Document) : List Parameter := d.parameters.filter Parameter.isImport

/-- The parameters that programs sample, in the order of their units. -/
def images (d : Document) : List Parameter := d.imageInputs ++ d.audioInputs ++ d.imageImports

/-- The parameter of a name. -/
def parameter? (d : Document) (name : String) : Option Parameter :=
  d.parameters.find? (·.name = name)

/-- Changes the first parameter of a name, if there is one. -/
def changeFirst (name : String) (f : Parameter → Except Failure Parameter) :
    List Parameter → Option (Except Failure (List Parameter))
  | [] => none
  | p :: ps =>
    if p.name = name then some ((f p).map (· :: ps))
    else (changeFirst name f ps).map fun r => r.map (p :: ·)

/-- The document with the parameter of a name changed; `none` if there is no such parameter. -/
def change? (d : Document) (name : String) (f : Parameter → Except Failure Parameter) :
    Option (Except Failure Document) :=
  (changeFirst name f d.parameters).map fun r =>
    r.map fun ps => { d with parameters := ps }

/-! ### Targets -/

/-- The persistent target of a name. -/
def persistentTarget? (d : Document) (name : String) : Option Target :=
  d.passes.persistent.find? (·.name = name)

/-- The temporary target of a name. -/
def temporaryTarget? (d : Document) (name : String) : Option Target :=
  d.passes.temporary.find? (·.name = name)

/-- The target of a name. -/
def target? (d : Document) (name : String) : Option Target := d.passes.target? name

/-- The buffer of a name: that of a parameter, or else the current one of a target. -/
def bufferOf? (d : Document) (name : String) : Option Handle :=
  match d.parameter? name with
  | some p => p.current.binding?.map Binding.handle
  | none => (d.target? name).bind Target.current

/-! ### Sizes -/

/-- What the variables of size expressions stand for: the render size, and the inputs that are
numbers. -/
def environment (d : Document) (renderSize : Size) : Environment :=
  d.inputs.foldl
    (fun env p =>
      match p.current.number? with
      | some x => env.insert p.name x
      | none => env)
    (.ofSize renderSize)

/-- Targets with their sizes in an environment. -/
def resizeAll (env : Environment) : List Target → Except Failure (List Target)
  | [] => .ok []
  | t :: ts =>
    match t.evaluate env with
    | .error failure => .error failure
    | .ok (_, t) => (resizeAll env ts).map (t :: ·)

/-- The document with the sizes of its targets for a frame.  If one expression has no value, no
target gets a size. -/
def resize (d : Document) (renderSize : Size) : Except Failure Document :=
  let env := d.environment renderSize
  match resizeAll env d.passes.persistent with
  | .error failure => .error failure
  | .ok persistent =>
    match resizeAll env d.passes.temporary with
    | .error failure => .error failure
    | .ok temporary =>
      .ok { d with passes := { d.passes with persistent := persistent, temporary := temporary } }

/-- The targets that have a size, with their sizes. -/
def sizes (d : Document) : List (String × Size) :=
  d.passes.targets.filterMap fun t => t.size.map fun s => (t.name, s)

/-! ### Programs -/

/-- Everything that programs sample, in the order of the units: parameters first, then targets. -/
def samplers (d : Document) : List Sampler :=
  d.images.map (fun p => ⟨p.name, p.shape⟩) ++ d.passes.targets.map fun t => ⟨t.name, .flat⟩

/-- The letters of the shapes of the samplers. -/
def textureTypes (d : Document) : String := String.ofList (d.samplers.map fun s => s.shape.code)

/-- What the programs of the document declare. -/
def programInterface (d : Document) : Interface where
  inputs := d.inputs.filterMap fun p => p.kind.typeName?.map fun type => ⟨type, p.name⟩
  samplers := d.samplers

/-- The programs of the document. -/
def generate (d : Document) (settings : SceneSettings) : Except Failure ProgramSource :=
  let whole := d.programInterface
  match whole.generate settings.dialect settings.uniformBlock d.source.body d.vertex with
  | .error fault => .error (.generation fault)
  | .ok source => .ok source

/-! ### Summary -/

/-- A line about a text, unless the text is empty. -/
def labelLine (label text : String) : String :=
  if text.isEmpty then "" else "  " ++ label ++ ": " ++ text ++ "\n"

/-- A line for a pass. -/
def passLine (d : Document) (index : Nat) (name : String) : String :=
  let target := match d.target? name with
    | some t => t.text
    | none => "<output>"
  "    " ++ toString index ++ ": " ++ target ++ "\n"

/-- The lines for passes, numbered from `index`. -/
def passLines (d : Document) (index : Nat) : List String → String
  | [] => ""
  | name :: names => d.passLine index name ++ d.passLines (index + 1) names

/-- What the document says about itself, its parameters and its passes. -/
def contentText (d : Document) : String :=
  labelLine "description" d.description ++ labelLine "credit" d.credit ++
    (if d.categories.isEmpty then ""
      else "  categories: " ++ ", ".intercalate d.categories ++ "\n") ++
    "  inputs:\n" ++ String.join (d.parameters.map fun p => "    " ++ p.text ++ "\n") ++
    "  passes:\n" ++ d.passLines 0 d.passes.order

/-- A summary of the document. -/
def text (d : Document) : String :=
  (if d.name.isEmpty then "<unnamed>" else d.name) ++ "\n" ++
    match d.failure with
    | some failure => "  invalid: " ++ failure.display ++ "\n"
    | none => d.contentText

end Document

end ShaderEffect
