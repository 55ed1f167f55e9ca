/-
**What can go wrong with an effect.**

Every failure has one of six kinds, a cause, and a message.  A cause is kept as what it is; its
wording stands here, in one place.

Main definitions:

* `ShaderEffect.FileFault`, `ShaderEffect.MetadataFault`, `ShaderEffect.GenerationFault`,
  `ShaderEffect.ConfigurationFault`, `ShaderEffect.DeviceFault` — the causes;
* `ShaderEffect.Failure` — a failure;
* `ShaderEffect.Failure.message`, `ShaderEffect.Failure.display`, `ShaderEffect.Failure.describe` —
  what is said about it: alone, behind its kind, and in full.
-/

import ShaderEffect.Expression
import ShaderEffect.Parameter.Value
import ShaderEffect.Dialect

set_option autoImplicit false

namespace ShaderEffect

/-! ### Files -/

/-- Why a file could not be read. -/
inductive FileFault where
  | notFound
  | notDirectory
  | isDirectory
  /-- A name in the path, or the whole path, is too long. -/
  | tooLong
  /-- The path contains the character zero, which no path may. -/
  | zeroInPath
  /-- The bytes are no text. -/
  | notText
  /-- The device gives a reason of its own. -/
  | device (reason : String)
  deriving DecidableEq

namespace FileFault

/-- What is said about a file. -/
def message : FileFault → String
  | notFound => "No such file or directory (os error 2)"
  | notDirectory => "Not a directory (os error 20)"
  | isDirectory => "Is a directory (os error 21)"
  | tooLong => "File name too long (os error 36)"
  | zeroInPath => "file name contained an unexpected NUL byte"
  | notText => "stream did not contain valid UTF-8"
  | device reason => reason

/-- A fault of the operating system, in full. -/
def describeOs (code kind message : String) : String :=
  "Os \x7b code: " ++ code ++ ", kind: " ++ kind ++ ", message: " ++ Text.quoted message ++ " \x7d"

/-- A fault that does not come from the operating system, in full. -/
def describeSimple (kind message : String) : String :=
  "Error \x7b kind: " ++ kind ++ ", message: " ++ Text.quoted message ++ " \x7d"

/-- The fault in full. -/
def describe : FileFault → String
  | notFound => describeOs "2" "NotFound" "No such file or directory"
  | notDirectory => describeOs "20" "NotADirectory" "Not a directory"
  | isDirectory => describeOs "21" "IsADirectory" "Is a directory"
  | tooLong => describeOs "36" "InvalidFilename" "File name too long"
  | zeroInPath => describeSimple "InvalidInput" "file name contained an unexpected NUL byte"
  | notText => describeSimple "InvalidData" "stream did not contain valid UTF-8"
  | device reason => "Custom \x7b kind: Other, error: " ++ Text.quoted reason ++ " \x7d"

end FileFault

/-! ### Metadata and values -/

/-- Why the metadata of an effect, or a value for a parameter, was refused. -/
inductive MetadataFault where
  /-- A comment before the metadata has no end. -/
  | unterminatedComment
  /-- No comment holds metadata. -/
  | noMetadata
  /-- The metadata is not of the form it should have. -/
  | form (fault : Json.Fault)
  /-- No kind of parameter has this name. -/
  | unknownKind (name : String)
  /-- A value does not fit the kind of its parameter. -/
  | misfit (key : String) (value : Json) (kind : Kind)
  /-- The maximum of a sound is no number of samples. -/
  | sampleCount (value : Json) (name : String)
  /-- The values to choose from are not all numbers. -/
  | optionValues (name : String)
  /-- An imported image, listed under its name, is not of the right form. -/
  | namedImport (name : String) (fault : Json.Fault)
  /-- An imported image in a list is not of the right form. -/
  | listedImport (fault : Json.Fault)
  /-- An imported image in a list has no name. -/
  | importWithoutName
  /-- The imported images are neither an object nor an array. -/
  | importsForm (value : Json)
  /-- A flag of a pass is no truth value. -/
  | flag (value : Json)
  /-- A value of another kind was given to a parameter. -/
  | wrongKind (given kind : Kind) (name : String)
  /-- A buffer was bound to a parameter that is not sampled. -/
  | notSampled (name : String) (kind : Kind)

/-- What is said about metadata. -/
def MetadataFault.message : MetadataFault → String
  | unterminatedComment => "unterminated comment before the metadata block"
  | noMetadata => "no JSON metadata comment found"
  | form fault => "invalid JSON metadata: " ++ fault.detail
  | unknownKind name => s!"unknown input TYPE '{name}'"
  | misfit key value kind =>
    s!"{key} {value.compact} does not fit input type '{kind.name}'"
  | sampleCount value name =>
    s!"MAX {value.compact} of audio input '{name}' is not a sample count"
  | optionValues name => s!"VALUES of '{name}' must be numbers"
  | namedImport name fault => s!"IMPORTED '{name}': {fault.detail}"
  | listedImport fault => s!"IMPORTED entry: {fault.detail}"
  | importWithoutName => "IMPORTED array entry without NAME"
  | importsForm value => s!"IMPORTED must be an object or an array, found {value.compact}"
  | flag value => s!"expected a boolean, found {value.compact}"
  | wrongKind given kind name =>
    s!"cannot assign a {given.name} value to {kind.name} input '{name}'"
  | notSampled name kind => s!"input '{name}' of type {kind.name} cannot hold an image"

/-! ### Programs -/

/-- Why no program could be generated. -/
inductive GenerationFault where
  /-- No program can be written in the unknown dialect. -/
  | unknownDialect
  /-- The dialect has no blocks of uniforms. -/
  | noUniformBlocks (dialect : Dialect)
  /-- The dialect has no rectangle textures. -/
  | noRectangles (dialect : Dialect)
  /-- The parenthesis after a call is never closed. -/
  | unbalanced (call : String)
  /-- A call names something that is not sampled. -/
  | undeclaredSampler (call sampler : String)
  /-- A call has another number of arguments. -/
  | argumentCount (call sampler : String) (wanted given : Nat)
  /-- A cube has no place that belongs to the current pixel. -/
  | cubeSampling (call sampler : String)
  deriving DecidableEq

/-- What is said about a program that cannot be generated. -/
def GenerationFault.message : GenerationFault → String
  | unknownDialect => "cannot generate shaders for an unknown GL version"
  | noUniformBlocks dialect => s!"uniform blocks need GL 3.3 or GLES 3, not {dialect.name}"
  | noRectangles dialect => s!"rectangle textures are not available on {dialect.name}"
  | unbalanced call => s!"unbalanced parentheses after {call}"
  | undeclaredSampler call sampler => s!"{call} refers to undeclared sampler '{sampler}'"
  | argumentCount call sampler wanted given =>
    s!"{call}({sampler}, ...) takes {wanted} argument(s), got {given}"
  | cubeSampling call sampler => s!"{call} cannot sample cube map '{sampler}'"

/-! ### Configuration and device -/

/-- What does not fit together. -/
inductive ConfigurationFault where
  /-- Two inputs have one name. -/
  | duplicateInput (name : String)
  /-- An imported image has the name of another parameter. -/
  | duplicateImport (name : String)
  /-- A pass target has the name of a parameter. -/
  | duplicateTarget (name : String)
  /-- A pool does not own the buffer of a handle. -/
  | notOwned (handle : Handle)
  /-- A buffer that is idle was released. -/
  | releasedTwice (handle : Handle)
  /-- A document that failed to load was to be rendered. -/
  | notLoaded (name : String) (reason : String)
  /-- A pass names a target that does not exist. -/
  | undeclaredTarget (index : Nat) (name : String)
  /-- The buffer of a target has left the pool. -/
  | notPooled (handle : Handle) (name : String)
  /-- There is no program to draw with. -/
  | noProgram
  deriving DecidableEq

/-- What is said about things that do not fit together. -/
def ConfigurationFault.message : ConfigurationFault → String
  | duplicateInput name => s!"input '{name}' is declared more than once"
  | duplicateImport name => s!"imported image '{name}' reuses an input name"
  | duplicateTarget name => s!"pass target '{name}' reuses an input name"
  | notOwned handle => s!"buffer {handle.text} is not owned by this pool"
  | releasedTwice handle => s!"buffer {handle.text} released twice"
  | notLoaded name reason => s!"document '{name}' failed to load: {reason}"
  | undeclaredTarget index name => s!"render pass {index} targets undeclared buffer '{name}'"
  | notPooled handle name =>
    s!"buffer {handle.text} of pass target '{name}' is no longer pooled"
  | noProgram => "no program compiled"

/-- What the device refused. -/
inductive DeviceFault where
  /-- A buffer of this size was not created. -/
  | create (size : Size) (reason : String)
  /-- The program of a document was not compiled. -/
  | compile (document : String) (reason : String)
  deriving DecidableEq

/-- What is said about the device. -/
def DeviceFault.message : DeviceFault → String
  | create size reason => s!"failed to create {size.text} buffer: {reason}"
  | compile document reason => s!"program for '{document}' failed to compile: {reason}"

/-! ### Failures -/

/-- What went wrong. -/
inductive Failure where
  /-- A file could not be read. -/
  | fileIo (path : String) (fault : FileFault)
  /-- Metadata or a value was refused. -/
  | parse (fault : MetadataFault)
  /-- No program could be generated. -/
  | generation (fault : GenerationFault)
  /-- A size expression could not be evaluated. -/
  | eval (source : String) (fault : ExpressionFault)
  /-- Things do not fit together. -/
  | configuration (fault : ConfigurationFault)
  /-- The device refused something. -/
  | device (fault : DeviceFault)

namespace Failure

/-- The name of the kind of a failure. -/
def kindName : Failure → String
  | fileIo .. => "FileIo"
  | parse _ => "Parse"
  | generation _ => "Generation"
  | eval .. => "Eval"
  | configuration _ => "Configuration"
  | device _ => "Gpu"

/-- What is said about a failure of a known kind. -/
def message : Failure → String
  | fileIo path fault => s!"'{path}': {fault.message}"
  | parse fault => fault.message
  | generation fault => fault.message
  | eval source fault => fault.message source
  | configuration fault => fault.message
  | device fault => fault.message

/-- What the kinds of failures are called in front of their messages. -/
def heading : Failure → String
  | fileIo .. => "failed to read "
  | parse _ => "parse error: "
  | generation _ => "shader generation error: "
  | eval .. => "expression error: "
  | configuration _ => "configuration error: "
  | device _ => "gpu error: "

/-- What is said about a failure. -/
def display (f : Failure) : String := f.heading ++ f.message

/-- A failure in full. -/
def describe : Failure → String
  | fileIo path fault =>
    "FileIo \x7b path: " ++ Text.quoted path ++ ", source: " ++ fault.describe ++ " \x7d"
  | f => f.kindName ++ "(" ++ Text.quoted f.message ++ ")"

end Failure

end ShaderEffect
