/-
**The form of the metadata.**

The metadata is an object with known members.  Here it is read as it stands; what it means is said
in `ShaderEffect.Metadata.Basic`.

Main definitions:

* `ShaderEffect.InputForm`, `ShaderEffect.PassForm`, `ShaderEffect.ImportForm`,
  `ShaderEffect.EffectForm` — an input, a pass, an imported image, and the whole;
* `ShaderEffect.EffectForm.ofText` — reads the metadata;
* `ShaderEffect.ImportForm.ofJson` — reads an imported image, which stands in a value that has been
  read already.
-/

import ShaderEffect.Json.Record

set_option autoImplicit false

namespace ShaderEffect

open Json (RecordField Decoder)

/-- An input as it stands in the metadata. -/
structure InputForm where
  name : String
  kind : String
  label : Option String
  default : Option Json
  min : Option Json
  max : Option Json
  identity : Option Json
  values : Option (List Json)
  labels : Option (List String)

/-- A pass as it stands in the metadata. -/
structure PassForm where
  target : Option String
  width : Option Json
  height : Option Json
  persistent : Option Json
  float : Option Json

/-- An imported image as it stands in the metadata. -/
structure ImportForm where
  name : Option String
  path : String

/-- The metadata as it stands. -/
structure EffectForm where
  description : Option String
  credit : Option String
  categories : List String
  version : Option Json
  formatVersion : Option Json
  inputs : List InputForm
  passes : Option (List PassForm)
  imported : Option Json

/-! ### Readers -/

/-- A member that is a string or null. -/
def textField {α : Type} (key : String) (put : Option String → α → α) : RecordField α :=
  .of key .nullable (Json.optional Json.string) put

/-- A member of any form. -/
def freeField {α : Type} (key : String) (put : Option Json → α → α) : RecordField α :=
  .of key .nullable (Json.optional Json.value) put

/-- Reads an input. -/
def InputForm.decoder : Decoder InputForm :=
  Json.record "struct RawInput"
    [.of "NAME" .required Json.string fun s f => { f with name := s },
      .of "TYPE" .required Json.string fun s f => { f with kind := s },
      textField "LABEL" fun s f => { f with label := s },
      freeField "DEFAULT" fun v f => { f with default := v },
      freeField "MIN" fun v f => { f with min := v },
      freeField "MAX" fun v f => { f with max := v },
      freeField "IDENTITY" fun v f => { f with identity := v },
      .of "VALUES" .nullable (Json.optional (Json.sequence Json.value))
        fun vs f => { f with values := vs },
      .of "LABELS" .nullable (Json.optional (Json.sequence Json.string))
        fun ls f => { f with labels := ls }]
    ⟨"", "", none, none, none, none, none, none, none⟩

/-- Reads a pass. -/
def PassForm.decoder : Decoder PassForm :=
  Json.record "struct RawPass"
    [textField "TARGET" fun s f => { f with target := s },
      freeField "WIDTH" fun v f => { f with width := v },
      freeField "HEIGHT" fun v f => { f with height := v },
      freeField "PERSISTENT" fun v f => { f with persistent := v },
      freeField "FLOAT" fun v f => { f with float := v }]
    ⟨none, none, none, none, none⟩

/-- Reads the metadata. -/
def EffectForm.decoder : Decoder EffectForm :=
  Json.record "struct RawDocument"
    [textField "DESCRIPTION" fun s f => { f with description := s },
      textField "CREDIT" fun s f => { f with credit := s },
      .of "CATEGORIES" .defaulted (Json.sequence Json.string)
        fun cs f => { f with categories := cs },
      freeField "VSN" fun v f => { f with version := v },
      freeField "ISFVSN" fun v f => { f with formatVersion := v },
      .of "INPUTS" .defaulted (Json.sequence InputForm.decoder) fun is f => { f with inputs := is },
      .of "PASSES" .nullable (Json.optional (Json.sequence PassForm.decoder))
        fun ps f => { f with passes := ps },
      freeField "IMPORTED" fun v f => { f with imported := v }]
    ⟨none, none, [], none, none, [], none, none⟩

/-- The metadata that a text stands for. -/
def EffectForm.ofText (text : String) : Except Json.Fault EffectForm :=
  Json.decode EffectForm.decoder text

/-! ### Imported images -/

/-- A string. -/
def stringOf : Json → Except Json.Fault String
  | .text s => .ok s
  | v => .error (.invalidType (.ofJson v) "a string")

/-- A string or null. -/
def optionalStringOf : Json → Except Json.Fault (Option String)
  | .null => .ok none
  | v => (stringOf v).map some

/-- An imported image: an object, or an array of the name and the path. -/
def ImportForm.ofJson : Json → Except Json.Fault ImportForm
  | .object members => do
    let name ← match members.lookup "NAME" with
      | none => pure none
      | some v => optionalStringOf v
    match members.lookup "PATH" with
    | none => throw (.missingField "PATH")
    | some v => return ⟨name, ← stringOf v⟩
  | .array [] => throw (.invalidLength 0 "struct RawImport with 2 elements")
  | .array [n] => do
    let _ ← optionalStringOf n
    throw (.invalidLength 1 "struct RawImport with 2 elements")
  | .array (n :: p :: rest) => do
    let name ← optionalStringOf n
    let path ← stringOf p
    if rest.isEmpty then return ⟨name, path⟩
    else throw (.invalidLength (rest.length + 2) "fewer elements in array")
  | v => throw (.invalidType (.ofJson v) "struct RawImport")

end ShaderEffect
