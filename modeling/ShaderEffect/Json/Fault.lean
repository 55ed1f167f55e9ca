/-
**What can be wrong with a metadata text.**

A text is read as it streams by, so of several faults the first one in the text is reported.

Main definitions:

* `ShaderEffect.Json.Found` — what stands where something else was expected;
* `ShaderEffect.Json.Fault`, `ShaderEffect.Json.Fault.detail` — the faults and their messages.
-/

import ShaderEffect.Json.Text
import ShaderEffect.Text.Quoted

set_option autoImplicit false

namespace ShaderEffect.Json

/-- What stands where something else was expected. -/
inductive Found where
  | number (n : Number)
  | boolean (b : Bool)
  | string (s : String)
  | null
  | sequence
  | map
  deriving DecidableEq

/-- Why a text was refused. -/
inductive Fault where
  /-- The text breaks the rules of the notation, nests too deeply, or has a number out of range. -/
  | malformed
  /-- An object lacks a member. -/
  | missingField (key : String)
  /-- An object has a member twice. -/
  | duplicateField (key : String)
  /-- A value is of the wrong type. -/
  | invalidType (found : Found) (wanted : String)
  /-- A value is of the right type and out of range. -/
  | invalidValue (found : Found) (wanted : String)
  /-- An array has another number of items. -/
  | invalidLength (length : Nat) (wanted : String)
  /-- A name stands for no dialect; the message is that of the dialects. -/
  | unknownDialect (message : String)
  deriving DecidableEq

/-- How something found is named. -/
def Found.describe : Found → String
  | number (.whole n) => "integer `" ++ toString n ++ "`"
  | number (.decimal x) => "floating point `" ++ numberLayout.render x ++ "`"
  | boolean b => "boolean `" ++ (if b then "true" else "false") ++ "`"
  | string s => "string " ++ Text.quoted s
  | null => "null"
  | sequence => "sequence"
  | map => "map"

/-- What a value is when another type was expected. -/
def Found.ofJson : Json → Found
  | .null => null
  | .bool b => boolean b
  | .number n => number n
  | .text s => string s
  | .array _ => sequence
  | .object _ => map

/-- The message of a fault. -/
def Fault.detail : Fault → String
  | malformed => "<syntax>"
  | missingField key => "missing field `" ++ key ++ "`"
  | duplicateField key => "duplicate field `" ++ key ++ "`"
  | invalidType found wanted => "invalid type: " ++ found.describe ++ ", expected " ++ wanted
  | invalidValue found wanted => "invalid value: " ++ found.describe ++ ", expected " ++ wanted
  | invalidLength length wanted =>
    "invalid length " ++ toString length ++ ", expected " ++ wanted
  | unknownDialect message => message

end ShaderEffect.Json
