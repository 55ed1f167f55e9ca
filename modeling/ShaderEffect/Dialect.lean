/-
**The dialects of the shading language.**

Main definitions:

* `ShaderEffect.Dialect` — the dialects programs are written in;
* `ShaderEffect.Dialect.name`, `ShaderEffect.Dialect.ofName?` — their names;
* `ShaderEffect.Dialect.isEmbedded`, `ShaderEffect.Dialect.isModern` — which of them are for
  embedded systems, and which have blocks of uniforms.

Main results:

* `ShaderEffect.Dialect.ofName?_name` — the name of every dialect but the unknown one is understood.
-/

set_option autoImplicit false

namespace ShaderEffect

/-- A dialect of the shading language. -/
inductive Dialect where
  /-- No dialect at all; no program can be written in it. -/
  | unknown
  | gl2
  | gles2
  | gl33
  | gl4
  | gles3
  deriving DecidableEq, Repr

namespace Dialect

/-- Whether the dialect is for embedded systems. -/
def isEmbedded : Dialect → Bool
  | gles2 | gles3 => true
  | _ => false

/-- Whether the dialect declares inputs and outputs by direction and has blocks of uniforms. -/
def isModern : Dialect → Bool
  | gl33 | gl4 | gles3 => true
  | _ => false

/-- The name of a dialect. -/
def name : Dialect → String
  | unknown => "unknown"
  | gl2 => "gl2"
  | gles2 => "gles2"
  | gl33 => "gl33"
  | gl4 => "gl4"
  | gles3 => "gles3"

/-- A name with small letters in place of the ASCII capitals. -/
def foldName (s : String) : String := String.ofList (s.toList.map Char.toLower)

/-- The dialect of a name, in letters of any case. -/
def ofName? (s : String) : Option Dialect :=
  match foldName s with
  | "gl2" => some gl2
  | "gles2" => some gles2
  | "gl33" => some gl33
  | "gl3" => some gl33
  | "gl4" => some gl4
  | "gles3" => some gles3
  | _ => none

/-- What is said about a name that is none of a dialect. -/
def unknownMessage (s : String) : String :=
  "unknown GL version '" ++ foldName s ++ "' (expected gl2, gles2, gl33, gl4 or gles3)"

/-- The name of a dialect that programs can be written in is understood. -/
theorem ofName?_name {d : Dialect} (h : d ≠ unknown) : ofName? d.name = some d := by
  cases d with
  | unknown => exact absurd rfl h
  | _ => rfl

end Dialect

end ShaderEffect
