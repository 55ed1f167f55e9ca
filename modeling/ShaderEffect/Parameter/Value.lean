/-
**The kinds of parameters and their values.**

A parameter of an effect is of one of nine kinds, which is fixed; its value is of that kind.

Main definitions:

* `ShaderEffect.Kind` — the kinds, their names and their types in programs;
* `ShaderEffect.Value`, `ShaderEffect.Value.kind`, `ShaderEffect.Value.zero` — values;
* `ShaderEffect.Uniform`, `ShaderEffect.Value.uniform?` — values as programs receive them;
* `ShaderEffect.Value.ofJson?` — a value from the metadata.

Main results:

* `ShaderEffect.Value.kind_zero`, `ShaderEffect.Value.kind_ofJson?` — values are of the kind they
  were made for;
* `ShaderEffect.Value.uniform?_type` — what a program receives is of the type of the kind.
-/

import ShaderEffect.Buffer.Descriptor

set_option autoImplicit false

namespace ShaderEffect

/-! ### Kinds -/

/-- The kind of a parameter. -/
inductive Kind where
  /-- True for one frame. -/
  | event
  | bool
  | long
  | float
  | point2D
  | color
  | image
  /-- The samples of a sound, as an image. -/
  | audio
  /-- The frequencies of a sound, as an image. -/
  | audioFFT
  deriving DecidableEq, Repr

namespace Kind

/-- The name of a kind in the metadata. -/
def name : Kind → String
  | event => "event"
  | bool => "bool"
  | long => "long"
  | float => "float"
  | point2D => "point2D"
  | color => "color"
  | image => "image"
  | audio => "audio"
  | audioFFT => "audioFFT"

/-- The kind of a name. -/
def ofName? : String → Option Kind
  | "event" => some event
  | "bool" => some bool
  | "long" => some long
  | "float" => some float
  | "point2D" => some point2D
  | "color" => some color
  | "image" => some image
  | "audio" => some audio
  | "audioFFT" => some audioFFT
  | _ => none

/-- Whether the values are sounds. -/
def isAudio : Kind → Bool
  | audio | audioFFT => true
  | _ => false

/-- Whether programs sample the values. -/
def isSampler : Kind → Bool
  | image | audio | audioFFT => true
  | _ => false

/-- The type that the values have in programs, if they are not sampled. -/
def typeName? : Kind → Option String
  | event | bool => some "bool"
  | long => some "int"
  | float => some "float"
  | point2D => some "vec2"
  | color => some "vec4"
  | image | audio | audioFFT => none

/-- The name of a kind is understood. -/
theorem ofName?_name (k : Kind) : ofName? k.name = some k := by
  cases k <;> rfl

/-- Values have a type in programs exactly if they are not sampled. -/
theorem isSome_typeName? (k : Kind) : k.typeName?.isSome = !k.isSampler := by
  cases k <;> rfl

end Kind

/-! ### Values -/

/-- Two numbers. -/
structure Vec2 where
  x : Float32
  y : Float32
  deriving DecidableEq

/-- Four numbers. -/
structure Vec4 where
  x : Float32
  y : Float32
  z : Float32
  w : Float32
  deriving DecidableEq

/-- The number zero in single precision. -/
def zero32 : Float32 := Float32.ofBits 0

/-- The value of a parameter. -/
inductive Value where
  | event (b : Bool)
  | bool (b : Bool)
  | long (n : Int32)
  | float (x : Float32)
  | point2D (v : Vec2)
  | color (v : Vec4)
  | image (binding : Option Binding)
  | audio (binding : Option Binding)
  | audioFFT (binding : Option Binding)
  deriving DecidableEq

/-- A value as a program receives it. -/
inductive Uniform where
  | bool (b : Bool)
  | int (n : Int32)
  | float (x : Float32)
  | vec2 (v : Vec2)
  | vec4 (v : Vec4)
  deriving DecidableEq

/-- The type of what a program receives. -/
def Uniform.typeName : Uniform → String
  | bool _ => "bool"
  | int _ => "int"
  | float _ => "float"
  | vec2 _ => "vec2"
  | vec4 _ => "vec4"

namespace Value

/-- The kind of a value. -/
def kind : Value → Kind
  | event _ => .event
  | bool _ => .bool
  | long _ => .long
  | float _ => .float
  | point2D _ => .point2D
  | color _ => .color
  | image _ => .image
  | audio _ => .audio
  | audioFFT _ => .audioFFT

/-- The value a parameter starts with. -/
def zero : Kind → Value
  | .event => event false
  | .bool => bool false
  | .long => long 0
  | .float => float zero32
  | .point2D => point2D ⟨zero32, zero32⟩
  | .color => color ⟨zero32, zero32, zero32, zero32⟩
  | .image => image none
  | .audio => audio none
  | .audioFFT => audioFFT none

@[simp] theorem kind_zero (k : Kind) : (zero k).kind = k := by
  cases k <;> rfl

/-- A value as a number in size expressions. -/
def number? : Value → Option Float
  | event b => some (if b then 1.0 else 0.0)
  | bool b => some (if b then 1.0 else 0.0)
  | long n => some (Decimal.ofFraction (n.toInt < 0) n.toInt.natAbs 1)
  | float x => some x.toFloat
  | _ => none

/-- A value as a program receives it, if it is not sampled. -/
def uniform? : Value → Option Uniform
  | event b => some (.bool b)
  | bool b => some (.bool b)
  | long n => some (.int n)
  | float x => some (.float x)
  | point2D v => some (.vec2 v)
  | color v => some (.vec4 v)
  | _ => none

/-- What a program receives is of the type of the kind. -/
theorem uniform?_type (v : Value) : v.uniform?.map Uniform.typeName = v.kind.typeName? := by
  cases v <;> rfl

/-- The buffer that is sampled. -/
def binding? : Value → Option Binding
  | image b => b
  | audio b => b
  | audioFFT b => b
  | _ => none

/-- A buffer as a value of a kind that is sampled. -/
def ofBinding? (binding : Option Binding) : Kind → Option Value
  | .image => some (image binding)
  | .audio => some (audio binding)
  | .audioFFT => some (audioFFT binding)
  | _ => none

theorem kind_ofBinding? {binding : Option Binding} {k : Kind} {v : Value}
    (h : ofBinding? binding k = some v) : v.kind = k := by
  cases k <;> simp [ofBinding?] at h <;> subst h <;> rfl

/-! ### Values in the metadata -/

/-- The nearest whole number that fits 32 bits. -/
def saturate (n : Int) : Int32 := Int32.ofInt (max (-2147483648) (min 2147483647 n))

/-- A number as a whole number: rounded, a half away from zero, and kept within 32 bits. -/
def longOf (x : Float) : Int32 := saturate (Decimal.roundToInt x)

/-- A truth value, or a number that is not zero. -/
def boolOf? : Json → Option Bool
  | .bool b => some b
  | .number n => some (n.toFloat != 0.0)
  | _ => none

/-- A number in single precision. -/
def singleOf? (j : Json) : Option Float32 := j.float?.map Float.toFloat32

/-- Two numbers. -/
def vec2Of? : Json → Option Vec2
  | .array [a, b] =>
    match singleOf? a, singleOf? b with
    | some x, some y => some ⟨x, y⟩
    | _, _ => none
  | _ => none

/-- Four numbers. -/
def vec4Of? : Json → Option Vec4
  | .array [a, b, c, d] =>
    match singleOf? a, singleOf? b, singleOf? c, singleOf? d with
    | some x, some y, some z, some w => some ⟨x, y, z, w⟩
    | _, _, _, _ => none
  | _ => none

/-- The value of a kind that a part of the metadata stands for. -/
def ofJson? : Kind → Json → Option Value
  | .event, j => (boolOf? j).map event
  | .bool, j => (boolOf? j).map bool
  | .long, j => j.float?.map fun x => long (longOf x)
  | .float, j => (singleOf? j).map float
  | .point2D, j => (vec2Of? j).map point2D
  | .color, j => (vec4Of? j).map color
  | _, _ => none

/-- A value from the metadata is of the kind it was read for. -/
theorem kind_ofJson? {k : Kind} {j : Json} {v : Value} (h : ofJson? k j = some v) : v.kind = k := by
  cases k <;> simp only [ofJson?, Option.map_eq_some_iff, reduceCtorEq] at h <;>
    obtain ⟨_, _, rfl⟩ := h <;> rfl

end Value

end ShaderEffect
