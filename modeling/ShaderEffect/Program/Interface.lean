/-
**What a generated program declares.**

A program receives variables and samplers.  Some variables are the same for all effects, some are
the inputs that are not sampled, and three accompany each sampler.

Main definitions:

* `ShaderEffect.Variable`, `ShaderEffect.Sampler` — what is declared;
* `ShaderEffect.builtins`, `ShaderEffect.Sampler.companions` — the variables of all effects, and
  those of a sampler;
* `ShaderEffect.Interface`, `ShaderEffect.Interface.uniforms` — inputs and samplers of an effect,
  and all its variables.
-/

import ShaderEffect.Buffer.Descriptor
import ShaderEffect.Dialect

set_option autoImplicit false

namespace ShaderEffect

/-- A variable of a program. -/
structure Variable where
  type : String
  name : String
  deriving DecidableEq, Repr

/-- Something a program samples. -/
structure Sampler where
  name : String
  shape : Shape
  deriving DecidableEq, Repr

/-- The variables of all effects. -/
def builtins : List Variable :=
  [⟨"int", "PASSINDEX"⟩, ⟨"vec2", "RENDERSIZE"⟩, ⟨"float", "TIME"⟩, ⟨"float", "TIMEDELTA"⟩,
    ⟨"vec4", "DATE"⟩, ⟨"int", "FRAMEINDEX"⟩]

namespace Shape

/-- The type of samplers of a shape. -/
def samplerType : Shape → String
  | flat => "sampler2D"
  | rectangle => "sampler2DRect"
  | cube => "samplerCube"

/-- What the names of the sampling functions of a shape contain. -/
def functionPart : Shape → String
  | flat => "2D"
  | rectangle => "2DRECT"
  | cube => "CUBE"

end Shape

namespace Sampler

/-- The name of the variable that holds the part of the texture that is used. -/
def rectName (name : String) : String := "_" ++ name ++ "_imgRect"

/-- The name of the variable that holds the size of the image. -/
def sizeName (name : String) : String := "_" ++ name ++ "_imgSize"

/-- The name of the variable that says whether the first row is at the bottom. -/
def flipName (name : String) : String := "_" ++ name ++ "_flip"

/-- The variables that accompany a sampler. -/
def companions (s : Sampler) : List Variable :=
  [⟨"vec4", rectName s.name⟩, ⟨"vec2", sizeName s.name⟩, ⟨"bool", flipName s.name⟩]

/-- The declaration of a sampler. -/
def toVariable (s : Sampler) : Variable := ⟨s.shape.samplerType, s.name⟩

end Sampler

/-- The inputs that are not sampled, and the samplers. -/
structure Interface where
  inputs : List Variable
  samplers : List Sampler

namespace Interface

/-- All variables, in the order of their declaration. -/
def uniforms (i : Interface) : List Variable :=
  builtins ++ i.inputs ++ i.samplers.flatMap Sampler.companions

/-- Whether something of a shape is sampled. -/
def samples (i : Interface) (shape : Shape) : Bool := i.samplers.any (·.shape = shape)

end Interface

end ShaderEffect
