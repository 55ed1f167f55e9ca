/-
**Generated programs.**

Main definitions:

* `ShaderEffect.ProgramSource` — a fragment program and a vertex program;
* `ShaderEffect.Interface.stageSource` — the program of one stage;
* `ShaderEffect.Interface.generate` — both programs of an effect in a dialect.
-/

import ShaderEffect.Program.Declaration
import ShaderEffect.Program.Macro
import ShaderEffect.Program.VersionLine

set_option autoImplicit false

namespace ShaderEffect

/-- The two programs of an effect. -/
structure ProgramSource where
  fragment : String
  vertex : String
  deriving DecidableEq

namespace Interface

/-- The body of a stage as it stands in the program. -/
def stageBody (i : Interface) (body : String) : Except GenerationFault (List Char) :=
  expandMacros i.samplers (dropVersionLines body.toList)

/-- What stands in front of the body of a stage. -/
def stageFront (i : Interface) (d : Dialect) (block : Bool) (stage : Stage) : String :=
  d.preamble ++
    (if i.samples .rectangle && d == .gl2 then
      "#extension GL_ARB_texture_rectangle : enable\n" else "") ++
    "\n" ++ i.declarations d stage block ++ i.functions d ++
    (match stage with
      | .vertex => vertexStart
      | .fragment => "") ++ "\n"

/-- The program of a stage. -/
def stageSource (i : Interface) (d : Dialect) (block : Bool) (stage : Stage) (body : String) :
    Except GenerationFault String :=
  match i.stageBody body with
  | .error fault => .error fault
  | .ok out => .ok (i.stageFront d block stage ++ String.ofList out)

/-- Why the dialect or the shapes of the samplers rule a program out. -/
def unsupported? (i : Interface) (d : Dialect) (block : Bool) : Option GenerationFault :=
  if d = .unknown then some .unknownDialect
  else if block && !d.isModern then some (.noUniformBlocks d)
  else if i.samples .rectangle && d.isEmbedded then some (.noRectangles d)
  else none

/-- The programs of an effect.  The body of the fragment program is gone through first. -/
def generate (i : Interface) (d : Dialect) (block : Bool) (fragment vertex : String) :
    Except GenerationFault ProgramSource :=
  match i.unsupported? d block with
  | some fault => .error fault
  | none =>
    match i.stageSource d block .fragment fragment with
    | .error fault => .error fault
    | .ok f =>
      match i.stageSource d block .vertex vertex with
      | .error fault => .error fault
      | .ok v => .ok ⟨f, v⟩

end Interface

end ShaderEffect
