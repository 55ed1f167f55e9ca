/-
**The text in front of the body of a program.**

In front of the body stand the version of the language, the declarations, and the functions that
calls of macros are replaced by.

Main definitions:

* `ShaderEffect.Stage` — the two programs that belong together;
* `ShaderEffect.Dialect.preamble` — the first lines;
* `ShaderEffect.Interface.declarations` — the declarations;
* `ShaderEffect.SamplingFunction`, `ShaderEffect.Shape.samplingFunctions` — the functions that
  sample images of a shape;
* `ShaderEffect.Interface.functions` — their definitions, for the shapes that occur.
-/

import ShaderEffect.Program.Interface

set_option autoImplicit false

namespace ShaderEffect

/-- The two programs of an effect. -/
inductive Stage where
  | vertex
  | fragment
  deriving DecidableEq, Repr

namespace Dialect

/-- The first lines of a program. -/
def preamble : Dialect → String
  | gl2 => "#version 110\n"
  | gles2 => "#version 100\nprecision highp float;\nprecision highp int;\n"
  | gl33 => "#version 330\n"
  | gl4 | unknown => "#version 410\n"
  | gles3 => "#version 300 es\nprecision highp float;\nprecision highp int;\n"

/-- The word for what is handed from the vertex program to the fragment program. -/
def varying (d : Dialect) (stage : Stage) : String :=
  if d.isModern then
    match stage with
    | .vertex => "out"
    | .fragment => "in"
  else "varying"

/-- The word for what a vertex program receives. -/
def vertexInput (d : Dialect) : String := if d.isModern then "in" else "attribute"

/-- The function of the language that samples a texture of a shape. -/
def sampleFunction (d : Dialect) (shape : Shape) : String :=
  if d.isModern then "texture"
  else
    match shape with
    | .flat => "texture2D"
    | .rectangle => "texture2DRect"
    | .cube => "textureCube"

end Dialect

/-! ### Declarations -/

/-- The name of the block of uniforms. -/
def uniformBlockName : String := "ISF_UNIFORMS"

namespace Interface

/-- The declaration of a variable in a block. -/
def memberLine (v : Variable) : String := "\t" ++ v.type ++ " " ++ v.name ++ ";\n"

/-- The declaration of a variable of its own. -/
def uniformLine (v : Variable) : String := "uniform " ++ v.type ++ " " ++ v.name ++ ";\n"

/-- The declarations of the variables, in a block or one by one. -/
def uniformLines (i : Interface) (block : Bool) : String :=
  if block then
    "layout(std140) uniform " ++ uniformBlockName ++ " \x7b\n" ++
      String.join (i.uniforms.map memberLine) ++ "\x7d;\n"
  else String.join (i.uniforms.map uniformLine)

/-- What a stage receives and hands on. -/
def stageLines (d : Dialect) (stage : Stage) : String :=
  d.varying stage ++ " vec2 isf_FragNormCoord;\n" ++
    match stage with
    | .vertex => d.vertexInput ++ " vec2 VERTDATA;\n"
    | .fragment =>
      if d.isModern then "out vec4 isf_FragColor;\n#define gl_FragColor isf_FragColor\n" else ""

/-- The declarations of a stage. -/
def declarations (i : Interface) (d : Dialect) (stage : Stage) (block : Bool) : String :=
  i.uniformLines block ++ String.join (i.samplers.map fun s => uniformLine s.toVariable) ++
    stageLines d stage

/-! ### Sampling functions -/

end Interface

/-- A function that samples an image. -/
structure SamplingFunction where
  name : String
  parameters : List Variable
  /-- The lines between the first and the last one of the definition. -/
  body : List String
  deriving DecidableEq

namespace SamplingFunction

/-- The first line of the definition. -/
def heading (f : SamplingFunction) : String :=
  "vec4 " ++ f.name ++ "(" ++
    ", ".intercalate (f.parameters.map fun v => v.type ++ " " ++ v.name) ++ ") \x7b"

/-- The lines of the definition. -/
def lines (f : SamplingFunction) : List String := f.heading :: f.body ++ ["\x7d"]

end SamplingFunction

namespace Shape

/-- The parameters that stand for an image: the sampler, and the variables that accompany it. -/
def imageParameters (shape : Shape) : List Variable :=
  [⟨shape.samplerType, "sampler"⟩, ⟨"vec4", "samplerImgRect"⟩, ⟨"vec2", "samplerImgSize"⟩,
    ⟨"bool", "samplerFlip"⟩]

/-- The function that samples an image of a shape at a place given by pixels. -/
def pixelFunction (d : Dialect) (shape : Shape) : SamplingFunction where
  name := "VVSAMPLER_" ++ shape.functionPart ++ "BYPIXEL"
  parameters := shape.imageParameters ++ [⟨"vec2", "loc"⟩]
  body :=
    let sample := d.sampleFunction shape
    let x := "((loc.x/samplerImgSize.x*samplerImgRect.z)+samplerImgRect.x)"
    let y := "(loc.y/samplerImgSize.y*samplerImgRect.w)"
    ["\treturn (samplerFlip)",
      "\t\t? " ++ sample ++ "(sampler, vec2(" ++ x ++ ", (samplerImgRect.w-" ++ y ++
        "+samplerImgRect.y)))",
      "\t\t: " ++ sample ++ "(sampler, vec2(" ++ x ++ ", (" ++ y ++ "+samplerImgRect.y)));"]

/-- The function that samples an image of a shape at a place given by fractions of the size; for
cubes that is a direction. -/
def normFunction (d : Dialect) : Shape → SamplingFunction
  | .cube =>
    { name := "VVSAMPLER_CUBEBYNORM"
      parameters := imageParameters .cube ++ [⟨"vec3", "normLoc"⟩]
      body := ["\treturn " ++ d.sampleFunction .cube ++ "(sampler, normLoc);"] }
  | shape =>
    { name := "VVSAMPLER_" ++ shape.functionPart ++ "BYNORM"
      parameters := shape.imageParameters ++ [⟨"vec2", "normLoc"⟩]
      body := ["\treturn VVSAMPLER_" ++ shape.functionPart ++
        "BYPIXEL(sampler, samplerImgRect, samplerImgSize, samplerFlip, " ++
        "vec2(normLoc.x*samplerImgSize.x, normLoc.y*samplerImgSize.y));"] }

/-- The sampling functions of a shape.  Cubes are not sampled by pixels. -/
def samplingFunctions (d : Dialect) : Shape → List SamplingFunction
  | .cube => [normFunction d .cube]
  | shape => [shape.pixelFunction d, shape.normFunction d]

end Shape

namespace Interface

/-- The shapes that occur. -/
def shapes (i : Interface) : List Shape := [.flat, .rectangle, .cube].filter i.samples

/-- The sampling functions, for the shapes that occur. -/
def samplingFunctions (i : Interface) (d : Dialect) : List SamplingFunction :=
  i.shapes.flatMap fun shape => shape.samplingFunctions d

/-- The definitions of the sampling functions, with an empty line in front of those of a shape. -/
def functions (i : Interface) (d : Dialect) : String :=
  String.join ((i.shapes.flatMap fun shape =>
    "" :: (shape.samplingFunctions d).flatMap SamplingFunction.lines).map (· ++ "\n"))

/-- The function that vertex programs call first. -/
def vertexStart : String :=
  "\nvoid isf_vertShaderInit() \x7b\n" ++
    "\tgl_Position = vec4(VERTDATA, 0.0, 1.0);\n" ++
    "\tisf_FragNormCoord = vec2((gl_Position.x+1.0)/2.0, (gl_Position.y+1.0)/2.0);\n\x7d\n"

end Interface

end ShaderEffect
