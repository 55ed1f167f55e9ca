/-
**What a pass tells the device.**

A pass selects program and target, gives all variables their values, binds all samplers, and draws.
A target is sampled as the passes before it in the same frame left it, or else as the last frame
left it, if it is persistent.

Main definitions:

* `ShaderEffect.Sample` — what a sampler reads from;
* `ShaderEffect.Document.samples` — what all samplers of a pass read from;
* `ShaderEffect.Document.passCommands` — the commands of a pass.
-/

import ShaderEffect.Scene.Basic

set_option autoImplicit false

namespace ShaderEffect

/-! ### Samples -/

/-- What a sampler reads from. -/
structure Sample where
  /-- The name of the sampler. -/
  name : String
  /-- The buffer it reads from, if any. -/
  handle : Option Handle
  /-- Whether the first row is at the bottom. -/
  flipped : Bool
  deriving DecidableEq

/-- What the sampler of a parameter reads from. -/
def Parameter.sample (p : Parameter) : Sample :=
  match p.current.binding? with
  | some b => ⟨p.name, some b.handle, b.flipped⟩
  | none => ⟨p.name, none, false⟩

/-- What the sampler of a target reads from, after passes have drawn into the targets in
`written`. -/
def Target.sample (written : List String) (t : Target) : Sample where
  name := t.name
  handle := if t.name ∈ written then t.current else if t.persistent then t.previous else none
  flipped := false

namespace Sample

/-- The number one in single precision. -/
def one32 : Float32 := Float32.ofBits 0x3f800000

/-- The part of a texture that an image takes: rectangles are measured in pixels. -/
def rect (d : Option Descriptor) : Vec4 :=
  match d with
  | some d =>
    match d.shape with
    | .rectangle => ⟨zero32, zero32, d.size.toVec2.1, d.size.toVec2.2⟩
    | _ => ⟨zero32, zero32, one32, one32⟩
  | none => ⟨zero32, zero32, one32, one32⟩

/-- The size of an image. -/
def extent (d : Option Descriptor) : Vec2 :=
  match d with
  | some d => ⟨d.size.toVec2.1, d.size.toVec2.2⟩
  | none => ⟨zero32, zero32⟩

/-- The commands that bind a sampler to a unit. -/
def commands (pool : Pool) (unit : Nat) (s : Sample) : List Command :=
  let d := s.handle.bind pool.descriptor?
  [.bindSampler s.name unit (s.handle.bind pool.buffer?),
    .setUniform (Sampler.rectName s.name) (.vec4 (rect d)),
    .setUniform (Sampler.sizeName s.name) (.vec2 (extent d)),
    .setUniform (Sampler.flipName s.name) (.bool s.flipped)]

/-- The commands that bind samplers to units from `unit` on. -/
def allCommands (pool : Pool) (unit : Nat) : List Sample → List Command
  | [] => []
  | s :: rest => s.commands pool unit ++ allCommands pool (unit + 1) rest

end Sample

/-! ### Passes -/

/-- A pass that is about to be drawn. -/
structure Pass where
  /-- The number of the pass. -/
  index : Nat
  /-- The buffer it draws into; without one it draws into the final output. -/
  buffer : Option Buffer
  size : Size
  /-- The names of the targets that passes of this frame have drawn into. -/
  written : List String

/-- The variables of all effects with their values. -/
def Pass.builtinCommands (pass : Pass) (clock : Clock) : List Command :=
  [.setUniform "PASSINDEX" (.int (Int32.ofNat pass.index)),
    .setUniform "RENDERSIZE" (.vec2 ⟨pass.size.toVec2.1, pass.size.toVec2.2⟩),
    .setUniform "TIME" (.float clock.time),
    .setUniform "TIMEDELTA" (.float clock.delta),
    .setUniform "DATE" (.vec4 clock.date),
    .setUniform "FRAMEINDEX" (.int (Int32.ofNat clock.frameIndex))]

namespace Document

/-- The inputs that are not sampled, with their values. -/
def inputCommands (d : Document) : List Command :=
  d.inputs.filterMap fun p => p.current.uniform?.map fun v => .setUniform p.name v

/-- What the samplers of a pass read from, in the order of their units. -/
def samples (d : Document) (written : List String) : List Sample :=
  d.images.map Parameter.sample ++ d.passes.targets.map (Target.sample written)

/-- The commands of a pass. -/
def passCommands (d : Document) (pool : Pool) (program : Program) (clock : Clock) (pass : Pass) :
    List Command :=
  .useProgram program :: .bindTarget pass.buffer pass.size :: d.inputCommands ++
    Sample.allCommands pool 0 (d.samples pass.written) ++ pass.builtinCommands clock ++ [.draw]

end Document

end ShaderEffect
