/-
**Scenes.**

A scene renders a document frame by frame.  It keeps the program that was compiled last, with what
it was compiled for, and counts the frames that were completed.

Main definitions:

* `ShaderEffect.Scene` — a scene;
* `ShaderEffect.Moment` — when a frame is rendered;
* `ShaderEffect.PassReport`, `ShaderEffect.FrameReport` — what was drawn in a frame;
* `ShaderEffect.Studio` — everything that rendering works on.
-/

import ShaderEffect.Document.Basic
import ShaderEffect.Pool.Supply

set_option autoImplicit false

namespace ShaderEffect

/-! ### Time -/

/-- A moment. -/
structure Moment where
  /-- Nanoseconds on a clock that never goes back. -/
  nanoseconds : Nat
  /-- Year, month, day, and seconds since midnight. -/
  date : Vec4
  deriving DecidableEq

namespace Moment

/-- A number of nanoseconds in seconds. -/
def seconds (nanoseconds : Nat) : Float32 :=
  Float32.ofNat (nanoseconds / 1000000000) +
    Float32.ofNat (nanoseconds % 1000000000) / Float32.ofNat 1000000000

/-- The seconds from one reading of the clock to another. -/
def elapsed (start stop : Nat) : Float32 := seconds (stop - start)

end Moment

/-- What a frame is told about time. -/
structure Clock where
  /-- Seconds since the scene was made. -/
  time : Float32
  /-- Seconds since the last complete frame, or zero. -/
  delta : Float32
  date : Vec4
  /-- How many frames were completed before. -/
  frameIndex : Nat
  deriving DecidableEq

/-! ### Scenes -/

/-- What a program depends on, besides the texts of the document. -/
structure ProgramKey where
  settings : SceneSettings
  textureTypes : String
  deriving DecidableEq

/-- A compiled program with what it was compiled for and from. -/
structure CompiledProgram where
  key : ProgramKey
  program : Program
  source : ProgramSource
  deriving DecidableEq

/-- A scene. -/
structure Scene where
  /-- How its programs are written. -/
  settings : SceneSettings
  /-- The program that was compiled last. -/
  compiled : Option CompiledProgram
  /-- How many frames were completed. -/
  frameIndex : Nat
  /-- When the scene was made, in nanoseconds. -/
  started : Nat
  /-- When the last frame was completed, in nanoseconds. -/
  lastFrame : Option Nat
  deriving DecidableEq

namespace Scene

/-- A scene that has rendered nothing. -/
def ofSettings (settings : SceneSettings) (started : Nat) : Scene :=
  ⟨settings, none, 0, started, none⟩

/-- What a frame is told about time. -/
def clock (s : Scene) (now : Moment) : Clock where
  time := Moment.elapsed s.started now.nanoseconds
  delta := match s.lastFrame with
    | some last => Moment.elapsed last now.nanoseconds
    | none => zero32
  date := now.date
  frameIndex := s.frameIndex

/-- The scene after a complete frame. -/
def advance (s : Scene) (now : Moment) : Scene :=
  { s with frameIndex := s.frameIndex + 1, lastFrame := some now.nanoseconds }

end Scene

/-! ### Reports -/

/-- What was drawn in a pass. -/
structure PassReport where
  /-- The number of the pass. -/
  index : Nat
  /-- The name of its target; the empty name is the final output. -/
  target : String
  size : Size
  /-- The buffer of the target. -/
  buffer : Option Handle
  deriving DecidableEq

/-- What was drawn in a frame. -/
structure FrameReport where
  /-- How many frames were completed before. -/
  frameIndex : Nat
  passes : List PassReport
  deriving DecidableEq

/-! ### Studios -/

/-- Everything that rendering works on. -/
structure Studio (σ : Type) where
  scene : Scene
  document : Document
  supply : Supply σ

/-- A part of rendering.  It can fail, and what it has changed by then stays changed. -/
abbrev Work (σ : Type) := EStateM Failure (Studio σ)

end ShaderEffect
