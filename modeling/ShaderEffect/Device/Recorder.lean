/-
**A recording device.**

The recorder draws nothing.  It numbers what it creates, remembers what it was told, and can be made
to refuse.

Main definitions:

* `ShaderEffect.Recorder` — the state of a recorder;
* `ShaderEffect.Recorder.device` — the recorder as a device.
-/

import ShaderEffect.Device.Basic

set_option autoImplicit false

namespace ShaderEffect

/-- What a recorder has done, and what it will refuse. -/
structure Recorder where
  /-- The number of the next buffer. -/
  nextBuffer : Nat
  /-- The number of the next program. -/
  nextProgram : Nat
  /-- How many more buffers it will create, if there is a limit. -/
  allocationsLeft : Option Nat
  /-- Whether it refuses to compile. -/
  refusesPrograms : Bool
  /-- The images that can be loaded, with their paths. -/
  images : List (String × Descriptor)
  /-- The buffers it created, the latest first. -/
  created : List (Buffer × Descriptor)
  /-- The buffers it loaded, the latest first. -/
  loaded : List (Buffer × String)
  /-- The buffers it destroyed, the latest first. -/
  destroyed : List Buffer
  /-- The programs it compiled, the latest first. -/
  compiled : List Program
  /-- The commands it obeyed, the latest first. -/
  commands : List Command

namespace Recorder

/-- A recorder that has done nothing and refuses nothing. -/
def fresh : Recorder := ⟨1, 0, none, false, [], [], [], [], [], []⟩

/-- The recorder without its memory of what it did. -/
def forget (r : Recorder) : Recorder :=
  { r with created := [], loaded := [], destroyed := [], compiled := [], commands := [] }

/-- Makes the image of a path available, or no longer. -/
def setImage (r : Recorder) (path : String) (image : Option Descriptor) : Recorder :=
  { r with images := (image.map fun d => (path, d)).toList ++ r.images.filter (·.1 ≠ path) }

/-- Creates a buffer, unless there is no room left. -/
def createBuffer (d : Descriptor) : EStateM String Recorder Buffer := fun r =>
  if r.allocationsLeft = some 0 then .error "out of memory" r
  else
    .ok ⟨r.nextBuffer⟩ { r with
      nextBuffer := r.nextBuffer + 1
      allocationsLeft := r.allocationsLeft.map (· - 1)
      created := (⟨r.nextBuffer⟩, d) :: r.created }

/-- Loads an image. -/
def loadImage (path : String) : EStateM FileFault Recorder (Buffer × Descriptor) := fun r =>
  match r.images.lookup path with
  | none => .error (.device "no such image") r
  | some d =>
    .ok (⟨r.nextBuffer⟩, d) { r with
      nextBuffer := r.nextBuffer + 1
      loaded := (⟨r.nextBuffer⟩, path) :: r.loaded }

/-- Compiles a program, unless it refuses to. -/
def compile (_ : ProgramSource) : EStateM String Recorder Program := fun r =>
  if r.refusesPrograms then .error "syntax error" r
  else
    .ok ⟨r.nextProgram⟩ { r with
      nextProgram := r.nextProgram + 1
      compiled := ⟨r.nextProgram⟩ :: r.compiled }

/-- The recorder as a device. -/
def device : Device Recorder where
  createBuffer := createBuffer
  destroyBuffer b r := { r with destroyed := b :: r.destroyed }
  loadImage := loadImage
  compile := compile
  perform c r := { r with commands := c :: r.commands }

end Recorder

end ShaderEffect
