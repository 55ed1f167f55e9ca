/-
**Devices.**

A device holds buffers and compiled programs and draws with them.  Nothing is known about it but
what it answers: it may refuse to create a buffer, to load an image or to compile a program.

Main definitions:

* `ShaderEffect.Buffer`, `ShaderEffect.Program` — what a device holds;
* `ShaderEffect.Command` — what a device is told while a frame is drawn;
* `ShaderEffect.Device` — a device with states of a type.
-/

import ShaderEffect.Failure
import ShaderEffect.Program.Source

set_option autoImplicit false

namespace ShaderEffect

/-- A buffer of a device. -/
structure Buffer where
  number : Nat
  deriving DecidableEq, Repr

/-- A compiled program of a device. -/
structure Program where
  number : Nat
  deriving DecidableEq, Repr

/-- What a device is told while a frame is drawn. -/
inductive Command where
  /-- Goes on with a program. -/
  | useProgram (program : Program)
  /-- Goes on drawing into a buffer, or into the final output. -/
  | bindTarget (buffer : Option Buffer) (size : Size)
  /-- Gives a variable of the program a value. -/
  | setUniform (name : String) (value : Uniform)
  /-- Lets a sampler of the program read from a buffer, or from nothing. -/
  | bindSampler (name : String) (unit : Nat) (buffer : Option Buffer)
  /-- Draws over the whole target. -/
  | draw
  deriving DecidableEq

/-- A device whose states are of type `σ`. -/
structure Device (σ : Type) where
  /-- Creates a buffer, or says why it does not. -/
  createBuffer : Descriptor → EStateM String σ Buffer
  /-- Destroys a buffer. -/
  destroyBuffer : Buffer → σ → σ
  /-- Creates a buffer that holds the image in a file. -/
  loadImage : String → EStateM FileFault σ (Buffer × Descriptor)
  /-- Compiles a program, or says why it does not. -/
  compile : ProgramSource → EStateM String σ Program
  /-- Obeys a command. -/
  perform : Command → σ → σ

namespace Device

variable {σ : Type}

/-- Obeys commands in order. -/
def performAll (device : Device σ) (commands : List Command) (state : σ) : σ :=
  commands.foldl (fun state command => device.perform command state) state

/-- Destroys buffers in order. -/
def destroyAll (device : Device σ) (buffers : List Buffer) (state : σ) : σ :=
  buffers.foldl (fun state buffer => device.destroyBuffer buffer state) state

end Device

end ShaderEffect
