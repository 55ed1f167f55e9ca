/-
**A device under observation.**

Nothing is known about a device but what it answers.  What is asked of it can be seen from outside:
an observed device answers as the device does, and remembers every call with its answer.

Main definitions:

* `ShaderEffect.DeviceCall` — a call, with its answer;
* `ShaderEffect.Observed` — the state of a device together with the calls that reached it;
* `ShaderEffect.Device.observed` — **the device under observation**.

Main results:

* `ShaderEffect.Device.performAll_observed`, `ShaderEffect.Device.destroyAll_observed` — commands
  and destroyed buffers are remembered in order.
-/

import ShaderEffect.Device.Basic

set_option autoImplicit false

namespace ShaderEffect

/-- A call that reached a device, and what came of it; `none` where the device refused. -/
inductive DeviceCall where
  | create (d : Descriptor) (answer : Option Buffer)
  | destroy (b : Buffer)
  | load (path : String) (answer : Option (Buffer × Descriptor))
  | compile (source : ProgramSource) (answer : Option Program)
  | command (c : Command)

/-- A device with the calls that reached it. -/
structure Observed (σ : Type) where
  state : σ
  /-- The calls, in the order in which they came. -/
  calls : List DeviceCall

namespace Device

variable {σ : Type}

/-- An answer, and the call that it answers. -/
def noted {ε α : Type} (call : Option α → DeviceCall) (calls : List DeviceCall) :
    EStateM.Result ε σ α → EStateM.Result ε (Observed σ) α
  | .ok a state => .ok a ⟨state, calls ++ [call (some a)]⟩
  | .error e state => .error e ⟨state, calls ++ [call none]⟩

/-- An accepted call is remembered with its answer. -/
theorem calls_of_noted_ok {ε α : Type} {call : Option α → DeviceCall} {calls : List DeviceCall}
    {r : EStateM.Result ε σ α} {a : α} {s : Observed σ} (h : noted call calls r = .ok a s) :
    s.calls = calls ++ [call (some a)] := by
  cases r with
  | ok b state =>
      cases h
      rfl
  | error e state => cases h

/-- A refused call is remembered, too. -/
theorem calls_of_noted_error {ε α : Type} {call : Option α → DeviceCall}
    {calls : List DeviceCall} {r : EStateM.Result ε σ α} {e : ε} {s : Observed σ}
    (h : noted call calls r = .error e s) : s.calls = calls ++ [call none] := by
  cases r with
  | ok b state => cases h
  | error e state =>
      cases h
      rfl

/-- **The device under observation.** -/
def observed (device : Device σ) : Device (Observed σ) where
  createBuffer d := fun s => noted (.create d) s.calls (device.createBuffer d s.state)
  destroyBuffer b s := ⟨device.destroyBuffer b s.state, s.calls ++ [.destroy b]⟩
  loadImage path := fun s => noted (.load path) s.calls (device.loadImage path s.state)
  compile source := fun s => noted (.compile source) s.calls (device.compile source s.state)
  perform c s := ⟨device.perform c s.state, s.calls ++ [.command c]⟩

/-- Commands are remembered in order. -/
theorem performAll_observed (device : Device σ) (commands : List Command) (s : Observed σ) :
    device.observed.performAll commands s =
      ⟨device.performAll commands s.state, s.calls ++ commands.map .command⟩ := by
  unfold performAll
  induction commands generalizing s with
  | nil => simp
  | cons c commands ih =>
      rw [List.foldl_cons, ih]
      simp [observed]

/-- Destroyed buffers are remembered in order. -/
theorem destroyAll_observed (device : Device σ) (buffers : List Buffer) (s : Observed σ) :
    device.observed.destroyAll buffers s =
      ⟨device.destroyAll buffers s.state, s.calls ++ buffers.map .destroy⟩ := by
  unfold destroyAll
  induction buffers generalizing s with
  | nil => simp
  | cons b buffers ih =>
      rw [List.foldl_cons, ih]
      simp [observed]

end Device

end ShaderEffect
