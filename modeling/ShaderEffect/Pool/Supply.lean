/-
**Buffers from a pool on a device.**

The pool is asked first; what it does not have, the device creates.

Main definitions:

* `ShaderEffect.Supply` — a pool and the device that holds its buffers;
* `ShaderEffect.Supply.acquire`, `ShaderEffect.Supply.release` — taking a buffer and giving it back;
* `ShaderEffect.Supply.housekeep`, `ShaderEffect.Supply.clear` — destroying buffers.
-/

import ShaderEffect.Pool.Basic

set_option autoImplicit false

namespace ShaderEffect

/-- A pool and the device that holds its buffers. -/
structure Supply (σ : Type) where
  pool : Pool
  device : σ

namespace Supply

variable {σ : Type}

/-- Takes a buffer with a descriptor: an idle one, or else a new one. -/
def acquire (device : Device σ) (d : Descriptor) : EStateM Failure (Supply σ) Handle := fun s =>
  match s.pool.reuse d with
  | (some h, pool) => .ok h { s with pool := pool }
  | (none, pool) =>
    match device.createBuffer d s.device with
    | .error reason state => .error (.device (.create d.size reason)) ⟨pool, state⟩
    | .ok b state => .ok (pool.adopt d b).1 ⟨(pool.adopt d b).2, state⟩

/-- Gives a buffer back. -/
def release (h : Handle) : EStateM Failure (Supply σ) Unit := fun s =>
  match s.pool.release h with
  | .error failure => .error failure s
  | .ok pool => .ok () { s with pool := pool }

/-- Gives a buffer back if it is handed out. -/
def releaseHeld (h : Handle) : EStateM Failure (Supply σ) Unit := fun s =>
  if s.pool.isInUse h then release h s else .ok () s

/-- Gives buffers back in order. -/
def releaseAll : List Handle → EStateM Failure (Supply σ) Unit
  | [] => pure ()
  | h :: hs => do
    release h
    releaseAll hs

/-- Gives back those buffers that are handed out. -/
def releaseAllHeld : List Handle → EStateM Failure (Supply σ) Unit
  | [] => pure ()
  | h :: hs => do
    releaseHeld h
    releaseAllHeld hs

/-- A round of housekeeping, and how many buffers it destroyed. -/
def housekeep (device : Device σ) (s : Supply σ) : Nat × Supply σ :=
  let (expired, pool) := s.pool.evict
  (expired.length,
    ⟨pool, device.destroyAll (expired.filterMap s.pool.buffer?) s.device⟩)

/-- Destroys all buffers, even those that are handed out. -/
def clear (device : Device σ) (s : Supply σ) : Supply σ :=
  ⟨s.pool.cleared, device.destroyAll (s.pool.entries.map fun e => e.2.buffer) s.device⟩

end Supply

end ShaderEffect
