/-
**Pools of buffers.**

A pool owns buffers and hands them out under handles.  A buffer that is given back stays idle until
the same descriptor is asked for, or until it has been idle for too many rounds of housekeeping.  Of
several idle buffers with one descriptor, the one given back last is handed out first.

Main definitions:

* `ShaderEffect.Pool` — the buffers of a pool, and which of them are idle;
* `ShaderEffect.Pool.reuse`, `ShaderEffect.Pool.adopt` — handing out an idle buffer, and taking a
  new one in;
* `ShaderEffect.Pool.release` — giving a buffer back;
* `ShaderEffect.Pool.evict` — a round of housekeeping.
-/

import ShaderEffect.Device.Basic
import ShaderEffect.Settings

set_option autoImplicit false

namespace ShaderEffect

/-- A buffer that a pool owns. -/
structure PoolEntry where
  /-- What the buffer is like. -/
  descriptor : Descriptor
  buffer : Buffer
  /-- Whether it is handed out. -/
  inUse : Bool
  /-- The round in which it was given back, or taken in. -/
  releasedAt : Nat
  deriving DecidableEq

/-- A pool of buffers. -/
structure Pool where
  settings : PoolSettings
  /-- The buffers it owns, by handle. -/
  entries : List (Handle × PoolEntry)
  /-- The handles of the idle buffers with their descriptors, the one given back last first. -/
  idle : List (Descriptor × Handle)
  /-- The number of the next handle. -/
  nextNumber : Nat
  /-- How many rounds of housekeeping there were. -/
  round : Nat

namespace Pool

/-- An empty pool. -/
def ofSettings (settings : PoolSettings) : Pool := ⟨settings, [], [], 1, 0⟩

/-! ### What a pool owns -/

/-- What the pool knows about a handle. -/
def find? (p : Pool) (h : Handle) : Option PoolEntry := p.entries.lookup h

/-- The buffer of a handle. -/
def buffer? (p : Pool) (h : Handle) : Option Buffer := (p.find? h).map PoolEntry.buffer

/-- The descriptor of a handle. -/
def descriptor? (p : Pool) (h : Handle) : Option Descriptor :=
  (p.find? h).map PoolEntry.descriptor

/-- Whether a handle is handed out. -/
def isInUse (p : Pool) (h : Handle) : Bool :=
  match p.find? h with
  | some e => e.inUse
  | none => false

/-- How many buffers the pool owns. -/
def size (p : Pool) : Nat := p.entries.length

/-- How many of them are idle. -/
def idleCount (p : Pool) : Nat := p.idle.length

/-- How many of them are handed out. -/
def inUseCount (p : Pool) : Nat := p.size - p.idleCount

/-! ### Handing out -/

/-- Changes what is known about a handle. -/
def update (h : Handle) (f : PoolEntry → PoolEntry) (entries : List (Handle × PoolEntry)) :
    List (Handle × PoolEntry) :=
  entries.map fun e => if e.1 = h then (e.1, f e.2) else e

/-- The first idle handle with a descriptor, and the others. -/
def takeIdle (d : Descriptor) :
    List (Descriptor × Handle) → Option (Handle × List (Descriptor × Handle))
  | [] => none
  | e :: rest =>
    if e.1 = d then some (e.2, rest)
    else (takeIdle d rest).map fun r => (r.1, e :: r.2)

/-- Hands out an idle buffer with a descriptor, if there is one. -/
def reuse (p : Pool) (d : Descriptor) : Option Handle × Pool :=
  match takeIdle d p.idle with
  | none => (none, p)
  | some (h, rest) =>
    if (p.find? h).isSome then
      (some h, { p with
        idle := rest
        entries := update h (fun e => { e with inUse := true }) p.entries })
    else (none, { p with idle := rest })

/-- Takes a buffer in, and hands it out under a new handle. -/
def adopt (p : Pool) (d : Descriptor) (b : Buffer) : Handle × Pool :=
  (⟨p.nextNumber⟩, { p with
    entries := (⟨p.nextNumber⟩, ⟨d, b, true, p.round⟩) :: p.entries
    nextNumber := p.nextNumber + 1 })

/-! ### Giving back -/

/-- Gives a buffer back. -/
def release (p : Pool) (h : Handle) : Except Failure Pool :=
  match p.find? h with
  | none => .error (.configuration (.notOwned h))
  | some e =>
    if e.inUse then
      .ok { p with
        entries := update h (fun e => { e with inUse := false, releasedAt := p.round }) p.entries
        idle := (e.descriptor, h) :: p.idle }
    else .error (.configuration (.releasedTwice h))

/-! ### Housekeeping -/

/-- Whether a handle has been idle for too many rounds. -/
def isExpired (p : Pool) (h : Handle) : Bool :=
  match p.find? h with
  | some e => p.settings.maxIdle ≤ p.round - e.releasedAt
  | none => false

/-- The pool one round later. -/
def nextRound (p : Pool) : Pool := { p with round := p.round + 1 }

/-- The idle handles that have expired. -/
def expired (p : Pool) : List Handle := (p.idle.map Prod.snd).filter p.isExpired

/-- The pool without some of its idle buffers. -/
def without (p : Pool) (hs : List Handle) : Pool :=
  { p with
    entries := p.entries.filter fun e => e.1 ∉ hs
    idle := p.idle.filter fun e => e.2 ∉ hs }

/-- A round of housekeeping: the handles that expire, and the pool without them. -/
def evict (p : Pool) : List Handle × Pool :=
  (p.nextRound.expired, p.nextRound.without p.nextRound.expired)

/-- The pool without any buffers.  Their handles are not used again. -/
def cleared (p : Pool) : Pool := { p with entries := [], idle := [] }

end Pool

end ShaderEffect
