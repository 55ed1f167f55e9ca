/-
**Whole lives of a pool.**

A pool is used by whoever holds it: buffers are acquired, taken in and given back, housekeeping is
called now and then, and sometimes everything is destroyed.  An acquisition fails where the device
does not create a buffer, and giving back fails where the handle is not handed out; the pool goes
on after both.  This module runs such operations in any order, and proves that the two views a pool
has of its idle buffers agree at every moment of its life.

Main definitions:

* `ShaderEffect.Supply.Operation` — the operations;
* `ShaderEffect.Supply.Operation.perform`, `ShaderEffect.Supply.after` — what one of them, and what
  many of them, leave behind.

Main results:

* `ShaderEffect.Supply.consistent_perform`, `ShaderEffect.Supply.consistent_after` — pools stay
  consistent;
* `ShaderEffect.Supply.views_agree_after` — **what an idle buffer is, said in both views, and that
  no count and no age is ever less than nothing**.
-/

import Mathlib.Data.List.Induction
import ShaderEffect.Pool.Supply
import ShaderEffect.Proofs.Pool.Consistent

set_option autoImplicit false

namespace ShaderEffect

/-! ### Lists that grow at the end -/

/-- What stands in a list with one member more. -/
theorem getElem?_concat_cases {α : Type} {as : List α} {a b : α} {n : Nat}
    (h : (as ++ [a])[n]? = some b) : as[n]? = some b ∨ n = as.length ∧ b = a := by
  rw [List.getElem?_append] at h
  split at h
  · exact Or.inl h
  · rename_i hn
    rw [List.getElem?_singleton] at h
    split at h
    · cases h
      exact Or.inr ⟨by omega, rfl⟩
    · cases h

/-- What stands in a list stands in a longer one. -/
theorem getElem?_concat_of_eq_some {α : Type} {as : List α} {a b : α} {n : Nat}
    (h : as[n]? = some b) : (as ++ [a])[n]? = some b :=
  (List.getElem?_append_left (List.getElem?_eq_some_iff.1 h).1).trans h

namespace Supply

variable {σ : Type}

/-! ### Operations -/

/-- Something that is done with a pool. -/
inductive Operation where
  /-- Asks for a buffer. -/
  | acquire (d : Descriptor)
  /-- Takes in a buffer that was made elsewhere. -/
  | adopt (d : Descriptor) (b : Buffer)
  /-- Gives a buffer back, or tries to. -/
  | release (h : Handle)
  /-- A round of housekeeping. -/
  | housekeep
  /-- Destroys everything. -/
  | clear

/-- What work leaves behind, whether it fails or not. -/
def remains {ε τ α : Type} : EStateM.Result ε τ α → τ
  | .ok _ s => s
  | .error _ s => s

/-- What an operation leaves behind. -/
def Operation.perform (device : Device σ) (s : Supply σ) : Operation → Supply σ
  | .acquire d => remains (Supply.acquire device d s)
  | .adopt d b => { s with pool := (s.pool.adopt d b).2 }
  | .release h => remains (Supply.release h s)
  | .housekeep => (s.housekeep device).2
  | .clear => s.clear device

/-- What operations leave behind, one after the other. -/
def after (device : Device σ) (ops : List Operation) (s : Supply σ) : Supply σ :=
  ops.foldl (Operation.perform device) s

theorem after_append (device : Device σ) (ops later : List Operation) (s : Supply σ) :
    after device (ops ++ later) s = after device later (after device ops s) :=
  List.foldl_append ..

theorem after_concat (device : Device σ) (ops : List Operation) (op : Operation) (s : Supply σ) :
    after device (ops ++ [op]) s = op.perform device (after device ops s) := by
  simp [after]

/-! ### Acquiring -/

/-- **What acquiring does**: an idle buffer is handed out, or one that the device creates is taken
in, or the device refuses and the pool is as before. -/
theorem acquire_cases {s : Supply σ} (hs : s.pool.Consistent) (device : Device σ)
    (d : Descriptor) :
    (∃ h p, s.pool.reuse d = (some h, p) ∧ acquire device d s = .ok h { s with pool := p }) ∨
    (s.pool.reuse d = (none, s.pool) ∧
      ((∃ b state, device.createBuffer d s.device = .ok b state ∧
          acquire device d s = .ok (s.pool.adopt d b).1 ⟨(s.pool.adopt d b).2, state⟩) ∨
        ∃ reason state, device.createBuffer d s.device = .error reason state ∧
          acquire device d s = .error (.device (.create d.size reason)) ⟨s.pool, state⟩)) := by
  unfold acquire
  rcases hr : s.pool.reuse d with ⟨_ | h, p⟩
  · obtain ⟨rfl, -⟩ := hs.reuse_eq_none hr
    refine Or.inr ⟨rfl, ?_⟩
    cases hc : device.createBuffer d s.device with
    | ok b state => exact Or.inl ⟨b, state, rfl, rfl⟩
    | error reason state => exact Or.inr ⟨reason, state, rfl, rfl⟩
  · exact Or.inl ⟨h, p, rfl, rfl⟩

/-! ### Agreement at every moment -/

/-- Every operation keeps the pool consistent. -/
theorem consistent_perform (device : Device σ) {s : Supply σ} (hs : s.pool.Consistent)
    (op : Operation) : (op.perform device s).pool.Consistent := by
  cases op with
  | acquire d =>
      rcases acquire_cases hs device d with
        ⟨h, p, hr, heq⟩ | ⟨-, ⟨b, state, -, heq⟩ | ⟨_, _, -, heq⟩⟩
      · rw [Operation.perform, heq]
        exact hs.reuse hr
      · rw [Operation.perform, heq]
        exact hs.adopt d b
      · rw [Operation.perform, heq]
        exact hs
  | adopt d b => exact hs.adopt d b
  | release h =>
      rw [Operation.perform, release]
      cases hr : s.pool.release h with
      | error failure => exact hs
      | ok p => exact hs.release hr
  | housekeep => exact hs.evict
  | clear => exact Pool.consistent_cleared s.pool

/-- A pool that was empty once is consistent ever after. -/
theorem consistent_after (device : Device σ) (settings : PoolSettings) (start : σ)
    (ops : List Operation) : (after device ops ⟨.ofSettings settings, start⟩).pool.Consistent := by
  -- the operations are taken off at the end, where the last one meets a consistent pool
  induction ops using List.reverseRecOn with
  | nil => exact Pool.consistent_ofSettings settings
  | append_singleton ops op ih =>
      rw [after_concat]
      exact consistent_perform device ih op

/-- **The views of a pool agree after any operations.**  An owned handle is not handed out exactly
if it stands in a bucket, and then it stands there once, in the bucket of its descriptor alone; all
handles in buckets are owned; a bucket is in the order of giving back.  So the idle and the handed
out handles add up to all, no age is negative, and no handle is taken from a bucket in vain. -/
theorem views_agree_after (device : Device σ) (settings : PoolSettings) (start : σ)
    (ops : List Operation) :
    let p := (after device ops ⟨.ofSettings settings, start⟩).pool
    (∀ h e, p.find? h = some e →
      (e.inUse = false ↔ ∃ d, h ∈ p.bucket d) ∧
      (e.inUse = false → (p.bucket e.descriptor).count h = 1) ∧
      (∀ d, h ∈ p.bucket d → d = e.descriptor) ∧
      h.number < p.nextNumber ∧
      e.releasedAt ≤ p.round) ∧
    (∀ d h, h ∈ p.bucket d → (p.find? h).isSome) ∧
    (∀ d, (p.bucket d).Pairwise fun h k =>
      ∀ e f, p.find? h = some e → p.find? k = some f → e.releasedAt ≤ f.releasedAt) ∧
    (p.idleCount ≤ p.size ∧ p.idleCount + p.inUseCount = p.size ∧
      p.inUseCount = (p.entries.filter fun x => x.2.inUse).length) ∧
    (∀ h e, p.nextRound.find? h = some e →
      p.nextRound.round - e.releasedAt + e.releasedAt = p.nextRound.round) ∧
    ∀ d h rest, Pool.takeIdle d p.idle = some (h, rest) → (p.find? h).isSome := by
  intro p
  have hp : p.Consistent := consistent_after device settings start ops
  have hcount := hp.length_entries
  refine ⟨fun h e he => ?_, fun d h hmem => ?_, hp.pairwise_bucket, ?_, ?_, ?_⟩
  · -- the bucket of its own descriptor is the only one that an owned handle can stand in
    have hown (d : Descriptor) (hmem : h ∈ p.bucket d) : d = e.descriptor ∧ e.inUse = false := by
      obtain ⟨f, hf, hd, hu⟩ := hp.idle_entry d h (Pool.mem_bucket.1 hmem)
      rw [he] at hf
      cases hf
      exact ⟨hd.symm, hu⟩
    have hin (hu : e.inUse = false) : h ∈ p.bucket e.descriptor :=
      Pool.mem_bucket.2 (hp.idle_mem h e he hu)
    refine ⟨⟨fun hu => ⟨_, hin hu⟩, fun ⟨d, hd⟩ => (hown d hd).2⟩, fun hu => ?_,
      fun d hd => (hown d hd).1, hp.number_lt h e he, hp.releasedAt_le h e he⟩
    exact List.count_eq_one_of_mem (hp.nodup_bucket _) (hin hu)
  · obtain ⟨e, he, -⟩ := hp.idle_entry d h (Pool.mem_bucket.1 hmem)
    exact he ▸ rfl
  · simp only [Pool.idleCount, Pool.inUseCount, Pool.size]
    omega
  · intro h e he
    exact Nat.sub_add_cancel (hp.nextRound.releasedAt_le h e he)
  · intro d h rest htake
    obtain ⟨before, after, hidle, -⟩ := Pool.takeIdle_eq_some_iff.1 htake
    obtain ⟨e, he, -⟩ := hp.idle_entry d h (hidle ▸ List.mem_append_right _ List.mem_cons_self)
    exact he ▸ rfl

end Supply

end ShaderEffect
