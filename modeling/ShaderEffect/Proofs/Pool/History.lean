/-
**What the callers of a pool have seen.**

A history is a list of what the operations on a pool answered, the first one in front.  It knows
nothing of tables and lists: a handle *waits* if it was given back and nothing has happened to it
since.  This module shows that a pool hands out just what its history says: the handle that waits
under the descriptor and was given back last, and a new one if none waits.

Main definitions:

* `ShaderEffect.Supply.Record`, `ShaderEffect.Supply.history` — what an operation answered, and what
  all of them did;
* `ShaderEffect.Supply.IssuedFor`, `ShaderEffect.Supply.WaitsSince` — what a history says about a
  handle;
* `ShaderEffect.Supply.Tells` — a history tells what the pool is like;
* `ShaderEffect.Supply.HandedOut` — what a successful acquisition has to do.

Main results:

* `ShaderEffect.Supply.find?_perform_of_not_mentions` — an operation changes nothing for a handle
  that its record does not mention;
* `ShaderEffect.Supply.tells_after` — **every history tells what its pool is like**;
* `ShaderEffect.Supply.identity_after` — a handle stands for the same buffer until it is destroyed,
  and for none afterwards;
* `ShaderEffect.Supply.hand_out_law` — what is handed out, and for how long it is valid.
-/

import ShaderEffect.Proofs.Device.Observed
import ShaderEffect.Proofs.Pool.Operation

set_option autoImplicit false

namespace ShaderEffect.Supply

variable {σ : Type}

/-! ### Histories -/

/-- What an operation answered. -/
inductive Record where
  /-- A buffer with a descriptor was asked for, and handed out under a handle. -/
  | acquired (d : Descriptor) (h : Handle)
  /-- A buffer was asked for, but not handed out. -/
  | refused (d : Descriptor)
  /-- A buffer was taken in, and handed out under a handle. -/
  | adopted (d : Descriptor) (b : Buffer) (h : Handle)
  /-- A handle was given back. -/
  | returned (h : Handle)
  /-- A handle was not accepted back. -/
  | rejected (h : Handle)
  /-- Handles were destroyed, by housekeeping or with everything else. -/
  | destroyed (hs : List Handle)

/-- A record of something that happened to a handle. -/
def Record.Mentions (h : Handle) : Record → Prop
  | acquired _ k | adopted _ _ k | returned k => k = h
  | destroyed hs => h ∈ hs
  | refused _ | rejected _ => False

/-- A record of handing a handle out for a descriptor. -/
def Record.Issues (h : Handle) (d : Descriptor) : Record → Prop
  | acquired d' k | adopted d' _ k => d' = d ∧ k = h
  | refused _ | returned _ | rejected _ | destroyed _ => False

/-- A record of destroying a handle. -/
def Record.Destroys (h : Handle) : Record → Prop
  | destroyed hs => h ∈ hs
  | acquired .. | adopted .. | refused _ | returned _ | rejected _ => False

/-- The handles that were known before, and are not known afterwards. -/
def gone (before after : Pool) : List Handle :=
  (before.entries.map Prod.fst).filter fun h => (after.find? h).isNone

/-- What an operation answers. -/
def Operation.record (device : Device σ) (s : Supply σ) : Operation → Record
  | .acquire d =>
    match Supply.acquire device d s with
    | .ok h _ => .acquired d h
    | .error _ _ => .refused d
  | .adopt d b => .adopted d b (s.pool.adopt d b).1
  | .release h =>
    match Supply.release h s with
    | .ok _ _ => .returned h
    | .error _ _ => .rejected h
  | .housekeep => .destroyed (gone s.pool (s.housekeep device).2.pool)
  | .clear => .destroyed (gone s.pool (s.clear device).pool)

/-- What operations answer, one after the other. -/
def history (device : Device σ) : List Operation → Supply σ → List Record
  | [], _ => []
  | op :: ops, s => op.record device s :: history device ops (op.perform device s)

theorem history_append (device : Device σ) (ops later : List Operation) (s : Supply σ) :
    history device (ops ++ later) s =
      history device ops s ++ history device later (after device ops s) := by
  induction ops generalizing s with
  | nil => rfl
  | cons op ops ih =>
      rw [List.cons_append, history, history, List.cons_append, ih]
      rfl

theorem length_history (device : Device σ) (ops : List Operation) (s : Supply σ) :
    (history device ops s).length = ops.length := by
  induction ops generalizing s with
  | nil => rfl
  | cons op ops ih => simp [history, ih]

/-- The history of the first operations is the first part of the history. -/
theorem history_take (device : Device σ) (ops : List Operation) (s : Supply σ) (j : Nat) :
    history device (ops.take j) s = (history device ops s).take j := by
  induction ops generalizing s j with
  | nil => simp [history]
  | cons op ops ih =>
      cases j with
      | zero => rfl
      | succ j => simp [history, ih]

/-- What stands in a history is what an operation answered, after those before it. -/
theorem getElem?_history (device : Device σ) (ops : List Operation) (s : Supply σ) (j : Nat) :
    (history device ops s)[j]? =
      ops[j]?.map fun op => op.record device (after device (ops.take j) s) := by
  induction ops generalizing s j with
  | nil => simp [history]
  | cons op ops ih =>
      cases j with
      | zero => rfl
      | succ j => exact ih (op.perform device s) j

/-! ### What a history says about a handle -/

/-- The handle was handed out for the descriptor. -/
def IssuedFor (past : List Record) (h : Handle) (d : Descriptor) : Prop :=
  ∃ r ∈ past, r.Issues h d

/-- The handle was given back in a step, and nothing has happened to it since. -/
def WaitsSince (past : List Record) (h : Handle) (i : Nat) : Prop :=
  past[i]? = some (.returned h) ∧ ∀ j r, i < j → past[j]? = some r → ¬ r.Mentions h

theorem issuedFor_concat {past : List Record} {r : Record} {h : Handle} {d : Descriptor} :
    IssuedFor (past ++ [r]) h d ↔ IssuedFor past h d ∨ r.Issues h d := by
  simp [IssuedFor, or_and_right, exists_or]

theorem WaitsSince.lt_length {past : List Record} {h : Handle} {i : Nat}
    (hw : WaitsSince past h i) : i < past.length := by
  by_contra hlen
  rw [WaitsSince, List.getElem?_eq_none (Nat.le_of_not_lt hlen)] at hw
  cases hw.1

/-- A handle waits since one moment. -/
theorem WaitsSince.unique {past : List Record} {h : Handle} {i j : Nat} (hi : WaitsSince past h i)
    (hj : WaitsSince past h j) : i = j := by
  rcases Nat.lt_trichotomy i j with hlt | heq | hlt
  · exact absurd rfl (hi.2 j _ hlt hj.1)
  · exact heq
  · exact absurd rfl (hj.2 i _ hlt hi.1)

/-- A handle waits after one more step if it waited before and was left alone, or if it has just
been given back. -/
theorem waitsSince_concat {past : List Record} {r : Record} {h : Handle} {i : Nat} :
    WaitsSince (past ++ [r]) h i ↔
      (WaitsSince past h i ∧ ¬ r.Mentions h) ∨ (i = past.length ∧ r = .returned h) := by
  have hlast : (past ++ [r])[past.length]? = some r := List.getElem?_concat_length
  constructor
  · rintro ⟨hi, hlater⟩
    rcases getElem?_concat_cases hi with hi | ⟨rfl, heq⟩
    · have hlt := (List.getElem?_eq_some_iff.1 hi).1
      exact Or.inl ⟨⟨hi, fun j s hij hj => hlater j s hij (getElem?_concat_of_eq_some hj)⟩,
        hlater _ r hlt hlast⟩
    · exact Or.inr ⟨rfl, heq.symm⟩
  · rintro (⟨hw, hr⟩ | ⟨rfl, rfl⟩)
    · refine ⟨getElem?_concat_of_eq_some hw.1, fun j s hij hj => ?_⟩
      rcases getElem?_concat_cases hj with hj | ⟨-, rfl⟩
      · exact hw.2 j s hij hj
      · exact hr
    · refine ⟨hlast, fun j s hij hj => ?_⟩
      rw [List.getElem?_eq_none (by simp; omega)] at hj
      cases hj

/-! ### What a record says about a step -/

/-- A pool went over to another one as a record says. -/
structure Follows (p : Pool) (r : Record) (q : Pool) : Prop where
  consistent : q.Consistent
  nextNumber_le : p.nextNumber ≤ q.nextNumber
  /-- What stays known is the same buffer. -/
  kept : ∀ h e f, p.find? h = some e → q.find? h = some f →
    f.descriptor = e.descriptor ∧ f.buffer = e.buffer
  /-- What becomes known has the next number, and is handed out. -/
  fresh : ∀ h f, p.find? h = none → q.find? h = some f →
    h.number = p.nextNumber ∧ r.Issues h f.descriptor
  /-- What is handed out is known, with the descriptor that was asked for. -/
  issues : ∀ h d, r.Issues h d → ∃ f, q.find? h = some f ∧ f.descriptor = d
  /-- What is destroyed was known, and is not any more. -/
  destroys : ∀ h, r.Destroys h ↔ (p.find? h).isSome ∧ q.find? h = none
  /-- A handle that is given back goes in front of the idle ones.  Otherwise those stay idle that
  nothing happens to. -/
  idle : (∃ d h, r = .returned h ∧ q.idle = (d, h) :: p.idle) ∨
    ((∀ h, r ≠ .returned h) ∧ q.idle.Sublist p.idle ∧
      ∀ x ∈ p.idle, x ∈ q.idle ↔ ¬ r.Mentions x.2)

namespace Follows

variable {p q : Pool} {r : Record}

/-- Nothing happened. -/
theorem of_eq (hp : p.Consistent) (hissues : ∀ h d, ¬ r.Issues h d)
    (hmentions : ∀ h, ¬ r.Mentions h) (hdestroys : ∀ h, ¬ r.Destroys h)
    (hreturned : ∀ h, r ≠ .returned h) : Follows p r p where
  consistent := hp
  nextNumber_le := Nat.le_refl _
  kept := by
    intro h e f he hf
    rw [he] at hf
    cases hf
    exact ⟨rfl, rfl⟩
  fresh := by
    intro h f he hf
    rw [he] at hf
    cases hf
  issues := fun h d hr => absurd hr (hissues h d)
  destroys := by
    intro h
    refine ⟨fun hd => absurd hd (hdestroys h), ?_⟩
    rintro ⟨hsome, hnone⟩
    rw [hnone] at hsome
    cases hsome
  idle := Or.inr ⟨hreturned, List.Sublist.refl _,
    fun x hx => ⟨fun _ => hmentions x.2, fun _ => hx⟩⟩

/-- A buffer was taken in. -/
theorem adopt (hp : p.Consistent) (d : Descriptor) (b : Buffer)
    (hr : r = .acquired d (p.adopt d b).1 ∨ r = .adopted d b (p.adopt d b).1) :
    Follows p r (p.adopt d b).2 := by
  have hissues (h : Handle) (d' : Descriptor) : r.Issues h d' ↔ d = d' ∧ (p.adopt d b).1 = h := by
    rcases hr with rfl | rfl <;> rfl
  have hmentions (h : Handle) : r.Mentions h ↔ (p.adopt d b).1 = h := by
    rcases hr with rfl | rfl <;> rfl
  have hdestroys (h : Handle) : ¬ r.Destroys h := by
    rcases hr with rfl | rfl <;> exact id
  have hnew : p.find? (p.adopt d b).1 = none := hp.find?_next
  have hfind (h : Handle) (hh : h ≠ (p.adopt d b).1) : (p.adopt d b).2.find? h = p.find? h := by
    rw [Pool.find?_adopt, if_neg hh]
  have hself : (p.adopt d b).2.find? (p.adopt d b).1 = some ⟨d, b, true, p.round⟩ := by
    rw [Pool.find?_adopt, if_pos rfl]
  constructor
  case consistent => exact hp.adopt d b
  case nextNumber_le => exact Nat.le_succ _
  case kept =>
    intro h e f he hf
    have hh : h ≠ (p.adopt d b).1 := by
      rintro rfl
      rw [hnew] at he
      cases he
    rw [hfind h hh, he] at hf
    cases hf
    exact ⟨rfl, rfl⟩
  case fresh =>
    intro h f he hf
    by_cases hh : h = (p.adopt d b).1
    · subst hh
      rw [hself] at hf
      cases hf
      exact ⟨rfl, (hissues _ _).2 ⟨rfl, rfl⟩⟩
    · rw [hfind h hh, he] at hf
      cases hf
  case issues =>
    intro h d' hi
    obtain ⟨rfl, rfl⟩ := (hissues h d').1 hi
    exact ⟨_, hself, rfl⟩
  case destroys =>
    intro h
    refine ⟨fun hd => absurd hd (hdestroys h), ?_⟩
    rintro ⟨hsome, hnone⟩
    by_cases hh : h = (p.adopt d b).1
    · rw [hh, hself] at hnone
      cases hnone
    · rw [← hfind h hh, hnone] at hsome
      cases hsome
  case idle =>
    refine Or.inr ⟨?_, List.Sublist.refl _, ?_⟩
    · intro k heq
      rcases hr with rfl | rfl <;> cases heq
    · intro x hx
      refine ⟨fun _ hm => ?_, fun _ => hx⟩
      obtain ⟨e, he, -⟩ := hp.idle_entry x.1 x.2 hx
      rw [← (hmentions _).1 hm, hnew] at he
      cases he

/-- One handle was marked, and stayed the same buffer. -/
theorem of_marked {h : Handle} {f : PoolEntry → PoolEntry} (hq : q.Consistent)
    (hnext : q.nextNumber = p.nextNumber)
    (hfind : ∀ k, q.find? k = if k = h then (p.find? k).map f else p.find? k)
    (hf : ∀ e, (f e).descriptor = e.descriptor ∧ (f e).buffer = e.buffer)
    (hissues : ∀ k d, r.Issues k d → ∃ e, q.find? k = some e ∧ e.descriptor = d)
    (hdestroys : ∀ k, ¬ r.Destroys k)
    (hidle : (∃ d k, r = .returned k ∧ q.idle = (d, k) :: p.idle) ∨
      ((∀ k, r ≠ .returned k) ∧ q.idle.Sublist p.idle ∧
        ∀ x ∈ p.idle, x ∈ q.idle ↔ ¬ r.Mentions x.2)) : Follows p r q where
  consistent := hq
  nextNumber_le := Nat.le_of_eq hnext.symm
  kept := by
    intro k e e' he he'
    rw [hfind, he] at he'
    split at he' <;> cases he'
    · exact hf e
    · exact ⟨rfl, rfl⟩
  fresh := by
    intro k e' he he'
    rw [hfind, he] at he'
    split at he' <;> cases he'
  issues := hissues
  destroys := by
    intro k
    refine ⟨fun hd => absurd hd (hdestroys k), ?_⟩
    rintro ⟨hsome, hnone⟩
    have hnone' : p.find? k = none := by
      rw [hfind] at hnone
      split at hnone
      · exact Option.map_eq_none_iff.1 hnone
      · exact hnone
    rw [hnone'] at hsome
    cases hsome
  idle := hidle

/-- An idle buffer was handed out. -/
theorem reuse (hp : p.Consistent) {d : Descriptor} {h : Handle}
    (hr : p.reuse d = (some h, q)) : Follows p (.acquired d h) q := by
  have hfind := Pool.find?_reuse hr
  refine of_marked (hp.reuse hr) (Pool.reuse_keeps hr).1 hfind (fun _ => ⟨rfl, rfl⟩) ?_
    (fun _ => id) (Or.inr ⟨fun _ heq => Record.noConfusion heq, Pool.sublist_reuse hr, ?_⟩)
  · rintro k d' ⟨rfl, rfl⟩
    obtain ⟨e, he, hd, -⟩ := hp.idle_entry d h (Pool.Consistent.reuse_mem hr)
    refine ⟨{ e with inUse := true }, ?_, hd⟩
    rw [hfind, if_pos rfl, he]
    rfl
  · intro x hx
    rw [hp.mem_idle_reuse hr]
    exact ⟨fun hmem hm => hmem.2 hm.symm, fun hm => ⟨hx, fun heq => hm heq.symm⟩⟩

/-- A buffer was given back. -/
theorem release (hp : p.Consistent) {h : Handle} (hr : p.release h = .ok q) :
    Follows p (.returned h) q := by
  obtain ⟨e, -, -, hq⟩ := Pool.release_eq_ok_iff.1 hr
  refine of_marked (hp.release hr) ?_ (Pool.find?_release hr) (fun _ => ⟨rfl, rfl⟩)
    (fun _ _ hi => absurd hi id) (fun _ => id) (Or.inl ⟨e.descriptor, h, rfl, ?_⟩)
  · rw [hq]
  · rw [hq]

/-- Some buffers were destroyed, and the others left alone. -/
theorem destroy (hp : p.Consistent) (hq : q.Consistent) (hnext : q.nextNumber = p.nextNumber)
    (hidle : q.idle.Sublist p.idle) (hfind : ∀ h f, q.find? h = some f → p.find? h = some f) :
    Follows p (.destroyed (gone p q)) q := by
  have hgone (h : Handle) : h ∈ gone p q ↔ (p.find? h).isSome ∧ q.find? h = none := by
    rw [gone, List.mem_filter, ← Pool.isSome_find?_iff, Option.isNone_iff_eq_none]
  constructor
  case consistent => exact hq
  case nextNumber_le => exact Nat.le_of_eq hnext.symm
  case kept =>
    intro h e f he hf
    rw [hfind h f hf] at he
    cases he
    exact ⟨rfl, rfl⟩
  case fresh =>
    intro h f he hf
    rw [hfind h f hf] at he
    cases he
  case issues => exact fun _ _ hi => absurd hi id
  case destroys => exact hgone
  case idle =>
    refine Or.inr ⟨fun _ heq => Record.noConfusion heq, hidle, ?_⟩
    intro x hx
    obtain ⟨e, he, hd, hu⟩ := hp.idle_entry x.1 x.2 hx
    constructor
    · intro hmem hm
      obtain ⟨f, hf, -⟩ := hq.idle_entry x.1 x.2 hmem
      rw [((hgone x.2).1 hm).2] at hf
      cases hf
    · intro hm
      -- the handle is still known, and still not handed out, so it is still idle
      cases hf : q.find? x.2 with
      | none => exact absurd ((hgone x.2).2 ⟨he ▸ rfl, hf⟩) hm
      | some f =>
          have hfe := hfind x.2 f hf
          rw [he] at hfe
          cases hfe
          have hmem := hq.idle_mem x.2 e hf hu
          rwa [hd] at hmem

end Follows

/-- **The pool goes over as the record says**, whatever the operation. -/
theorem follows_perform (device : Device σ) {s : Supply σ} (hs : s.pool.Consistent)
    (op : Operation) : Follows s.pool (op.record device s) (op.perform device s).pool := by
  cases op with
  | acquire d =>
      rw [Operation.record, Operation.perform]
      rcases acquire_cases hs device d with
        ⟨h, p, hr, heq⟩ | ⟨-, ⟨b, state, -, heq⟩ | ⟨_, _, -, heq⟩⟩
      · rw [heq]
        exact Follows.reuse hs hr
      · rw [heq]
        exact Follows.adopt hs d b (Or.inl rfl)
      · rw [heq]
        exact Follows.of_eq hs (fun _ _ => id) (fun _ => id) (fun _ => id)
          fun _ heq => Record.noConfusion heq
  | adopt d b => exact Follows.adopt hs d b (Or.inr rfl)
  | release h =>
      rw [Operation.record, Operation.perform, release]
      cases hr : s.pool.release h with
      | error failure =>
          exact Follows.of_eq hs (fun _ _ => id) (fun _ => id) (fun _ => id)
            fun _ heq => Record.noConfusion heq
      | ok p => exact Follows.release hs hr
  | housekeep =>
      refine Follows.destroy hs hs.evict rfl List.filter_sublist ?_
      intro h f hf
      rw [housekeep, Pool.evict, Pool.find?_without] at hf
      split at hf
      · cases hf
      · exact hf
  | clear =>
      refine Follows.destroy hs (Pool.consistent_cleared s.pool) rfl (List.nil_sublist _) ?_
      intro h f hf
      cases hf

/-- **An operation changes nothing for a handle that its record does not mention.** -/
theorem find?_perform_of_not_mentions {device : Device σ} {s : Supply σ} {h : Handle}
    {e : PoolEntry} (hs : s.pool.Consistent) {op : Operation}
    (he : s.pool.find? h = some e) (hm : ¬ (op.record device s).Mentions h) :
    (op.perform device s).pool.find? h = some e := by
  have hdestroys := (follows_perform device hs op).destroys h
  cases op with
  | acquire d =>
      rw [Operation.record] at hm
      rw [Operation.perform]
      rcases acquire_cases hs device d with
        ⟨k, p, hr, heq⟩ | ⟨-, ⟨b, state, -, heq⟩ | ⟨_, _, -, heq⟩⟩
      · rw [heq] at hm ⊢
        rw [← he]
        exact (Pool.find?_reuse hr h).trans (if_neg fun heq => hm heq.symm)
      · rw [heq] at hm ⊢
        rw [← he]
        exact (Pool.find?_adopt s.pool d b h).trans (if_neg fun heq => hm heq.symm)
      · rw [heq]
        exact he
  | adopt d b =>
      rw [← he]
      exact (Pool.find?_adopt s.pool d b h).trans (if_neg fun heq => hm heq.symm)
  | release k =>
      rw [Operation.record, release] at hm
      rw [Operation.perform, release]
      cases hr : s.pool.release k with
      | error failure => exact he
      | ok p =>
          rw [hr] at hm
          rw [← he]
          exact (Pool.find?_release hr h).trans (if_neg fun heq => hm heq.symm)
  | housekeep =>
      cases hf : (Operation.housekeep.perform device s).pool.find? h with
      | none => exact absurd (hdestroys.2 ⟨he ▸ rfl, hf⟩) hm
      | some f =>
          rw [Operation.perform, housekeep, Pool.evict, Pool.find?_without] at hf
          split at hf
          · cases hf
          · exact hf.symm.trans he
  | clear => exact absurd (hdestroys.2 ⟨he ▸ rfl, rfl⟩) hm

/-- A handle that was given back stands for what it stood for, with the stamp of this round. -/
theorem find?_perform_of_returned {device : Device σ} {s : Supply σ} {op : Operation} {h : Handle}
    (hr : op.record device s = .returned h) : op = .release h ∧
      ∃ e, (op.perform device s).pool.find? h = some e ∧ e.inUse = false ∧
        e.releasedAt = s.pool.round := by
  cases op with
  | release k =>
      rw [Operation.record, release] at hr
      rw [Operation.perform, release]
      cases hrel : s.pool.release k with
      | error failure =>
          rw [hrel] at hr
          cases hr
      | ok p =>
          rw [hrel] at hr
          cases hr
          obtain ⟨e, he, -⟩ := Pool.release_eq_ok_iff.1 hrel
          refine ⟨rfl, { e with inUse := false, releasedAt := s.pool.round }, ?_, rfl, rfl⟩
          exact (Pool.find?_release hrel h).trans (by rw [if_pos rfl, he]; rfl)
  | acquire d =>
      rw [Operation.record] at hr
      split at hr <;> cases hr
  | adopt | housekeep | clear => cases hr

/-! ### What a history tells -/

/-- A history tells what a pool is like. -/
structure Tells (past : List Record) (p : Pool) : Prop where
  consistent : p.Consistent
  /-- What is known was handed out, with the descriptor it has. -/
  issued : ∀ h e, p.find? h = some e → IssuedFor past h e.descriptor
  /-- What was handed out has the descriptor it was handed out for. -/
  descriptor : ∀ h d e, IssuedFor past h d → p.find? h = some e → e.descriptor = d
  /-- Handles that were handed out have smaller numbers than the next one. -/
  number_lt : ∀ h d, IssuedFor past h d → h.number < p.nextNumber
  /-- The idle handles are those that wait. -/
  waits : ∀ h, h ∈ p.idle.map Prod.snd ↔ ∃ i, WaitsSince past h i
  /-- The handles that have waited longer are further behind. -/
  order : p.idle.Pairwise fun x y =>
    ∀ i j, WaitsSince past x.2 i → WaitsSince past y.2 j → j < i

namespace Tells

variable {past : List Record} {p q : Pool} {r : Record}

/-- Nothing has happened to an empty pool. -/
theorem nil (settings : PoolSettings) : Tells [] (.ofSettings settings) where
  consistent := Pool.consistent_ofSettings settings
  issued := by simp [Pool.ofSettings, Pool.find?]
  descriptor := by simp [Pool.ofSettings, Pool.find?]
  number_lt := by simp [IssuedFor]
  waits := by simp [Pool.ofSettings, WaitsSince]
  order := List.Pairwise.nil

/-- What is idle after one step more waits in the longer history. -/
theorem waits_concat (ht : Tells past p) (hf : Follows p r q) (h : Handle) :
    h ∈ q.idle.map Prod.snd ↔ ∃ i, WaitsSince (past ++ [r]) h i := by
  simp only [waitsSince_concat]
  rcases hf.idle with ⟨d, k, rfl, hidle⟩ | ⟨hr, hsub, hidle⟩
  · rw [hidle, List.map_cons, List.mem_cons, ht.waits]
    constructor
    · intro hh
      by_cases hk : h = k
      · exact ⟨_, Or.inr ⟨rfl, hk ▸ rfl⟩⟩
      · obtain ⟨i, hi⟩ := hh.resolve_left hk
        exact ⟨i, Or.inl ⟨hi, fun hm => hk hm.symm⟩⟩
    · rintro ⟨i, ⟨hi, -⟩ | ⟨-, hk⟩⟩
      · exact Or.inr ⟨i, hi⟩
      · exact Or.inl (Record.returned.inj hk).symm
  · constructor
    · intro hh
      obtain ⟨x, hx, rfl⟩ := List.mem_map.1 hh
      have hxp : x ∈ p.idle := hsub.subset hx
      obtain ⟨i, hi⟩ := (ht.waits x.2).1 (List.mem_map_of_mem hxp)
      exact ⟨i, Or.inl ⟨hi, (hidle x hxp).1 hx⟩⟩
    · rintro ⟨i, ⟨hi, hm⟩ | ⟨-, hk⟩⟩
      · obtain ⟨x, hx, rfl⟩ := List.mem_map.1 ((ht.waits h).2 ⟨i, hi⟩)
        exact List.mem_map_of_mem ((hidle x hx).2 hm)
      · exact absurd hk (hr h)

/-- What is idle after one step more has the order of the longer history. -/
theorem order_concat (ht : Tells past p) (hf : Follows p r q) :
    q.idle.Pairwise fun x y =>
      ∀ i j, WaitsSince (past ++ [r]) x.2 i → WaitsSince (past ++ [r]) y.2 j → j < i := by
  simp only [waitsSince_concat]
  rcases hf.idle with ⟨d, k, rfl, hidle⟩ | ⟨hr, hsub, -⟩
  · have hnew : k ∉ p.idle.map Prod.snd := by
      have hnodup := hf.consistent.idle_nodup
      rw [hidle] at hnodup
      exact (List.nodup_cons.1 hnodup).1
    -- the handle given back just now cannot be one of those that were idle before
    have hne {x : Descriptor × Handle} (hx : x ∈ p.idle) :
        Record.returned k ≠ .returned x.2 := by
      intro heq
      exact hnew (List.mem_map.2 ⟨x, hx, (Record.returned.inj heq).symm⟩)
    rw [hidle]
    refine List.pairwise_cons.2 ⟨?_, List.Pairwise.imp_of_mem ?_ ht.order⟩
    · rintro y hy i j (⟨-, hi⟩ | ⟨rfl, -⟩) hj
      · exact absurd rfl hi
      · rcases hj with ⟨hj, -⟩ | ⟨-, hj⟩
        · exact hj.lt_length
        · exact absurd hj (hne hy)
    · rintro x y hx hy hxy i j (⟨hi, -⟩ | ⟨-, hi⟩) (⟨hj, -⟩ | ⟨-, hj⟩)
      · exact hxy i j hi hj
      · exact absurd hj (hne hy)
      · exact absurd hi (hne hx)
      · exact absurd hi (hne hx)
  · refine (List.Pairwise.sublist hsub ht.order).imp ?_
    rintro x y hxy i j (⟨hi, -⟩ | ⟨-, hi⟩) (⟨hj, -⟩ | ⟨-, hj⟩)
    · exact hxy i j hi hj
    · exact absurd hj (hr y.2)
    · exact absurd hi (hr x.2)
    · exact absurd hi (hr x.2)

/-- **A history goes on telling** when the next record is added. -/
theorem concat (ht : Tells past p) (hf : Follows p r q) : Tells (past ++ [r]) q := by
  constructor
  case consistent => exact hf.consistent
  case issued =>
    intro h f hq
    rw [issuedFor_concat]
    cases hp : p.find? h with
    | none => exact Or.inr (hf.fresh h f hp hq).2
    | some e =>
        rw [(hf.kept h e f hp hq).1]
        exact Or.inl (ht.issued h e hp)
  case descriptor =>
    intro h d f hi hq
    rcases issuedFor_concat.1 hi with hi | hi
    · cases hp : p.find? h with
      | none =>
          -- a number that was used before is not used again
          have hnew := (hf.fresh h f hp hq).1
          exact absurd (ht.number_lt h d hi) (hnew ▸ Nat.lt_irrefl _)
      | some e =>
          rw [(hf.kept h e f hp hq).1]
          exact ht.descriptor h d e hi hp
    · obtain ⟨g, hg, hd⟩ := hf.issues h d hi
      rw [hq] at hg
      cases hg
      exact hd
  case number_lt =>
    intro h d hi
    rcases issuedFor_concat.1 hi with hi | hi
    · exact Nat.lt_of_lt_of_le (ht.number_lt h d hi) hf.nextNumber_le
    · obtain ⟨g, hg, -⟩ := hf.issues h d hi
      exact hf.consistent.number_lt h g hg
  case waits => exact ht.waits_concat hf
  case order => exact ht.order_concat hf

end Tells

/-- **Every history tells what its pool is like.** -/
theorem tells_after (device : Device σ) (settings : PoolSettings) (start : σ)
    (ops : List Operation) :
    Tells (history device ops ⟨.ofSettings settings, start⟩)
      (after device ops ⟨.ofSettings settings, start⟩).pool := by
  -- each operation adds the last record, and the pool goes over as that record says
  induction ops using List.reverseRecOn with
  | nil => exact Tells.nil settings
  | append_singleton ops op ih =>
      rw [history_append, after_concat]
      exact ih.concat (follows_perform device ih.consistent op)

/-- **A handle stands for one buffer** from the moment it is known until it is destroyed, and for
none afterwards. -/
theorem identity_after (device : Device σ) {s : Supply σ} (hs : s.pool.Consistent)
    (later : List Operation) {h : Handle} (hh : h.number < s.pool.nextNumber) :
    ((s.pool.find? h = none ∨ ∃ r ∈ history device later s, r.Destroys h) →
      (after device later s).pool.find? h = none) ∧
    ((∀ r ∈ history device later s, ¬ r.Destroys h) → ∀ e, s.pool.find? h = some e →
      ∃ f, (after device later s).pool.find? h = some f ∧
        f.descriptor = e.descriptor ∧ f.buffer = e.buffer) := by
  suffices hall : (after device later s).pool.Consistent ∧
      h.number < (after device later s).pool.nextNumber ∧
      ((s.pool.find? h = none ∨ ∃ r ∈ history device later s, r.Destroys h) →
        (after device later s).pool.find? h = none) ∧
      ((∀ r ∈ history device later s, ¬ r.Destroys h) → ∀ e, s.pool.find? h = some e →
        ∃ f, (after device later s).pool.find? h = some f ∧
          f.descriptor = e.descriptor ∧ f.buffer = e.buffer) from hall.2.2
  induction later using List.reverseRecOn with
  | nil =>
      refine ⟨hs, hh, ?_, fun _ e he => ⟨e, he, rfl, rfl⟩⟩
      rintro (hnone | ⟨r, hr, -⟩)
      · exact hnone
      · exact absurd hr List.not_mem_nil
  | append_singleton later op ih =>
      obtain ⟨hcons, hlt, hlost, hsame⟩ := ih
      rw [history_append, after_concat]
      have hf := follows_perform device hcons op
      set t := after device later s
      simp only [history, List.mem_append, List.mem_singleton]
      refine ⟨hf.consistent, Nat.lt_of_lt_of_le hlt hf.nextNumber_le, ?_, ?_⟩
      · -- a handle that is lost before the last step does not come back in it
        have hstay (ht : t.pool.find? h = none) : (op.perform device t).pool.find? h = none := by
          cases hq : (op.perform device t).pool.find? h with
          | none => rfl
          | some f => exact absurd hlt ((hf.fresh h f ht hq).1 ▸ Nat.lt_irrefl _)
        rintro (hnone | ⟨r, hr | rfl, hd⟩)
        · exact hstay (hlost (Or.inl hnone))
        · exact hstay (hlost (Or.inr ⟨r, hr, hd⟩))
        · exact ((hf.destroys h).1 hd).2
      · intro hkeep e he
        obtain ⟨f, hft, hfd, hfb⟩ := hsame (fun r hr => hkeep r (Or.inl hr)) e he
        cases hq : (op.perform device t).pool.find? h with
        | none =>
            exact absurd ((hf.destroys h).2 ⟨hft ▸ rfl, hq⟩) (hkeep _ (Or.inr rfl))
        | some g =>
            obtain ⟨hgd, hgb⟩ := hf.kept h f g hft hq
            exact ⟨g, rfl, hgd.trans hfd, hgb.trans hfb⟩

/-! ### Handing out -/

/-- Some handle waits that was handed out for the descriptor. -/
def Waiting (past : List Record) (d : Descriptor) : Prop :=
  ∃ k i, IssuedFor past k d ∧ WaitsSince past k i

/-- What a successful acquisition does: a handle was handed out for a descriptor. -/
structure HandedOut (past : List Record) (d : Descriptor) (h : Handle)
    (s s' : Supply (Observed σ)) : Prop where
  /-- If a handle waits under the descriptor, the one given back last is handed out, and the device
  is not asked. -/
  reused : Waiting past d → IssuedFor past h d ∧
    (∃ i, WaitsSince past h i ∧ ∀ k j, IssuedFor past k d → WaitsSince past k j → j ≤ i) ∧
    s'.device.calls = s.device.calls
  /-- Otherwise the device is asked once, and what it creates gets a handle that no one has seen. -/
  created : ¬ Waiting past d →
    (∃ b, s'.device.calls = s.device.calls ++ [.create d (some b)] ∧
      s'.pool.buffer? h = some b) ∧
    ∀ d', ¬ IssuedFor past h d'
  wasFree : s.pool.isInUse h = false
  isHeld : s'.pool.isInUse h = true
  descriptor : s'.pool.descriptor? h = some d
  /-- Nothing else is known differently. -/
  others : ∀ k, k ≠ h → s'.pool.find? k = s.pool.find? k

/-- An idle handle is one that waits under its descriptor. -/
theorem Tells.mem_idle_iff {past : List Record} {p : Pool} (ht : Tells past p) {d : Descriptor}
    {h : Handle} : (d, h) ∈ p.idle ↔ IssuedFor past h d ∧ ∃ i, WaitsSince past h i := by
  rw [← ht.waits]
  constructor
  · intro hmem
    obtain ⟨e, he, hd, -⟩ := ht.consistent.idle_entry d h hmem
    exact ⟨hd ▸ ht.issued h e he, List.mem_map.2 ⟨(d, h), hmem, rfl⟩⟩
  · rintro ⟨hi, hmem⟩
    obtain ⟨x, hx, rfl⟩ := List.mem_map.1 hmem
    obtain ⟨e, he, hd, -⟩ := ht.consistent.idle_entry x.1 x.2 hx
    rw [← ht.descriptor x.2 d e hi he, hd]
    exact hx

/-- Handing out an idle handle. -/
theorem Tells.handedOut_reuse {past : List Record} {s : Supply (Observed σ)} {p : Pool}
    (ht : Tells past s.pool) {d : Descriptor} {h : Handle}
    (hr : s.pool.reuse d = (some h, p)) : HandedOut past d h s { s with pool := p } := by
  have hmem := Pool.Consistent.reuse_mem hr
  have hfind := Pool.find?_reuse hr
  obtain ⟨hissued, i, hi⟩ := ht.mem_idle_iff.1 hmem
  obtain ⟨e, he, hd, -⟩ := ht.consistent.idle_entry d h hmem
  have hself : p.find? h = some { e with inUse := true } := by
    rw [hfind, if_pos rfl, he]
    rfl
  constructor
  case reused =>
    refine fun _ => ⟨hissued, ⟨i, hi, ?_⟩, rfl⟩
    intro k j hk hj
    -- a handle with the descriptor stands further behind than the first one
    obtain ⟨before, after, hidle, hne, -⟩ := Pool.idle_reuse hr
    have hkmem := ht.mem_idle_iff.2 ⟨hk, j, hj⟩
    have horder := ht.order
    rw [hidle, List.pairwise_append, List.pairwise_cons] at horder
    rw [hidle, List.mem_append, List.mem_cons] at hkmem
    rcases hkmem with hkmem | hkmem | hkmem
    · exact absurd rfl (hne _ hkmem)
    · cases hkmem
      by_contra hlt
      exact hi.2 j _ (Nat.lt_of_not_le hlt) hj.1 rfl
    · exact Nat.le_of_lt (horder.2.1.1 _ hkmem i j hi hj)
  case created => exact fun hnone => absurd ⟨h, i, hissued, hi⟩ hnone
  case wasFree => exact ht.consistent.not_isInUse hmem
  case isHeld => simp [Pool.isInUse, hself]
  case descriptor => simp [Pool.descriptor?, hself, hd]
  case others =>
    intro k hk
    exact (hfind k).trans (if_neg hk)

/-- Handing out a buffer that the device has created. -/
theorem Tells.handedOut_adopt {past : List Record} {s : Supply (Observed σ)}
    (ht : Tells past s.pool) {d : Descriptor} (hr : ∀ x ∈ s.pool.idle, x.1 ≠ d) {b : Buffer}
    {state : Observed σ} (hcalls : state.calls = s.device.calls ++ [.create d (some b)]) :
    HandedOut past d (s.pool.adopt d b).1 s ⟨(s.pool.adopt d b).2, state⟩ := by
  have hnew : s.pool.find? (s.pool.adopt d b).1 = none := ht.consistent.find?_next
  have hself : (s.pool.adopt d b).2.find? (s.pool.adopt d b).1 =
      some ⟨d, b, true, s.pool.round⟩ := by
    rw [Pool.find?_adopt, if_pos rfl]
  constructor
  case reused =>
    rintro ⟨k, i, hk, hi⟩
    exact absurd rfl (hr _ (ht.mem_idle_iff.2 ⟨hk, i, hi⟩))
  case created =>
    refine fun _ => ⟨⟨b, hcalls, by simp [Pool.buffer?, hself]⟩, fun d' hi => ?_⟩
    exact Nat.lt_irrefl _ (ht.number_lt _ d' hi)
  case wasFree => simp [Pool.isInUse, hnew]
  case isHeld => simp [Pool.isInUse, hself]
  case descriptor => simp [Pool.descriptor?, hself]
  case others =>
    intro k hk
    exact (Pool.find?_adopt s.pool d b k).trans (if_neg hk)

/-- **The law of handing out, over whole histories.**  After any operations, a successful
acquisition hands out the handle that waits under the descriptor and was given back last, without a
call of the device; if none waits, it takes exactly one call, and the handle is new.  And what has
been handed out stands for the same buffer with the same descriptor at any two moments until
housekeeping or clearing destroys it, and for nothing ever after. -/
theorem hand_out_law (device : Device σ) (settings : PoolSettings) (start : σ)
    (ops : List Operation) :
    let empty : Supply (Observed σ) := ⟨.ofSettings settings, ⟨start, []⟩⟩
    let past := history device.observed ops empty
    let s := after device.observed ops empty
    (∀ d, match acquire device.observed d s with
      | .ok h s' => HandedOut past d h s s'
      | .error _ s' => ¬ Waiting past d ∧ s'.pool = s.pool ∧
          s'.device.calls = s.device.calls ++ [.create d none]) ∧
    ∀ later h d, IssuedFor past h d →
      let t := after device.observed later s
      let lost := ∃ r ∈ history device.observed later s, r.Destroys h
      ((s.pool.buffer? h).isSome → ¬ lost →
        t.pool.buffer? h = s.pool.buffer? h ∧ t.pool.descriptor? h = some d) ∧
      (s.pool.buffer? h = none ∨ lost →
        t.pool.buffer? h = none ∧ t.pool.descriptor? h = none ∧ t.pool.isInUse h = false) := by
  intro empty past s
  have ht : Tells past s.pool := tells_after device.observed settings ⟨start, []⟩ ops
  have hwaiting {d : Descriptor} (hr : ∀ x ∈ s.pool.idle, x.1 ≠ d) : ¬ Waiting past d := by
    rintro ⟨k, i, hk, hi⟩
    exact hr _ (ht.mem_idle_iff.2 ⟨hk, i, hi⟩) rfl
  refine ⟨fun d => ?_, fun later h d hissued => ?_⟩
  · rcases acquire_cases ht.consistent device.observed d with
      ⟨h, p, hr, heq⟩ | ⟨hr, ⟨b, state, hb, heq⟩ | ⟨reason, state, hb, heq⟩⟩
    · rw [heq]
      exact ht.handedOut_reuse hr
    · rw [heq]
      exact ht.handedOut_adopt (ht.consistent.reuse_eq_none hr).2 (Device.calls_of_noted_ok hb)
    · rw [heq]
      exact ⟨hwaiting (ht.consistent.reuse_eq_none hr).2, rfl, Device.calls_of_noted_error hb⟩
  · intro t lost
    obtain ⟨hlost, hsame⟩ := identity_after device.observed ht.consistent later
      (ht.number_lt h d hissued)
    constructor
    · intro hsome hkeep
      obtain ⟨e, he⟩ : ∃ e, s.pool.find? h = some e := by
        simpa [Pool.buffer?, Option.isSome_iff_exists] using hsome
      obtain ⟨f, hf, hfd, hfb⟩ := hsame (fun r hr hd => hkeep ⟨r, hr, hd⟩) e he
      have hed := ht.descriptor h d e hissued he
      simp [t, Pool.buffer?, Pool.descriptor?, he, hf, hfd, hfb, hed]
    · intro hgone
      have hnone : t.pool.find? h = none :=
        hlost (hgone.imp_left fun hb => by simpa [Pool.buffer?] using hb)
      simp [Pool.buffer?, Pool.descriptor?, Pool.isInUse, hnone]

end ShaderEffect.Supply
