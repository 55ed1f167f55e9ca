/-
**The buffers of a document.**

The persistent targets of a document hold buffers from one frame to the next, its imported images
hold one each, and its temporary targets hold one while passes are drawn.  Each part of a frame
exchanges the buffers of one of the three sorts, target by target or image by image, and leaves the
other two sorts alone, and so all buffers of other documents.  There is one exception: a persistent
target gives a buffer of the wrong size back before it asks for another one, and when that is
refused, it goes on holding the buffer that it gave back.

Main definitions:

* `ShaderEffect.refusedFor?` — the buffer that a persistent target gives back in vain.

Main results:

* `ShaderEffect.ends_refreshSlot`, `ShaderEffect.ends_ensureBuffers` — persistent targets;
* `ShaderEffect.ends_loadImport` — imported images;
* `ShaderEffect.ends_releaseTarget` — temporary targets.
-/

import ShaderEffect.Proofs.Document.WellFormed
import ShaderEffect.Proofs.Pool.Holding

set_option autoImplicit false

namespace ShaderEffect

open Pool

variable {σ : Type}

/-! ### Slots -/

/-- What is held by a slot. -/
abbrev slotHeld (slot : Option Handle) : Multiset Handle := (slot.toList : Multiset Handle)

/-- A filled slot keeps its buffer exactly if that has the descriptor. -/
theorem refreshSlot_some (device : Device σ) (h : Handle) (d : Descriptor) (s : Supply σ) :
    refreshSlot device (some h) d s =
      if s.pool.descriptor? h = some d then .ok h s
      else (do Supply.releaseHeld h; Supply.acquire device d : EStateM _ _ _) s := by
  show (if s.pool.descriptor? h = some d then (pure h : EStateM Failure (Supply σ) Handle)
    else do Supply.releaseHeld h; Supply.acquire device d) s = _
  split <;> rfl

/-- **Refreshing a slot** exchanges its buffer for one with the descriptor.  Refused, the slot has
lost its buffer. -/
theorem ends_refreshSlot (device : Device σ) {s : Supply σ} (hs : s.pool.Consistent)
    (slot : Option Handle) (d : Descriptor) :
    Ends
      (fun h s' => Trades s.pool (slotHeld slot) s'.pool {h} ∧ s'.pool.descriptor? h = some d ∧
        ∀ k, slot = some k → s.pool.descriptor? k = some d → h = k ∧ s' = s)
      (fun _ s' => TradesBut slot s.pool (slotHeld slot) s'.pool (slotHeld slot))
      (refreshSlot device slot d s) := by
  cases slot with
  | none =>
      refine (Supply.ends_acquire device hs d).mono (fun h s' h' => ?_) fun _ s' h' => ?_
      · refine ⟨h'.1, h'.2, ?_⟩
        intro k hk
        cases hk
      · show Trades s.pool 0 s'.pool 0
        rw [h']
        exact Trades.refl hs 0
  | some k =>
      rw [refreshSlot_some]
      split
      · rename_i hd
        refine ⟨Trades.refl hs _, hd, fun k' hk' _ => ?_⟩
        cases hk'
        exact ⟨rfl, rfl⟩
      · rename_i hd
        -- the buffer is given back before another one is asked for, and that may be refused
        refine Ends.bind ((Supply.ends_releaseHeld hs k).mono (fun _ _ h => h) ?_) ?_
        · exact fun _ _ h => h.elim
        · intro _ s' hrelease
          have hfirst := hrelease.1
          refine (Supply.ends_acquire device hfirst.consistent d).mono ?_ ?_
          · intro h t hacquire
            refine ⟨hfirst.trans hacquire.1, hacquire.2, fun k' hk' hkd => ?_⟩
            cases hk'
            exact absurd hkd hd
          · intro _ t ht
            refine ⟨Multiset.mem_singleton_self k, ?_, ?_⟩
            · rw [ht]
              exact hrelease.2.1
            · rw [ht]
              simpa [slotHeld] using hfirst

/-! ### Persistent targets -/

/-- The buffer that a target gives back for another one, if that is refused. -/
def refusedFor? (device : Device σ) (t : Target) (s : Supply σ) : Option Handle :=
  match t.descriptor? with
  | none => none
  | some d =>
    match refreshSlot device t.current d s with
    | .error _ _ => t.current
    | .ok _ s =>
      match refreshSlot device t.previous d s with
      | .error _ _ => t.previous
      | .ok _ _ => none

/-- What a target holds stands in its two slots. -/
theorem coe_buffers (t : Target) :
    (t.buffers : Multiset Handle) = slotHeld t.current + slotHeld t.previous :=
  (Multiset.coe_add _ _).symm

/-- **A persistent target exchanges its buffers for two of its size**, or loses the one whose
replacement is refused. -/
theorem ends_ensureBuffers (device : Device σ) {s : Supply σ} (hs : s.pool.Consistent)
    (t : Target) :
    Ends (fun _ r => Trades s.pool t.buffers r.2.pool r.1.buffers ∧ refusedFor? device t s = none)
      (fun _ r => TradesBut (refusedFor? device t s) s.pool t.buffers r.2.pool r.1.buffers)
      (ensureBuffers device (t, s)) := by
  unfold ensureBuffers refusedFor?
  dsimp only
  cases t.descriptor? with
  | none => exact ⟨Trades.refl hs _, rfl⟩
  | some d =>
      dsimp only
      have hcurrent := ends_refreshSlot device hs t.current d
      rcases hc : refreshSlot device t.current d s with ⟨c, s₁⟩ | ⟨e, s₁⟩
      · rw [hc] at hcurrent
        have hprevious := ends_refreshSlot device hcurrent.1.consistent t.previous d
        dsimp only
        rcases hv : refreshSlot device t.previous d s₁ with ⟨v, s₂⟩ | ⟨e, s₂⟩
        · rw [hv] at hprevious
          refine ⟨?_, rfl⟩
          rw [coe_buffers, coe_buffers]
          exact hcurrent.1.beside hprevious.1
        · rw [hv] at hprevious
          -- the first slot has got its buffer when the second one is refused
          show TradesBut t.previous _ _ _ _
          rw [coe_buffers, coe_buffers]
          exact (hprevious.add_left _).after_trades (hcurrent.1.add_right _)
      · rw [hc] at hcurrent
        show TradesBut t.current _ _ _ _
        rw [coe_buffers]
        exact hcurrent.add_right _

/-- Only the slots of a target are refreshed. -/
theorem withoutBuffers_ensureBuffers (device : Device σ) (t : Target) (s : Supply σ) :
    Ends (fun _ r => r.1.withoutBuffers = t.withoutBuffers)
      (fun _ r => r.1.withoutBuffers = t.withoutBuffers) (ensureBuffers device (t, s)) := by
  unfold ensureBuffers
  dsimp only
  cases t.descriptor? with
  | none => exact rfl
  | some d =>
      dsimp only
      rcases refreshSlot device t.current d s with ⟨c, s₁⟩ | ⟨e, s₁⟩
      · dsimp only
        rcases refreshSlot device t.previous d s₁ with ⟨v, s₂⟩ | ⟨e, s₂⟩ <;> exact rfl
      · exact rfl

/-- What a target is like without its buffers tells what it is like without its size, too. -/
theorem Target.blank_congr {t u : Target} (h : t.withoutBuffers = u.withoutBuffers) :
    t.blank = u.blank := by
  have hblank : t.withoutBuffers.blank = u.withoutBuffers.blank := by rw [h]
  exact hblank

theorem blank_ensureBuffers (device : Device σ) (t : Target) (s : Supply σ) :
    Ends (fun _ r => r.1.blank = t.blank) (fun _ r => r.1.blank = t.blank)
      (ensureBuffers device (t, s)) :=
  (withoutBuffers_ensureBuffers device t s).mono (fun _ _ h => Target.blank_congr h)
    fun _ _ h => Target.blank_congr h

/-! ### Imported images -/

/-- The buffer that an imported image holds. -/
def Parameter.held (p : Parameter) : List Handle :=
  if p.isImport then (p.current.binding?.map Binding.handle).toList else []

/-- **An image that is loaded is taken in**, and nothing is given back. -/
theorem ends_loadImport (device : Device σ) {s : Supply σ} (hs : s.pool.Consistent)
    {p : Parameter} (hp : p.isImport = true → p.kind = .image) :
    Ends (fun _ r => Trades s.pool p.held r.2.pool r.1.held)
      (fun _ r => Trades s.pool p.held r.2.pool r.1.held) (loadImport device (p, s)) := by
  unfold loadImport
  dsimp only
  split
  · rename_i path hpath hnone
    have himport : p.isImport = true := by simp [Parameter.isImport, hpath]
    have hheld : p.held = [] := by simp [Parameter.held, himport, hnone]
    rcases device.loadImage path s.device with ⟨⟨b, d⟩, state⟩ | ⟨fault, state⟩
    · have hbind : p.bind (some ⟨(s.pool.adopt d b).1, d, false⟩) =
          .ok { p with current := .image (some ⟨(s.pool.adopt d b).1, d, false⟩) } := by
        simp [Parameter.bind, Value.ofBinding?, hp himport]
      dsimp only
      rw [hbind, hheld]
      have hnew : Parameter.held
          { p with current := .image (some ⟨(s.pool.adopt d b).1, d, false⟩) } =
            [(s.pool.adopt d b).1] := by
        have himport' : Parameter.isImport
            { p with current := .image (some ⟨(s.pool.adopt d b).1, d, false⟩) } = true := himport
        simp [Parameter.held, himport', Value.binding?]
      show Trades _ _ _ ((Parameter.held _ : List Handle) : Multiset Handle)
      rw [hnew]
      exact trades_adopt hs d b
    · exact Trades.refl hs _
  · exact Trades.refl hs _

/-- Only the value of a parameter is loaded. -/
theorem blank_loadImport (device : Device σ) (p : Parameter) (s : Supply σ) :
    Ends (fun _ r => r.1.blank = p.blank) (fun _ r => r.1.blank = p.blank)
      (loadImport device (p, s)) := by
  unfold loadImport
  dsimp only
  split
  · rcases device.loadImage _ s.device with ⟨⟨b, d⟩, state⟩ | ⟨fault, state⟩
    · dsimp only
      cases hbind : p.bind (some ⟨(s.pool.adopt d b).1, d, false⟩) with
      | error failure => exact rfl
      | ok q =>
          unfold Parameter.bind at hbind
          split at hbind
          · cases hbind
            exact rfl
          · cases hbind
    · exact rfl
  · exact rfl

/-! ### Temporary targets -/

/-- **A target gives back all that it holds**, if that is handed out. -/
theorem ends_releaseTarget {s : Supply σ} (hs : s.pool.Consistent) {t : Target}
    (hle : (t.buffers : Multiset Handle) ≤ s.pool.used) :
    Ends (fun _ r => Trades s.pool t.buffers r.2.pool 0 ∧ r.1 = t.withoutBuffers ∧
        r.2.device = s.device)
      (fun _ _ => False) (releaseTarget (t, s)) := by
  have h := Supply.ends_releaseAll hs hle
  unfold releaseTarget
  dsimp only
  rcases hr : Supply.releaseAll t.buffers s with ⟨_, s'⟩ | ⟨e, s'⟩
  · rw [hr] at h
    exact ⟨h.1, rfl, h.2⟩
  · rw [hr] at h
    exact h

/-! ### All of a sort -/

section Lists

variable {α : Type}

/-- What the members of a list hold together. -/
def allHeld (held : α → List Handle) (as : List α) : Multiset Handle :=
  (as.flatMap held : List Handle)

theorem mem_allHeld {held : α → List Handle} {as : List α} {h : Handle} :
    h ∈ allHeld held as ↔ ∃ a ∈ as, h ∈ held a :=
  Multiset.mem_coe.trans List.mem_flatMap

theorem allHeld_cons (held : α → List Handle) (a : α) (as : List α) :
    allHeld held (a :: as) = held a + allHeld held as :=
  (Multiset.coe_add _ _).symm

theorem allHeld_append (held : α → List Handle) (as bs : List α) :
    allHeld held (as ++ bs) = allHeld held as + allHeld held bs := by
  rw [allHeld, List.flatMap_append, ← Multiset.coe_add]
  rfl

/-- **Work on a list exchanges what its members hold, one after the other.**  What the member at
which it stops loses is all that is lost. -/
theorem ends_eachOf {work : EStateM Failure (α × Supply σ) Unit} {held : α → List Handle}
    (lost : α → Supply σ → Option Handle) {as : List α}
    (hwork : ∀ a ∈ as, ∀ s : Supply σ, s.pool.Consistent →
      Ends (fun _ r => Trades s.pool (held a) r.2.pool (held r.1))
        (fun _ r => TradesBut (lost a s) s.pool (held a) r.2.pool (held r.1)) (work (a, s)))
    {s : Supply σ} (hs : s.pool.Consistent) :
    Ends (fun _ r => Trades s.pool (allHeld held as) r.2.pool (allHeld held r.1))
      (fun _ r => TradesBut ((stopsAt work (as, s)).bind fun x => lost x.1 x.2) s.pool
        (allHeld held as) r.2.pool (allHeld held r.1))
      (eachOf work (as, s)) := by
  induction as generalizing s with
  | nil =>
      rw [eachOf]
      exact Trades.refl hs _
  | cons a as ih =>
      obtain ⟨ha, has⟩ := List.forall_mem_cons.1 hwork
      have hfirst := ha s hs
      rw [eachOf, stopsAt, allHeld_cons]
      rcases hw : work (a, s) with ⟨_, a', s'⟩ | ⟨e, a', s'⟩
      · rw [hw] at hfirst
        -- what the rest holds is left alone while `a` is worked on, and the other way round
        have hrest := ih has hfirst.consistent
        dsimp only
        rcases hr : eachOf work (as, s') with ⟨_, as', t⟩ | ⟨e, as', t⟩
        · rw [hr] at hrest
          show Trades _ _ _ (allHeld held (a' :: as'))
          rw [allHeld_cons]
          exact hfirst.beside hrest
        · rw [hr] at hrest
          show TradesBut _ _ _ _ (allHeld held (a' :: as'))
          rw [allHeld_cons]
          exact (hrest.add_left _).after_trades (hfirst.add_right _)
      · rw [hw] at hfirst
        show TradesBut (lost a s) _ _ _ (allHeld held (a' :: as))
        rw [allHeld_cons]
        exact hfirst.add_right _

/-- The same for work that loses nothing. -/
theorem ends_eachOf_trades {work : EStateM Failure (α × Supply σ) Unit}
    {held : α → List Handle} {as : List α}
    (hwork : ∀ a ∈ as, ∀ s : Supply σ, s.pool.Consistent →
      Ends (fun _ r => Trades s.pool (held a) r.2.pool (held r.1))
        (fun _ r => Trades s.pool (held a) r.2.pool (held r.1)) (work (a, s)))
    {s : Supply σ} (hs : s.pool.Consistent) :
    Ends (fun _ r => Trades s.pool (allHeld held as) r.2.pool (allHeld held r.1))
      (fun _ r => Trades s.pool (allHeld held as) r.2.pool (allHeld held r.1))
      (eachOf work (as, s)) := by
  refine (ends_eachOf (fun _ _ => none) hwork hs).mono (fun _ _ h => h) fun _ r h => ?_
  cases hstop : stopsAt work (as, s) with
  | none =>
      rw [hstop] at h
      exact h
  | some x =>
      rw [hstop] at h
      exact h

end Lists

/-- **Targets give back all that they hold**, if that is handed out. -/
theorem ends_eachOf_releaseTarget {s : Supply σ} (hs : s.pool.Consistent) {ts : List Target}
    (hle : allHeld Target.buffers ts ≤ s.pool.used) :
    Ends (fun _ r => Trades s.pool (allHeld Target.buffers ts) r.2.pool 0 ∧
        r.1 = ts.map Target.withoutBuffers ∧ r.2.device = s.device)
      (fun _ _ => False) (eachOf releaseTarget (ts, s)) := by
  refine ends_eachOf_induct releaseTarget
    (I := fun ts s => s.pool.Consistent ∧ allHeld Target.buffers ts ≤ s.pool.used)
    (P := fun ts s us t => Trades s.pool (allHeld Target.buffers ts) t.pool 0 ∧
      us = ts.map Target.withoutBuffers ∧ t.device = s.device)
    (Q := fun _ _ _ _ _ => False) (fun _ h => ⟨Trades.refl h.1 _, rfl, rfl⟩)
    (fun t ts s h => ?_) ⟨hs, hle⟩
  obtain ⟨hs, hle⟩ := h
  simp only [allHeld_cons] at hle ⊢
  refine (ends_releaseTarget hs (le_trans (Multiset.le_add_right _ _) hle)).mono ?_ fun _ _ h => h
  rintro _ r ⟨htrades, hr, hdevice⟩
  have hle' := (htrades.add_right _).used_le hle
  rw [zero_add] at hle'
  refine ⟨⟨htrades.consistent, hle'⟩, ?_, fun _ _ _ => id⟩
  rintro us u ⟨htrades', hus, hdevice'⟩
  refine ⟨by simpa using htrades.beside htrades', ?_, hdevice'.trans hdevice⟩
  rw [hr, hus, List.map_cons]

/-! ### Documents -/

namespace Document

/-- The buffers of the persistent targets. -/
def kept (d : Document) : Multiset Handle := allHeld Target.buffers d.passes.persistent

/-- The buffers of the temporary targets. -/
def lent (d : Document) : Multiset Handle := allHeld Target.buffers d.passes.temporary

/-- The buffers of the imported images. -/
def imported (d : Document) : Multiset Handle := allHeld Parameter.held d.parameters

/-- All buffers that a document holds. -/
def held (d : Document) : Multiset Handle := d.kept + d.lent + d.imported

theorem flatMap_held (ps : List Parameter) :
    ps.flatMap Parameter.held =
      (ps.filter Parameter.isImport).filterMap fun p => p.current.binding?.map Binding.handle := by
  induction ps with
  | nil => rfl
  | cons p ps ih =>
      rw [List.flatMap_cons, ih, Parameter.held]
      by_cases hp : p.isImport = true
      · rw [if_pos hp, List.filter_cons_of_pos hp]
        cases hb : p.current.binding? <;> simp [hb]
      · rw [if_neg hp, List.filter_cons_of_neg hp, List.nil_append]

/-- What a document holds is what it gives back in the end. -/
theorem coe_heldBuffers (d : Document) : (Studio.heldBuffers d : Multiset Handle) = d.held := by
  unfold Studio.heldBuffers held kept lent imported allHeld
  rw [flatMap_held, Multiset.coe_add, Multiset.coe_add, Passes.targets, List.flatMap_append]
  rfl

end Document

end ShaderEffect
