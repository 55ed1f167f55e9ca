/-
**Buffers that stand by.**

What a scene holds is not always handed out to it: when a pool is cleared, targets go on holding
handles that mean nothing any more.  A frame deals with that, slot by slot.  Whatever becomes of the
slots, a buffer that is handed out and stands in none of them stays handed out, and comes to stand
in none of them; and a handle that has lost its buffer never gets another one, since pools do not
issue a number twice.

Main definitions:

* `ShaderEffect.Pool.Bypasses` — **handles are exchanged, and others stand by**;
* `ShaderEffect.Pool.Issues` — handles are issued with new numbers only.

Main results:

* `ShaderEffect.bypasses_ensureBuffers`, `ShaderEffect.bypasses_eachOf` — persistent targets;
* `ShaderEffect.Supply.kept_issues` — numbers are not used again;
* `ShaderEffect.Studio.follows_renderFrame` — **what a frame leaves alone from the moment when
  targets get their buffers**, however it goes.
-/

import ShaderEffect.Proofs.Scene.Lendings
import ShaderEffect.Proofs.Scene.Refreshing

set_option autoImplicit false

namespace ShaderEffect

open Pool Supply

variable {σ : Type}

/-! ### Exchanges -/

namespace Pool

/-- **Handles are exchanged for others, and others stand by**: a buffer that is handed out under
none of the first handles is known as before, and is none of the others.  It does not matter whether
the first handles are handed out. -/
structure Bypasses (p : Pool) (before : Multiset Handle) (q : Pool) (after : Multiset Handle) :
    Prop where
  consistent : q.Consistent
  standsBy : ∀ h e, p.find? h = some e → e.inUse = true → h ∉ before →
    q.find? h = some e ∧ h ∉ after

namespace Bypasses

variable {p q r : Pool} {before middle after held held' : Multiset Handle}

theorem refl (hp : p.Consistent) (held : Multiset Handle) : Bypasses p held p held :=
  ⟨hp, fun _ _ he _ hnot => ⟨he, hnot⟩⟩

/-- One exchange after another. -/
theorem trans (h : Bypasses p before q middle) (h' : Bypasses q middle r after) :
    Bypasses p before r after := by
  refine ⟨h'.consistent, fun k e he hu hnot => ?_⟩
  obtain ⟨he', hnot'⟩ := h.standsBy k e he hu hnot
  exact h'.standsBy k e he' hu hnot'

/-- Handles that are left alone may be counted on both sides. -/
theorem add_right (h : Bypasses p before q after) (held : Multiset Handle) :
    Bypasses p (before + held) q (after + held) := by
  refine ⟨h.consistent, fun k e he hu hnot => ?_⟩
  rw [Multiset.mem_add, not_or] at hnot
  obtain ⟨he', hnot'⟩ := h.standsBy k e he hu hnot.1
  exact ⟨he', fun hk => (Multiset.mem_add.1 hk).elim hnot' hnot.2⟩

theorem add_left (h : Bypasses p before q after) (held : Multiset Handle) :
    Bypasses p (held + before) q (held + after) := by
  rw [add_comm held, add_comm held]
  exact h.add_right held

/-- Exchanges of different handles, one after the other. -/
theorem beside (h : Bypasses p before q after) (h' : Bypasses q held r held') :
    Bypasses p (before + held) r (after + held') :=
  (h.add_right held).trans (h'.add_left after)

/-- Handing out more handles gives none of them to two. -/
theorem of_trades (hp : p.Consistent) (h : Trades p 0 q after) : Bypasses p 0 q after := by
  refine ⟨h.consistent, fun k e he hu _ => ?_⟩
  have hk : k ∈ p.used := (mem_used hp).2 (isInUse_iff.2 ⟨e, he, hu⟩)
  refine ⟨(h.find? _ (zero_add _).symm k hk).trans he, fun hafter => ?_⟩
  have hnodup := nodup_used h.consistent
  rw [h.used _ (zero_add _).symm, Multiset.nodup_add] at hnodup
  exact Multiset.disjoint_left.1 hnodup.2.2 hafter hk

/-- Handing out more handles concerns none that is held. -/
theorem of_taken (hp : p.Consistent) (h : Trades p 0 q after) (held : Multiset Handle) :
    Bypasses p held q held := by
  refine ⟨h.consistent, fun k e he hu hnot => ⟨?_, hnot⟩⟩
  exact ((of_trades hp h).standsBy k e he hu (Multiset.notMem_zero k)).1

end Bypasses

/-! ### Numbers -/

/-- Handles are issued with new numbers only: a number that was issued, and has no buffer any more,
does not get another one. -/
def Issues (p q : Pool) : Prop :=
  p.Consistent → q.Consistent ∧ p.nextNumber ≤ q.nextNumber ∧
    ∀ h : Handle, h.number < p.nextNumber → p.find? h = none → q.find? h = none

namespace Issues

variable {p q r : Pool}

theorem refl (p : Pool) : Issues p p := fun hp => ⟨hp, le_rfl, fun _ _ h => h⟩

theorem trans (h : Issues p q) (h' : Issues q r) : Issues p r := by
  intro hp
  obtain ⟨hq, hle, hnone⟩ := h hp
  obtain ⟨hr, hle', hnone'⟩ := h' hq
  exact ⟨hr, hle.trans hle', fun k hk hp => hnone' k (hk.trans_le hle) (hnone k hk hp)⟩

end Issues

variable {p q : Pool} {d : Descriptor} {h : Handle}

theorem issues_reuse (hr : p.reuse d = (some h, q)) : Issues p q := by
  refine fun hp => ⟨hp.reuse hr, (reuse_keeps hr).1.ge, fun k _ hk => ?_⟩
  rw [find?_reuse hr, hk]
  simp

theorem issues_adopt (p : Pool) (d : Descriptor) (b : Buffer) : Issues p (p.adopt d b).2 := by
  refine fun hp => ⟨hp.adopt d b, Nat.le_succ _, fun k hlt hk => ?_⟩
  have hne : k ≠ (p.adopt d b).1 := by
    rintro rfl
    exact Nat.lt_irrefl _ hlt
  rw [find?_adopt, if_neg hne, hk]

theorem issues_release (hr : p.release h = .ok q) : Issues p q := by
  refine fun hp => ⟨hp.release hr, ?_, fun k _ hk => ?_⟩
  · obtain ⟨e, -, -, rfl⟩ := release_eq_ok_iff.1 hr
    exact le_rfl
  · rw [find?_release hr, hk]
    simp

theorem issues_evict (p : Pool) : Issues p p.evict.2 := by
  refine fun hp => ⟨hp.evict, le_rfl, fun k _ hk => ?_⟩
  rw [show p.evict.2.find? k = _ from find?_without _ _ k]
  split
  · rfl
  · exact hk

theorem issues_cleared (p : Pool) : Issues p p.cleared :=
  fun _ => ⟨consistent_cleared p, le_rfl, fun _ _ _ => rfl⟩

end Pool

open Pool (Bypasses Issues)

namespace Supply

/-- Nothing that happens to a pool in a frame uses a number again. -/
theorem stable_issues : Pool.Stable Issues where
  of_consistent h := fun hp => h hp hp
  refl := .refl
  trans h h' := h.trans h'
  reuse := issues_reuse
  adopt := issues_adopt
  release := issues_release

/-- **Numbers are not used again.** -/
theorem kept_issues : Kept fun s t : Supply σ => s.pool.Issues t.pool := stable_issues.kept

theorem issues_acquire (device : Device σ) (d : Descriptor) (s : Supply σ) :
    s.pool.Issues (remains (Supply.acquire device d s)).pool :=
  stable_issues.acquire device d s

theorem issues_loadImport (device : Device σ) (p : Parameter) (s : Supply σ) :
    s.pool.Issues (remains (loadImport device (p, s))).2.pool :=
  stable_issues.loadImport device p s

/-- Everybody who uses a pool leaves it with old numbers as they are. -/
theorem issues_perform (device : Device σ) (s : Supply σ) (op : Operation) :
    s.pool.Issues (op.perform device s).pool := by
  cases op with
  | acquire d => exact issues_acquire device d s
  | adopt d b => exact issues_adopt s.pool d b
  | release h => exact kept_issues.release h s
  | housekeep => exact issues_evict s.pool
  | clear => exact issues_cleared s.pool

/-- Giving a buffer back concerns that one alone. -/
theorem find?_releaseHeld {h k : Handle} (hk : k ≠ h) (s : Supply σ) :
    (remains (releaseHeld h s)).pool.find? k = s.pool.find? k := by
  unfold releaseHeld Supply.release
  split
  · cases hr : s.pool.release h with
    | error failure => rfl
    | ok p => exact (find?_release hr k).trans (if_neg hk)
  · rfl

end Supply

/-! ### Persistent targets -/

/-- A slot that is refreshed takes no buffer that is handed out. -/
theorem bypasses_refreshSlot (device : Device σ) {s : Supply σ} (hs : s.pool.Consistent)
    (slot : Option Handle) (d : Descriptor) :
    Ends (fun h s' => Bypasses s.pool (slotHeld slot) s'.pool {h})
      (fun _ s' => Bypasses s.pool (slotHeld slot) s'.pool (slotHeld slot))
      (refreshSlot device slot d s) := by
  cases slot with
  | none =>
    refine (ends_acquire device hs d).mono (fun h s' h' => .of_trades hs h'.1) fun _ s' h' => ?_
    rw [show s'.pool = s.pool from h']
    exact .refl hs _
  | some k =>
    rw [refreshSlot_some]
    split
    · exact .refl hs _
    · -- the slot may hold what is not handed out; what stands by is another handle in any case
      have hrelease := ends_releaseHeld hs k
      have hfind {j : Handle} (hj : j ≠ k) := find?_releaseHeld hj s
      show Ends _ _ (EStateM.bind _ _ s)
      unfold EStateM.bind
      rcases hr : Supply.releaseHeld k s with ⟨_, t⟩ | ⟨_, t⟩
      · rw [hr] at hrelease hfind
        have ht := hrelease.1.consistent
        have hfirst : Bypasses s.pool (slotHeld (some k)) t.pool 0 := by
          refine ⟨ht, fun j e he _ hnot => ⟨?_, Multiset.notMem_zero j⟩⟩
          have hj : j ≠ k := fun heq => hnot (heq ▸ Multiset.mem_singleton_self k)
          exact (hfind hj).trans he
        refine (ends_acquire device ht d).mono (fun h u h' => ?_) fun _ u h' => ?_
        · exact hfirst.trans (.of_trades ht h'.1)
        · rw [show u.pool = t.pool from h']
          exact ⟨ht, fun j e he hu hnot => ⟨(hfirst.standsBy j e he hu hnot).1, hnot⟩⟩
      · rw [hr] at hrelease
        exact hrelease.elim

/-- **A persistent target that asks for its buffers takes none that is handed out.** -/
theorem bypasses_ensureBuffers (device : Device σ) {s : Supply σ} (hs : s.pool.Consistent)
    (t : Target) :
    Bypasses s.pool t.buffers (remains (ensureBuffers device (t, s))).2.pool
      (remains (ensureBuffers device (t, s))).1.buffers := by
  unfold ensureBuffers
  dsimp only
  cases t.descriptor? with
  | none => exact .refl hs _
  | some d =>
    dsimp only
    have hcurrent := bypasses_refreshSlot device hs t.current d
    rcases hc : refreshSlot device t.current d s with ⟨c, s₁⟩ | ⟨e, s₁⟩
    · rw [hc] at hcurrent
      have hprevious := bypasses_refreshSlot device hcurrent.consistent t.previous d
      dsimp only
      rcases hv : refreshSlot device t.previous d s₁ with ⟨v, s₂⟩ | ⟨e, s₂⟩
      all_goals
        rw [hv] at hprevious
        simp only [remains, coe_buffers]
        exact hcurrent.beside hprevious
    · rw [hc] at hcurrent
      simp only [remains, coe_buffers]
      exact hcurrent.add_right _

/-- **Work on a list takes no buffer that is handed out**, if work on its members does not. -/
theorem bypasses_eachOf {α : Type} {work : EStateM Failure (α × Supply σ) Unit}
    (held : α → List Handle)
    (hwork : ∀ a, ∀ s : Supply σ, s.pool.Consistent → Bypasses s.pool (held a)
      (remains (work (a, s))).2.pool (held (remains (work (a, s))).1))
    (as : List α) {s : Supply σ} (hs : s.pool.Consistent) :
    Bypasses s.pool (allHeld held as) (remains (eachOf work (as, s))).2.pool
      (allHeld held (remains (eachOf work (as, s))).1) := by
  refine ends_same_iff.1 (ends_eachOf_induct_same work (I := fun _ s => s.pool.Consistent)
    (R := fun as s bs t => Bypasses s.pool (allHeld held as) t.pool (allHeld held bs))
    (fun s hs => .refl hs _) (fun a as s hs => ?_) hs)
  have hfirst := ends_same_iff
    (p := fun r : α × Supply σ => Bypasses s.pool (held a) r.2.pool (held r.1)).2 (hwork a s hs)
  simp only [allHeld_cons]
  exact hfirst.mono (fun _ _ h => ⟨h.consistent, fun _ _ hrest => h.beside hrest⟩)
    fun _ _ h => h.add_right _

/-! ### The rest of a frame -/

/-- What a sampler of an image depends on: its name, its file and what it is bound to. -/
def Parameter.image (p : Parameter) : String × Option String × Option Binding :=
  (p.name, p.importPath, p.current.binding?)

/-- The end of an event concerns no image. -/
@[simp] theorem Parameter.image_settle (p : Parameter) : p.settle.image = p.image := by
  unfold Parameter.settle
  split
  · rename_i hevent
    rw [Parameter.image, Parameter.image, hevent]
    rfl
  · rfl

namespace Studio

/-- **What is left alone from the moment when targets get their buffers**: images, and buffers that
stand in no slot.  And what stands in slots has been issued. -/
structure Follows (s s' : Studio σ) : Prop where
  images : s'.document.parameters.map Parameter.image = s.document.parameters.map Parameter.image
  bypasses : Bypasses s.supply.pool s.document.kept s'.supply.pool s'.document.kept
  issued : ∀ h ∈ s'.document.kept, h ∈ s.document.kept ∨ h.number < s'.supply.pool.nextNumber

namespace Follows

variable {s s' s'' : Studio σ}

theorem refl (hs : s.supply.pool.Consistent) : Follows s s :=
  ⟨rfl, .refl hs _, fun _ hh => Or.inl hh⟩

/-- Temporary targets that have given back what they were lent. -/
theorem givesBack (h : Follows s s') (hnext : s'.supply.pool.Issues s''.supply.pool)
    (hback : GivesBack s' s'') : Follows s s'' := by
  have hkept : s''.document.kept = s'.document.kept := by
    rw [Document.kept, hback.persistent, Document.kept]
  have hs' := h.bypasses.consistent
  have hthen := (Bypasses.of_trades hs' hback.trades).add_left s'.document.kept
  refine ⟨?_, ?_, fun k hk => ?_⟩
  · rw [hback.parameters]
    exact h.images
  · rw [hkept]
    rw [add_zero] at hthen
    exact h.bypasses.trans hthen
  · rw [hkept] at hk
    exact (h.issued k hk).imp id fun hlt => hlt.trans_le (hnext hs').2.1

end Follows

/-- **When targets get their buffers.** -/
theorem follows_onPersistent (device : Device σ) {s : Studio σ} (hs : s.supply.pool.Consistent) :
    Follows s (remains (onPersistent (ensureBuffers device) s)) := by
  have hbypasses := bypasses_eachOf Target.buffers
    (fun t u hu => bypasses_ensureBuffers device hu t) s.document.passes.persistent hs
  have hrefreshed := refreshed_eachOf device s.document.passes.persistent hs
  unfold onPersistent
  rcases hr : eachOf (ensureBuffers device) (s.document.passes.persistent, s.supply) with
    ⟨_, ts, u⟩ | ⟨failure, ts, u⟩
  all_goals
    rw [hr] at hbypasses hrefreshed
    refine ⟨rfl, hbypasses, fun h hh => ?_⟩
    obtain ⟨t', ht', hmem⟩ := mem_allHeld.1 hh
    obtain ⟨t, ht, hone⟩ := exists_of_mem_forall₂ hrefreshed ht'
    -- a slot holds what it held, or what the pool knows under its descriptor
    have hslot {slot slot' : Option Handle} (hrefilled : Refilled s.supply.pool u.pool
        t'.descriptor? slot slot') (hk : slot' = some h) :
        slot = some h ∨ h.number < u.pool.nextNumber := by
      rcases hrefilled with heq | ⟨k, d, hk', -, hknown, -⟩
      · exact Or.inl (heq ▸ hk)
      · rw [hk] at hk'
        cases hk'
        obtain ⟨e, he, -⟩ := Option.map_eq_some_iff.1 hknown
        exact Or.inr (hbypasses.consistent.number_lt h e he)
    have hheld {k : Handle} (hk : t.current = some k ∨ t.previous = some k) :
        k ∈ s.document.kept := by
      refine mem_allHeld.2 ⟨t, ht, ?_⟩
      simpa [Target.buffers] using hk
    rcases (show t'.current = some h ∨ t'.previous = some h by
      simpa [Target.buffers] using hmem) with hk | hk
    · exact (hslot hone.current hk).imp (fun h => hheld (Or.inl h)) id
    · exact (hslot hone.previous hk).imp (fun h => hheld (Or.inr h)) id

/-- What comes of a frame in the end concerns no image. -/
theorem follows_concluded {s rested : Studio σ} (now : Moment)
    (r : EStateM.Result Failure (Studio σ) (List PassReport)) (h : Follows s rested) :
    Follows s (remains (concluded now rested r)) := by
  cases r with
  | error failure t => exact h
  | ok reports t =>
    have hkept : rested.document.settle.kept = rested.document.kept := rested.document.kept_settle
    refine ⟨?_, ?_, ?_⟩
    · show (rested.document.parameters.map Parameter.settle).map Parameter.image = _
      rw [List.map_map, ← h.images]
      exact List.map_congr_left fun p _ => p.image_settle
    · show Bypasses _ _ rested.supply.pool rested.document.settle.kept
      rw [hkept]
      exact h.bypasses
    · show ∀ k ∈ rested.document.settle.kept, _
      rw [hkept]
      exact h.issued

/-- **What a frame leaves alone from the moment when targets get their buffers**, however it
goes. -/
theorem follows_renderFrame (device : Device σ) (now : Moment) (renderSize : Size) {s : Studio σ}
    (hs : s.supply.pool.Consistent) (hd : s.document.WellFormed) (hrests : s.document.Rests) :
    Follows (remains (untilBuffers device renderSize s))
      (remains (renderFrame device now renderSize s)) := by
  rcases hprepare : prepare device renderSize s with ⟨_, ready⟩ | ⟨failure, t⟩
  · obtain ⟨begun, hbegun, hready⟩ := exists_begun hprepare
    obtain ⟨rested, hback, hgives, hframe⟩ := exists_rested now hs hd hrests hprepare
    have hfirst := follows_onPersistent device (begins_of_ok hs hd hbegun).1.trades.consistent
    rw [hready] at hfirst
    rw [hbegun, hframe]
    refine follows_concluded now _ (hfirst.givesBack ?_ hgives)
    -- numbers that were issued before drawing stay issued
    have hdraws := kept_issues.drawPasses (issues_acquire device) (fun _ _ => .refl _)
      (ready.scene.clock now) renderSize ready
    have hthen := kept_issues.onTemporary
      (remains (drawPasses device (ready.scene.clock now) renderSize ready))
    rw [hback] at hthen
    exact hdraws.trans hthen
  · rw [renderFrame_of_prepare_error now hprepare]
    rw [prepare_eq] at hprepare
    rcases bind_eq_error hprepare with hbegun | ⟨_, begun, hbegun, hready⟩
    · rw [hbegun]
      exact .refl (begins_of_error hs hd hbegun).trades.consistent
    · have hfirst := follows_onPersistent device (begins_of_ok hs hd hbegun).1.trades.consistent
      rw [hready] at hfirst
      rw [hbegun]
      exact hfirst

end Studio

end ShaderEffect
