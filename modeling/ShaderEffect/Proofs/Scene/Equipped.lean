/-
**What passes can rely on.**

When everything before drawing has succeeded, all targets have the sizes of the frame, persistent
targets hold buffers that the pool knows under the descriptor of their target, and temporary targets
hold none.  A pass that is lent a buffer asks for the descriptor of its target, and nothing that
happens while passes are drawn makes the pool forget a buffer.  So a pass can only fail because the
device refuses a buffer to its own temporary target.

Main definitions:

* `ShaderEffect.Studio.Equipped` — **what a pass can rely on**;
* `ShaderEffect.Studio.Refuses` — a target is refused a buffer.

Main results:

* `ShaderEffect.Studio.equipped_of_ready` — what is true when the passes are to be drawn;
* `ShaderEffect.Studio.Lending.equipped`, `ShaderEffect.Studio.Drawn.equipped` — it stays true while
  they are drawn;
* `ShaderEffect.Studio.ends_drawFrom_of_equipped` — **the only way in which passes can fail**.
-/

import ShaderEffect.Proofs.Scene.Handles
import ShaderEffect.Proofs.Scene.Sampling

set_option autoImplicit false

namespace ShaderEffect

open Pool Supply

variable {σ : Type}

/-! ### Outlines -/

@[simp] theorem Target.size_withoutBuffers (t : Target) : t.withoutBuffers.size = t.size := rfl

@[simp] theorem Target.descriptor?_withoutBuffers (t : Target) :
    t.withoutBuffers.descriptor? = t.descriptor? := rfl

namespace Document

variable {d d' : Document}

/-- What is seen of the target of a name depends on what is seen of all targets. -/
theorem map_target?_congr {f : Target → Target} (hf : ∀ t, (f t).name = t.name)
    (h : d'.passes.targets.map f = d.passes.targets.map f) (name : String) :
    (d'.target? name).map f = (d.target? name).map f := by
  have hfind (e : Document) : (e.target? name).map f =
      (e.passes.targets.map f).find? fun t => t.name = name := by
    rw [List.find?_map]
    refine congrArg (fun p => (e.passes.targets.find? p).map f) (funext fun t => ?_)
    rw [Function.comp_apply, hf]
  rw [hfind, hfind, h]

/-- A target that is seen in outline is declared. -/
theorem target?_of_mem_outlines (hd : d.WellFormed) {u : Target} (hu : u ∈ d.outlines) :
    ∃ t, d.target? u.name = some t ∧ t.withoutBuffers = u := by
  obtain ⟨t, ht, rfl⟩ := List.mem_map.1 hu
  exact ⟨t, hd.target?_eq ht, rfl⟩

/-- A target that has got a size for a frame is declared, and that is its size in this frame. -/
theorem exists_of_resize {renderSize : Size} (hresize : d.resize renderSize = .ok d')
    {name : String} {u : Target} (hu : d'.target? name = some u) :
    ∃ t, d.target? name = some t ∧ t.blank = u.blank ∧ d.sizeIn? name renderSize = u.size := by
  have hblank : d'.passes.targets.map Target.blank = d.passes.targets.map Target.blank := by
    rw [← targets_blank, ← targets_blank, blank_resize hresize]
  have hmap := map_target?_congr Target.name_blank hblank name
  rw [hu] at hmap
  obtain ⟨t, ht, heq⟩ := Option.map_eq_some_iff.1 hmap.symm
  refine ⟨t, ht, heq, ?_⟩
  rw [sizeIn?, hresize]
  dsimp only
  rw [hu]
  rfl

/-- All targets have sizes then. -/
theorem size_ne_none_of_resize {renderSize : Size} (hresize : d.resize renderSize = .ok d') :
    ∀ u ∈ d'.outlines, u.size ≠ none := by
  obtain ⟨persistent, temporary, hpersistent, htemporary, rfl⟩ := resize_eq_ok_iff.1 hresize
  intro u hu
  obtain ⟨t, ht, rfl⟩ := List.mem_map.1 hu
  show t.size ≠ none
  rcases List.mem_append.1 ht with ht | ht
  · exact size_ne_none_of_mem_resizeAll hpersistent ht
  · exact size_ne_none_of_mem_resizeAll htemporary ht

end Document

/-! ### Persistent targets -/

/-- A target that gets its buffers holds two that the pool knows under its descriptor. -/
theorem described_ensureBuffers {device : Device σ} {t t' : Target} {s s' : Supply σ}
    (hs : s.pool.Consistent) (ht : t.size ≠ none)
    (h : ensureBuffers device (t, s) = .ok () (t', s')) {k : Handle} (hk : k ∈ t'.buffers) :
    s'.pool.descriptor? k = t.descriptor? := by
  obtain ⟨z, hz⟩ := Option.ne_none_iff_exists'.1 ht
  have hd : t.descriptor? = some (.renderTarget z t.float) := by
    rw [Target.descriptor?, hz]
    rfl
  unfold ensureBuffers at h
  dsimp only at h
  rw [hd] at h ⊢
  dsimp only at h
  have hcurrent := ends_refreshSlot device hs t.current (.renderTarget z t.float)
  rcases hc : refreshSlot device t.current (.renderTarget z t.float) s with ⟨c, s₁⟩ | ⟨e, s₁⟩
  · rw [hc] at h hcurrent
    dsimp only at h
    have hs₁ := hcurrent.1.consistent
    have hprevious := ends_refreshSlot device hs₁ t.previous (.renderTarget z t.float)
    have hgrows := kept_grows.refreshSlot (grows_acquire device (.renderTarget z t.float))
      t.previous s₁
    rcases hv : refreshSlot device t.previous (.renderTarget z t.float) s₁ with ⟨v, s₂⟩ | ⟨e, s₂⟩
    · rw [hv] at h hgrows hprevious
      cases h
      rcases (show k = c ∨ k = v by simpa [Target.buffers] using hk) with rfl | rfl
      · -- refreshing the other slot does not make the pool forget this one
        exact hgrows.descriptor? hs₁ hcurrent.2.1
      · exact hprevious.2.1
    · rw [hv] at h
      cases h
  · rw [hc] at h
    cases h

/-- So do all targets of a list. -/
theorem described_eachOf {device : Device σ} {ts us : List Target} {s s' : Supply σ}
    (hs : s.pool.Consistent) (hts : ∀ t ∈ ts, t.size ≠ none)
    (h : eachOf (ensureBuffers device) (ts, s) = .ok () (us, s')) :
    ∀ u ∈ us, ∀ k ∈ u.buffers, s'.pool.descriptor? k = u.descriptor? := by
  refine (eachOf_eq_ok_induct (ensureBuffers device)
    (I := fun ts s => s.pool.Consistent ∧ ∀ t ∈ ts, t.size ≠ none)
    (P := fun _ s us s' => s.pool.Grows s'.pool ∧
      ∀ u ∈ us, ∀ k ∈ u.buffers, s'.pool.descriptor? k = u.descriptor?)
    (fun _ _ => ⟨.refl _, fun _ hu => absurd hu List.not_mem_nil⟩)
    (fun t ts s t' s₁ hs hfirst => ?_) ⟨hs, hts⟩ h).2
  obtain ⟨ht, hts⟩ := List.forall_mem_cons.1 hs.2
  have hgrows := kept_grows.ensureBuffers (t := t) (fun d _ => grows_acquire device d) s
  have hshape := withoutBuffers_ensureBuffers device t s
  rw [hfirst] at hgrows hshape
  have hs₁ : s₁.pool.Consistent := (hgrows hs.1).1
  refine ⟨⟨hs₁, hts⟩, fun us s₂ hrest => ⟨hgrows.trans hrest.1, ?_⟩⟩
  refine List.forall_mem_cons.2 ⟨fun k hk => ?_, hrest.2⟩
  have hdescriptor : t'.descriptor? = t.descriptor? := by
    rw [← t'.descriptor?_withoutBuffers, show t'.withoutBuffers = _ from hshape,
      t.descriptor?_withoutBuffers]
  have hknown := described_ensureBuffers hs.1 ht hfirst hk
  obtain ⟨z, hz⟩ := Option.ne_none_iff_exists'.1 ht
  rw [hdescriptor]
  rw [Target.descriptor?, hz] at hknown ⊢
  exact hrest.1.descriptor? hs₁ hknown

namespace Studio

/-! ### While passes are drawn -/

/-- **What a pass can rely on.** -/
structure Equipped (s : Studio σ) : Prop where
  consistent : s.supply.pool.Consistent
  wellFormed : s.document.WellFormed
  /-- All targets have sizes. -/
  sized : ∀ u ∈ s.document.outlines, u.size ≠ none
  /-- What a target draws into is known under its descriptor. -/
  described : ∀ t ∈ s.document.passes.targets, ∀ k, t.current = some k →
    s.supply.pool.descriptor? k = t.descriptor?
  /-- Persistent targets have something to draw into. -/
  filled : ∀ t ∈ s.document.passes.persistent, t.current ≠ none

section

variable {device : Device σ} {program : Program} {clock : Clock} {renderSize : Size}
  {name : String} {s s' begun ready : Studio σ}

/-- **The buffers of persistent targets are known under their descriptors** when the passes are to
be drawn. -/
theorem described_of_ready (hs : s.supply.pool.Consistent) (hd : s.document.WellFormed)
    (hbegun : untilBuffers device renderSize s = .ok () begun)
    (hready : onPersistent (ensureBuffers device) begun = .ok () ready) :
    ∀ t ∈ ready.document.passes.persistent, ∀ k ∈ t.buffers,
      ready.supply.pool.descriptor? k = t.descriptor? := by
  obtain ⟨hbegins, e, hresize, hpasses⟩ := begins_of_ok hs hd hbegun
  have hsizes : ∀ t ∈ begun.document.passes.persistent, t.size ≠ none := by
    intro t ht
    refine Document.size_ne_none_of_resize hresize t.withoutBuffers (List.mem_map_of_mem ?_)
    rw [← hpasses]
    exact List.mem_append_left _ ht
  unfold onPersistent at hready
  rcases hr : eachOf (ensureBuffers device) (begun.document.passes.persistent, begun.supply) with
    ⟨_, ts, supply⟩ | ⟨failure, ts, supply⟩
  · rw [hr] at hready
    cases hready
    exact described_eachOf hbegins.trades.consistent hsizes hr
  · rw [hr] at hready
    cases hready

/-- **What is true when the passes are to be drawn**: they can rely on what they need, and targets
have the sizes of the frame. -/
theorem equipped_of_ready (hs : s.supply.pool.Consistent) (hd : s.document.WellFormed)
    (hrests : s.document.Rests) (hbegun : untilBuffers device renderSize s = .ok () begun)
    (hready : onPersistent (ensureBuffers device) begun = .ok () ready) :
    ready.Equipped ∧
      ∃ e, s.document.resize renderSize = .ok e ∧ ready.document.outlines = e.outlines := by
  obtain ⟨hbegins, e, hresize, hpasses⟩ := begins_of_ok hs hd hbegun
  have hprepares := (prepares_of_ok hs hd hbegun hready).1
  have hfilled := filled_of_ready hs hd hbegun hready
  have hdescribed := described_of_ready hs hd hbegun hready
  have hrests' : ready.document.Rests := hrests.congr hprepares.temporary
  have hshapes := ends_eachOf_map (ensureBuffers device) (f := Target.withoutBuffers)
    (fun t u => withoutBuffers_ensureBuffers device t u) begun.document.passes.persistent
    begun.supply
  unfold onPersistent at hready
  rcases hr : eachOf (ensureBuffers device) (begun.document.passes.persistent, begun.supply) with
    ⟨_, ts, supply⟩ | ⟨failure, ts, supply⟩
  · rw [hr] at hready hshapes
    cases hready
    have houtlines : Document.outlines (begun.document.withPersistent ts) = e.outlines := by
      rw [Document.outlines_withPersistent hshapes, Document.outlines, Document.outlines, hpasses]
    refine ⟨⟨hprepares.trades.consistent, hd.of_blank_eq hprepares.blank, ?_, ?_,
      fun t ht => (hfilled t ht).1⟩, e, hresize, houtlines⟩
    · show ∀ u ∈ Document.outlines (begun.document.withPersistent ts), u.size ≠ none
      rw [houtlines]
      exact Document.size_ne_none_of_resize hresize
    · intro t ht k hk
      rcases List.mem_append.1 ht with ht | ht
      · exact hdescribed t ht k (by simp [Target.buffers, hk])
      · -- temporary targets hold nothing yet
        have hnone := hrests' t ht
        rw [Target.slots, hk] at hnone
        cases hnone
  · rw [hr] at hready
    cases hready

namespace Equipped

/-- A target has a descriptor. -/
theorem exists_size (hs : s.Equipped) {t : Target} (ht : t ∈ s.document.passes.targets) :
    ∃ z, t.size = some z ∧ t.descriptor? = some (.renderTarget z t.float) := by
  obtain ⟨z, hz⟩ := Option.ne_none_iff_exists'.1
    (hs.sized t.withoutBuffers (List.mem_map_of_mem ht))
  replace hz : t.size = some z := hz
  refine ⟨z, hz, ?_⟩
  rw [Target.descriptor?, hz]
  rfl

/-- The target of a name is one of the targets. -/
theorem mem_targets {t : Target} (ht : s.document.target? name = some t) :
    t ∈ s.document.passes.targets ∧ t.name = name :=
  ⟨List.mem_of_find?_eq_some ht, by simpa using List.find?_some ht⟩

end Equipped

/-- **A pass that finds its buffer leaves to the next one what that can rely on.** -/
theorem Lending.equipped {r : Option Handle × Size} (h : Lending device renderSize name s r s')
    (hs : s.Equipped) : s'.Equipped ∧ s'.document.outlines = s.document.outlines := by
  have hlends := h.onlyLends hs.consistent hs.wellFormed
  have hwell := hs.wellFormed.of_blank_eq hlends.blank
  have hgrows := h.grows
  cases h with
  | output => exact ⟨hs, rfl⟩
  | found => exact ⟨hs, rfl⟩
  | lent t k supply hname ht hp hc hacquire =>
    have houtlines := Document.outlines_mapTarget s.document t.name k
    obtain ⟨hmem, -⟩ := Equipped.mem_targets ht
    obtain ⟨z, hz, hdescriptor⟩ := hs.exists_size hmem
    rw [hz, Option.getD_some] at hacquire
    have hends := Supply.ends_acquire device hs.consistent (.renderTarget z t.float)
    rw [hacquire] at hends
    refine ⟨⟨hlends.trades.consistent, hwell, ?_, ?_, ?_⟩, houtlines⟩
    · rw [houtlines]
      exact hs.sized
    · intro u hu j hj
      have htargets : (s.document.mapTarget t.name
          fun t => { t with current := some k }).passes.targets =
          s.document.passes.targets.map fun u =>
              if u.name = t.name then { u with current := some k } else u :=
        List.map_append.symm
      rw [htargets] at hu
      obtain ⟨v, hv, rfl⟩ := List.mem_map.1 hu
      by_cases hvt : v.name = t.name
      · -- the target that the buffer is for
        obtain rfl : v = t := hs.wellFormed.target_unique hmem hv hvt
        rw [if_pos rfl] at hj ⊢
        cases hj
        exact hends.2.trans hdescriptor.symm
      · rw [if_neg hvt] at hj ⊢
        obtain ⟨y, -, hy⟩ := hs.exists_size hv
        rw [hy]
        exact hgrows.descriptor? hs.consistent (hy ▸ hs.described v hv j hj)
    · rw [hlends.persistent]
      exact hs.filled

/-- **Drawing passes leaves to the next one what that can rely on.** -/
theorem Drawn.equipped {index : Nat} {written names : List String} {shots : List Shot}
    (h : Drawn device program clock renderSize index written names s shots s')
    (hs : s.Equipped) : s'.Equipped ∧ s'.document.outlines = s.document.outlines := by
  induction h with
  | nil => exact ⟨hs, rfl⟩
  | cons hlending _ _ _ ih =>
    obtain ⟨hfirst, houtlines⟩ := hlending.equipped hs
    obtain ⟨hlast, houtlines'⟩ :=
      ih ⟨hfirst.consistent, hfirst.wellFormed, hfirst.sized, hfirst.described, hfirst.filled⟩
    exact ⟨hlast, houtlines'.trans houtlines⟩

/-! ### Failures -/

/-- **A temporary target is refused a buffer** of its size. -/
def Refuses (device : Device σ) (outlines : List Target) (name : String) (failure : Failure)
    (s' : Studio σ) : Prop :=
  ∃ t ∈ outlines, t.name = name ∧ t.persistent = false ∧ ∃ z supply, t.size = some z ∧
    Supply.acquire device (.renderTarget z t.float) supply = .error failure s'.supply

/-- How it ends when a pass of a declared target looks for its buffer. -/
theorem ends_passTarget_of_equipped (hs : s.Equipped)
    (hname : name ≠ "" → ∃ u ∈ s.document.outlines, u.name = name) (index : Nat) :
    Ends (Lending device renderSize name s) (Refuses device s.document.outlines name)
      (passTarget device renderSize index name s) := by
  have hends := ends_passTarget device renderSize index name s
  rcases hr : passTarget device renderSize index name s with ⟨r, s'⟩ | ⟨failure, s'⟩
  · rw [hr] at hends
    exact hends
  · show Refuses device s.document.outlines name failure s'
    unfold passTarget at hr
    by_cases hempty : name = ""
    · rw [if_pos hempty] at hr
      cases hr
    · rw [if_neg hempty] at hr
      obtain ⟨u, hu, rfl⟩ := hname hempty
      obtain ⟨t, ht, rfl⟩ := Document.target?_of_mem_outlines hs.wellFormed hu
      obtain ⟨hmem, -⟩ := Equipped.mem_targets ht
      obtain ⟨z, hz, -⟩ := hs.exists_size hmem
      replace hr := (bind_of_ok (x := get) rfl).symm.trans hr
      rw [ht] at hr
      dsimp only at hr
      unfold lendBuffer at hr
      by_cases hlend : (!t.persistent && t.current.isNone) = true
      · rw [if_pos hlend] at hr
        -- of all that happens here, only asking for a buffer can fail
        rcases bind_eq_error hr with hr | ⟨_, _, -, hr⟩
        · rcases bind_eq_error hr with hr | ⟨_, _, -, hr⟩
          · unfold onSupply at hr
            rcases ha : Supply.acquire device (.renderTarget (t.size.getD renderSize) t.float)
                s.supply with ⟨k, supply⟩ | ⟨e, supply⟩
            · rw [ha] at hr
              cases hr
            · rw [ha] at hr
              cases hr
              rw [hz, Option.getD_some] at ha
              refine ⟨_, hu, rfl, ?_, z, s.supply, hz, ha⟩
              show t.persistent = false
              simp_all
          · cases hr
        · cases hr
      · rw [if_neg hlend] at hr
        cases hr

/-- **The buffer that a pass has found** is known under the descriptor of its target. -/
theorem Lending.exists_handle {handle : Option Handle} {size : Size}
    (h : Lending device renderSize name s (handle, size) s') (hs : s.Equipped)
    (hname : name ≠ "") :
    ∃ t k, s'.document.target? name = some t ∧ t.current = some k ∧ handle = some k ∧
      t.size = some size ∧
      s'.supply.pool.descriptor? k = some (.renderTarget size t.float) := by
  obtain ⟨hs', houtlines⟩ := h.equipped hs
  have hcurrent := h.currentOf?_eq hname
  have hmap := Document.map_target?_congr (f := Target.withoutBuffers) (fun _ => rfl) houtlines name
  -- the target has the size that it had before it was lent a buffer
  obtain ⟨u, hu, hsize, hsome⟩ : ∃ u, s.document.target? name = some u ∧
      size = u.size.getD renderSize ∧ handle ≠ none := by
    cases h with
    | output hempty => exact absurd hempty hname
    | found u _ hu hheld =>
      refine ⟨u, hu, rfl, fun hnone => ?_⟩
      obtain ⟨hmem, -⟩ := Equipped.mem_targets hu
      rcases (Document.target?_eq_some hs.wellFormed hu).2 with ⟨-, hmem⟩ | ⟨hp, -⟩
      · exact hs.filled u hmem hnone
      · rcases hheld with hp' | hheld
        · rw [hp] at hp'
          cases hp'
        · exact hheld hnone
    | lent u k supply _ hu => exact ⟨u, hu, rfl, Option.some_ne_none k⟩
  obtain ⟨k, rfl⟩ := Option.ne_none_iff_exists'.1 hsome
  obtain ⟨t, ht, hk⟩ := Option.bind_eq_some_iff.1 hcurrent
  obtain ⟨hmem, -⟩ := Equipped.mem_targets ht
  obtain ⟨z, hz, hdescriptor⟩ := hs'.exists_size hmem
  rw [ht, hu, Option.map_some, Option.map_some, Option.some.injEq] at hmap
  have hsize' : size = z := by
    rw [hsize, ← u.size_withoutBuffers, ← hmap, t.size_withoutBuffers, hz, Option.getD_some]
  refine ⟨t, k, ht, hk, rfl, by rw [hz, hsize'], ?_⟩
  rw [hs'.described t hmem k hk, hdescriptor, hsize']

/-- How it ends when a pass of a declared target is drawn. -/
theorem ends_drawPass_of_equipped (device : Device σ) (program : Program) (clock : Clock)
    (renderSize : Size) (hs : s.Equipped)
    (hname : name ≠ "" → ∃ u ∈ s.document.outlines, u.name = name) (index : Nat)
    (written : List String) :
    Ends (fun _ s' => s'.Equipped ∧ s'.document.outlines = s.document.outlines)
      (Refuses device s.document.outlines name)
      (drawPass device program clock renderSize index name written s) := by
  refine Ends.bind (ends_passTarget_of_equipped hs hname index) ?_
  rintro ⟨handle, size⟩ s₁ hlending
  obtain ⟨hs₁, houtlines⟩ := hlending.equipped hs
  have hbuffer : Ends (fun _ s' => s' = s₁) (fun _ _ => False) (passBuffer name handle s₁) := by
    by_cases hempty : name = ""
    · cases hlending with
      | output => exact rfl
      | found _ hne => exact absurd hempty hne
      | lent _ _ _ hne => exact absurd hempty hne
    · obtain ⟨t, k, -, -, rfl, -, hknown⟩ := hlending.exists_handle hs hempty
      obtain ⟨e, he, -⟩ := Option.map_eq_some_iff.1 hknown
      have hb : s₁.supply.pool.buffer? k = some e.buffer := by rw [Pool.buffer?, he]; rfl
      rw [passBuffer_eq name (.some hb)]
      exact rfl
  refine Ends.bind (hbuffer.mono (fun _ _ h => h) fun _ _ h => h.elim) ?_
  rintro buffer s' rfl
  exact ⟨⟨hs₁.consistent, hs₁.wellFormed, hs₁.sized, hs₁.described, hs₁.filled⟩, houtlines⟩

/-- **The only way in which passes can fail**: a temporary target is refused a buffer. -/
theorem ends_drawFrom_of_equipped (device : Device σ) (program : Program) (clock : Clock)
    (renderSize : Size) {names : List String} (hs : s.Equipped)
    (hnames : ∀ name ∈ names, name ≠ "" → ∃ u ∈ s.document.outlines, u.name = name) (index : Nat)
    (written : List String) :
    Ends (fun _ _ => True)
      (fun failure s' => ∃ name ∈ names, Refuses device s.document.outlines name failure s')
      (drawFrom device program clock renderSize index written names s) := by
  induction names generalizing index written s with
  | nil => exact trivial
  | cons name rest ih =>
    obtain ⟨hname, hrest⟩ := List.forall_mem_cons.1 hnames
    have hpass := ends_drawPass_of_equipped device program clock renderSize hs hname index written
    refine Ends.bind (hpass.mono (fun _ _ h => h) fun _ _ h => ⟨name, List.mem_cons_self, h⟩) ?_
    rintro report s₁ ⟨hs₁, houtlines⟩
    -- the next passes see the same outlines
    rw [← houtlines] at hrest ⊢
    refine Ends.bind ((ih hs₁ hrest (index + 1) (writtenAfter written name)).mono
      (fun _ _ h => h) ?_) fun _ _ _ => trivial
    rintro _ s' ⟨other, hother, hrefuses⟩
    exact ⟨other, List.mem_cons_of_mem name hother, hrefuses⟩

end

end Studio

end ShaderEffect
