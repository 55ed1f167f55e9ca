/-
**Relations that every part of a frame keeps.**

Whatever a scene does with a supply comes down to five things: it acquires a buffer, gives one back,
loads an image, compiles a program, or tells the device some commands.  So a relation between
supplies is kept by a part of a frame, whether that part fails or not, if it is kept by those of the
five that the part is made of.  Which calls reach the device, and what a pool knows, are told by
such relations.

What is acquired is a buffer for one of the targets, of the size that the target has; and no part of
a frame but the first changes a size.  So a relation need not be kept by whatever could be acquired.

Main definitions:

* `ShaderEffect.Supply.Kept` — a relation that is kept when buffers are given back;
* `ShaderEffect.Supply.Keeps` — work that keeps a relation;
* `ShaderEffect.Target.descriptorIn` — what a target asks for in a frame;
* `ShaderEffect.Document.outlines` — the targets with their sizes, without their buffers;
* `ShaderEffect.Supply.KeepsFor` — work that keeps a relation, as far as it asks for that;
* `ShaderEffect.Pool.Stable` — a relation between pools that all of this keeps.

Main results:

* `ShaderEffect.Supply.Kept.untilBuffers`, `ShaderEffect.Supply.Kept.onPersistent`,
  `ShaderEffect.Supply.Kept.drawPasses`, `ShaderEffect.Supply.Kept.onTemporary` — the parts of a
  frame;
* `ShaderEffect.Supply.Kept.renderFrame_behindFor`, `ShaderEffect.Supply.Kept.renderFrame_behind` —
  a frame from the moment when it loads and compiles nothing more, and asks only for what targets
  ask for;
* `ShaderEffect.Supply.Kept.renderFrame` — **a frame keeps what the five things keep**.
-/

import ShaderEffect.Proofs.Scene.Loading

set_option autoImplicit false

namespace ShaderEffect

open Supply

variable {σ : Type}

/-! ### What is left by work -/

/-- What is left by a sequence is related to its start, if each part relates what it finds to what
it leaves. -/
theorem remains_bind {ε τ α β : Type} {R : τ → τ → Prop}
    (htrans : ∀ s t u, R s t → R t u → R s u) {x : EStateM ε τ α} {f : α → EStateM ε τ β} {s : τ}
    (hx : R s (remains (x s))) (hf : ∀ a t, R t (remains (f a t))) :
    R s (remains ((x >>= f) s)) := by
  show R s (remains (EStateM.bind x f s))
  unfold EStateM.bind
  cases hr : x s with
  | ok a t =>
      rw [hr] at hx
      exact htrans _ _ _ hx (hf a t)
  | error e t =>
      rw [hr] at hx
      exact hx

/-- What is true at both ends is true of what is left. -/
theorem ends_same_iff {ε τ α : Type} {p : τ → Prop} {r : EStateM.Result ε τ α} :
    Ends (fun _ => p) (fun _ => p) r ↔ p (remains r) := by
  cases r <;> exact Iff.rfl

/-- What is left by work on a list is related to its start, if work on each member relates what it
finds to what it leaves. -/
theorem remains_eachOf {ε α τ : Type} {R : τ → τ → Prop} (hrefl : ∀ s, R s s)
    (htrans : ∀ s t u, R s t → R t u → R s u) {work : EStateM ε (α × τ) Unit} (as : List α)
    (hwork : ∀ a ∈ as, ∀ s, R s (remains (work (a, s))).2) (s : τ) :
    R s (remains (eachOf work (as, s))).2 := by
  refine ends_same_iff.1 (ends_eachOf_induct_same work (R := fun _ s _ t => R s t)
    (I := fun as _ => ∀ a ∈ as, ∀ s, R s (remains (work (a, s))).2) (fun s _ => hrefl s)
    (fun a as s h => ?_) hwork)
  obtain ⟨ha, has⟩ := List.forall_mem_cons.1 h
  exact (ends_same_iff (p := fun r => R s r.2).2 (ha s)).mono
    (fun _ _ hfirst => ⟨has, fun _ _ hrest => htrans _ _ _ hfirst hrest⟩) fun _ _ h => h

/-! ### What targets ask for -/

/-- The descriptor of the buffer that a target is lent in a frame. -/
def Target.descriptorIn (renderSize : Size) (t : Target) : Descriptor :=
  .renderTarget (t.size.getD renderSize) t.float

/-- A target with a size is lent a buffer of its own descriptor. -/
theorem Target.descriptorIn_eq {t : Target} {e : Descriptor} (h : t.descriptor? = some e)
    (renderSize : Size) : t.descriptorIn renderSize = e := by
  obtain ⟨z, hz, rfl⟩ := Option.map_eq_some_iff.1 h
  rw [descriptorIn, hz, Option.getD_some]

namespace Document

variable {d : Document} {ts : List Target}

/-- The targets with their sizes, without their buffers. -/
def outlines (d : Document) : List Target := d.passes.targets.map Target.withoutBuffers

theorem outlines_withPersistent
    (h : ts.map Target.withoutBuffers = d.passes.persistent.map Target.withoutBuffers) :
    (d.withPersistent ts).outlines = d.outlines := by
  show (ts ++ d.passes.temporary).map _ = (d.passes.persistent ++ d.passes.temporary).map _
  rw [List.map_append, List.map_append, h]

theorem outlines_withTemporary
    (h : ts.map Target.withoutBuffers = d.passes.temporary.map Target.withoutBuffers) :
    (d.withTemporary ts).outlines = d.outlines := by
  show (d.passes.persistent ++ ts).map _ = (d.passes.persistent ++ d.passes.temporary).map _
  rw [List.map_append, List.map_append, h]

/-- Lending a buffer leaves the outlines as they are. -/
theorem outlines_mapTarget (d : Document) (name : String) (h : Handle) :
    (d.mapTarget name fun t => { t with current := some h }).outlines = d.outlines := by
  show (d.passes.persistent.map _ ++ d.passes.temporary.map _).map _ = _
  rw [← List.map_append, List.map_map]
  refine List.map_congr_left fun t _ => ?_
  rw [Function.comp_apply]
  split <;> rfl

/-- So does exchanging buffers. -/
theorem outlines_settle (d : Document) : d.settle.outlines = d.outlines := by
  refine outlines_withPersistent (d := d) ?_
  rw [List.map_map]
  rfl

end Document

/-- A target that gives its buffers back looks as before. -/
theorem withoutBuffers_releaseTarget (t : Target) (u : Supply σ) :
    Ends (fun _ r => r.1.withoutBuffers = t.withoutBuffers)
      (fun _ r => r.1.withoutBuffers = t.withoutBuffers) (releaseTarget (t, u)) := by
  unfold releaseTarget
  dsimp only
  cases Supply.releaseAll t.buffers u <;> rfl

/-- So do all targets when the temporary ones give back what they were lent. -/
theorem Studio.outlines_onTemporary (s : Studio σ) :
    (remains (Studio.onTemporary releaseTarget s)).document.outlines = s.document.outlines := by
  have hshapes := ends_eachOf_map releaseTarget (fun t u => withoutBuffers_releaseTarget t u)
    s.document.passes.temporary s.supply
  unfold Studio.onTemporary
  rcases hr : eachOf releaseTarget (s.document.passes.temporary, s.supply) with
    ⟨_, ts, supply⟩ | ⟨failure, ts, supply⟩
  all_goals
    rw [hr] at hshapes
    exact Document.outlines_withTemporary hshapes

/-! ### Relations between supplies -/

namespace Supply

/-- A relation that is kept when buffers are given back: that concerns the pool alone, and happens
in most parts of a frame. -/
structure Kept (R : Supply σ → Supply σ → Prop) : Prop where
  refl : ∀ s, R s s
  trans : ∀ s t u, R s t → R t u → R s u
  release : ∀ h s, R s (remains (Supply.release h s))

/-- Giving back leaves the device alone. -/
theorem kept_device : Kept fun s t : Supply σ => t.device = s.device where
  refl _ := rfl
  trans _ _ _ h h' := h'.trans h
  release h s := by
    unfold Supply.release
    cases s.pool.release h <;> rfl

/-- Work that keeps a relation, whether it fails or not. -/
def Keeps {α : Type} (R : Supply σ → Supply σ → Prop) (work : Work σ α) : Prop :=
  ∀ s, R s.supply (remains (work s)).supply

namespace Keeps

variable {R : Supply σ → Supply σ → Prop} {α β : Type}

theorem bind (hR : Kept R) {x : Work σ α} {f : α → Work σ β} (hx : Keeps R x)
    (hf : ∀ a, Keeps R (f a)) : Keeps R (x >>= f) := fun s =>
  remains_bind (R := fun s t : Studio σ => R s.supply t.supply) (fun _ _ _ => hR.trans _ _ _)
    (hx s) fun a t => hf a t

/-- Work that leaves the supply alone. -/
theorem of_eq (hR : Kept R) {work : Work σ α}
    (h : ∀ s, (remains (work s)).supply = s.supply) : Keeps R work := fun s => by
  rw [h s]
  exact hR.refl s.supply

theorem get_bind {f : Studio σ → Work σ β} (hf : ∀ t, Keeps R (f t)) : Keeps R (get >>= f) :=
  fun s => hf s s

/-- Work on the supply alone. -/
theorem onSupply {work : EStateM Failure (Supply σ) α} (hwork : ∀ s, R s (remains (work s))) :
    Keeps R (Studio.onSupply work) := fun s => by
  have hsupply := hwork s.supply
  unfold Studio.onSupply
  rcases hr : work s.supply with ⟨a, supply⟩ | ⟨failure, supply⟩
  all_goals
    rw [hr] at hsupply
    exact hsupply

/-- Work on the members of a list that a studio has. -/
theorem of_eachOf (hR : Kept R) {work : EStateM Failure (α × Supply σ) Unit}
    (hwork : ∀ a s, R s (remains (work (a, s))).2) (members : Studio σ → List α)
    {onAll : Work σ Unit} (h : ∀ s, (remains (onAll s)).supply =
      (remains (eachOf work (members s, s.supply))).2) : Keeps R onAll := fun s => by
  rw [h s]
  exact remains_eachOf hR.refl hR.trans (members s) (fun a _ => hwork a) s.supply

end Keeps

/-- Work that keeps a relation if that is kept by acquiring what targets ask for.  It leaves alone
what they ask for. -/
def KeepsFor {α : Type} (device : Device σ) (renderSize : Size) (R : Supply σ → Supply σ → Prop)
    (work : Work σ α) : Prop :=
  ∀ s, (∀ u ∈ s.document.outlines, ∀ t,
      R t (remains (Supply.acquire device (u.descriptorIn renderSize) t))) →
    (remains (work s)).document.outlines = s.document.outlines ∧
      R s.supply (remains (work s)).supply

namespace KeepsFor

variable {device : Device σ} {renderSize : Size} {R : Supply σ → Supply σ → Prop} {α β : Type}

theorem bind (hR : Kept R) {x : Work σ α} {f : α → Work σ β} (hx : KeepsFor device renderSize R x)
    (hf : ∀ a, KeepsFor device renderSize R (f a)) : KeepsFor device renderSize R (x >>= f) := by
  intro s
  refine remains_bind (R := fun s t : Studio σ => (∀ u ∈ s.document.outlines, ∀ t,
      R t (remains (Supply.acquire device (u.descriptorIn renderSize) t))) →
    t.document.outlines = s.document.outlines ∧ R s.supply t.supply) ?_ (hx s) fun a t => hf a t
  intro s t u h h' hs
  obtain ⟨hsame, hfirst⟩ := h hs
  -- the second part asks for what the first one has asked for
  rw [← hsame] at hs
  obtain ⟨hsame', hthen⟩ := h' hs
  exact ⟨hsame'.trans hsame, hR.trans _ _ _ hfirst hthen⟩

theorem get_bind {f : Studio σ → Work σ β} (hf : ∀ t, KeepsFor device renderSize R (f t)) :
    KeepsFor device renderSize R (get >>= f) := fun s => hf s s

/-- Work that acquires nothing. -/
theorem of_keeps {work : Work σ α} (h : Keeps R work)
    (hsame : ∀ s, (remains (work s)).document.outlines = s.document.outlines) :
    KeepsFor device renderSize R work := fun s _ => ⟨hsame s, h s⟩

/-- Work that leaves the scene and its supply alone. -/
theorem of_eq (hR : Kept R) {work : Work σ α} (h : ∀ s, remains (work s) = s) :
    KeepsFor device renderSize R work :=
  of_keeps (.of_eq hR fun s => by rw [h]) fun s => by rw [h]

/-- A relation that is kept by acquiring anything. -/
theorem keeps {work : Work σ α} (h : KeepsFor device renderSize R work)
    (hacquire : ∀ d s, R s (remains (Supply.acquire device d s))) : Keeps R work :=
  fun s => (h s fun _ _ => hacquire _).2

end KeepsFor

namespace Kept

variable {device : Device σ} {R : Supply σ → Supply σ → Prop}

/-! ### Giving back -/

theorem releaseHeld (hR : Kept R) (h : Handle) (s : Supply σ) :
    R s (remains (Supply.releaseHeld h s)) := by
  unfold Supply.releaseHeld
  split
  · exact hR.release h s
  · exact hR.refl s

theorem releaseAll (hR : Kept R) (hs : List Handle) (s : Supply σ) :
    R s (remains (Supply.releaseAll hs s)) := by
  induction hs generalizing s with
  | nil => exact hR.refl s
  | cons h hs ih => exact remains_bind hR.trans (hR.release h s) fun _ t => ih t

theorem releaseTarget (hR : Kept R) (t : Target) (s : Supply σ) :
    R s (remains (releaseTarget (t, s))).2 := by
  have hrelease := hR.releaseAll t.buffers s
  unfold ShaderEffect.releaseTarget
  dsimp only
  rcases hr : Supply.releaseAll t.buffers s with ⟨_, s'⟩ | ⟨e, s'⟩
  all_goals
    rw [hr] at hrelease
    exact hrelease

theorem releaseAllHeld (hR : Kept R) (hs : List Handle) (s : Supply σ) :
    R s (remains (Supply.releaseAllHeld hs s)) := by
  induction hs generalizing s with
  | nil => exact hR.refl s
  | cons h hs ih => exact remains_bind hR.trans (hR.releaseHeld h s) fun _ t => ih t

theorem onTemporary (hR : Kept R) : Keeps R (Studio.onTemporary ShaderEffect.releaseTarget) := by
  refine .of_eachOf hR hR.releaseTarget (fun s => s.document.passes.temporary) fun s => ?_
  unfold Studio.onTemporary
  cases eachOf ShaderEffect.releaseTarget (s.document.passes.temporary, s.supply) <;> rfl

/-- Work that is followed by giving back. -/
theorem thenReleaseTemporary (hR : Kept R) {renderSize : Size} {α : Type} {work : Work σ α}
    (hwork : KeepsFor device renderSize R work) :
    KeepsFor device renderSize R (Studio.thenReleaseTemporary work) := by
  intro s hs
  obtain ⟨hsame, hfirst⟩ := hwork s hs
  unfold Studio.thenReleaseTemporary
  rcases hw : work s with ⟨a, t⟩ | ⟨e, t⟩
  all_goals
    rw [hw] at hsame hfirst
    replace hsame : t.document.outlines = s.document.outlines := hsame
    have hsame' := t.outlines_onTemporary
    have hthen := hR.onTemporary t
    dsimp only
    rcases hr : Studio.onTemporary ShaderEffect.releaseTarget t with ⟨_, u⟩ | ⟨_, u⟩
    all_goals
      rw [hr] at hsame' hthen
      exact ⟨hsame'.trans hsame, hR.trans _ _ _ hfirst hthen⟩

theorem releaseBuffers (hR : Kept R) : Keeps R Studio.releaseBuffers := by
  unfold Studio.releaseBuffers
  refine .get_bind fun s => .bind hR (.of_eq hR fun _ => rfl) fun _ => ?_
  exact .onSupply (hR.releaseAllHeld (Studio.heldBuffers s.document))

/-! ### Buffers of persistent targets -/

theorem refreshSlot (hR : Kept R) {d : Descriptor}
    (hacquire : ∀ s, R s (remains (Supply.acquire device d s))) (slot : Option Handle)
    (s : Supply σ) : R s (remains (refreshSlot device slot d s)) := by
  cases slot with
  | none => exact hacquire s
  | some k =>
    rw [refreshSlot_some]
    split
    · exact hR.refl s
    · exact remains_bind hR.trans (hR.releaseHeld k s) fun _ t => hacquire t

theorem ensureBuffers (hR : Kept R) {t : Target}
    (hacquire : ∀ d, t.descriptor? = some d → ∀ s, R s (remains (Supply.acquire device d s)))
    (s : Supply σ) : R s (remains (ensureBuffers device (t, s))).2 := by
  unfold ShaderEffect.ensureBuffers
  dsimp only
  cases hd : t.descriptor? with
  | none => exact hR.refl s
  | some d =>
    dsimp only
    have hcurrent := hR.refreshSlot (hacquire d hd) t.current s
    rcases hc : ShaderEffect.refreshSlot device t.current d s with ⟨c, s₁⟩ | ⟨e, s₁⟩
    · rw [hc] at hcurrent
      have hprevious := hR.refreshSlot (hacquire d hd) t.previous s₁
      dsimp only
      rcases hv : ShaderEffect.refreshSlot device t.previous d s₁ with ⟨v, s₂⟩ | ⟨e, s₂⟩
      all_goals
        rw [hv] at hprevious
        exact hR.trans _ _ _ hcurrent hprevious
    · rw [hc] at hcurrent
      exact hcurrent

theorem eachOf_ensureBuffers (hR : Kept R) {ts : List Target}
    (hacquire : ∀ t ∈ ts, ∀ d, t.descriptor? = some d → ∀ s,
      R s (remains (Supply.acquire device d s))) (s : Supply σ) :
    R s (remains (eachOf (ShaderEffect.ensureBuffers device) (ts, s))).2 :=
  remains_eachOf hR.refl hR.trans ts (fun t ht => hR.ensureBuffers (hacquire t ht)) s

/-- **Persistent targets ask for buffers of their sizes.** -/
theorem onPersistentFor (hR : Kept R) (renderSize : Size) :
    KeepsFor device renderSize R (Studio.onPersistent (ShaderEffect.ensureBuffers device)) := by
  intro s hs
  have hacquire : ∀ t ∈ s.document.passes.persistent, ∀ d, t.descriptor? = some d →
      ∀ u, R u (remains (Supply.acquire device d u)) := by
    intro t ht d hd
    rw [← Target.descriptorIn_eq hd renderSize]
    exact hs t.withoutBuffers (List.mem_map_of_mem (List.mem_append_left _ ht))
  have hkeeps := hR.eachOf_ensureBuffers hacquire s.supply
  have hshapes := ends_eachOf_map (ShaderEffect.ensureBuffers device)
    (fun t u => withoutBuffers_ensureBuffers device t u) s.document.passes.persistent s.supply
  unfold Studio.onPersistent
  rcases hr : eachOf (ShaderEffect.ensureBuffers device)
      (s.document.passes.persistent, s.supply) with ⟨_, ts, supply⟩ | ⟨failure, ts, supply⟩
  all_goals
    rw [hr] at hkeeps hshapes
    exact ⟨Document.outlines_withPersistent hshapes, hkeeps⟩

theorem onPersistent (hR : Kept R)
    (hacquire : ∀ d s, R s (remains (Supply.acquire device d s))) :
    Keeps R (Studio.onPersistent (ShaderEffect.ensureBuffers device)) := fun s =>
  (hR.onPersistentFor ⟨0, 0⟩).keeps hacquire s

/-! ### Images and programs -/

theorem ensureProgram (hR : Kept R)
    (hcompile : ∀ source s, R s ⟨s.pool, remains (device.compile source s.device)⟩) :
    Keeps R (Studio.ensureProgram device) := by
  intro s
  unfold Studio.ensureProgram Studio.compile
  split
  · exact hR.refl s.supply
  · cases s.document.generate s.scene.settings with
    | error failure => exact hR.refl s.supply
    | ok source =>
      have hcompile := hcompile source s.supply
      dsimp only
      rcases hr : device.compile source s.supply.device with ⟨program, state⟩ | ⟨reason, state⟩
      all_goals
        rw [hr] at hcompile
        exact hcompile

section

variable (hR : Kept R) (hload : ∀ p s, R s (remains (loadImport device (p, s))).2)

include hR hload

theorem onParameters : Keeps R (Studio.onParameters (loadImport device)) := by
  refine .of_eachOf hR hload (fun s => s.document.parameters) fun s => ?_
  unfold Studio.onParameters
  cases eachOf (loadImport device) (s.document.parameters, s.supply) <;> rfl

/-- Up to the images, nothing is done but loading them. -/
theorem untilLoaded (renderSize : Size) : Keeps R (Studio.untilLoaded device renderSize) := by
  unfold Studio.untilLoaded
  refine .bind hR (.of_eq hR fun s => ?_) fun _ => ?_
  · unfold Studio.checkLoaded
    cases s.document.failure <;> rfl
  refine .bind hR (.of_eq hR fun s => ?_) fun _ => ?_
  · unfold Studio.resize
    cases s.document.resize renderSize <;> rfl
  refine .bind hR (.of_eq hR fun s => ?_) fun _ => hR.onParameters hload
  unfold Studio.checkPasses
  cases s.document.undeclaredPass? 0 s.document.passes.order <;> rfl

variable (hcompile : ∀ source s, R s ⟨s.pool, remains (device.compile source s.device)⟩)

include hcompile

/-- Everything before targets get buffers. -/
theorem untilBuffers (renderSize : Size) : Keeps R (Studio.untilBuffers device renderSize) := by
  rw [Studio.untilBuffers_eq]
  exact .bind hR (hR.untilLoaded hload renderSize) fun _ => hR.ensureProgram hcompile

/-- **Everything before drawing.** -/
theorem prepare (hacquire : ∀ d s, R s (remains (Supply.acquire device d s))) (renderSize : Size) :
    Keeps R (Studio.prepare device renderSize) := by
  rw [Studio.prepare_eq]
  exact .bind hR (hR.untilBuffers hload hcompile renderSize) fun _ => hR.onPersistent hacquire

end

/-! ### Drawing -/

/-- What a pass is lent comes out of the supply. -/
theorem lending (hR : Kept R) (hacquire : ∀ d s, R s (remains (Supply.acquire device d s)))
    {renderSize : Size} {name : String} {s s' : Studio σ} {r : Option Handle × Size}
    (h : Studio.Lending device renderSize name s r s') : R s.supply s'.supply := by
  cases h with
  | output => exact hR.refl _
  | found => exact hR.refl _
  | lent t k supply _ _ _ _ hlent =>
    have hsupply := hacquire (.renderTarget (t.size.getD renderSize) t.float) s.supply
    rw [hlent] at hsupply
    exact hsupply

/-- **A pass asks for the buffer of its target**, if for any. -/
theorem passTarget (hR : Kept R) (renderSize : Size) (index : Nat) (name : String) :
    KeepsFor device renderSize R (Studio.passTarget device renderSize index name) := by
  intro s hs
  have hnothing : s.document.outlines = s.document.outlines ∧ R s.supply s.supply :=
    ⟨rfl, hR.refl s.supply⟩
  unfold Studio.passTarget
  split
  · exact hnothing
  · rw [bind_of_ok (x := get) (s := s) rfl]
    cases ht : s.document.target? name with
    | none => exact hnothing
    | some t =>
      have hsupply : R s.supply (remains (Supply.acquire device (t.descriptorIn renderSize)
          s.supply)) :=
        hs t.withoutBuffers (List.mem_map_of_mem (List.mem_of_find?_eq_some ht)) s.supply
      dsimp only
      unfold Studio.lendBuffer
      by_cases hlend : (!t.persistent && t.current.isNone) = true
      · rw [if_pos hlend]
        simp only [bind, EStateM.bind, Studio.onSupply]
        rcases hr : Supply.acquire device (.renderTarget (t.size.getD renderSize) t.float)
            s.supply with ⟨h, supply⟩ | ⟨failure, supply⟩
        all_goals rw [Target.descriptorIn, hr] at hsupply
        · exact ⟨s.document.outlines_mapTarget t.name h, hsupply⟩
        · exact ⟨rfl, hsupply⟩
      · rw [if_neg hlend]
        exact hnothing

section

variable (hR : Kept R) (hperform : ∀ commands s, R s ⟨s.pool, device.performAll commands s.device⟩)

include hR hperform

theorem drawPass (program : Program) (clock : Clock) (renderSize : Size) (index : Nat)
    (name : String) (written : List String) : KeepsFor device renderSize R
      (Studio.drawPass device program clock renderSize index name written) := by
  unfold Studio.drawPass
  refine .bind hR (hR.passTarget renderSize index name) fun r => ?_
  refine .bind hR (.of_eq hR fun s => ?_) fun buffer => ?_
  · have hends := Studio.ends_passBuffer name r.1 s
    rcases hr : Studio.passBuffer name r.1 s with ⟨b, t⟩ | ⟨e, t⟩
    · rw [hr] at hends
      exact hends.1
    · rw [hr] at hends
      exact hends
  · refine .bind hR (.of_keeps (fun s => hperform _ s.supply) fun _ => rfl) fun _ => ?_
    exact .of_eq hR fun _ => rfl

/-- **Drawing passes**, from any of them on. -/
theorem drawFrom (program : Program) (clock : Clock) (renderSize : Size) (index : Nat)
    (written names : List String) : KeepsFor device renderSize R
      (Studio.drawFrom device program clock renderSize index written names) := by
  induction names generalizing index written with
  | nil => exact .of_eq hR fun _ => rfl
  | cons name rest ih =>
    unfold Studio.drawFrom
    have hpass := hR.drawPass hperform program clock renderSize index name written
    exact .bind hR hpass fun _ => .bind hR (ih _ _) fun _ => .of_eq hR fun _ => rfl

theorem drawPassesFor (clock : Clock) (renderSize : Size) :
    KeepsFor device renderSize R (Studio.drawPasses device clock renderSize) := by
  unfold Studio.drawPasses
  refine .get_bind fun s => ?_
  split
  · exact .of_eq hR fun _ => rfl
  · exact hR.drawFrom hperform _ _ _ _ _ _

/-- **From the moment when targets get their buffers**, a frame asks for the buffers of targets, and
neither loads nor compiles anything. -/
theorem renderFrame_behindFor (now : Moment) {renderSize : Size} {s : Studio σ}
    (hacquire : ∀ begun, Studio.untilBuffers device renderSize s = .ok () begun →
      ∀ u ∈ begun.document.outlines, ∀ t,
        R t (remains (Supply.acquire device (u.descriptorIn renderSize) t))) :
    R (remains (Studio.untilBuffers device renderSize s)).supply
      (remains (Studio.renderFrame device now renderSize s)).supply := by
  have hdraw (clock : Clock) := hR.drawPassesFor hperform clock renderSize
  unfold Studio.renderFrame
  rw [Studio.prepare_eq, bind_assoc]
  rcases hbegun : Studio.untilBuffers device renderSize s with ⟨_, begun⟩ | ⟨failure, begun⟩
  · rw [bind_of_ok hbegun]
    refine (KeepsFor.bind hR (hR.onPersistentFor renderSize) (fun _ => .get_bind fun t => ?_) begun
      (hacquire begun hbegun)).2
    refine .bind hR (hR.thenReleaseTemporary (hdraw _)) fun _ => ?_
    refine .bind hR (.of_keeps (.of_eq hR fun _ => rfl) fun s => ?_) fun _ => .of_eq hR fun _ => rfl
    exact s.document.outlines_settle
  · rw [bind_of_error hbegun]
    exact hR.refl _

end

section

variable (hR : Kept R) (hacquire : ∀ d s, R s (remains (Supply.acquire device d s)))
  (hperform : ∀ commands s, R s ⟨s.pool, device.performAll commands s.device⟩)

include hR hacquire hperform

/-- Passes that were drawn. -/
theorem drawn {program : Program} {clock : Clock} {renderSize : Size} {index : Nat}
    {written names : List String} {s s' : Studio σ} {shots : List Shot}
    (h : Studio.Drawn device program clock renderSize index written names s shots s') :
    R s.supply s'.supply := by
  induction h with
  | nil => exact hR.refl _
  | cons hlending _ _ _ ih =>
    exact hR.trans _ _ _ (hR.lending hacquire hlending) (hR.trans _ _ _ (hperform _ _) ih)

theorem drawPasses (clock : Clock) (renderSize : Size) :
    Keeps R (Studio.drawPasses device clock renderSize) :=
  (hR.drawPassesFor hperform clock renderSize).keeps hacquire

theorem renderFrame_behind (now : Moment) (renderSize : Size) (s : Studio σ) :
    R (remains (Studio.untilBuffers device renderSize s)).supply
      (remains (Studio.renderFrame device now renderSize s)).supply :=
  hR.renderFrame_behindFor hperform now fun _ _ _ _ => hacquire _

/-- **A frame**, however it ends. -/
theorem renderFrame (hload : ∀ p s, R s (remains (loadImport device (p, s))).2)
    (hcompile : ∀ source s, R s ⟨s.pool, remains (device.compile source s.device)⟩) (now : Moment)
    (renderSize : Size) : Keeps R (Studio.renderFrame device now renderSize) := fun s =>
  hR.trans _ _ _ (hR.untilBuffers hload hcompile renderSize s)
    (hR.renderFrame_behind hacquire hperform now renderSize s)

end

end Kept

end Supply

/-! ### Relations between pools -/

namespace Pool

/-- **A relation between pools that is kept** when buffers are handed out, taken in and given back.
It may say nothing of a pool that is not consistent. -/
structure Stable (R : Pool → Pool → Prop) : Prop where
  of_consistent : ∀ {p q}, (p.Consistent → R p q) → R p q
  refl : ∀ p, R p p
  trans : ∀ {p q r}, R p q → R q r → R p r
  reuse : ∀ {p q d h}, p.reuse d = (some h, q) → R p q
  adopt : ∀ p d b, R p (p.adopt d b).2
  release : ∀ {p q h}, p.release h = .ok q → R p q

namespace Stable

variable {R : Pool → Pool → Prop}

theorem kept (hR : Stable R) : Kept fun s t : Supply σ => R s.pool t.pool where
  refl s := hR.refl s.pool
  trans _ _ _ h h' := hR.trans h h'
  release h s := by
    unfold Supply.release
    cases hr : s.pool.release h with
    | error failure => exact hR.refl s.pool
    | ok p => exact hR.release hr

theorem acquire (hR : Stable R) (device : Device σ) (d : Descriptor) (s : Supply σ) :
    R s.pool (remains (Supply.acquire device d s)).pool := by
  refine hR.of_consistent fun hs => ?_
  rcases acquire_cases hs device d with
    ⟨h, p, hr, heq⟩ | ⟨-, ⟨b, state, -, heq⟩ | ⟨_, _, -, heq⟩⟩
  all_goals rw [heq]
  · exact hR.reuse hr
  · exact hR.adopt s.pool d b
  · exact hR.refl s.pool

theorem loadImport (hR : Stable R) (device : Device σ) (p : Parameter) (s : Supply σ) :
    R s.pool (remains (loadImport device (p, s))).2.pool := by
  unfold ShaderEffect.loadImport
  dsimp only
  split
  · rename_i path _ _
    rcases device.loadImage path s.device with ⟨⟨b, d⟩, state⟩ | ⟨fault, state⟩
    · dsimp only
      cases p.bind (some ⟨(s.pool.adopt d b).1, d, false⟩) <;> exact hR.adopt s.pool d b
    · exact hR.refl s.pool
  · exact hR.refl s.pool

/-- What a pass has found is related to what is left when the passes behind it are drawn. -/
theorem shots (hR : Stable R) {device : Device σ} {program : Program} {clock : Clock}
    {renderSize : Size} {index : Nat} {written names : List String} {s s' : Studio σ}
    {shots : List Shot}
    (h : Studio.Drawn device program clock renderSize index written names s shots s') :
    ∀ shot ∈ shots, R shot.pool s'.supply.pool := by
  induction h with
  | nil => exact fun _ h => absurd h List.not_mem_nil
  | cons _ _ hshot hdrawn ih =>
    have hrest := hR.kept.drawn (hR.acquire device) (fun _ s => hR.refl s.pool) hdrawn
    refine List.forall_mem_cons.2 ⟨?_, ih⟩
    rw [hshot]
    exact hrest

end Stable

end Pool

end ShaderEffect
