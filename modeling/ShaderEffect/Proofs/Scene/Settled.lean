/-
**Scenes that have settled.**

A complete frame leaves everything as the next one needs it, if nothing changes in between: targets
have the sizes of the frame, images are loaded, the program is the right one, persistent targets
hold buffers that the pool knows under their descriptors, and what temporary targets were lent is
idle again.  A frame of a scene that has settled so prepares by changing nothing at all.  Then each
pass that is lent a buffer finds one in stock: what all temporary targets together still need is
never more than that, since a target that gets its buffer takes one descriptor away from both.  So
nothing but commands reaches the device.

Main definitions:

* `ShaderEffect.Studio.Stages` — a complete frame, from one stage to the next;
* `ShaderEffect.Document.needs` — the descriptors of the buffers that temporary targets still need;
* `ShaderEffect.Studio.Settled` — **everything is as the next frame needs it**.

Main results:

* `ShaderEffect.Studio.Settled.prepare_eq` — a settled scene prepares by changing nothing;
* `ShaderEffect.Studio.Drawn.stocked` — passes are lent what is in stock;
* `ShaderEffect.Studio.Settled.adds_commands` — **a frame of a settled scene only tells commands**;
* `ShaderEffect.Studio.Stages.settled` — **a complete frame leaves the scene settled**.
-/

import ShaderEffect.Proofs.Pool.Stock
import ShaderEffect.Proofs.Scene.Compiling
import ShaderEffect.Proofs.Scene.Equipped
import ShaderEffect.Proofs.Scene.Imports

set_option autoImplicit false

namespace ShaderEffect

open Pool Supply Observed

variable {σ : Type}

/-! ### What was given back lately -/

namespace Supply

/-- No round passes in a frame, and what was given back lately stays so. -/
theorem stable_retains (since : Nat) : Pool.Stable (Retains since) where
  of_consistent h := fun hp => h hp hp
  refl := .refl since
  trans h h' := h.trans h'
  reuse := retains_reuse
  adopt := retains_adopt
  release := retains_release

end Supply

/-! ### Stages -/

namespace Studio

/-- **A complete frame, from one stage to the next**: everything before targets get buffers, their
buffers, the passes, what temporary targets give back, and what the frame changes in the end. -/
structure Stages (device : Device σ) (now : Moment) (renderSize : Size)
    (s begun ready drawn rested s' : Studio σ) (c : CompiledProgram) (shots : List Shot) :
    Prop where
  begins : untilBuffers device renderSize s = .ok () begun
  readies : onPersistent (ensureBuffers device) begun = .ok () ready
  compiled : ready.scene.compiled = some c
  draws : Drawn device c.program (ready.scene.clock now) renderSize 0 []
    ready.document.passes.order ready shots drawn
  rests : onTemporary releaseTarget drawn = .ok () rested
  givesBack : GivesBack ready rested
  settles : s' = { rested with
    scene := rested.scene.advance now
    document := rested.document.settle }

section

variable {device : Device σ} {now : Moment} {renderSize : Size}
  {s begun ready drawn rested s' : Studio σ} {c : CompiledProgram} {shots : List Shot}

/-- A frame that is completed goes through all stages. -/
theorem exists_stages (hs : s.supply.pool.Consistent) (hd : s.document.WellFormed)
    (hrests : s.document.Rests) {report : FrameReport}
    (h : renderFrame device now renderSize s = .ok report s') :
    ∃ begun ready drawn rested c shots,
      Stages device now renderSize s begun ready drawn rested s' c shots ∧
        report.passes = shots.map Shot.report := by
  rcases hprepare : prepare device renderSize s with ⟨_, ready⟩ | ⟨failure, ready⟩
  · obtain ⟨begun, hbegun, hready⟩ := exists_begun hprepare
    obtain ⟨rested, hback, hgives, hframe⟩ := exists_rested now hs hd hrests hprepare
    have hdraws := ends_drawPasses device (ready.scene.clock now) renderSize ready
    rcases hr : drawPasses device (ready.scene.clock now) renderSize ready with
      ⟨reports, drawn⟩ | ⟨failure, drawn⟩
    · rw [hr] at hback hframe hdraws
      obtain ⟨c, shots, hc, hreports, hdrawn⟩ := hdraws
      rw [hframe] at h
      cases h
      exact ⟨begun, ready, drawn, rested, c, shots,
        ⟨hbegun, hready, hc, hdrawn, hback, hgives, rfl⟩, hreports⟩
    · rw [hframe, hr] at h
      cases h
  · rw [renderFrame_of_prepare_error now hprepare] at h
    cases h

namespace Stages

/-- The passes of the frame. -/
theorem films (h : Stages device now renderSize s begun ready drawn rested s' c shots) :
    Films device now renderSize s begun ready c shots :=
  ⟨h.begins, h.readies, h.compiled, _, drawn, List.prefix_rfl, h.draws⟩

/-- Behind the last pass the device is left alone. -/
theorem device_eq (h : Stages device now renderSize s begun ready drawn rested s' c shots) :
    s'.supply.device = drawn.supply.device := by
  have hback := kept_device.onTemporary drawn
  rw [h.rests] at hback
  rw [h.settles]
  exact hback

/-- The frame leaves all as it should be. -/
theorem frames (h : Stages device now renderSize s begun ready drawn rested s' c shots)
    (hs : s.supply.pool.Consistent) (hd : s.document.WellFormed) (hrests : s.document.Rests) :
    Frames none s s' := by
  have hdevice := h.device_eq
  rw [h.settles] at hdevice ⊢
  have hdraws : DrawsAll device (ready.scene.clock now) renderSize ready (shots.map Shot.report)
      drawn := ⟨c, shots, h.compiled, rfl, h.draws⟩
  exact (Completes.intro h.begins h.readies hdraws h.givesBack hdevice).frames hs hd hrests

end Stages

end

end Studio

/-! ### What temporary targets need -/

namespace Document

/-- **The descriptors of the buffers that temporary targets still need** in a frame: all of them are
drawn into, and those that have no buffer are lent one. -/
def needs (d : Document) (renderSize : Size) : Multiset Descriptor :=
  ((d.passes.temporary.filter fun t => t.current = none).map (Target.descriptorIn renderSize) :
    List Descriptor)

/-- A target that gets its buffer needs none any more. -/
theorem needs_mapTarget {d : Document} (hd : d.WellFormed) {t : Target}
    (ht : t ∈ d.passes.temporary) (hc : t.current = none) (h : Handle) (renderSize : Size) :
    d.needs renderSize = t.descriptorIn renderSize ::ₘ
      (d.mapTarget t.name fun t => { t with current := some h }).needs renderSize := by
  obtain ⟨before, after, hsplit⟩ := List.append_of_mem ht
  rw [mapTarget_of_temporary hd hsplit]
  simp [needs, withTemporary, hsplit, hc]

end Document

namespace Studio

section

variable {renderSize : Size} {name : String}

/-- **A pass is lent what is in stock**, and the device is not asked.  What the others still need is
in stock then. -/
theorem Lending.stocked {device : Device σ} {s s' : Studio σ} {r : Option Handle × Size}
    (h : Lending device renderSize name s r s') (hs : s.supply.pool.Consistent)
    (hd : s.document.WellFormed) (hstock : s.document.needs renderSize ≤ s.supply.pool.stock) :
    s'.document.needs renderSize ≤ s'.supply.pool.stock ∧ s'.supply.device = s.supply.device := by
  cases h with
  | output => exact ⟨hstock, rfl⟩
  | found => exact ⟨hstock, rfl⟩
  | lent t k supply _ ht hp hc hacquire =>
    have hmem : t ∈ s.document.passes.temporary := by
      rcases (Document.target?_eq_some hd ht).2 with ⟨hp', -⟩ | ⟨-, hmem⟩
      · rw [hp] at hp'
        cases hp'
      · exact hmem
    have hneeds := Document.needs_mapTarget hd hmem hc k renderSize
    rw [hneeds] at hstock
    obtain ⟨j, q, hr⟩ := exists_reuse hs (Multiset.mem_of_le hstock (Multiset.mem_cons_self _ _))
    have hsupply : Supply.acquire device (t.descriptorIn renderSize) s.supply =
        .ok j { s.supply with pool := q } := by
      rw [Supply.acquire, hr]
    cases hacquire.symm.trans hsupply
    -- the descriptor that the target has needed leaves both sides
    rw [stock_reuse hr, Multiset.cons_le_cons_iff] at hstock
    exact ⟨hstock, rfl⟩

/-- **Passes are lent what is in stock**: the device is told their commands, and nothing else. -/
theorem Drawn.stocked {device : Device σ} {program : Program} {clock : Clock} {index : Nat}
    {written names : List String} {s s' : Studio (Observed σ)} {shots : List Shot}
    (h : Drawn device.observed program clock renderSize index written names s shots s')
    (hs : s.supply.pool.Consistent) (hd : s.document.WellFormed)
    (hstock : s.document.needs renderSize ≤ s.supply.pool.stock) :
    Observed.Adds (fun call => ∃ command, call = .command command) s.supply.device
      s'.supply.device := by
  induction h with
  | nil => exact .refl _
  | @cons index written rest name s s₁ s₂ handle buffer size shot shots hlending _ _ _ ih =>
    have hlends := hlending.onlyLends hs hd
    obtain ⟨hstock₁, hdevice⟩ := hlending.stocked hs hd hstock
    have hcommands := adds_performAll (P := fun call => ∃ command, call = .command command) device
      (fun command => ⟨command, rfl⟩) (shot.commands program clock) s₁.supply.device
    rw [← hdevice]
    exact hcommands.trans (ih hlends.trades.consistent (hd.of_blank_eq hlends.blank) hstock₁)

end

/-! ### Settled scenes -/

/-- **Everything is as the next frame of a size needs it.** -/
structure Settled (renderSize : Size) (s : Studio σ) : Prop where
  /-- Targets have the sizes of the frame. -/
  sized : s.document.resize renderSize = .ok s.document
  /-- Images are loaded. -/
  loaded : ∀ p ∈ s.document.parameters, p.isImport = true → p.current.binding? ≠ none
  /-- The program is the right one. -/
  programmed : s.hasProgram = true
  /-- Persistent targets hold two buffers that are known under their descriptors. -/
  filled : ∀ t ∈ s.document.passes.persistent, ∃ c v, t.current = some c ∧ t.previous = some v ∧
    s.supply.pool.descriptor? c = t.descriptor? ∧ s.supply.pool.descriptor? v = t.descriptor?
  /-- What temporary targets need is in stock. -/
  stocked : s.document.needs renderSize ≤ s.supply.pool.stock

end Studio

/-- Work that changes no member of a list changes nothing. -/
theorem eachOf_eq_self {ε α τ : Type} {work : EStateM ε (α × τ) Unit} {as : List α} {s : τ}
    (h : ∀ a ∈ as, work (a, s) = .ok () (a, s)) : eachOf work (as, s) = .ok () (as, s) := by
  induction as with
  | nil => rw [eachOf]
  | cons a as ih =>
    obtain ⟨ha, has⟩ := List.forall_mem_cons.1 h
    rw [eachOf, ha]
    dsimp only
    rw [ih has]

/-- Members of some lists, one of each, stand in order in the lists put together. -/
theorem map_sublist_flatMap {α β : Type} {f : α → β} {g : α → List β} {as : List α}
    (h : ∀ a ∈ as, f a ∈ g a) : (as.map f).Sublist (as.flatMap g) := by
  induction as with
  | nil => exact List.Sublist.slnil
  | cons a as ih =>
    obtain ⟨ha, has⟩ := List.forall_mem_cons.1 h
    rw [List.map_cons, List.flatMap_cons]
    exact (List.singleton_sublist.2 ha).append (ih has)

/-- A persistent target keeps buffers that are known under its descriptor. -/
theorem ensureBuffers_eq_self (device : Device σ) {t : Target} {s : Supply σ} {c v : Handle}
    (hc : t.current = some c) (hv : t.previous = some v)
    (hcurrent : s.pool.descriptor? c = t.descriptor?)
    (hprevious : s.pool.descriptor? v = t.descriptor?) :
    ensureBuffers device (t, s) = .ok () (t, s) := by
  unfold ensureBuffers
  dsimp only
  cases hd : t.descriptor? with
  | none => rfl
  | some d =>
    dsimp only
    have hkeep {k : Handle} (hk : s.pool.descriptor? k = t.descriptor?) :
        refreshSlot device (some k) d s = .ok k s := by
      rw [refreshSlot_some, if_pos (hk.trans hd)]
    rw [hc, hkeep hcurrent]
    dsimp only
    rw [hv, hkeep hprevious]
    dsimp only
    rw [← hc, ← hv]

namespace Studio.Settled

variable {device : Device σ} {renderSize : Size} {s ready : Studio σ}

/-- **A settled scene prepares by changing nothing.** -/
theorem prepare_eq (h : s.Settled renderSize) (hd : s.document.WellFormed)
    (hprepare : prepare device renderSize s = .ok () ready) : ready = s := by
  have hparameters : onParameters (loadImport device) s = .ok () s := by
    have heach : eachOf (loadImport device) (s.document.parameters, s.supply) =
        .ok () (s.document.parameters, s.supply) := by
      refine eachOf_eq_self fun p hp => ?_
      rcases loadImport_cases device (hd.parameters.imports p hp) s.supply with
        ⟨-, heq⟩ | ⟨path, hpath, hnone, -⟩
      · exact heq
      · exact absurd hnone (h.loaded p hp (by simp [Parameter.isImport, hpath]))
    rw [onParameters, heach]
    rfl
  have hpersistent : onPersistent (ensureBuffers device) s = .ok () s := by
    have heach : eachOf (ensureBuffers device) (s.document.passes.persistent, s.supply) =
        .ok () (s.document.passes.persistent, s.supply) := by
      refine eachOf_eq_self fun t ht => ?_
      obtain ⟨c, v, hc, hv, hcurrent, hprevious⟩ := h.filled t ht
      exact ensureBuffers_eq_self device hc hv hcurrent hprevious
    rw [onPersistent, heach]
    rfl
  have hresize : Studio.resize renderSize s = .ok () s := by
    rw [Studio.resize, h.sized]
  have hprogram : ensureProgram device s = .ok () s := if_pos h.programmed
  -- checks change nothing if they succeed
  obtain ⟨_, s₁, hloaded, hrest⟩ := bind_eq_ok hprepare
  have hfirst := ends_checkLoaded s
  rw [hloaded] at hfirst
  obtain rfl : s₁ = s := hfirst
  rw [bind_of_ok hresize] at hrest
  obtain ⟨_, s₂, hpasses, hthen⟩ := bind_eq_ok hrest
  have hsecond := ends_checkPasses s₁
  rw [hpasses] at hsecond
  obtain rfl : s₂ = s₁ := hsecond
  rw [bind_of_ok hparameters, bind_of_ok hprogram, hpersistent] at hthen
  cases hthen
  rfl

/-- **A frame of a settled scene only tells the device commands.** -/
theorem adds_commands {device : Device σ} {now : Moment} {renderSize : Size}
    {s begun ready drawn rested s' : Studio (Observed σ)} {c : CompiledProgram} {shots : List Shot}
    (h : s.Settled renderSize) (hs : s.Sound)
    (hstages : Stages device.observed now renderSize s begun ready drawn rested s' c shots) :
    Observed.Adds (fun call => ∃ command, call = .command command) s.supply.device
      s'.supply.device := by
  obtain rfl : ready = s := h.prepare_eq hs.wellFormed hstages.films.prepare_eq
  have hdrawn := hstages.draws.stocked hs.consistent hs.wellFormed h.stocked
  rw [hstages.device_eq]
  exact hdrawn

end Studio.Settled

/-! ### Sizes and parameters -/

namespace Document

/-- Targets that have their sizes keep them. -/
theorem resizeAll_eq_self {env : Environment} {ts : List Target}
    (h : ∀ t ∈ ts, ∃ z, t.resolve env = .ok z ∧ t.size = some z) : resizeAll env ts = .ok ts := by
  induction ts with
  | nil => rfl
  | cons t ts ih =>
    obtain ⟨⟨z, hz, hsize⟩, hts⟩ := List.forall_mem_cons.1 h
    have hsame : t.withSize z = t := by rw [Target.withSize, ← hsize]
    rw [resizeAll, Target.evaluate, hz]
    dsimp only
    rw [ih hts, hsame]
    rfl

/-- **A document whose targets look as they were resized** keeps its sizes, if its inputs have the
same values. -/
theorem resize_eq_self {d e d' : Document} {renderSize : Size} (h : d.resize renderSize = .ok e)
    (houtlines : d'.outlines = e.outlines) (hinputs : d'.inputs = d.inputs) :
    d'.resize renderSize = .ok d' := by
  have henv : d'.environment renderSize = d.environment renderSize := by
    rw [environment, hinputs, environment]
  obtain ⟨persistent, temporary, hpersistent, htemporary, rfl⟩ := resize_eq_ok_iff.1 h
  have hsized : ∀ t ∈ d'.passes.targets, ∃ z,
      t.resolve (d'.environment renderSize) = .ok z ∧ t.size = some z := by
    intro t ht
    have hmem : t.withoutBuffers ∈ d'.outlines := List.mem_map_of_mem ht
    rw [houtlines] at hmem
    obtain ⟨u, hu, hut⟩ := List.mem_map.1 hmem
    obtain ⟨v, z, hz, rfl⟩ : ∃ (v : Target) (z : Size),
        v.resolve (d.environment renderSize) = .ok z ∧ u = v.withSize z := by
      rcases List.mem_append.1 hu with hu | hu
      · obtain ⟨v, -, z, hz⟩ := exists_of_mem_forall₂ (resizeAll_spec hpersistent) hu
        exact ⟨v, z, hz⟩
      · obtain ⟨v, -, z, hz⟩ := exists_of_mem_forall₂ (resizeAll_spec htemporary) hu
        exact ⟨v, z, hz⟩
    have hresolve (w : Target) (env : Environment) : w.withoutBuffers.resolve env = w.resolve env :=
      rfl
    refine ⟨z, ?_, ?_⟩
    · rw [henv, ← hresolve t, ← hut]
      exact hz
    · rw [← t.size_withoutBuffers, ← hut]
      rfl
  refine resize_eq_ok_iff.2 ⟨d'.passes.persistent, d'.passes.temporary, ?_, ?_, rfl⟩
  · exact resizeAll_eq_self fun t ht => hsized t (List.mem_append_left _ ht)
  · exact resizeAll_eq_self fun t ht => hsized t (List.mem_append_right _ ht)

/-- No event is pending. -/
def Calm (d : Document) : Prop := ∀ p ∈ d.parameters, p.current ≠ .event true

end Document

/-- No image is an event. -/
theorem calm_loadImport (device : Device σ) {p : Parameter} (s : Supply σ)
    (hp : p.current ≠ .event true) :
    Ends (fun _ r => r.1.current ≠ .event true) (fun _ r => r.1.current ≠ .event true)
      (loadImport device (p, s)) := by
  unfold loadImport
  dsimp only
  split
  · rcases device.loadImage _ s.device with ⟨⟨b, d⟩, state⟩ | ⟨fault, state⟩
    · dsimp only
      unfold Parameter.bind
      cases p.kind <;> simp [Ends, Value.ofBinding?, hp]
    · exact hp
  · exact hp

/-- Compiling leaves the settings of the scene alone. -/
theorem Studio.settings_ensureProgram (device : Device σ) (s : Studio σ) :
    (remains (ensureProgram device s)).scene.settings = s.scene.settings := by
  unfold ensureProgram compile
  split
  · rfl
  · cases s.document.generate s.scene.settings with
    | error failure => rfl
    | ok source =>
      dsimp only
      cases device.compile source s.supply.device <;> rfl

/-! ### Complete frames settle -/

namespace Studio

/-- Every pass that was drawn has its buffer. -/
theorem Drawn.current_ne_none {device : Device σ} {program : Program} {clock : Clock}
    {renderSize : Size} {index : Nat} {written names : List String} {s s' : Studio σ}
    {shots : List Shot}
    (h : Drawn device program clock renderSize index written names s shots s') (hs : s.Equipped) :
    ∀ name ∈ names, name ≠ "" → s'.document.currentOf? name ≠ none := by
  induction h with
  | nil => exact fun _ hname => absurd hname List.not_mem_nil
  | @cons index written rest name s s₁ s₂ handle buffer size shot shots hlending _ _ hdrawn ih =>
    obtain ⟨hs₁, -⟩ := hlending.equipped hs
    refine List.forall_mem_cons.2 ⟨fun hname => ?_, ih ⟨hs₁.consistent, hs₁.wellFormed, hs₁.sized,
      hs₁.described, hs₁.filled⟩⟩
    obtain ⟨t, k, ht, hk, -⟩ := hlending.exists_handle hs hname
    have hcurrent : s₁.document.currentOf? name = some k := by
      rw [Document.currentOf?, ht]
      exact hk
    -- the passes behind it leave the buffer where it is
    rw [(hdrawn.advances hs₁.consistent hs₁.wellFormed).1.current name k hcurrent]
    exact Option.some_ne_none k

namespace Stages

section

variable {device : Device σ} {now : Moment} {renderSize : Size}
  {s begun ready drawn rested s' : Studio σ} {c : CompiledProgram} {shots : List Shot}

/-- What is true when the passes are drawn. -/
theorem equipped (h : Stages device now renderSize s begun ready drawn rested s' c shots)
    (hs : s.Sound) :
    drawn.Equipped ∧ OnlyLends ready drawn ∧ ready.Sound ∧
      ∃ e, s.document.resize renderSize = .ok e ∧ drawn.document.outlines = e.outlines := by
  obtain ⟨hready, e, hresize, houtlines⟩ :=
    equipped_of_ready hs.consistent hs.wellFormed hs.rests h.begins h.readies
  obtain ⟨hdrawn, houtlines'⟩ := h.draws.equipped hready
  exact ⟨hdrawn, h.draws.onlyLends hready.consistent hready.wellFormed,
    hs.of_ready h.begins h.readies, e, hresize, houtlines'.trans houtlines⟩

/-- **What temporary targets give back** is what they were lent. -/
theorem released (h : Stages device now renderSize s begun ready drawn rested s' c shots)
    (hs : s.Sound) :
    Trades drawn.supply.pool drawn.document.lent rested.supply.pool 0 ∧
      drawn.document.lent ≤ drawn.supply.pool.used ∧
      rested.document = drawn.document.withTemporary
        (drawn.document.passes.temporary.map Target.withoutBuffers) := by
  obtain ⟨hdrawn, hlends, hready, -⟩ := h.equipped hs
  have hle : drawn.document.lent ≤ drawn.supply.pool.used := by
    refine hlends.trades.used_le ?_
    rw [hready.rests.lent_eq]
    exact Multiset.zero_le _
  have hrelease := ends_eachOf_releaseTarget hdrawn.consistent hle
  have hrests := h.rests
  unfold onTemporary at hrests
  rcases hr : eachOf releaseTarget (drawn.document.passes.temporary, drawn.supply) with
    ⟨_, ts, supply⟩ | ⟨failure, ts, supply⟩
  · rw [hr] at hrelease hrests
    cases hrests
    exact ⟨hrelease.1, hle, by rw [show ts = _ from hrelease.2.1]⟩
  · rw [hr] at hrests
    cases hrests

/-- The targets look as they were resized. -/
theorem exists_outlines (h : Stages device now renderSize s begun ready drawn rested s' c shots)
    (hs : s.supply.pool.Consistent) (hd : s.document.WellFormed) (hrests : s.document.Rests) :
    ∃ e, s.document.resize renderSize = .ok e ∧ s'.document.outlines = e.outlines := by
  obtain ⟨hready, e, hresize, houtlines⟩ := equipped_of_ready hs hd hrests h.begins h.readies
  obtain ⟨-, houtlines'⟩ := h.draws.equipped hready
  refine ⟨e, hresize, Eq.trans ?_ (houtlines'.trans houtlines)⟩
  have hback := drawn.outlines_onTemporary
  rw [h.rests] at hback
  rw [h.settles]
  exact rested.document.outlines_settle.trans hback

/-- **What a frame without pending events leaves of the parameters and of the scene**: images are
loaded, and the program is the one that was there when targets got their buffers. -/
theorem exists_loading (h : Stages device now renderSize s begun ready drawn rested s' c shots)
    (hs : s.Sound) (hcalm : s.document.Calm) :
    ∃ t, untilLoaded device renderSize s = .ok () t ∧ Loading device s t ∧
      s'.document.parameters = t.document.parameters ∧ t.document.Calm ∧
      s'.scene.compiled = begun.scene.compiled ∧ s'.scene.settings = s.scene.settings := by
  obtain ⟨t, ht, hloading, hprogram, hparameters, hscene⟩ :=
    exists_loading_of_ready hs.consistent hs.wellFormed h.begins h.readies
  have htcalm : t.document.Calm :=
    hloading.forall_of_ends (fun _ u hp => calm_loadImport device u hp) hcalm
  have hsettings := settings_ensureProgram device t
  rw [hprogram, hloading.scene] at hsettings
  have hrested : rested.scene = begun.scene := h.givesBack.scene.trans hscene
  refine ⟨t, ht, hloading, ?_, htcalm, ?_, ?_⟩
  · rw [h.settles]
    show rested.document.parameters.map Parameter.settle = t.document.parameters
    rw [h.givesBack.parameters, hparameters]
    refine (List.map_congr_left fun p hp => ?_).trans (List.map_id _)
    exact if_neg (htcalm p hp)
  · rw [h.settles]
    show rested.scene.compiled = begun.scene.compiled
    rw [hrested]
  · rw [h.settles]
    show rested.scene.settings = s.scene.settings
    rw [hrested]
    exact hsettings

/-- The persistent targets hold their two buffers the other way round. -/
theorem filled (h : Stages device now renderSize s begun ready drawn rested s' c shots)
    (hs : s.Sound) :
    ∀ t ∈ s'.document.passes.persistent, ∃ a b, t.current = some a ∧ t.previous = some b ∧
      s'.supply.pool.descriptor? a = t.descriptor? ∧
      s'.supply.pool.descriptor? b = t.descriptor? := by
  obtain ⟨-, -, hready, -⟩ := h.equipped hs
  have hfilled := filled_of_ready hs.consistent hs.wellFormed h.begins h.readies
  have hdescribed := described_of_ready hs.consistent hs.wellFormed h.begins h.readies
  have hback := kept_grows.onTemporary drawn
  rw [h.rests] at hback
  have hgrows : ready.supply.pool.Grows rested.supply.pool := h.draws.grows.1.trans hback
  obtain ⟨hequipped, -⟩ :=
    equipped_of_ready hs.consistent hs.wellFormed hs.rests h.begins h.readies
  intro t ht
  rw [h.settles] at ht ⊢
  change t ∈ rested.document.passes.persistent.map Target.swap at ht
  rw [h.givesBack.persistent] at ht
  obtain ⟨u, hu, rfl⟩ := List.mem_map.1 ht
  obtain ⟨hcurrent, hprevious⟩ := hfilled u hu
  obtain ⟨a, ha⟩ := Option.ne_none_iff_exists'.1 hcurrent
  obtain ⟨b, hb⟩ := Option.ne_none_iff_exists'.1 hprevious
  obtain ⟨z, -, hz⟩ := hequipped.exists_size (List.mem_append_left _ hu)
  have hknown {k : Handle} (hk : k ∈ u.buffers) :
      rested.supply.pool.descriptor? k = u.swap.descriptor? := by
    show _ = u.descriptor?
    have hready := hdescribed u hu k hk
    rw [hz] at hready ⊢
    exact hgrows.descriptor? hequipped.consistent hready
  exact ⟨b, a, hb, ha, hknown (by simp [Target.buffers, hb]), hknown (by simp [Target.buffers, ha])⟩

/-- A temporary target has the buffer that it was lent, which is known under the descriptor that it
was lent for. -/
theorem exists_lent (h : Stages device now renderSize s begun ready drawn rested s' c shots)
    (hs : s.Sound) {t : Target} (ht : t ∈ drawn.document.passes.temporary) :
    ∃ k, t.current = some k ∧
      drawn.supply.pool.descriptor? k = some (t.descriptorIn renderSize) := by
  obtain ⟨hdrawn, hlends, hready, -⟩ := h.equipped hs
  have hequipped :=
    (equipped_of_ready hs.consistent hs.wellFormed hs.rests h.begins h.readies).1
  have hmem : t ∈ drawn.document.passes.targets := List.mem_append_right _ ht
  -- every target is drawn into, so the passes have found a buffer for it
  obtain ⟨hname, horder⟩ := hdrawn.wellFormed.passes.drawn t hmem
  rw [Document.order_of_blank_eq hlends.blank] at horder
  have hcurrent := h.draws.current_ne_none hequipped t.name horder hname
  rw [Document.currentOf?, hdrawn.wellFormed.target?_eq hmem] at hcurrent
  obtain ⟨k, hk⟩ := Option.ne_none_iff_exists'.1 hcurrent
  obtain ⟨z, hz, hdescriptor⟩ := hdrawn.exists_size hmem
  refine ⟨k, hk, ?_⟩
  rw [hdrawn.described t hmem k hk, hdescriptor, Target.descriptorIn, hz]
  rfl

/-- What had been handed out when the passes were drawn, or was given back in this frame, was given
back lately, if at all. -/
theorem recent (h : Stages device now renderSize s begun ready drawn rested s' c shots)
    (hs : s.Sound) {k : Handle} (hk : drawn.supply.pool.Recent drawn.supply.pool.round k) :
    s'.supply.pool.Recent s'.supply.pool.round k := by
  have hretains :=
    (stable_retains drawn.supply.pool.round).kept.onTemporary drawn (h.equipped hs).1.consistent
  rw [h.rests] at hretains
  obtain ⟨-, ⟨hround, -⟩, hrecent⟩ := hretains
  rw [h.settles]
  show rested.supply.pool.Recent rested.supply.pool.round k
  rw [show rested.supply.pool.round = _ from hround]
  exact hrecent le_rfl k hk

/-- A buffer that a temporary target was lent is idle again. -/
theorem exists_idle (h : Stages device now renderSize s begun ready drawn rested s' c shots)
    (hs : s.Sound) {t : Target} (ht : t ∈ drawn.document.passes.temporary) :
    ∃ k e, t.current = some k ∧ s'.supply.pool.find? k = some e ∧
      e.descriptor = t.descriptorIn renderSize ∧ e.inUse = false ∧
      s'.supply.pool.round ≤ e.releasedAt := by
  obtain ⟨htrades, hle, -⟩ := h.released hs
  have hdrawn := (h.equipped hs).1.consistent
  have hgrows := kept_grows.onTemporary drawn
  rw [h.rests] at hgrows
  have hpool : s'.supply.pool = rested.supply.pool := by rw [h.settles]
  obtain ⟨k, hk, hdescriptor⟩ := h.exists_lent hs ht
  have hlent : k ∈ drawn.document.lent :=
    mem_allHeld.2 ⟨t, ht, by simp [Target.buffers, hk]⟩
  have hused := (mem_used hdrawn).1 (Multiset.mem_of_le hle hlent)
  obtain ⟨e, he, hrecent⟩ := h.recent hs (.of_isInUse hused)
  have hknown : s'.supply.pool.descriptor? k = some (t.descriptorIn renderSize) := by
    rw [hpool]
    exact hgrows.descriptor? hdrawn hdescriptor
  rw [Pool.descriptor?, he] at hknown
  -- it was handed out once, and that has been given back
  have hfree : ¬ e.inUse = true := by
    intro hu
    have hmem : k ∈ rested.supply.pool.used :=
      (mem_used htrades.consistent).2 (isInUse_iff.2 ⟨e, hpool ▸ he, hu⟩)
    obtain ⟨others, hothers⟩ := Multiset.le_iff_exists_add.1 hle
    rw [htrades.used others hothers, zero_add] at hmem
    have hboth := nodup_used hdrawn
    rw [hothers, Multiset.nodup_add] at hboth
    exact Multiset.disjoint_left.1 hboth.2.2 hlent hmem
  exact ⟨k, e, hk, he, Option.some.inj hknown, Bool.eq_false_iff.2 hfree,
    hrecent.resolve_left hfree⟩

/-- **What temporary targets need was given back at the end of the frame.** -/
theorem offers (h : Stages device now renderSize s begun ready drawn rested s' c shots)
    (hs : s.Sound) :
    s'.supply.pool.Offers s'.supply.pool.round (s'.document.needs renderSize) := by
  obtain ⟨-, hle, hdocument⟩ := h.released hs
  have hnodup := Multiset.nodup_of_le hle (nodup_used (h.equipped hs).1.consistent)
  set ts := drawn.document.passes.temporary
  -- each target offers the buffer that it has given back
  refine ⟨ts.map fun t => (t.descriptorIn renderSize, t.current.getD ⟨0⟩), ?_, ?_, ?_⟩
  · have htemporary : s'.document.passes.temporary = ts.map Target.withoutBuffers := by
      rw [h.settles]
      exact congrArg (fun d : Document => d.passes.temporary) hdocument
    have hfree : (ts.map Target.withoutBuffers).filter (fun t => t.current = none) =
        ts.map Target.withoutBuffers := by
      refine List.filter_eq_self.2 fun u hu => ?_
      obtain ⟨t, -, rfl⟩ := List.mem_map.1 hu
      rfl
    rw [Document.needs, htemporary, hfree, List.map_map, List.map_map]
    rfl
  · rw [List.map_map]
    refine List.Nodup.sublist ?_ (Multiset.coe_nodup.1 hnodup)
    show (ts.map fun t => t.current.getD ⟨0⟩).Sublist (ts.flatMap Target.buffers)
    refine map_sublist_flatMap fun t ht => ?_
    obtain ⟨k, e, hk, -⟩ := h.exists_idle hs ht
    simp [Target.buffers, hk]
  · intro x hx
    obtain ⟨t, ht, rfl⟩ := List.mem_map.1 hx
    obtain ⟨k, e, hk, hidle⟩ := h.exists_idle hs ht
    rw [hk]
    exact ⟨e, hidle⟩

end

/-- **A complete frame without pending events leaves the scene settled.** -/
theorem settled {device : Device σ} {now : Moment} {renderSize : Size}
    {s begun ready drawn rested s' : Studio (Observed σ)} {c : CompiledProgram} {shots : List Shot}
    (h : Stages device.observed now renderSize s begun ready drawn rested s' c shots)
    (hs : s.Sound) (hcalm : s.document.Calm) :
    s'.Settled renderSize ∧ s'.document.Calm ∧ s'.document.inputs = s.document.inputs := by
  obtain ⟨t, ht, hloading, hparameters, htcalm, hcompiled, hsettings⟩ := h.exists_loading hs hcalm
  have hframes := h.frames hs.consistent hs.wellFormed hs.rests
  have hinputs : s'.document.inputs = s.document.inputs := by
    rw [Document.inputs, hparameters]
    exact hloading.inputs
  refine ⟨⟨?_, ?_, ?_, h.filled hs, (h.offers hs).le_stock hframes.trades.consistent⟩, ?_, hinputs⟩
  · obtain ⟨e, hresize, houtlines⟩ := h.exists_outlines hs.consistent hs.wellFormed hs.rests
    exact Document.resize_eq_self hresize houtlines hinputs
  · have hasks := asks_untilLoaded device renderSize hs.wellFormed
    rw [ht] at hasks
    rw [hparameters]
    exact hasks.2
  · obtain ⟨t', _, c', ht', -, -, hkey, hc', -⟩ := programs_of_ok h.begins
    cases ht.symm.trans ht'
    have htypes : s'.document.textureTypes = t.document.textureTypes :=
      Document.textureTypes_congr (hframes.blank.trans hloading.blank.symm) hparameters
    rw [hasProgram_iff, hcompiled, hc', Option.map_some, hkey, programKey, programKey, hsettings,
      htypes, hloading.scene]
  · unfold Document.Calm
    rw [hparameters]
    exact htcalm

end Stages

end Studio

end ShaderEffect
