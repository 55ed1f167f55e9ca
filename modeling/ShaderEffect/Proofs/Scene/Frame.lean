/-
**What a frame does with buffers.**

A frame first does all that needs no buffers of targets: sizes, imported images, the program.  Then
the persistent targets get their buffers, the passes are drawn, the temporary targets give back what
they were lent, and the persistent ones exchange their two buffers.  However a frame ends, the
document holds what it held before or what it got in exchange for it, with the one exception of a
persistent target that gave a buffer back and was refused another one.

Main definitions:

* `ShaderEffect.Studio.untilBuffers` — the part of a frame that needs no buffers of targets;
* `ShaderEffect.Studio.Completes`, `ShaderEffect.Studio.Fails` — how a frame goes;
* `ShaderEffect.Studio.stranded?` — **the buffer that a frame gives back and goes on holding**;
* `ShaderEffect.Document.Rests` — no temporary target holds a buffer.

Main results:

* `ShaderEffect.Studio.ends_untilBuffers`, `ShaderEffect.Studio.ends_onPersistent`,
  `ShaderEffect.Studio.ends_thenReleaseTemporary` — the parts of a frame;
* `ShaderEffect.Studio.ends_renderFrame` — how a frame ends;
* `ShaderEffect.Studio.frames_renderFrame` — **a frame exchanges what a document holds**;
* `ShaderEffect.Studio.ends_releaseBuffers` — giving everything back never fails.
-/

import ShaderEffect.Proofs.Scene.Drawing

set_option autoImplicit false

namespace ShaderEffect

open Pool

variable {σ : Type}

/-- Nothing is bound at first. -/
theorem Value.binding?_zero (k : Kind) : (Value.zero k).binding? = none := by
  cases k <;> rfl

/-- A moment, some nanoseconds after the clock was started. -/
def Moment.ofNanoseconds (nanoseconds : Nat) : Moment :=
  ⟨nanoseconds, ⟨zero32, zero32, zero32, zero32⟩⟩

/-! ### Sizes -/

/-- The two slots of a target. -/
def Target.slots (t : Target) : Option Handle × Option Handle := (t.current, t.previous)

namespace Document

variable {d d' : Document}

/-- No temporary target holds a buffer. -/
def Rests (d : Document) : Prop := ∀ t ∈ d.passes.temporary, t.slots = (none, none)

/-- Targets get sizes, and nothing else about them changes. -/
theorem resizeAll_spec {env : Environment} {ts us : List Target} (h : resizeAll env ts = .ok us) :
    List.Forall₂ (fun t u => ∃ size, t.resolve env = .ok size ∧ u = t.withSize size) ts us := by
  induction ts generalizing us with
  | nil =>
      cases h
      exact .nil
  | cons t ts ih =>
      rw [resizeAll, Target.evaluate] at h
      cases hsize : t.resolve env with
      | error failure =>
          rw [hsize] at h
          cases h
      | ok size =>
          rw [hsize] at h
          cases hrest : resizeAll env ts with
          | error failure =>
              rw [hrest] at h
              cases h
          | ok vs =>
              rw [hrest] at h
              cases h
              exact .cons ⟨size, hsize, rfl⟩ (ih hrest)

/-- No target is left without a size. -/
theorem size_ne_none_of_mem_resizeAll {env : Environment} {ts us : List Target}
    (h : resizeAll env ts = .ok us) {u : Target} (hu : u ∈ us) : u.size ≠ none := by
  have hspec := resizeAll_spec h
  clear h
  induction hspec with
  | nil => cases hu
  | cons hfirst _ ih =>
      obtain ⟨size, -, rfl⟩ := hfirst
      rcases List.mem_cons.1 hu with rfl | hu
      · simp
      · exact ih hu

/-- What does not depend on sizes stays. -/
theorem map_resizeAll {α : Type} {f : Target → α} (hf : ∀ t size, f (t.withSize size) = f t)
    {env : Environment} {ts us : List Target} (h : resizeAll env ts = .ok us) :
    us.map f = ts.map f := by
  have hspec := resizeAll_spec h
  clear h
  induction hspec with
  | nil => rfl
  | cons hfirst _ ih =>
      obtain ⟨size, -, rfl⟩ := hfirst
      rw [List.map_cons, List.map_cons, hf, ih]

/-- All targets get sizes, or none. -/
theorem resize_eq_ok_iff {renderSize : Size} : d.resize renderSize = .ok d' ↔
    ∃ persistent temporary,
      resizeAll (d.environment renderSize) d.passes.persistent = .ok persistent ∧
      resizeAll (d.environment renderSize) d.passes.temporary = .ok temporary ∧
      d' = (d.withPersistent persistent).withTemporary temporary := by
  unfold resize
  dsimp only
  cases resizeAll (d.environment renderSize) d.passes.persistent with
  | error failure => simp
  | ok persistent =>
      cases resizeAll (d.environment renderSize) d.passes.temporary with
      | error failure => simp
      | ok temporary => simp [withPersistent, withTemporary, eq_comm]

theorem blank_resize {renderSize : Size} (h : d.resize renderSize = .ok d') :
    d'.blank = d.blank := by
  obtain ⟨persistent, temporary, hpersistent, htemporary, rfl⟩ := resize_eq_ok_iff.1 h
  simp only [blank, withPersistent, withTemporary]
  rw [map_resizeAll (f := Target.blank) (fun _ _ => rfl) hpersistent,
    map_resizeAll (f := Target.blank) (fun _ _ => rfl) htemporary]

/-- Sizes do not touch what targets hold. -/
theorem slots_resize {renderSize : Size} (h : d.resize renderSize = .ok d') :
    d'.passes.persistent.map Target.slots = d.passes.persistent.map Target.slots ∧
      d'.passes.temporary.map Target.slots = d.passes.temporary.map Target.slots := by
  obtain ⟨persistent, temporary, hpersistent, htemporary, rfl⟩ := resize_eq_ok_iff.1 h
  exact ⟨map_resizeAll (f := Target.slots) (fun _ _ => rfl) hpersistent,
    map_resizeAll (f := Target.slots) (fun _ _ => rfl) htemporary⟩

/-! ### What is held -/

/-- What targets hold stands in their slots. -/
theorem allHeld_congr {ts us : List Target} (h : us.map Target.slots = ts.map Target.slots) :
    allHeld Target.buffers us = allHeld Target.buffers ts := by
  have hslots (vs : List Target) : allHeld Target.buffers vs =
      ((vs.map Target.slots).flatMap fun x => x.1.toList ++ x.2.toList : List Handle) := by
    rw [List.flatMap_map]
    rfl
  rw [hslots, hslots, h]

theorem Rests.congr (hd : d.Rests)
    (h : d'.passes.temporary.map Target.slots = d.passes.temporary.map Target.slots) :
    d'.Rests := by
  intro t ht
  have hmem : t.slots ∈ d.passes.temporary.map Target.slots := h ▸ List.mem_map_of_mem ht
  obtain ⟨u, hu, heq⟩ := List.mem_map.1 hmem
  exact heq ▸ hd u hu

/-- Nothing is lent when temporary targets hold nothing. -/
theorem Rests.lent_eq (hd : d.Rests) : d.lent = 0 := by
  have hnil : d.passes.temporary.flatMap Target.buffers = [] := by
    refine List.flatMap_eq_nil_iff.2 fun t ht => ?_
    have hslots := hd t ht
    rw [Target.slots, Prod.mk.injEq] at hslots
    rw [Target.buffers, hslots.1, hslots.2]
    rfl
  rw [lent, allHeld, hnil]
  rfl

theorem Rests.held_eq (hd : d.Rests) : d.held = d.kept + d.imported := by
  rw [held, hd.lent_eq, add_zero]

/-- Exchanging the two buffers of each target changes nothing about what is held. -/
theorem allHeld_swap (ts : List Target) :
    allHeld Target.buffers (ts.map Target.swap) = allHeld Target.buffers ts := by
  induction ts with
  | nil => rfl
  | cons t ts ih =>
      rw [List.map_cons, allHeld_cons, allHeld_cons, ih, coe_buffers, coe_buffers, Target.swap,
        add_comm (slotHeld t.previous)]

/-- The end of an event concerns no imported image. -/
theorem held_settle (p : Parameter) : p.settle.held = p.held := by
  unfold Parameter.settle
  split
  · rename_i hevent
    rw [Parameter.held, Parameter.held, hevent]
    rfl
  · rfl

theorem blank_settle (d : Document) : d.settle.blank = d.blank := by
  have hparameter (p : Parameter) : p.settle.blank = p.blank := by
    unfold Parameter.settle
    split <;> rfl
  simp [blank, settle, withPersistent, withParameters, Function.comp_def, hparameter, Target.blank,
    Target.swap]

theorem kept_settle (d : Document) : d.settle.kept = d.kept := allHeld_swap d.passes.persistent

theorem imported_settle (d : Document) : d.settle.imported = d.imported := by
  show allHeld _ (d.parameters.map Parameter.settle) = allHeld _ d.parameters
  rw [allHeld, List.flatMap_map]
  simp only [held_settle]
  rfl

/-- **A complete frame does not change what is held.** -/
theorem held_settle_eq (d : Document) : d.settle.held = d.held := by
  rw [held, d.imported_settle, d.kept_settle]
  rfl

/-- A document that has just been read holds nothing. -/
theorem Fresh.held_eq (hd : d.Fresh) : d.Rests ∧ d.held = 0 := by
  have hslots (t : Target) (ht : t ∈ d.passes.targets) : t.slots = (none, none) := by
    rw [← hd.targets t ht]
    rfl
  have hrests : d.Rests := fun t ht => hslots t (List.mem_append_right _ ht)
  have hkept : d.passes.persistent.flatMap Target.buffers = [] := by
    refine List.flatMap_eq_nil_iff.2 fun t ht => ?_
    rw [← hd.targets t (List.mem_append_left _ ht)]
    rfl
  have himported : d.parameters.flatMap Parameter.held = [] := by
    refine List.flatMap_eq_nil_iff.2 fun p hp => ?_
    unfold Parameter.held
    split
    · rename_i hi
      rw [← hd.imports p hp hi, Parameter.blank]
      dsimp only
      rw [Value.binding?_zero]
      rfl
    · rfl
  refine ⟨hrests, ?_⟩
  rw [held, hrests.lent_eq, kept, imported, allHeld, allHeld, hkept, himported]
  rfl

theorem Fresh.kept_eq (hd : d.Fresh) : d.kept = 0 := by
  have hheld : d.kept + d.lent + d.imported = 0 := hd.held_eq.2
  exact Multiset.le_zero.1 (hheld ▸ (Multiset.le_add_right _ _).trans (Multiset.le_add_right _ _))

end Document

namespace Studio

/-! ### Before the buffers of targets -/

/-- The part of a frame that needs no buffers of targets. -/
def untilBuffers (device : Device σ) (renderSize : Size) : Work σ Unit := do
  checkLoaded
  resize renderSize
  checkPasses
  onParameters (loadImport device)
  ensureProgram device

theorem prepare_eq (device : Device σ) (renderSize : Size) :
    prepare device renderSize = (do
      untilBuffers device renderSize
      onPersistent (ensureBuffers device)) := by
  unfold prepare untilBuffers
  simp only [bind_assoc]

/-- What happens before targets get buffers: images are loaded, and targets get the sizes of the
frame, or keep those they had. -/
structure Begins (renderSize : Size) (s s' : Studio σ) : Prop where
  trades : Trades s.supply.pool s.document.imported s'.supply.pool s'.document.imported
  blank : s'.document.blank = s.document.blank
  passes : s'.document.passes = s.document.passes ∨
    ∃ d, s.document.resize renderSize = .ok d ∧ s'.document.passes = d.passes

namespace Begins

variable {renderSize : Size} {s s' : Studio σ}

theorem refl (hs : s.supply.pool.Consistent) : Begins renderSize s s :=
  ⟨Trades.refl hs _, rfl, Or.inl rfl⟩

/-- Targets hold what they held before. -/
theorem slots (h : Begins renderSize s s') :
    s'.document.passes.persistent.map Target.slots =
        s.document.passes.persistent.map Target.slots ∧
      s'.document.passes.temporary.map Target.slots =
        s.document.passes.temporary.map Target.slots := by
  rcases h.passes with h | ⟨d, hresize, h⟩
  · rw [h]
    exact ⟨rfl, rfl⟩
  · rw [h]
    exact Document.slots_resize hresize

end Begins

/-- What loading images leaves behind. -/
structure Loads (s s' : Studio σ) : Prop where
  trades : Trades s.supply.pool s.document.imported s'.supply.pool s'.document.imported
  blank : s'.document.blank = s.document.blank
  passes : s'.document.passes = s.document.passes

theorem ends_onParameters (device : Device σ) {s : Studio σ} (hs : s.supply.pool.Consistent)
    (hd : s.document.WellFormed) :
    Ends (fun _ s' => Loads s s') (fun _ s' => Loads s s')
      (onParameters (loadImport device) s) := by
  have htrades := ends_eachOf_trades
    (fun p hp t ht => ends_loadImport device ht (hd.parameters.imports p hp)) hs
  have hblank := ends_eachOf_map (loadImport device) (f := Parameter.blank)
    (fun p t => blank_loadImport device p t) s.document.parameters s.supply
  unfold onParameters
  rcases hr : eachOf (loadImport device) (s.document.parameters, s.supply) with
    ⟨_, ps, supply⟩ | ⟨failure, ps, supply⟩
  all_goals
    rw [hr] at htrades hblank
    refine ⟨htrades, ?_, rfl⟩
    show (s.document.withParameters ps).blank = s.document.blank
    unfold Document.withParameters Document.blank
    rw [show ps.map Parameter.blank = _ from hblank]

theorem ends_checkLoaded (s : Studio σ) :
    Ends (fun _ s' => s' = s) (fun _ s' => s' = s) (checkLoaded s) := by
  unfold checkLoaded
  cases s.document.failure <;> exact rfl

theorem ends_resize (renderSize : Size) (s : Studio σ) :
    Ends (fun _ s' => ∃ d, s.document.resize renderSize = .ok d ∧ s' = { s with document := d })
      (fun _ s' => s' = s) (resize renderSize s) := by
  unfold resize
  cases h : s.document.resize renderSize with
  | error failure => exact rfl
  | ok d => exact ⟨d, rfl, rfl⟩

theorem ends_checkPasses (s : Studio σ) :
    Ends (fun _ s' => s' = s) (fun _ s' => s' = s) (checkPasses s) := by
  unfold checkPasses
  cases s.document.undeclaredPass? 0 s.document.passes.order <;> exact rfl

theorem ends_ensureProgram (device : Device σ) (s : Studio σ) :
    Ends (fun _ s' => s'.document = s.document ∧ s'.supply.pool = s.supply.pool)
      (fun _ s' => s'.document = s.document ∧ s'.supply.pool = s.supply.pool)
      (ensureProgram device s) := by
  unfold ensureProgram compile
  split
  · exact ⟨rfl, rfl⟩
  · cases s.document.generate s.scene.settings with
    | error failure => exact ⟨rfl, rfl⟩
    | ok source =>
        dsimp only
        cases device.compile source s.supply.device <;> exact ⟨rfl, rfl⟩

/-- **How it ends before targets get buffers.** -/
theorem ends_untilBuffers (device : Device σ) (renderSize : Size) {s : Studio σ}
    (hs : s.supply.pool.Consistent) (hd : s.document.WellFormed) :
    Ends
      (fun _ s' => Begins renderSize s s' ∧
        ∃ d, s.document.resize renderSize = .ok d ∧ s'.document.passes = d.passes)
      (fun _ s' => Begins renderSize s s') (untilBuffers device renderSize s) := by
  have hrefl : Begins renderSize s s := .refl hs
  refine Ends.bind ((ends_checkLoaded s).mono (fun _ _ h => h) fun _ _ h => h ▸ hrefl) ?_
  intro _ t ht
  rw [ht]
  refine Ends.bind ((ends_resize renderSize s).mono (fun _ _ h => h) fun _ _ h => h ▸ hrefl) ?_
  rintro _ s₁ ⟨d, hresize, rfl⟩
  have hparameters : d.parameters = s.document.parameters := by
    obtain ⟨_, _, -, -, rfl⟩ := Document.resize_eq_ok_iff.1 hresize
    rfl
  have hblank := Document.blank_resize hresize
  -- from here on the document is the resized one, and only its parameters change
  have hbegins (u : Studio σ) (hu : Loads { s with document := d } u) :
      Begins renderSize s u ∧ ∃ d, s.document.resize renderSize = .ok d ∧
        u.document.passes = d.passes := by
    have htrades := hu.trades
    rw [show Document.imported d = s.document.imported by
      rw [Document.imported, hparameters, Document.imported]] at htrades
    exact ⟨⟨htrades, hu.blank.trans hblank, Or.inr ⟨d, hresize, hu.passes⟩⟩,
      d, hresize, hu.passes⟩
  have hloads : Loads { s with document := d } { s with document := d } :=
    ⟨Trades.refl hs _, rfl, rfl⟩
  refine Ends.bind ((ends_checkPasses _).mono (fun _ _ h => h) fun _ _ h =>
    h ▸ (hbegins _ hloads).1) ?_
  intro _ t ht
  rw [ht]
  refine Ends.bind ((ends_onParameters device (s := { s with document := d }) hs
    (hd.of_blank_eq hblank)).mono (fun _ _ h => h) fun _ _ h => (hbegins _ h).1) ?_
  intro _ u hu
  refine (ends_ensureProgram device u).mono (fun _ v hv => hbegins v ?_)
    fun _ v hv => (hbegins v ?_).1
  all_goals
    refine ⟨?_, ?_, ?_⟩
    · rw [hv.1, hv.2]
      exact hu.trades
    · rw [hv.1]
      exact hu.blank
    · rw [hv.1]
      exact hu.passes

/-! ### The buffers of persistent targets -/

/-- What giving persistent targets their buffers leaves alone. -/
structure OnlyKeeps (s s' : Studio σ) : Prop where
  blank : s'.document.blank = s.document.blank
  temporary : s'.document.passes.temporary = s.document.passes.temporary
  parameters : s'.document.parameters = s.document.parameters
  scene : s'.scene = s.scene

/-- The buffer that the persistent targets give back and go on holding. -/
def lostBuffer? (device : Device σ) (s : Studio σ) : Option Handle :=
  (stopsAt (ensureBuffers device) (s.document.passes.persistent, s.supply)).bind fun x =>
    refusedFor? device x.1 x.2

/-- **How it ends when persistent targets get their buffers.** -/
theorem ends_onPersistent (device : Device σ) {s : Studio σ} (hs : s.supply.pool.Consistent) :
    Ends
      (fun _ s' => (Trades s.supply.pool s.document.kept s'.supply.pool s'.document.kept ∧
        lostBuffer? device s = none) ∧ OnlyKeeps s s')
      (fun _ s' => TradesBut (lostBuffer? device s) s.supply.pool s.document.kept s'.supply.pool
        s'.document.kept ∧ OnlyKeeps s s')
      (onPersistent (ensureBuffers device) s) := by
  have htrades := ends_eachOf (refusedFor? device)
    (fun t (_ : t ∈ s.document.passes.persistent) u hu =>
      (ends_ensureBuffers device hu t).mono (fun _ _ h => h.1) fun _ _ h => h) hs
  have hblank := ends_eachOf_map (ensureBuffers device) (f := Target.blank)
    (fun t u => blank_ensureBuffers device t u) s.document.passes.persistent s.supply
  have hstops := stopsAt_eq_none_iff (ensureBuffers device) s.document.passes.persistent s.supply
  unfold onPersistent
  rcases hr : eachOf (ensureBuffers device) (s.document.passes.persistent, s.supply) with
    ⟨_, ts, supply⟩ | ⟨failure, ts, supply⟩
  all_goals
    rw [hr] at htrades hblank
    have hkeeps : OnlyKeeps s
        { s with document := s.document.withPersistent ts, supply := supply } := by
      refine ⟨?_, rfl, rfl, rfl⟩
      unfold Document.withPersistent Document.blank
      rw [show ts.map Target.blank = _ from hblank]
  · refine ⟨⟨htrades, ?_⟩, hkeeps⟩
    rw [lostBuffer?, hstops.2 ⟨(ts, supply), hr⟩]
    rfl
  · exact ⟨htrades, hkeeps⟩

/-! ### Drawing and giving back -/

/-- All passes of the document are drawn with the program of the scene. -/
def DrawsAll (device : Device σ) (clock : Clock) (renderSize : Size) (s : Studio σ)
    (reports : List PassReport) (s' : Studio σ) : Prop :=
  ∃ c shots, s.scene.compiled = some c ∧ reports = shots.map Shot.report ∧
    Drawn device c.program clock renderSize 0 [] s.document.passes.order s shots s'

/-- The passes before one that cannot be drawn are drawn, if there is a program at all. -/
def DrawsSome (device : Device σ) (clock : Clock) (renderSize : Size) (s : Studio σ)
    (failure : Failure) (s' : Studio σ) : Prop :=
  (s.scene.compiled = none ∧ s' = s) ∨
    ∃ c done shots s₁, s.scene.compiled = some c ∧ done <+: s.document.passes.order ∧
      Drawn device c.program clock renderSize 0 [] done s shots s₁ ∧
      Abandoned device renderSize s₁ failure s'

/-- **How it ends when the passes are drawn.** -/
theorem ends_drawPasses (device : Device σ) (clock : Clock) (renderSize : Size) (s : Studio σ) :
    Ends (DrawsAll device clock renderSize s) (DrawsSome device clock renderSize s)
      (drawPasses device clock renderSize s) := by
  unfold drawPasses
  refine Ends.get_bind ?_
  cases hc : s.scene.compiled with
  | none => exact Or.inl ⟨hc, rfl⟩
  | some c =>
      refine (ends_drawFrom device c.program clock renderSize s.document.passes.order 0 [] s).mono
        ?_ ?_
      · rintro _ s' ⟨shots, hreports, hdrawn⟩
        exact ⟨c, shots, hc, hreports, hdrawn⟩
      · rintro _ s' ⟨done, shots, s₁, hdone, hdrawn, habandoned⟩
        exact Or.inr ⟨c, done, shots, s₁, hc, hdone, hdrawn, habandoned⟩

section OnlyLends

variable {device : Device σ} {clock : Clock} {renderSize : Size} {s s' : Studio σ}

theorem DrawsAll.onlyLends {reports : List PassReport}
    (h : DrawsAll device clock renderSize s reports s') (hs : s.supply.pool.Consistent)
    (hd : s.document.WellFormed) : OnlyLends s s' := by
  obtain ⟨c, shots, -, -, hdrawn⟩ := h
  exact hdrawn.onlyLends hs hd

theorem DrawsSome.onlyLends {failure : Failure}
    (h : DrawsSome device clock renderSize s failure s') (hs : s.supply.pool.Consistent)
    (hd : s.document.WellFormed) : OnlyLends s s' := by
  rcases h with ⟨-, rfl⟩ | ⟨c, done, shots, s₁, -, -, hdrawn, habandoned⟩
  · exact .refl hs
  · have hfirst := hdrawn.onlyLends hs hd
    exact hfirst.trans
      (habandoned.onlyLends hfirst.trades.consistent (hd.of_blank_eq hfirst.blank))

end OnlyLends

/-- What a document is like between frames, compared with an earlier moment: nothing is lent, and
the persistent targets and the parameters are the same. -/
structure GivesBack (s s' : Studio σ) : Prop where
  trades : Trades s.supply.pool 0 s'.supply.pool 0
  blank : s'.document.blank = s.document.blank
  persistent : s'.document.passes.persistent = s.document.passes.persistent
  parameters : s'.document.parameters = s.document.parameters
  scene : s'.scene = s.scene
  rests : s'.document.Rests

/-- **Temporary targets give back what they were lent**, and this never fails. -/
theorem ends_onTemporary {s s₁ : Studio σ} (h : OnlyLends s s₁) (hrests : s.document.Rests) :
    Ends (fun _ s' => GivesBack s s' ∧ s'.supply.device = s₁.supply.device) (fun _ _ => False)
      (onTemporary releaseTarget s₁) := by
  have htrades := h.trades
  rw [hrests.lent_eq] at htrades
  have hrelease := ends_eachOf_releaseTarget htrades.consistent
    (htrades.used_le (Multiset.zero_le _))
  unfold onTemporary
  rcases hr : eachOf releaseTarget (s₁.document.passes.temporary, s₁.supply) with
    ⟨_, ts, supply⟩ | ⟨failure, ts, supply⟩
  · rw [hr] at hrelease
    obtain ⟨hback, rfl, hdevice⟩ := hrelease
    refine ⟨⟨htrades.trans hback, ?_, h.persistent, h.parameters, h.scene, ?_⟩, hdevice⟩
    · rw [← h.blank]
      simp [Document.blank, Document.withTemporary, Function.comp_def, Target.blank,
        Target.withoutBuffers]
    · intro t ht
      obtain ⟨u, -, rfl⟩ := List.mem_map.1 ht
      rfl
  · rw [hr] at hrelease
    exact hrelease

/-- **However work ends that only lends buffers, temporary targets give them back.** -/
theorem ends_thenReleaseTemporary {α : Type} {work : Work σ α} {s : Studio σ}
    {ok : α → Studio σ → Prop} {error : Failure → Studio σ → Prop} (hrests : s.document.Rests)
    (hwork : Ends ok error (work s)) (hok : ∀ a s', ok a s' → OnlyLends s s')
    (herror : ∀ e s', error e s' → OnlyLends s s') :
    Ends
      (fun a s' => GivesBack s s' ∧ ∃ s₁, ok a s₁ ∧ s'.supply.device = s₁.supply.device)
      (fun e s' => GivesBack s s' ∧ ∃ s₁, error e s₁ ∧ s'.supply.device = s₁.supply.device)
      (thenReleaseTemporary work s) := by
  unfold thenReleaseTemporary
  rcases hw : work s with ⟨a, s₁⟩ | ⟨e, s₁⟩
  · rw [hw] at hwork
    have hback := ends_onTemporary (hok a s₁ hwork) hrests
    dsimp only
    rcases hr : onTemporary releaseTarget s₁ with ⟨_, s'⟩ | ⟨_, s'⟩
    · rw [hr] at hback
      exact ⟨hback.1, s₁, hwork, hback.2⟩
    · rw [hr] at hback
      exact hback.elim
  · rw [hw] at hwork
    have hback := ends_onTemporary (herror e s₁ hwork) hrests
    dsimp only
    rcases hr : onTemporary releaseTarget s₁ with ⟨_, s'⟩ | ⟨_, s'⟩
    · rw [hr] at hback
      exact ⟨hback.1, s₁, hwork, hback.2⟩
    · rw [hr] at hback
      exact hback.elim

/-! ### Frames -/

/-- **A complete frame**: the passes are drawn from a studio that is ready for them, temporary
targets give back what they were lent, and then the document and the scene go on to the next
frame. -/
inductive Completes (device : Device σ) (now : Moment) (renderSize : Size) (s : Studio σ) :
    FrameReport → Studio σ → Prop where
  | intro {begun ready drawn rested : Studio σ} {reports : List PassReport} :
      untilBuffers device renderSize s = .ok () begun →
      onPersistent (ensureBuffers device) begun = .ok () ready →
      DrawsAll device (ready.scene.clock now) renderSize ready reports drawn →
      GivesBack ready rested → rested.supply.device = drawn.supply.device →
      Completes device now renderSize s ⟨ready.scene.frameIndex, reports⟩
        { rested with scene := rested.scene.advance now, document := rested.document.settle }

/-- **A frame that fails**, before targets get buffers, because one of them is refused one, or while
passes are drawn. -/
inductive Fails (device : Device σ) (now : Moment) (renderSize : Size) (s : Studio σ) :
    Failure → Studio σ → Prop where
  | early {failure : Failure} {s' : Studio σ} :
      untilBuffers device renderSize s = .error failure s' →
      Fails device now renderSize s failure s'
  | refused {begun s' : Studio σ} {failure : Failure} :
      untilBuffers device renderSize s = .ok () begun →
      onPersistent (ensureBuffers device) begun = .error failure s' →
      Fails device now renderSize s failure s'
  | late {begun ready drawn s' : Studio σ} {failure : Failure} :
      untilBuffers device renderSize s = .ok () begun →
      onPersistent (ensureBuffers device) begun = .ok () ready →
      DrawsSome device (ready.scene.clock now) renderSize ready failure drawn →
      GivesBack ready s' → s'.supply.device = drawn.supply.device →
      Fails device now renderSize s failure s'

/-- What happens before drawing: the document exchanges what it holds, except that it may lose a
buffer. -/
structure Prepares (lost : Option Handle) (s s' : Studio σ) : Prop where
  trades : TradesBut lost s.supply.pool (s.document.kept + s.document.imported) s'.supply.pool
    (s'.document.kept + s'.document.imported)
  blank : s'.document.blank = s.document.blank
  temporary : s'.document.passes.temporary.map Target.slots =
    s.document.passes.temporary.map Target.slots

/-- What happened before targets got buffers, seen from all that is held. -/
theorem Begins.prepares {renderSize : Size} {s s' : Studio σ} (h : Begins renderSize s s') :
    Prepares none s s' := by
  refine ⟨?_, h.blank, h.slots.2⟩
  rw [show s'.document.kept = s.document.kept from Document.allHeld_congr h.slots.1]
  exact h.trades.add_left _

/-- What happens when targets get buffers, after all that comes before. -/
theorem Begins.then_keeps {renderSize : Size} {lost : Option Handle} {s s₁ s' : Studio σ}
    (h : Begins renderSize s s₁) (hkeeps : OnlyKeeps s₁ s')
    (htrades : TradesBut lost s₁.supply.pool s₁.document.kept s'.supply.pool s'.document.kept) :
    Prepares lost s s' := by
  refine ⟨?_, hkeeps.blank.trans h.blank, ?_⟩
  · have himported : s'.document.imported = s₁.document.imported := by
      rw [Document.imported, hkeeps.parameters, Document.imported]
    rw [himported]
    exact (htrades.add_right _).after_trades h.prepares.trades
  · rw [hkeeps.temporary]
    exact h.slots.2

section

variable {device : Device σ} {renderSize : Size} {s begun ready : Studio σ} {failure : Failure}

/-- A frame that has come as far as the buffers of targets. -/
theorem begins_of_ok (hs : s.supply.pool.Consistent) (hd : s.document.WellFormed)
    (h : untilBuffers device renderSize s = .ok () begun) :
    Begins renderSize s begun ∧
      ∃ d, s.document.resize renderSize = .ok d ∧ begun.document.passes = d.passes := by
  have hends := ends_untilBuffers device renderSize hs hd
  rw [h] at hends
  exact hends

/-- A frame that has not come as far as the buffers of targets. -/
theorem begins_of_error (hs : s.supply.pool.Consistent) (hd : s.document.WellFormed)
    (h : untilBuffers device renderSize s = .error failure begun) : Begins renderSize s begun := by
  have hends := ends_untilBuffers device renderSize hs hd
  rw [h] at hends
  exact hends

/-- A frame that is ready to draw. -/
theorem prepares_of_ok (hs : s.supply.pool.Consistent) (hd : s.document.WellFormed)
    (hbegun : untilBuffers device renderSize s = .ok () begun)
    (h : onPersistent (ensureBuffers device) begun = .ok () ready) :
    Prepares none s ready ∧ lostBuffer? device begun = none := by
  have hbegins := (begins_of_ok hs hd hbegun).1
  have hends := ends_onPersistent device hbegins.trades.consistent
  rw [h] at hends
  exact ⟨hbegins.then_keeps hends.2 hends.1.1, hends.1.2⟩

/-- A frame whose persistent targets did not get their buffers. -/
theorem prepares_of_error (hs : s.supply.pool.Consistent) (hd : s.document.WellFormed)
    (hbegun : untilBuffers device renderSize s = .ok () begun)
    (h : onPersistent (ensureBuffers device) begun = .error failure ready) :
    Prepares (lostBuffer? device begun) s ready := by
  have hbegins := (begins_of_ok hs hd hbegun).1
  have hends := ends_onPersistent device hbegins.trades.consistent
  rw [h] at hends
  exact hbegins.then_keeps hends.2 hends.1

end

/-- **How a frame ends.** -/
theorem ends_renderFrame (device : Device σ) (now : Moment) (renderSize : Size) {s : Studio σ}
    (hs : s.supply.pool.Consistent) (hd : s.document.WellFormed) (hrests : s.document.Rests) :
    Ends (Completes device now renderSize s) (Fails device now renderSize s)
      (renderFrame device now renderSize s) := by
  have hprepare : Ends
      (fun _ ready => ∃ begun, untilBuffers device renderSize s = .ok () begun ∧
        onPersistent (ensureBuffers device) begun = .ok () ready)
      (Fails device now renderSize s) (prepare device renderSize s) := by
    rw [prepare_eq]
    show Ends _ _ (EStateM.bind _ _ s)
    simp only [EStateM.bind]
    rcases hbegun : untilBuffers device renderSize s with ⟨_, begun⟩ | ⟨e, begun⟩
    · dsimp only
      rcases hready : onPersistent (ensureBuffers device) begun with ⟨_, ready⟩ | ⟨e, ready⟩
      · exact ⟨begun, rfl, hready⟩
      · exact .refused hbegun hready
    · exact .early hbegun
  -- from here on only temporary targets are lent buffers, and they give them back
  refine Ends.bind hprepare ?_
  rintro _ ready ⟨begun, hbegun, hready⟩
  refine Ends.get_bind ?_
  obtain ⟨hprepares, -⟩ := prepares_of_ok hs hd hbegun hready
  have hconsistent := hprepares.trades.consistent
  have hwell := hd.of_blank_eq hprepares.blank
  refine Ends.bind ((ends_thenReleaseTemporary (hrests.congr hprepares.temporary)
    (ends_drawPasses device (ready.scene.clock now) renderSize ready)
    (fun _ _ h => h.onlyLends hconsistent hwell)
    (fun _ _ h => h.onlyLends hconsistent hwell)).mono (fun _ _ h => h) ?_) ?_
  · rintro _ s' ⟨hback, drawn, hdraws, hdevice⟩
    exact .late hbegun hready hdraws hback hdevice
  · rintro reports rested ⟨hback, drawn, hdraws, hdevice⟩
    exact .intro hbegun hready hdraws hback hdevice

/-! ### What becomes of a document in a frame -/

/-- **The buffer that a frame gives back and goes on holding**: a persistent target wanted one of
another size for it, and was refused. -/
def stranded? (device : Device σ) (renderSize : Size) (s : Studio σ) : Option Handle :=
  match untilBuffers device renderSize s with
  | .error _ _ => none
  | .ok _ s => lostBuffer? device s

/-- What becomes of a document in a frame. -/
structure Frames (lost : Option Handle) (s s' : Studio σ) : Prop where
  trades : TradesBut lost s.supply.pool s.document.held s'.supply.pool s'.document.held
  blank : s'.document.blank = s.document.blank
  rests : s'.document.Rests

/-- A frame that ends before drawing. -/
theorem Prepares.frames {lost : Option Handle} {s s' : Studio σ} (h : Prepares lost s s')
    (hrests : s.document.Rests) : Frames lost s s' := by
  have hrests' := hrests.congr h.temporary
  refine ⟨?_, h.blank, hrests'⟩
  rw [hrests.held_eq, hrests'.held_eq]
  exact h.trades

/-- What drawing and giving back adds to a frame. -/
theorem Prepares.then_givesBack {s s₁ s' : Studio σ} (h : Prepares none s s₁)
    (hrests : s.document.Rests) (hback : GivesBack s₁ s') : Frames none s s' := by
  refine ⟨?_, hback.blank.trans h.blank, hback.rests⟩
  have hkept : s'.document.kept = s₁.document.kept := by
    rw [Document.kept, hback.persistent, Document.kept]
  have himported : s'.document.imported = s₁.document.imported := by
    rw [Document.imported, hback.parameters, Document.imported]
  rw [hrests.held_eq, hback.rests.held_eq, hkept, himported]
  have htrades := hback.trades.add_right (s₁.document.kept + s₁.document.imported)
  rw [zero_add] at htrades
  exact Trades.trans h.trades htrades

section

variable {device : Device σ} {now : Moment} {renderSize : Size} {s s' : Studio σ}

/-- A complete frame exchanges what a document holds. -/
theorem Completes.frames {report : FrameReport} (h : Completes device now renderSize s report s')
    (hs : s.supply.pool.Consistent) (hd : s.document.WellFormed) (hrests : s.document.Rests) :
    Frames none s s' := by
  obtain ⟨hbegun, hready, -, hback, -⟩ := h
  have hframes := (prepares_of_ok hs hd hbegun hready).1.then_givesBack hrests hback
  refine ⟨?_, (Document.blank_settle _).trans hframes.blank, hframes.rests⟩
  show Trades _ _ _ (Document.settle _).held
  rw [Document.held_settle_eq]
  exact hframes.trades

/-- A frame that gets as far as drawing loses nothing. -/
theorem stranded?_of_ready {begun ready : Studio σ} (hs : s.supply.pool.Consistent)
    (hd : s.document.WellFormed) (hbegun : untilBuffers device renderSize s = .ok () begun)
    (hready : onPersistent (ensureBuffers device) begun = .ok () ready) :
    stranded? device renderSize s = none := by
  rw [stranded?, hbegun]
  exact (prepares_of_ok hs hd hbegun hready).2

/-- A frame that fails exchanges what a document holds, and may lose one buffer. -/
theorem Fails.frames {failure : Failure} (h : Fails device now renderSize s failure s')
    (hs : s.supply.pool.Consistent) (hd : s.document.WellFormed) (hrests : s.document.Rests) :
    Frames (stranded? device renderSize s) s s' := by
  cases h with
  | early hbegun =>
      rw [stranded?, hbegun]
      exact (begins_of_error hs hd hbegun).prepares.frames hrests
  | refused hbegun hready =>
      rw [stranded?, hbegun]
      exact (prepares_of_error hs hd hbegun hready).frames hrests
  | late hbegun hready hdraws hback hdevice =>
      rw [stranded?_of_ready hs hd hbegun hready]
      exact (prepares_of_ok hs hd hbegun hready).1.then_givesBack hrests hback

end

/-- **A frame exchanges what a document holds**, however it ends, but may lose one buffer. -/
theorem frames_renderFrame (device : Device σ) (now : Moment) (renderSize : Size) {s : Studio σ}
    (hs : s.supply.pool.Consistent) (hd : s.document.WellFormed) (hrests : s.document.Rests) :
    Ends (fun _ s' => Frames (stranded? device renderSize s) s s')
      (fun _ s' => Frames (stranded? device renderSize s) s s')
      (renderFrame device now renderSize s) := by
  refine (ends_renderFrame device now renderSize hs hd hrests).mono (fun report s' h => ?_)
    fun _ _ h => h.frames hs hd hrests
  have hframes := h.frames hs hd hrests
  obtain ⟨hbegun, hready, -⟩ := h
  rw [stranded?_of_ready hs hd hbegun hready]
  exact hframes

/-! ### Giving everything back -/

/-- Taking buffers away leaves nothing that is held. -/
theorem held_withoutBuffers {d : Document} (hd : d.WellFormed) :
    (withoutBuffers d).held = 0 ∧ (withoutBuffers d).blank = d.blank ∧
      (withoutBuffers d).Rests := by
  have hrests : (withoutBuffers d).Rests := by
    intro t ht
    obtain ⟨u, -, rfl⟩ := List.mem_map.1 ht
    rfl
  have hkept : (withoutBuffers d).kept = 0 := by
    show ((_ : List Handle) : Multiset Handle) = 0
    rw [Multiset.coe_eq_zero, List.flatMap_eq_nil_iff]
    intro t ht
    obtain ⟨u, -, rfl⟩ := List.mem_map.1 ht
    rfl
  have himported : (withoutBuffers d).imported = 0 := by
    show ((_ : List Handle) : Multiset Handle) = 0
    rw [Multiset.coe_eq_zero, List.flatMap_eq_nil_iff]
    intro p hp
    obtain ⟨q, hq, rfl⟩ := List.mem_map.1 hp
    by_cases hi : q.isImport = true
    · simp [hi, hd.parameters.imports q hq hi, Value.ofBinding?, Parameter.held, Value.binding?]
    · simp [hi, Parameter.held]
  refine ⟨by rw [hrests.held_eq, hkept, himported, add_zero], ?_, hrests⟩
  have hparameter (p : Parameter) : (if p.isImport = true then
      { p with current := (Value.ofBinding? none p.kind).getD p.current } else p).blank =
        p.blank := by
    split <;> rfl
  simp [Document.blank, withoutBuffers, Function.comp_def, hparameter, Target.blank,
    Target.withoutBuffers]

/-- **Giving everything back never fails**, and leaves nothing that is held. -/
theorem ends_releaseBuffers {s : Studio σ} (hs : s.supply.pool.Consistent)
    (hd : s.document.WellFormed) :
    Ends
      (fun _ s' => Frames none s s' ∧ s'.document.held = 0 ∧
        s'.supply.device = s.supply.device)
      (fun _ _ => False) (releaseBuffers s) := by
  -- the slots are emptied first; what stood in them is given back afterwards
  have hrelease := Supply.ends_releaseAllHeld (heldBuffers s.document) hs
  rw [Document.coe_heldBuffers] at hrelease
  obtain ⟨hheld, hblank, hrests⟩ := held_withoutBuffers hd
  show Ends _ _ (onSupply (Supply.releaseAllHeld (heldBuffers s.document))
    { s with document := withoutBuffers s.document })
  unfold onSupply
  dsimp only
  rcases hr : Supply.releaseAllHeld (heldBuffers s.document) s.supply with
    ⟨_, supply⟩ | ⟨failure, supply⟩
  · rw [hr] at hrelease
    refine ⟨⟨?_, hblank, hrests⟩, hheld, hrelease.2⟩
    show Trades _ _ _ (withoutBuffers s.document).held
    rw [hheld]
    exact hrelease.1
  · rw [hr] at hrelease
    exact hrelease

end Studio

end ShaderEffect
