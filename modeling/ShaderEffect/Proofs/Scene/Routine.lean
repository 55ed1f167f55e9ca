/-
**Scenes in a routine.**

A scene that renders frames of one size, while nobody changes anything and nobody else uses the
pool, has all that it needs after the first of them: from then on frames only tell the device
commands.  Housekeeping between frames does not disturb that, as long as there are fewer rounds than
it takes for a buffer to expire.  What targets and imported images have held during a frame is
spared then, and so is whatever was handed out before the frame.  The one thing that may go is a
buffer that the pool had idle, and that the host had bound to an input nevertheless: a frame samples
it, but to sample a buffer is not to take it.

Main definitions:

* `ShaderEffect.Shot.handles`, `ShaderEffect.Document.Binds` — what a pass uses, and what inputs are
  bound to;
* `ShaderEffect.Rendered.Lasts` — **what a frame has used outlasts rounds of housekeeping**;
* `ShaderEffect.Session.routine` — frames of one size, with rounds of housekeeping in between.

Main results:

* `ShaderEffect.Studio.Films.binds` — a pass uses what the document holds, or what inputs are bound
  to;
* `ShaderEffect.Studio.Stages.lasts`, `ShaderEffect.Studio.Stages.afterRounds` — what is left of a
  complete frame after a few rounds;
* `ShaderEffect.Session.routine_asks_for_nothing` — **a routine asks the device for nothing new
  after the first frame**.
-/

import ShaderEffect.Proofs.Scene.Settled

set_option autoImplicit false

namespace ShaderEffect

open Pool Supply Observed

variable {σ : Type}

/-! ### What a pass uses -/

/-- The handles of the buffers that a pass draws into or samples. -/
def Shot.handles (shot : Shot) : List Handle :=
  shot.report.buffer.toList ++ (shot.document.samples shot.pass.written).filterMap Sample.handle

namespace Document

/-- An input is bound to a buffer. -/
def Binds (d : Document) (k : Handle) : Prop :=
  ∃ p ∈ d.inputs, p.current.binding?.map Binding.handle = some k

variable {d : Document} {k : Handle}

theorem mem_held_of_target {t : Target} (ht : t ∈ d.passes.targets) (hk : k ∈ t.buffers) :
    k ∈ d.held := by
  rw [← coe_heldBuffers, Multiset.mem_coe]
  exact List.mem_append_left _ (List.mem_flatMap.2 ⟨t, ht, hk⟩)

theorem mem_held_of_import {p : Parameter} (hp : p ∈ d.imageImports)
    (hk : p.current.binding?.map Binding.handle = some k) : k ∈ d.held := by
  rw [← coe_heldBuffers, Multiset.mem_coe]
  exact List.mem_append_right _ (List.mem_filterMap.2 ⟨p, hp, hk⟩)

/-- What a pass samples is held by the document, or an input is bound to it. -/
theorem held_or_binds_of_sample {written : List String} {s : Sample} (hs : s ∈ d.samples written)
    (hk : s.handle = some k) : k ∈ d.held ∨ d.Binds k := by
  rcases List.mem_append.1 hs with hs | hs
  · obtain ⟨p, hp, rfl⟩ := List.mem_map.1 hs
    rw [Parameter.sample_eq] at hk
    rcases List.mem_append.1 hp with hp | hp
    · have hinput : p ∈ d.inputs := by
        rcases List.mem_append.1 hp with hp | hp <;> exact (List.mem_filter.1 hp).1
      exact Or.inr ⟨p, hinput, hk⟩
    · exact Or.inl (mem_held_of_import hp hk)
  · obtain ⟨t, ht, rfl⟩ := List.mem_map.1 hs
    refine Or.inl (mem_held_of_target ht ?_)
    -- whichever of its buffers is sampled, the target holds it
    have hslot : t.current = some k ∨ t.previous = some k := by
      unfold Target.sample at hk
      dsimp only at hk
      split at hk
      · exact Or.inl hk
      · split at hk
        · exact Or.inr hk
        · cases hk
    rcases hslot with hslot | hslot <;> simp [Target.buffers, hslot]

end Document

namespace Studio

namespace Films

variable {device : Device σ} {now : Moment} {renderSize : Size} {s begun ready : Studio σ}
  {c : CompiledProgram} {shots : List Shot}

/-- What the document holds during a pass is handed out. -/
theorem held_le (h : Films device now renderSize s begun ready c shots) (hs : s.Sound) {i : Nat}
    {shot : Shot} (hi : shots[i]? = some shot) : shot.document.held ≤ shot.pool.used := by
  have hready := hs.of_ready h.begins h.readies
  obtain ⟨t, hlends, hdocument, hpool⟩ := h.onlyLends hs.consistent hs.wellFormed hi
  have hheld {d : Document} : d.held = d.lent + (d.kept + d.imported) := by
    rw [Document.held, add_assoc, add_left_comm]
  have hkept : t.document.kept = ready.document.kept := by
    rw [Document.kept, hlends.persistent, Document.kept]
  have himported : t.document.imported = ready.document.imported := by
    rw [Document.imported, hlends.parameters, Document.imported]
  have htrades := hlends.trades.add_right (ready.document.kept + ready.document.imported)
  rw [hdocument, hpool, hheld, hkept, himported]
  refine htrades.used_le ?_
  rw [← hheld]
  exact hready.held

/-- **What a pass uses is held by the document, or an input is bound to it.** -/
theorem binds (h : Films device now renderSize s begun ready c shots) (hs : s.Sound) {i : Nat}
    {shot : Shot} (hi : shots[i]? = some shot) {k : Handle} (hk : k ∈ shot.handles)
    (hnot : k ∉ shot.document.held) : s.document.Binds k := by
  have hinputs := (h.document hs.consistent hs.wellFormed hi).2
  rcases List.mem_append.1 hk with hk | hk
  · obtain ⟨s₀, s₁, name, handle, buffer, size, -, hlending, -, -, rfl⟩ := h.exists_before hi
    obtain rfl : handle = some k := Option.mem_toList.1 hk
    have hname : name ≠ "" := by
      generalize hr : (some k, size) = r at hlending
      cases hlending with
      | output => cases hr
      | found _ hname => exact hname
      | lent _ _ _ hname => exact hname
    -- the pass draws into the buffer that its target holds
    obtain ⟨t, ht, hcurrent⟩ := Option.bind_eq_some_iff.1 (hlending.currentOf?_eq hname)
    have hbuffers : k ∈ t.buffers := by simp [Target.buffers, hcurrent]
    exact absurd (Document.mem_held_of_target (List.mem_of_find?_eq_some ht) hbuffers) hnot
  · obtain ⟨sample, hsample, hhandle⟩ := List.mem_filterMap.1 hk
    obtain ⟨p, hp, hbinding⟩ :=
      (Document.held_or_binds_of_sample hsample hhandle).resolve_left hnot
    exact ⟨p, hinputs ▸ hp, hbinding⟩

end Films

end Studio

/-! ### What is left after a few rounds -/

namespace Rendered

/-- What the device was asked for, told and answered in a frame. -/
def calls (r : Rendered σ) : List DeviceCall :=
  r.after.supply.device.calls.drop r.before.supply.device.calls.length

/-- **What a frame has used outlasts rounds of housekeeping**, unless the pool had it idle before
the frame, and the host had bound an input to it. -/
structure Lasts (device : Device σ) (now : Moment) (rounds : Nat) (shots : List Shot)
    (r : Rendered σ) : Prop where
  /-- The passes that the frame reports. -/
  passes : r.passes = shots.map Shot.report
  /-- What the device was told to draw. -/
  draws : ∃ program clock, r.draws = shots.map (Shot.commands program clock)
  /-- The passes can be repeated one by one. -/
  shotAt : ∀ (i : Nat) (shot : Shot), shots[i]? = some shot →
    ∃ s', Studio.shotAt device.observed now r.renderSize i r.before = .ok shot s'
  /-- What targets and imported images hold during a pass is spared. -/
  held : ∀ shot ∈ shots, ∀ k ∈ shot.document.held, r.after.supply.pool.Spares rounds k
  /-- What they hold in the end is spared. -/
  kept : ∀ k ∈ r.after.document.held, r.after.supply.pool.Spares rounds k
  /-- Whatever else a pass uses is bound to an input, and is spared if it was handed out before. -/
  bound : ∀ shot ∈ shots, ∀ k ∈ shot.handles, k ∉ shot.document.held →
    r.before.document.Binds k ∧
      (r.before.supply.pool.isInUse k = true → r.after.supply.pool.Spares rounds k)

section

variable {device : Device σ} {now : Moment} {renderSize : Size} {s : Studio (Observed σ)}

/-- A complete frame goes through all stages. -/
theorem exists_stages (hs : s.Sound)
    (hcomplete : (ofFrame device now renderSize s).isComplete = true) :
    ∃ begun ready drawn rested c shots,
      Studio.Stages device.observed now renderSize s begun ready drawn rested
        (ofFrame device now renderSize s).after c shots ∧
      (ofFrame device now renderSize s).passes = shots.map Shot.report := by
  unfold ofFrame at hcomplete ⊢
  rcases hr : Studio.renderFrame device.observed now renderSize s with
    ⟨report, s'⟩ | ⟨failure, s'⟩
  · exact Studio.exists_stages hs.consistent hs.wellFormed hs.rests hr
  · rw [hr] at hcomplete
    cases hcomplete

/-- What is true of all calls that a frame adds. -/
theorem forall_calls {P : DeviceCall → Prop}
    (h : Adds P s.supply.device (ofFrame device now renderSize s).after.supply.device) :
    ∀ call ∈ (ofFrame device now renderSize s).calls, P call := by
  obtain ⟨calls, heq, hP⟩ := h
  rw [Rendered.calls, before_ofFrame, heq, List.drop_left]
  exact hP

/-- No round passes in a frame, and what was given back lately stays so. -/
theorem retains (device : Device σ) (now : Moment) (renderSize : Size) (s : Studio (Observed σ))
    (since : Nat) :
    Retains since s.supply.pool (ofFrame device now renderSize s).after.supply.pool := by
  have hstable := stable_retains since
  rw [after_ofFrame]
  exact hstable.kept.renderFrame (hstable.acquire device.observed)
    (fun _ t => .refl since t.pool) (hstable.loadImport device.observed)
    (fun _ t => .refl since t.pool) now renderSize s

end

end Rendered

namespace Studio.Stages

variable {device : Device σ} {now : Moment} {renderSize : Size}
  {s begun ready drawn rested s' : Studio σ} {c : CompiledProgram} {shots : List Shot}

/-- What the document holds during a pass was given back lately, if at all. -/
theorem recent_of_held (h : Stages device now renderSize s begun ready drawn rested s' c shots)
    (hs : s.Sound) {shot : Shot} (hshot : shot ∈ shots) {k : Handle}
    (hk : k ∈ shot.document.held) : s'.supply.pool.Recent s'.supply.pool.round k := by
  obtain ⟨i, hi⟩ := List.mem_iff_getElem?.1 hshot
  obtain ⟨t, hlends, -, hpool⟩ := h.films.onlyLends hs.consistent hs.wellFormed hi
  have hused := Multiset.mem_of_le (h.films.held_le hs hi) hk
  rw [hpool] at hused
  have hrecent : shot.pool.Recent shot.pool.round k := by
    rw [hpool]
    exact .of_isInUse ((mem_used hlends.trades.consistent).1 hused)
  -- the passes behind it, and what is given back then, change nothing about that
  obtain ⟨-, ⟨hround, -⟩, hretains⟩ := (stable_retains shot.pool.round).shots h.draws shot hshot
    (hpool ▸ hlends.trades.consistent)
  refine h.recent hs ?_
  rw [hround]
  exact hretains le_rfl k hrecent

/-- **A scene is still settled after a few rounds of housekeeping.** -/
theorem afterRounds {device : Device σ} {s begun ready drawn rested s' : Studio (Observed σ)}
    (h : Stages device.observed now renderSize s begun ready drawn rested s' c shots)
    (hs : s.Sound) (hcalm : s.document.Calm) {rounds : Nat}
    (hfew : rounds < max 1 s'.supply.pool.settings.maxIdle) {t : Studio (Observed σ)}
    (hscene : t.scene = s'.scene) (hdocument : t.document = s'.document)
    (hpool : t.supply.pool = s'.supply.pool.afterRounds rounds) :
    t.Sound ∧ t.document.Calm ∧ t.Settled renderSize := by
  have hs' := hs.frames (h.frames hs.consistent hs.wellFormed hs.rests)
  obtain ⟨hsettled, hcalm', -⟩ := h.settled hs hcalm
  have hoffers := h.offers hs
  have htrades := trades_afterRounds hs'.consistent 0 rounds
  have hheld := htrades.add_right s'.document.held
  rw [zero_add] at hheld
  have hsound : t.Sound := by
    refine ⟨hpool ▸ htrades.consistent, hdocument ▸ hs'.wellFormed, hdocument ▸ hs'.rests, ?_⟩
    rw [hdocument, hpool]
    exact hheld.used_le hs'.held
  have hprogram : t.hasProgram = s'.hasProgram := by
    rw [hasProgram, hasProgram, programKey, programKey, hscene, hdocument]
  refine ⟨hsound, hdocument ▸ hcalm', hdocument ▸ hsettled.sized, hdocument ▸ hsettled.loaded,
    hprogram.trans hsettled.programmed, ?_, ?_⟩
  · rw [hdocument, hpool]
    intro u hu
    obtain ⟨a, b, ha, hb, hda, hdb⟩ := hsettled.filled u hu
    -- what targets hold is handed out, which is none of the business of housekeeping
    have hknown {k : Handle} (hk : k ∈ u.buffers) :
        (s'.supply.pool.afterRounds rounds).descriptor? k = s'.supply.pool.descriptor? k := by
      have hmem := Document.mem_held_of_target (List.mem_append_left _ hu) hk
      exact (descriptor?_congr (htrades.find?_of_mem (by rw [zero_add]; exact hs'.held) hmem)).1
    refine ⟨a, b, ha, hb, (hknown ?_).trans hda, (hknown ?_).trans hdb⟩
    · simp [Target.buffers, ha]
    · simp [Target.buffers, hb]
  · rw [hdocument, hpool]
    exact (hoffers.afterRounds hs'.consistent hfew).le_stock htrades.consistent

/-- **What a complete frame has used outlasts a few rounds of housekeeping.** -/
theorem lasts {device : Device σ} {s begun ready drawn rested : Studio (Observed σ)}
    (h : Stages device.observed now renderSize s begun ready drawn rested
      (Rendered.ofFrame device now renderSize s).after c shots)
    (hpasses : (Rendered.ofFrame device now renderSize s).passes = shots.map Shot.report)
    (hs : s.Sound) {rounds : Nat} (hfew : rounds < max 1 s.supply.pool.settings.maxIdle) :
    (Rendered.ofFrame device now renderSize s).Lasts device now rounds shots := by
  have hs' := hs.frames (h.frames hs.consistent hs.wellFormed hs.rests)
  obtain ⟨-, ⟨hround, hsettings⟩, hretains⟩ :=
    Rendered.retains device now renderSize s s.supply.pool.round hs.consistent
  set p := (Rendered.ofFrame device now renderSize s).after.supply.pool
  rw [← hsettings] at hfew
  have hspares {k : Handle} (hk : p.Recent p.round k) : p.Spares rounds k :=
    (hk.afterRounds hs'.consistent hfew).1
  refine ⟨hpasses, ⟨c.program, ready.scene.clock now, ?_⟩, fun i shot hi => ?_,
    fun shot hshot k hk => hspares (h.recent_of_held hs hshot hk), fun k hk => ?_,
    fun shot hshot k hk hnot => ⟨?_, fun huse => ?_⟩⟩
  · have htold := (told_of_ready h.begins h.readies).trans h.draws.told
    rw [List.nil_append, ← h.device_eq] at htold
    exact (Rendered.draws_eq (by rw [Rendered.before_ofFrame]; exact htold)).trans
      (draws_shots _ _ shots)
  · rw [Rendered.before_ofFrame, Rendered.renderSize_ofFrame]
    exact h.films.shotAt_eq hi
  · exact hspares (.of_isInUse ((mem_used hs'.consistent).1 (Multiset.mem_of_le hs'.held hk)))
  · obtain ⟨i, hi⟩ := List.mem_iff_getElem?.1 hshot
    rw [Rendered.before_ofFrame]
    exact h.films.binds hs hi hk hnot
  · rw [Rendered.before_ofFrame] at huse
    refine hspares ?_
    rw [hround]
    exact hretains le_rfl k (.of_isInUse huse)

end Studio.Stages

/-! ### Routines -/

namespace Session

/-- Frames of one size, each followed by a number of rounds of housekeeping. -/
def routine (renderSize : Size) (turns : List (Moment × Nat)) : List Move :=
  turns.flatMap fun turn =>
    .frame turn.1 renderSize :: List.replicate turn.2 (.elsewhere .housekeep)

variable {device : Device σ} {renderSize : Size}

/-- Rounds of housekeeping are no business of the scene and its document. -/
theorem moved_rounds (device : Device σ) (rounds : Nat) (s : Session σ) :
    (moved device (List.replicate rounds (.elsewhere .housekeep)) s).frames = s.frames ∧
      (moved device (List.replicate rounds (.elsewhere .housekeep)) s).studio.scene =
        s.studio.scene ∧
      (moved device (List.replicate rounds (.elsewhere .housekeep)) s).studio.document =
        s.studio.document ∧
      (moved device (List.replicate rounds (.elsewhere .housekeep)) s).studio.supply.pool =
        s.studio.supply.pool.afterRounds rounds := by
  induction rounds with
  | zero => exact ⟨rfl, rfl, rfl, rfl⟩
  | succ rounds ih =>
      obtain ⟨hframes, hscene, hdocument, hpool⟩ := ih
      rw [List.replicate_succ', moved_concat]
      exact ⟨hframes, hscene, hdocument, congrArg (fun p => p.evict.2) hpool⟩

/-- The last turn of a routine. -/
theorem moved_routine_concat (device : Device σ) (turns : List (Moment × Nat))
    (turn : Moment × Nat) (s : Session σ) :
    moved device (routine renderSize (turns ++ [turn])) s =
      moved device (List.replicate turn.2 (.elsewhere .housekeep))
        (move device (moved device (routine renderSize turns) s) (.frame turn.1 renderSize)) := by
  simp [routine, moved]

/-- **What is true in a routine**: everything is as the next frame needs it, and frames have asked
for nothing but the first one. -/
structure Settles (device : Device σ) (renderSize : Size) (pool : PoolSettings)
    (turns : List (Moment × Nat)) (s : Session σ) : Prop where
  sound : s.studio.Sound
  calm : s.studio.document.Calm
  settings : s.studio.supply.pool.settings = pool
  settled : turns ≠ [] → s.studio.Settled renderSize
  lasts : List.Forall₂ (fun turn r => ∃ shots, r.Lasts device turn.1 turn.2 shots) turns s.frames
  calls : ∀ r ∈ s.frames.tail, ∀ call ∈ r.calls, ∃ command, call = .command command

/-- A complete frame and a few rounds of housekeeping go on with a routine. -/
theorem Settles.concat {pool : PoolSettings} {turns : List (Moment × Nat)} {s : Session σ}
    (h : s.Settles device renderSize pool turns) {turn : Moment × Nat}
    (hfew : turn.2 < max 1 pool.maxIdle)
    (hcomplete : (Rendered.ofFrame device turn.1 renderSize s.studio).isComplete = true) :
    (moved device (List.replicate turn.2 (.elsewhere .housekeep))
      (move device s (.frame turn.1 renderSize))).Settles device renderSize pool
        (turns ++ [turn]) := by
  obtain ⟨hframes, hscene, hdocument, hpool⟩ :=
    moved_rounds device turn.2 (move device s (.frame turn.1 renderSize))
  obtain ⟨begun, ready, drawn, rested, c, shots, hstages, hpasses⟩ :=
    Rendered.exists_stages h.sound hcomplete
  obtain ⟨-, ⟨-, hsettings⟩, -⟩ := Rendered.retains device turn.1 renderSize s.studio 0
    h.sound.consistent
  have hafter : (Rendered.ofFrame device turn.1 renderSize s.studio).after.supply.pool.settings =
      pool := hsettings.trans h.settings
  obtain ⟨hsound, hcalm, hsettled⟩ := hstages.afterRounds h.sound h.calm
    (by rw [hafter]; exact hfew) hscene hdocument hpool
  have hlasts := hstages.lasts hpasses h.sound (by rw [h.settings]; exact hfew)
  refine ⟨hsound, hcalm, ?_, fun _ => hsettled, ?_, ?_⟩
  · rw [hpool]
    exact (round_afterRounds _ _).2.trans hafter
  · rw [hframes]
    exact List.rel_append h.lasts (.cons ⟨shots, hlasts⟩ .nil)
  · rw [hframes]
    intro r hr
    cases hfs : s.frames with
    | nil =>
        rw [move_frame, hfs] at hr
        cases hr
    | cons first others =>
        rw [move_frame, hfs] at hr
        rcases List.mem_append.1 hr with hr | hr
        · exact h.calls r (by rw [hfs]; exact hr)
        · -- there was a frame before this one, so the scene has settled
          have hsome : turns ≠ [] := by
            rintro rfl
            have hlength := h.lasts.length_eq
            rw [hfs] at hlength
            cases hlength
          rw [List.mem_singleton.1 hr]
          exact Rendered.forall_calls ((h.settled hsome).adds_commands h.sound hstages)

/-- **A routine goes on and on**, if its frames are completed. -/
theorem settles_routine (device : Device σ) (renderSize : Size) {s : Session σ}
    (hs : s.studio.Sound) (hcalm : s.studio.document.Calm) (hnone : s.frames = [])
    {turns : List (Moment × Nat)}
    (hfew : ∀ turn ∈ turns, turn.2 < max 1 s.studio.supply.pool.settings.maxIdle)
    (hcomplete : ∀ r ∈ (moved device (routine renderSize turns) s).frames, r.isComplete = true) :
    (moved device (routine renderSize turns) s).Settles device renderSize
      s.studio.supply.pool.settings turns := by
  -- the turns are taken off at the end, where the last one finds a scene that has settled
  induction turns using List.reverseRecOn with
  | nil =>
      refine ⟨hs, hcalm, rfl, fun h => absurd rfl h, ?_, fun r hr => ?_⟩
      · rw [routine, List.flatMap_nil]
        exact hnone ▸ .nil
      · rw [routine, List.flatMap_nil] at hr
        have hr' : r ∈ s.frames.tail := hr
        rw [hnone] at hr'
        cases hr'
  | append_singleton turns turn ih =>
      rw [moved_routine_concat] at hcomplete ⊢
      rw [(moved_rounds device turn.2 _).1, move_frame] at hcomplete
      refine Settles.concat (ih ?_ ?_) (hfew turn ?_) (hcomplete _ ?_)
      · exact fun a ha => hfew a (List.mem_append_left _ ha)
      · exact fun r hr => hcomplete r (List.mem_append_left _ hr)
      · exact List.mem_append_right _ (List.mem_singleton_self turn)
      · exact List.mem_append_right _ (List.mem_singleton_self _)

/-- **A routine asks the device for nothing new after the first frame**, and what a frame has used
outlasts the rounds of housekeeping behind it, whatever has happened to the scene, to its document
and to the pool before. -/
theorem routine_asks_for_nothing (device : Device σ) (d : {d : Document // d.Opened})
    (settings : SceneSettings) (started : Nat) (pool : PoolSettings) (state : σ)
    (before : List Move) (renderSize : Size) (turns : List (Moment × Nat)) {s : Session σ}
    (hs : s = ⟨(moved device before (start d.1 settings started pool state)).studio, []⟩)
    (hheld : s.studio.document.held ≤ s.studio.supply.pool.used) (hcalm : s.studio.document.Calm)
    (hfew : ∀ turn ∈ turns, turn.2 < max 1 s.studio.supply.pool.settings.maxIdle)
    (hcomplete : ∀ r ∈ (moved device (routine renderSize turns) s).frames,
      r.isComplete = true) :
    List.Forall₂ (fun turn r => ∃ shots, r.Lasts device turn.1 turn.2 shots) turns
        (moved device (routine renderSize turns) s).frames ∧
      ∀ r ∈ (moved device (routine renderSize turns) s).frames.tail,
        ∀ call ∈ r.calls, ∃ command, call = .command command := by
  have hsteady : s.studio.Steady := by
    rw [hs]
    exact (steady_moved device (steady_start d.2 settings started pool state) before).1
  have hsound : s.studio.Sound :=
    ⟨hsteady.consistent, hsteady.wellFormed, hsteady.rests, hheld⟩
  have hsettles := settles_routine device renderSize hsound hcalm (hs ▸ rfl) hfew hcomplete
  exact ⟨hsettles.lasts, hsettles.calls⟩

/-- An effect with an image as its input and another one that is imported, a persistent target and a
temporary one. -/
def collageText : String :=
  "/*\x7b\"INPUTS\":[\x7b\"NAME\":\"i\",\"TYPE\":\"image\"\x7d]," ++
    "\"IMPORTED\":\x7b\"paper\":\x7b\"PATH\":\"paper.png\"\x7d\x7d,\"PASSES\":[" ++
    "\x7b\"TARGET\":\"a\",\"PERSISTENT\":true\x7d,\x7b\"TARGET\":\"b\"\x7d,\x7b\x7d]\x7d*/"

/-- The effect as a document. -/
def collage : {d : Document // d.Opened} := ⟨_, .ofTextsLenient collageText none "/"⟩

/-- A device that knows the imported image. -/
def collageDevice : Recorder :=
  Recorder.fresh.setImage "/paper.png" (some ⟨⟨4, 4⟩, .rgba8, .flat⟩)

/-- A host binds the input to a buffer that it has given back. -/
def collageBefore : List Move :=
  [.elsewhere (.adopt ⟨⟨4, 4⟩, .rgba8, .rectangle⟩ ⟨90⟩), .elsewhere (.release ⟨1⟩),
    .elsewhere .housekeep, .change "i" (.bind (some ⟨⟨1⟩, ⟨⟨4, 4⟩, .rgba8, .rectangle⟩, false⟩))]

/-- Where the host leaves the session to its routine. -/
def collageSession : Session Recorder :=
  ⟨(moved Recorder.device collageBefore
    (start collage.1 .standard 0 ⟨2⟩ collageDevice)).studio, []⟩

/-- Three frames, the first two of which are followed by housekeeping. -/
def collageTurns : List (Moment × Nat) :=
  [(.ofNanoseconds 0, 1), (.ofNanoseconds 1, 1), (.ofNanoseconds 2, 0)]

/-- What the routine starts with, and how its frames go. -/
theorem collage_ready :
    let s := collageSession.studio
    s.document.held ≤ s.supply.pool.used ∧ (∀ p ∈ s.document.parameters, p.current ≠ .event true) ∧
      (∀ turn ∈ collageTurns, turn.2 < max 1 s.supply.pool.settings.maxIdle) ∧
      (moved Recorder.device (routine ⟨8, 8⟩ collageTurns) collageSession).frames.map
        Rendered.isComplete = [true, true, true] := by
  decide +kernel

/-- **All three frames are completed**, the second and the third of them with nothing new. -/
theorem routine_asks_for_nothing_collage :
    ((moved Recorder.device (routine ⟨8, 8⟩ collageTurns) collageSession).frames.map
        Rendered.isComplete = [true, true, true]) ∧
      List.Forall₂ (fun turn r => ∃ shots, r.Lasts Recorder.device turn.1 turn.2 shots) collageTurns
        (moved Recorder.device (routine ⟨8, 8⟩ collageTurns) collageSession).frames ∧
      ∀ r ∈ (moved Recorder.device (routine ⟨8, 8⟩ collageTurns) collageSession).frames.tail,
        ∀ call ∈ r.calls, ∃ command, call = .command command := by
  obtain ⟨hheld, hcalm, hfew, hcomplete⟩ := collage_ready
  refine ⟨hcomplete, routine_asks_for_nothing Recorder.device collage .standard 0 ⟨2⟩ collageDevice
    collageBefore ⟨8, 8⟩ collageTurns rfl hheld hcalm hfew fun r hr => ?_⟩
  have hmem := List.mem_map_of_mem (f := Rendered.isComplete) hr
  rw [hcomplete] at hmem
  simpa using hmem

/-- **A buffer that an input is bound to may go**: the pool has handed nothing out before the first
frame, no event is pending, all frames are completed, with few enough rounds of housekeeping in
between, and yet one of these destroys the buffer that the first frame has sampled in all its
passes. -/
theorem destroys_borrowed_buffer :
    let s := collageSession.studio
    let t := moved Recorder.device (routine ⟨8, 8⟩ collageTurns) collageSession
    (s.supply.pool.inUseCount = 0 ∧ (∀ p ∈ s.document.parameters, p.current ≠ .event true) ∧
      (∀ turn ∈ collageTurns, turn.2 < max 1 s.supply.pool.settings.maxIdle) ∧
      t.frames.map Rendered.isComplete = [true, true, true]) ∧
    (t.frames.map fun r => r.draws.map (boundTo? · "i")) =
      [List.replicate 3 (some (some ⟨90⟩)), List.replicate 3 (some none),
        List.replicate 3 (some none)] ∧
    t.studio.supply.device.state.destroyed = [⟨90⟩] := by
  decide +kernel

end Session

end ShaderEffect
