/-
**What failures leave alone, and what complete frames count.**

A frame can fail at many places, and at each of them something has been changed already: sizes are
stored, images loaded, a program compiled, slots refreshed, passes drawn.  But what has a meaning
beyond the frame is changed at its end only, when nothing can fail any more: the scene counts the
frame, events are over, and persistent targets exchange their buffers.  So a frame that fails leaves
all of this as it was, and the frames that are completed are counted without gaps, whatever has
failed between them.

Main definitions:

* `ShaderEffect.Failure.precedesBuffers` — causes that lie before buffers are allocated;
* `ShaderEffect.Rendered.Spares` — **what a frame that has failed leaves alone**;
* `ShaderEffect.Rendered.Counts` — a complete frame, with its number;
* `ShaderEffect.Session.Orderly` — both, for all frames that a scene has rendered or can render now.

Main results:

* `ShaderEffect.Studio.ends_untilBuffers_failure` — how a frame fails before buffers are allocated;
* `ShaderEffect.Rendered.spares` — **every frame that fails**;
* `ShaderEffect.Rendered.counts` — every complete frame;
* `ShaderEffect.Session.failures_spare` — **what holds of every run**.
-/

import ShaderEffect.Proofs.Scene.Accounts
import ShaderEffect.Proofs.Scene.Refreshing

set_option autoImplicit false

namespace ShaderEffect

open Pool Supply Observed

variable {σ : Type}

/-! ### Causes -/

/-- Whether the cause of a failure lies before buffers are allocated: the document could not be
read, an expression has no value, a pass names a target that is not declared, an image cannot be
loaded, or there is no program. -/
def Failure.precedesBuffers : Failure → Bool
  | .configuration (.notLoaded _ _) => true
  | .configuration (.undeclaredTarget _ _) => true
  | .eval _ _ => true
  | .fileIo _ _ => true
  | .generation _ => true
  | .device (.compile _ _) => true
  | _ => false

namespace Document

variable {d : Document} {failure : Failure}

/-- Sizes that cannot be given fail in an expression. -/
theorem exists_of_resolve_error {t : Target} {env : Environment}
    (h : t.resolve env = .error failure) : ∃ source fault, failure = .eval source fault := by
  have hextent {expression : Option String} {axis : Axis} {f : Failure}
      (h : Target.extent expression env axis = .error f) :
      ∃ source fault, f = .eval source fault := by
    unfold Target.extent at h
    cases expression with
    | none => cases h
    | some source =>
      dsimp only [Target.pixels] at h
      split at h
      · cases h
        exact ⟨_, _, rfl⟩
      · split at h
        · cases h
          exact ⟨_, _, rfl⟩
        · cases h
  unfold Target.resolve at h
  split at h
  · rename_i hw
    cases h
    exact hextent hw
  · split at h
    · rename_i hh
      cases h
      exact hextent hh
    · cases h

theorem exists_of_resize_error {renderSize : Size} (h : d.resize renderSize = .error failure) :
    ∃ source fault, failure = .eval source fault := by
  have hall {env : Environment} {ts : List Target} {f : Failure}
      (h : resizeAll env ts = .error f) : ∃ source fault, f = .eval source fault := by
    induction ts with
    | nil => cases h
    | cons t ts ih =>
      rw [resizeAll, Target.evaluate] at h
      cases hsize : t.resolve env with
      | error failure =>
        rw [hsize] at h
        cases h
        exact exists_of_resolve_error hsize
      | ok size =>
        rw [hsize] at h
        cases hrest : resizeAll env ts with
        | error failure =>
          rw [hrest] at h
          cases h
          exact ih hrest
        | ok us =>
          rw [hrest] at h
          cases h
  unfold resize at h
  dsimp only at h
  split at h
  · rename_i hpersistent
    cases h
    exact hall hpersistent
  · split at h
    · rename_i htemporary
      cases h
      exact hall htemporary
    · cases h

end Document

/-- An image is not loaded because the device cannot load it. -/
theorem ends_loadImport_failure (device : Device σ) {p : Parameter}
    (hp : p.isImport = true → p.kind = .image) (s : Supply σ) :
    Ends (fun _ _ => True) (fun failure _ => ∃ path fault, failure = .fileIo path fault)
      (loadImport device (p, s)) := by
  unfold loadImport
  dsimp only
  split
  · rename_i path hpath _
    have himport : p.isImport = true := by simp [Parameter.isImport, hpath]
    rcases device.loadImage path s.device with ⟨⟨b, d⟩, state⟩ | ⟨fault, state⟩
    · have hbind : p.bind (some ⟨(s.pool.adopt d b).1, d, false⟩) =
          .ok { p with current := .image (some ⟨(s.pool.adopt d b).1, d, false⟩) } := by
        simp [Parameter.bind, Value.ofBinding?, hp himport]
      dsimp only
      rw [hbind]
      trivial
    · exact ⟨path, fault, rfl⟩
  · trivial

namespace Studio

/-- A program that is not compiled cannot be generated, or is refused by the device. -/
theorem ends_ensureProgram_failure (device : Device σ) (s : Studio σ) :
    Ends (fun _ _ => True)
      (fun failure _ => (∃ fault, failure = .generation fault) ∨
        ∃ document reason, failure = .device (.compile document reason))
      (ensureProgram device s) := by
  unfold ensureProgram compile
  split
  · trivial
  · unfold Document.generate
    dsimp only
    cases s.document.programInterface.generate s.scene.settings.dialect
        s.scene.settings.uniformBlock s.document.source.body s.document.vertex with
    | error fault => exact Or.inl ⟨fault, rfl⟩
    | ok source =>
      dsimp only
      cases device.compile source s.supply.device with
      | error reason state => exact Or.inr ⟨_, reason, rfl⟩
      | ok program state => trivial

/-- What is left by a failure before buffers are allocated: if an expression has failed, nothing has
been changed. -/
structure Precedes (s : Studio σ) (failure : Failure) (t : Studio σ) : Prop where
  cause : failure.precedesBuffers = true
  eval : ∀ source fault, failure = .eval source fault → t = s

/-- **How a frame fails before buffers are allocated.** -/
theorem ends_untilBuffers_failure (device : Device σ) (renderSize : Size) {s : Studio σ}
    (hd : s.document.WellFormed) :
    Ends (fun _ _ => True) (Precedes s) (untilBuffers device renderSize s) := by
  have hcheck : Ends (fun _ t => t = s) (Precedes s) (checkLoaded s) := by
    unfold checkLoaded
    cases s.document.failure with
    | none => exact rfl
    | some failure => exact ⟨rfl, fun _ _ h => by cases h⟩
  refine Ends.bind hcheck ?_
  rintro _ t rfl
  have hresize : Ends
      (fun _ u => ∃ d, t.document.resize renderSize = .ok d ∧ u = { t with document := d })
      (Precedes t) (resize renderSize t) := by
    unfold resize
    cases h : t.document.resize renderSize with
    | ok d => exact ⟨d, rfl, rfl⟩
    | error failure =>
      obtain ⟨source, fault, rfl⟩ := Document.exists_of_resize_error h
      exact ⟨rfl, fun _ _ _ => rfl⟩
  refine Ends.bind hresize ?_
  rintro _ _ ⟨d, hresize, rfl⟩
  -- from here on no expression is evaluated
  have hparameters : d.parameters = t.document.parameters := by
    obtain ⟨_, _, -, -, rfl⟩ := Document.resize_eq_ok_iff.1 hresize
    rfl
  have hpasses : Ends (fun _ u => u = { t with document := d }) (Precedes t)
      (checkPasses { t with document := d }) := by
    unfold checkPasses
    cases d.undeclaredPass? 0 d.passes.order with
    | none => exact rfl
    | some x => exact ⟨rfl, fun _ _ h => by cases h⟩
  refine Ends.bind hpasses ?_
  rintro _ _ rfl
  have himports : Ends (fun _ _ => True) (Precedes t)
      (onParameters (loadImport device) { t with document := d }) := by
    have hwork (p : Parameter) (hp : p ∈ d.parameters) (u : Supply σ) :=
      ends_loadImport_failure device (hd.parameters.imports p (hparameters ▸ hp)) u
    have heach := ends_eachOf_rest (loadImport device) (I := fun _ => True)
      (P := fun failure _ => ∃ path fault, failure = .fileIo path fault) d.parameters
      (fun p hp u _ => hwork p hp u) (s := t.supply) trivial
    unfold onParameters
    rcases hr : eachOf (loadImport device) (d.parameters, t.supply) with
      ⟨_, ps, u⟩ | ⟨failure, ps, u⟩
    · trivial
    · rw [hr] at heach
      obtain ⟨path, fault, rfl⟩ := heach
      exact ⟨rfl, fun _ _ h => by cases h⟩
  refine Ends.bind himports ?_
  intro _ u _
  refine (ends_ensureProgram_failure device u).mono (fun _ _ h => h) ?_
  rintro _ v (⟨fault, rfl⟩ | ⟨document, reason, rfl⟩)
  · exact ⟨rfl, fun _ _ h => by cases h⟩
  · exact ⟨rfl, fun _ _ h => by cases h⟩

/-! ### The scene -/

/-- **Before the passes are drawn, only the program of a scene changes.** -/
theorem scene_prepare (device : Device σ) (renderSize : Size) (s : Studio σ) :
    (remains (prepare device renderSize s)).scene =
      { s.scene with compiled := (remains (prepare device renderSize s)).scene.compiled } := by
  let R (s t : Studio σ) : Prop := t.scene = { s.scene with compiled := t.scene.compiled }
  have hsame {s t : Studio σ} (h : t.scene = s.scene) : R s t := by
    show t.scene = _
    rw [h]
  have htrans (s t u : Studio σ) (h : R s t) (h' : R t u) : R s u := by
    show u.scene = _
    rw [show u.scene = _ from h', show t.scene = _ from h]
  have hloaded (s : Studio σ) : R s (remains (untilLoaded device renderSize s)) := by
    have hends := ends_untilLoaded device renderSize s
    rcases hr : untilLoaded device renderSize s with ⟨_, t⟩ | ⟨failure, t⟩
    all_goals
      rw [hr] at hends
      exact hsame hends.scene
  have hprogram (s : Studio σ) : R s (remains (ensureProgram device s)) := by
    unfold ensureProgram compile
    split
    · exact hsame rfl
    · cases s.document.generate s.scene.settings with
      | error failure => exact hsame rfl
      | ok source =>
        dsimp only
        cases device.compile source s.supply.device <;> exact rfl
  have hbuffers (s : Studio σ) : R s (remains (onPersistent (ensureBuffers device) s)) := by
    unfold onPersistent
    cases eachOf (ensureBuffers device) (s.document.passes.persistent, s.supply) <;>
      exact hsame rfl
  rw [prepare_eq, untilBuffers_eq, bind_assoc]
  exact remains_bind htrans (hloaded s) fun _ t =>
    remains_bind htrans (hprogram t) fun _ u => hbuffers u

end Studio

/-! ### Frames that fail -/

namespace Rendered

/-- **What a frame that has failed leaves alone.** -/
structure Spares (r : Rendered σ) (failure : Failure) : Prop where
  /-- Of the scene only the program may have changed, so that it counts the same frames. -/
  scene : r.after.scene = { r.before.scene with compiled := r.after.scene.compiled }
  /-- All inputs have the values that they had. -/
  inputs : r.after.document.inputs = r.before.document.inputs
  /-- Persistent targets have been refreshed, and their buffers have not been exchanged. -/
  persistent : List.Forall₂ (Target.Refreshed r.before.supply.pool r.after.supply.pool)
    r.before.document.passes.persistent r.after.document.passes.persistent
  /-- The cause lies before buffers are allocated, or the device has refused to make one. -/
  cause : failure.precedesBuffers = true ∨ ∃ size reason, failure = .device (.create size reason)
  /-- A cause that lies before has left all slots of targets as they were, and nothing has been told
  the device. -/
  early : failure.precedesBuffers = true →
    r.after.document.passes.targets.map Target.slots =
        r.before.document.passes.targets.map Target.slots ∧
      Told [] r.before.supply.device r.after.supply.device
  /-- If an expression has failed, targets have the sizes that they had. -/
  sizes : ∀ source fault, failure = .eval source fault →
    r.after.document.passes = r.before.document.passes

variable {device : Device σ} {now : Moment} {renderSize : Size} {s : Studio (Observed σ)}

/-- A frame that has failed before drawing. -/
theorem spares_of_prepare_error {failure : Failure} {t : Studio (Observed σ)} (hs : s.Steady)
    (h : Studio.prepare device.observed renderSize s = .error failure t) :
    Spares ⟨s, renderSize, .error failure, t⟩ failure := by
  have hscene := Studio.scene_prepare device.observed renderSize s
  have hrefreshed := Studio.refreshed_prepare device.observed renderSize hs.consistent hs.wellFormed
  rw [h] at hscene hrefreshed
  rw [Studio.prepare_eq] at h
  rcases bind_eq_error h with hbegun | ⟨_, begun, hbegun, hready⟩
  · have hearly := Studio.ends_untilBuffers_failure device.observed renderSize hs.wellFormed
    rw [hbegun] at hearly
    have hbegins := Studio.begins_of_error hs.consistent hs.wellFormed hbegun
    obtain ⟨u, hloading, hdocument, -⟩ := Studio.exists_loading_of_error hbegun
    have hadds := Studio.adds_untilBuffers (P := fun c => c.command? = none) device
      (fun _ _ => rfl) (fun _ _ => rfl) renderSize s
    rw [hbegun] at hadds
    refine ⟨hscene, ?_, hrefreshed, Or.inl hearly.cause, fun _ => ⟨?_, Adds.told hadds⟩,
      fun source fault heq => ?_⟩
    · show t.document.inputs = _
      rw [hdocument, hloading.inputs]
    · show (t.document.passes.persistent ++ t.document.passes.temporary).map _ =
        (s.document.passes.persistent ++ s.document.passes.temporary).map _
      rw [List.map_append, List.map_append, hbegins.slots.1, hbegins.slots.2]
    · rw [hearly.eval source fault heq]
  · have hbegins := (Studio.begins_of_ok hs.consistent hs.wellFormed hbegun).1
    obtain ⟨⟨size, reason, rfl⟩, -⟩ := Studio.refusal_of_error hbegins.trades.consistent hready
    obtain ⟨u, -, hloading, -, hdocument, -⟩ := Studio.exists_loading_of_ok hbegun
    have hkeeps := Studio.ends_onPersistent device.observed hbegins.trades.consistent
    rw [hready] at hkeeps
    refine ⟨hscene, ?_, hrefreshed, Or.inr ⟨size, reason, rfl⟩, nofun, nofun⟩
    show t.document.inputs = _
    rw [Document.inputs, hkeeps.2.parameters, hdocument]
    exact hloading.inputs

/-- A frame that has failed while passes were drawn. -/
theorem spares_of_ready {failure : Failure} {ready rested : Studio (Observed σ)} (hs : s.Steady)
    (h : Studio.prepare device.observed renderSize s = .ok () ready)
    (hback : Studio.GivesBack ready rested)
    (hgrows : ready.supply.pool.Grows rested.supply.pool)
    (hfailure : ∃ size reason, failure = .device (.create size reason)) :
    Spares ⟨s, renderSize, .error failure, rested⟩ failure := by
  have hscene := Studio.scene_prepare device.observed renderSize s
  have hrefreshed := Studio.refreshed_prepare device.observed renderSize hs.consistent hs.wellFormed
  have hprepared := kept_grows.prepare (grows_loadImport device.observed)
    (fun _ _ => .refl _) (grows_acquire device.observed) renderSize s
  rw [h] at hscene hrefreshed hprepared
  obtain ⟨begun, hbegun, hready⟩ := Studio.exists_begun h
  obtain ⟨u, -, hloading, -, hparameters, -⟩ :=
    Studio.exists_loading_of_ready hs.consistent hs.wellFormed hbegun hready
  obtain ⟨size, reason, rfl⟩ := hfailure
  refine ⟨?_, ?_, ?_, Or.inr ⟨size, reason, rfl⟩, nofun, nofun⟩
  · show rested.scene = { s.scene with compiled := rested.scene.compiled }
    rw [hback.scene]
    exact hscene
  · show rested.document.inputs = _
    rw [Document.inputs, hback.parameters, hparameters]
    exact hloading.inputs
  · show List.Forall₂ _ s.document.passes.persistent rested.document.passes.persistent
    rw [hback.persistent]
    -- the pool still knows what the slots have been refreshed with
    refine List.Forall₂.imp (fun _ _ h => ?_) hrefreshed
    exact Target.Refreshed.mono h hs.consistent (.refl _) (hprepared hs.consistent).1 hgrows

/-- **Every frame that fails leaves alone what it should.** -/
theorem spares (hs : s.Steady) {failure : Failure}
    (h : (ofFrame device now renderSize s).outcome = .error failure) :
    (ofFrame device now renderSize s).Spares failure := by
  have hfails := (accounts device now renderSize hs).fails
  rw [before_ofFrame, renderSize_ofFrame] at hfails
  rcases hprepare : Studio.prepare device.observed renderSize s with ⟨_, ready⟩ | ⟨failure', t⟩
  · obtain ⟨t, -, z, reason, -, hfailure, -⟩ := hfails ready failure hprepare h
    obtain ⟨rested, hrested, hback, hframe⟩ :=
      Studio.exists_rested now hs.consistent hs.wellFormed hs.rests hprepare
    have hdrawn := kept_grows.drawPasses (grows_acquire device.observed) (fun _ _ => .refl _)
      (ready.scene.clock now) renderSize ready
    have hgiven := kept_grows.onTemporary (remains (Studio.drawPasses device.observed
      (ready.scene.clock now) renderSize ready))
    rw [hrested] at hgiven
    have hspares := spares_of_ready hs hprepare hback (hdrawn.trans hgiven) ⟨z, reason, hfailure⟩
    rcases hdraw : Studio.drawPasses device.observed (ready.scene.clock now) renderSize ready with
      ⟨reports, drawn⟩ | ⟨failure', drawn⟩
    all_goals
      rw [hdraw] at hframe
      unfold ofFrame at h ⊢
      rw [hframe] at h ⊢
      cases h
    exact hspares
  · rw [ofFrame_of_prepare_error now hprepare] at h ⊢
    cases h
    exact spares_of_prepare_error hs hprepare

/-! ### Frames that are completed -/

/-- **A complete frame, with its number**: the number is reported, and each draw is told it. -/
structure Counts (r : Rendered σ) (k : Nat) : Prop where
  report : ∃ report, r.outcome = .ok report ∧ report.frameIndex = k
  draws : ∀ draw ∈ r.draws, valueOf? draw "FRAMEINDEX" = some (.int (Int32.ofNat k))

end Rendered

/-- What a pass leaves the number of the frame with. -/
theorem Document.valueOf?_frameIndex (d : Document) (pool : Pool) (program : Program)
    (clock : Clock) (pass : Pass) :
    valueOf? (d.passCommands pool program clock pass) "FRAMEINDEX" =
      some (.int (Int32.ofNat clock.frameIndex)) := by
  have hlast : (pass.builtinCommands clock ++ [Command.draw]).filterMap
      (Command.sets? "FRAMEINDEX") = [.int (Int32.ofNat clock.frameIndex)] := by
    simp [Pass.builtinCommands, Command.sets?, List.filterMap_cons]
  unfold valueOf? passCommands
  rw [List.append_assoc, List.filterMap_append, hlast]
  exact List.getLast?_concat

namespace Rendered

variable {device : Device σ} {now : Moment} {renderSize : Size} {s : Studio (Observed σ)}

/-- **A complete frame has the number of the frames that were counted before**, and is counted. -/
theorem counts (hs : s.Steady) {report : FrameReport}
    (h : (ofFrame device now renderSize s).outcome = .ok report) :
    (ofFrame device now renderSize s).Counts s.scene.frameIndex ∧
      (ofFrame device now renderSize s).after.scene.frameIndex = s.scene.frameIndex + 1 := by
  have hscene := Studio.scene_prepare device.observed renderSize s
  rcases goes device now renderSize hs.consistent hs.wellFormed hs.rests with
    ⟨report', s', hcompletes, heq⟩ | ⟨failure, s', -, heq⟩
  · obtain @⟨begun, ready, drawn, rested, reports, hbegun, hready, -, hback, -⟩ := hcompletes
    have hprepare : Studio.prepare device.observed renderSize s = .ok () ready := by
      rw [Studio.prepare_eq]
      exact (bind_of_ok hbegun).trans hready
    rw [hprepare] at hscene
    have hindex : ready.scene.frameIndex = s.scene.frameIndex := by
      rw [show ready.scene = _ from hscene]
    refine ⟨⟨?_, fun draw hdraw => ?_⟩, ?_⟩
    · rw [heq]
      exact ⟨_, rfl, hindex⟩
    · obtain ⟨i, hi⟩ := List.mem_iff_getElem?.1 hdraw
      obtain ⟨begun', ready', c, shots, shot, -, hfilms, -, -, rfl⟩ := exists_shot hs hi
      cases hfilms.prepare_eq.symm.trans hprepare
      rw [Shot.commands, Document.valueOf?_frameIndex, ← hindex]
      rfl
    · rw [heq]
      show rested.scene.frameIndex + 1 = _
      rw [hback.scene, hindex]
  · rw [heq] at h
    cases h

end Rendered

/-! ### Sessions -/

namespace Session

/-- **Frames that fail leave alone what they should**, whichever scene renders them now, **and
complete frames have been counted**, one after the other. -/
structure Orderly (device : Device σ) (s : Session σ) : Prop where
  spares : ∀ scene now renderSize failure,
    (Rendered.ofFrame device now renderSize { s.studio with scene := scene }).outcome =
      .error failure →
    (Rendered.ofFrame device now renderSize { s.studio with scene := scene }).Spares failure
  counts : ∀ (k : Nat) (r : Rendered σ), (completed s.frames)[k]? = some r → r.Counts k

/-- The frames that a scene has completed are numbered, and the scene has counted them. -/
structure Numbered (s : Session σ) : Prop where
  frameIndex : s.studio.scene.frameIndex = (completed s.frames).length
  counts : ∀ (k : Nat) (r : Rendered σ), (completed s.frames)[k]? = some r → r.Counts k

/-- **Every move leaves complete frames numbered.** -/
theorem numbered_move (device : Device σ) {s : Session σ} (hs : s.studio.Steady)
    (hn : s.Numbered) (m : Move) : (move device s m).Numbered := by
  cases m with
  | frame now renderSize =>
    rw [move_frame]
    rcases houtcome : (Rendered.ofFrame device now renderSize s.studio).outcome with
      failure | report
    · -- a frame that fails is not counted
      have hsame : completed (s.frames ++ [Rendered.ofFrame device now renderSize s.studio]) =
          completed s.frames := by
        rw [completed_concat, Rendered.isComplete, houtcome]
        exact List.append_nil _
      refine ⟨?_, hsame ▸ hn.counts⟩
      rw [hsame, ← hn.frameIndex]
      show (Rendered.ofFrame device now renderSize s.studio).after.scene.frameIndex = _
      rw [(Rendered.spares hs houtcome).scene, Rendered.before_ofFrame]
    · obtain ⟨hcounts, hnext⟩ := Rendered.counts hs houtcome
      have hadded : completed (s.frames ++ [Rendered.ofFrame device now renderSize s.studio]) =
          completed s.frames ++ [Rendered.ofFrame device now renderSize s.studio] := by
        rw [completed_concat, Rendered.isComplete, houtcome]
        rfl
      refine ⟨?_, fun k r hr => ?_⟩
      · rw [hadded, List.length_append, List.length_singleton, ← hn.frameIndex]
        exact hnext
      · rw [hadded] at hr
        rcases getElem?_concat_cases hr with hr | ⟨rfl, rfl⟩
        · exact hn.counts k r hr
        · rw [← hn.frameIndex]
          exact hcounts
  | resize renderSize =>
    rw [move]
    cases s.studio.document.resize renderSize <;> exact ⟨hn.frameIndex, hn.counts⟩
  | releaseBuffers =>
    refine ⟨?_, hn.counts⟩
    rw [move, (Studio.document_releaseBuffers s.studio).2]
    exact hn.frameIndex
  | visit other now renderSize => exact ⟨hn.frameIndex, hn.counts⟩
  | change name change => exact ⟨hn.frameIndex, hn.counts⟩
  | configure settings => exact ⟨hn.frameIndex, hn.counts⟩
  | elsewhere op => exact ⟨hn.frameIndex, hn.counts⟩
  | switch pool => exact ⟨hn.frameIndex, hn.counts⟩

/-- **All moves leave complete frames numbered.** -/
theorem numbered_moved (device : Device σ) {s : Session σ} (hs : s.studio.Steady)
    (hn : s.Numbered) (moves : List Move) : (moved device moves s).Numbered := by
  induction moves using List.reverseRecOn with
  | nil => exact hn
  | append_singleton moves m ih =>
    rw [moved_concat]
    exact numbered_move device (steady_moved device hs moves).1 ih m

/-- **What holds of every run**, whatever has happened to a scene, to its document and to the pool,
and wherever frames have failed. -/
theorem failures_spare (device : Device σ) (d : {d : Document // d.Opened})
    (settings : SceneSettings) (started : Nat) (pool : PoolSettings) (state : σ)
    (moves : List Move) :
    (moved device moves (start d.1 settings started pool state)).Orderly device := by
  have hstart := steady_start d.2 settings started pool state
  have hs := (steady_moved device hstart moves).1
  have hn : (start d.1 settings started pool state).Numbered := ⟨rfl, fun _ _ h => by cases h⟩
  refine ⟨fun scene now renderSize failure h => ?_, (numbered_moved device hstart hn moves).counts⟩
  have hother : Studio.Steady { (moved device moves (start d.1 settings started pool state)).studio
      with scene := scene } := hs.congr rfl hs.consistent
  exact Rendered.spares hother h

-- there is room for one small buffer, so that the frame in the middle fails, and is not counted
example : ((moved Recorder.device [.frame (.ofNanoseconds 0) ⟨8, 8⟩,
      .frame (.ofNanoseconds 1) ⟨16, 16⟩, .frame (.ofNanoseconds 2) ⟨8, 8⟩]
    (start (Document.ofTextsLenient twiceText none "/").2 .standard 0 .standard
      { Recorder.fresh with allocationsLeft := some 1 })).frames.map fun r =>
        r.outcome.toOption.map FrameReport.frameIndex) = [some 0, none, some 1] := by
  decide +kernel

end Session

end ShaderEffect
