/-
**Kinds never drift.**

The kind of a parameter is settled when it is made, and with it the kind of every value that its
declaration names: the default, the limits, the neutral value.  From then on only the current value
changes.  A host that assigns a value of another kind, or binds a buffer to something that is not
sampled, is refused, and what it has addressed stays as it is; a reset restores a value of the
declaration; a frame binds images and ends events.  So whatever has been done to a parameter, its
values are of the kind with which it was made.

A frame ends events by assigning to them, as a host would, and gives up if one of them refuses.
That would be late: the buffers of persistent targets have changed places by then.  But it never
comes to that, since an event refuses no event.

Main definitions:

* `ShaderEffect.Parameter.values` — all values of a parameter;
* `ShaderEffect.Parameter.Coherent` — **all of them are of its kind**;
* `ShaderEffect.Parameter.Made` — the ways in which parameters are made;
* `ShaderEffect.Parameter.Faithful` — **what is true of a parameter whatever has been done to it**;
* `ShaderEffect.Studio.renderFrameOrFail` — a frame that gives up if an event cannot be ended.

Main results:

* `ShaderEffect.Parameter.Made.coherent` — every parameter is made coherent;
* `ShaderEffect.Parameter.Coherent.faithful` — what is coherent, and changes in its value alone,
  stays faithful to what it was;
* `ShaderEffect.Studio.renderFrameOrFail_eq` — **events can always be ended**;
* `ShaderEffect.Session.kinds_never_drift` — kinds never drift, whatever happens.
-/

import ShaderEffect.Proofs.Scene.Move

set_option autoImplicit false

namespace ShaderEffect

open Supply

variable {σ : Type}

namespace Parameter

/-! ### Values of one kind -/

/-- The limits and the neutral value. -/
def limits (p : Parameter) : List Value := [p.min, p.max, p.identity].filterMap id

/-- All values of a parameter. -/
def values (p : Parameter) : List Value := p.current :: (p.default.toList ++ p.limits)

/-- **All values of a parameter are of its kind**, and the default is no buffer. -/
structure Coherent (p : Parameter) : Prop extends p.Typed where
  limits : ∀ v ∈ p.limits, v.kind = p.kind

theorem Coherent.kind_eq {p : Parameter} (hp : p.Coherent) : ∀ v ∈ p.values, v.kind = p.kind := by
  refine List.forall_mem_cons.2 ⟨hp.current, List.forall_mem_append.2 ⟨fun v hv => ?_, hp.limits⟩⟩
  exact (hp.default v (Option.mem_toList.1 hv)).1

end Parameter

/-! ### Parameters as they are made -/

/-- What is read for a kind is of that kind. -/
theorem ReadFor.kind_eq {kind : Kind} {json : Option Json} {stored : Option Value}
    (h : ReadFor kind json stored) : ∀ v ∈ stored, v.kind = kind := by
  cases h with
  | absent => exact fun _ hv => nomatch hv
  | present hread =>
    intro v hv
    cases hv
    exact Value.kind_ofJson? hread

/-- **An input that was read is coherent.** -/
theorem InputForm.coherent_toParameter {form : InputForm} {p : Parameter}
    (h : form.toParameter.result = .ok p) : p.Coherent := by
  refine ⟨(begun_toParameter h).toTyped, ?_⟩
  obtain ⟨kind, -, hp⟩ := yields_toParameter h
  cases hp with
  | audio | image => exact fun _ hv => absurd hv List.not_mem_nil
  | value _ hleast hgreatest hneutral hchooses hdefaults =>
    obtain ⟨_, _, _, rfl⟩ := hchooses.exists_eq
    obtain ⟨_, _, rfl⟩ := hdefaults.exists_eq
    intro v hv
    simp only [Parameter.limits, List.mem_filterMap, List.mem_cons, List.not_mem_nil, or_false,
      id_eq, exists_eq_right] at hv
    rcases hv with hv | hv | hv
    · exact hleast.kind_eq v hv.symm
    · exact hgreatest.kind_eq v hv.symm
    · exact hneutral.kind_eq v hv.symm

namespace Parameter

/-- **The ways in which parameters are made**: they are read from metadata, or nothing is known
about them but their name and their kind or file. -/
inductive Made : Parameter → Prop where
  | read {directory text : String} {m : Metadata} {p : Parameter} :
      (Metadata.ofText directory text).result = .ok m → p ∈ m.parameters → Made p
  | ofKind (name : String) (kind : Kind) : Made (ofKind name kind)
  | imported (name path : String) : Made (imported name path)

theorem coherent_ofKind (name : String) (kind : Kind) : (ofKind name kind).Coherent :=
  ⟨(begun_ofKind name kind).toTyped, fun _ hv => absurd hv List.not_mem_nil⟩

theorem coherent_imported (name path : String) : (imported name path).Coherent :=
  ⟨(begun_imported name path).toTyped, fun _ hv => absurd hv List.not_mem_nil⟩

/-- All parameters of an effect are coherent. -/
theorem coherent_parametersOf {directory : String} {form : EffectForm} {ps : List Parameter}
    (h : (parametersOf directory form).result = .ok ps) : ∀ p ∈ ps, p.Coherent :=
  forall_of_parametersOf h (fun _ _ => InputForm.coherent_toParameter) coherent_imported

/-- **Every parameter is made coherent.** -/
theorem Made.coherent {p : Parameter} (hp : p.Made) : p.Coherent := by
  cases hp with
  | read h hmem =>
    obtain ⟨form, hps, -⟩ := Metadata.exists_form h
    exact coherent_parametersOf hps p hmem
  | ofKind name kind => exact coherent_ofKind name kind
  | imported name path => exact coherent_imported name path

end Parameter

/-- The parameters of a document were made in one of these ways. -/
theorem Document.Opened.made {d : Document} (hd : d.Opened) : ∀ p ∈ d.parameters, p.Made := by
  rcases hd.metadata with ⟨_, _, h⟩ | h
  · exact fun p hp => .read h hp
  · rw [show d.parameters = [] from congrArg Metadata.parameters h]
    exact fun _ hp => absurd hp List.not_mem_nil

namespace Parameter

/-! ### Changes -/

/-- A parameter after a change, which it may refuse. -/
def after (p : Parameter) (change : InputChange) : Parameter :=
  match change.apply p with
  | .ok q => q
  | .error _ => p

/-- An event that is on is over, if it accepts that. -/
def endEvent (p : Parameter) : Except Failure Parameter :=
  if p.current = .event true then p.set (.event false) else .ok p

/-- **What is true of a parameter whatever has been done to it** since it was made. -/
structure Faithful (p q : Parameter) : Prop where
  /-- Only the current value is another one. -/
  kind : q.kind = p.kind
  blank : q.blank = p.blank
  /-- All values are of the kind. -/
  values : ∀ v ∈ q.values, v.kind = p.kind
  /-- Values of the kind are accepted, and no others. -/
  set : ∀ v, (q.set v).isOk ↔ v.kind = p.kind
  /-- Buffers are accepted exactly by what is sampled. -/
  bind : ∀ binding, (q.bind binding).isOk ↔ p.kind.isSampler
  /-- Nothing changes where a change is refused. -/
  refused : ∀ change failure, change.apply q = .error failure → q.after change = q
  /-- A program receives the value exactly if it is declared to, and with the type that is
  declared. -/
  uniform : q.current.uniform?.map Uniform.typeName = p.kind.typeName?
  /-- An event can be ended. -/
  endEvent : q.endEvent = .ok q.settle

/-- An event refuses no event. -/
theorem Typed.endEvent_eq {p : Parameter} (hp : p.Typed) : p.endEvent = .ok p.settle := by
  unfold Parameter.endEvent Parameter.settle
  split
  · rename_i hevent
    refine set_eq_ok_iff.2 ⟨?_, rfl⟩
    rw [← hp.current, hevent]
    rfl
  · rfl

/-- **What is coherent, and changes in its value alone, stays faithful to what it was.** -/
theorem Coherent.faithful {p q : Parameter} (hp : p.Coherent) (hq : q.Typed)
    (hblank : q.blank = p.blank) : p.Faithful q := by
  have hkind : q.kind = p.kind := (congrArg Parameter.kind hblank :)
  have hlimits : q.limits = p.limits := (congrArg Parameter.limits hblank :)
  have hcoherent : q.Coherent := ⟨hq, fun v hv => (hp.limits v (hlimits ▸ hv)).trans hkind.symm⟩
  refine ⟨hkind, hblank, ?_, fun v => ?_, fun binding => ?_, ?_, ?_, hq.endEvent_eq⟩
  · exact fun v hv => (hcoherent.kind_eq v hv).trans hkind
  · rw [← hkind, set]
    split <;> simp_all [Except.isOk, Except.toBool]
  · rw [← hkind]
    exact bind_isOk_iff
  · intro change failure h
    rw [after, h]
  · rw [Value.uniform?_type, hq.current, hkind]

/-- A change leaves a parameter of its kind, whether it is accepted or not. -/
theorem Typed.after {p : Parameter} (hp : p.Typed) (change : InputChange) :
    (p.after change).Typed ∧ (p.after change).blank = p.blank := by
  unfold Parameter.after
  split
  · rename_i q h
    obtain ⟨v, rfl⟩ := InputChange.exists_of_apply h
    exact ⟨hp.apply h, rfl⟩
  · exact ⟨hp, rfl⟩

/-- So do all changes. -/
theorem Typed.foldl_after {p : Parameter} (hp : p.Typed) (changes : List InputChange) :
    (changes.foldl Parameter.after p).Typed ∧
      (changes.foldl Parameter.after p).blank = p.blank := by
  induction changes generalizing p with
  | nil => exact ⟨hp, rfl⟩
  | cons change changes ih =>
    obtain ⟨hfirst, hblank⟩ := hp.after change
    obtain ⟨htyped, hrest⟩ := ih hfirst
    exact ⟨htyped, hrest.trans hblank⟩

end Parameter

/-- Parameters that change in their values alone stay faithful to what they were. -/
theorem Parameter.forall₂_faithful {ps qs : List Parameter} (hps : ∀ p ∈ ps, p.Coherent)
    (hqs : ∀ q ∈ qs, q.Typed) (hblank : qs.map blank = ps.map blank) :
    List.Forall₂ Faithful ps qs := by
  induction ps generalizing qs with
  | nil =>
    obtain rfl := List.map_eq_nil_iff.1 hblank
    exact .nil
  | cons p ps ih =>
    obtain ⟨q, qs, rfl, hfirst, hrest⟩ := List.map_eq_cons_iff.1 hblank
    obtain ⟨hp, hps⟩ := List.forall_mem_cons.1 hps
    obtain ⟨hq, hqs⟩ := List.forall_mem_cons.1 hqs
    exact .cons (hp.faithful hq hfirst) (ih hps hqs hrest)

/-! ### Frames that could fail late -/

namespace Studio

/-- Ends an event, or fails. -/
def endEvents : EStateM Failure (Parameter × Supply σ) Unit
  | (p, s) =>
    match p.endEvent with
    | .error failure => .error failure (p, s)
    | .ok p => .ok () (p, s)

/-- What a complete frame changes, if all events can be ended: the buffers of persistent targets
change places before that. -/
def settleOrFail (now : Moment) : Work σ Unit := do
  modify fun s =>
    { s with document := s.document.withPersistent (s.document.passes.persistent.map Target.swap) }
  onParameters endEvents
  modify fun s => { s with scene := s.scene.advance now }

/-- Renders a frame, and gives up if an event cannot be ended. -/
def renderFrameOrFail (device : Device σ) (now : Moment) (renderSize : Size) :
    Work σ FrameReport := do
  prepare device renderSize
  let clock := (← get).scene.clock now
  let passes ← thenReleaseTemporary (drawPasses device clock renderSize)
  settleOrFail now
  return ⟨clock.frameIndex, passes⟩

section

variable {device : Device σ} {renderSize : Size} {s ready : Studio σ}

/-- Where values are of their kinds, all events can be ended. -/
theorem onParameters_endEvents (hs : s.document.Typed) : onParameters endEvents s =
    .ok () { s with document :=
      s.document.withParameters (s.document.parameters.map Parameter.settle) } := by
  have heach (ps : List Parameter) (hps : ∀ p ∈ ps, p.Typed) :
      eachOf endEvents (ps, s.supply) = .ok () (ps.map Parameter.settle, s.supply) := by
    induction ps with
    | nil =>
      rw [eachOf]
      rfl
    | cons p ps ih =>
      obtain ⟨hp, hps⟩ := List.forall_mem_cons.1 hps
      rw [eachOf, endEvents, hp.endEvent_eq]
      dsimp only
      rw [ih hps]
      rfl
  unfold onParameters
  rw [heach s.document.parameters hs]

theorem settleOrFail_eq (now : Moment) (hs : s.document.Typed) :
    settleOrFail now s = settle now s := by
  refine (bind_of_ok (x := modify _) rfl).trans ?_
  refine (bind_of_ok (onParameters_endEvents ?_)).trans rfl
  exact hs

/-- A studio in which the passes are to be drawn is steady. -/
theorem Steady.of_prepare (hs : s.Steady) (h : prepare device renderSize s = .ok () ready) :
    ready.Steady := by
  rw [prepare_eq] at h
  obtain ⟨_, begun, hbegun, hready⟩ := bind_eq_ok h
  obtain ⟨t, -, hloading, -, hparameters, -⟩ :=
    exists_loading_of_ready hs.consistent hs.wellFormed hbegun hready
  have hprepares := (prepares_of_ok hs.consistent hs.wellFormed hbegun hready).1
  exact ⟨hprepares.trades.consistent, hs.wellFormed.of_blank_eq hprepares.blank,
    hs.rests.congr hprepares.temporary, fun p hp => hloading.typed hs.typed p (hparameters ▸ hp)⟩

/-- **Events can always be ended**: a frame never gives up after the buffers of persistent targets
have changed places. -/
theorem renderFrameOrFail_eq (device : Device σ) (now : Moment) (renderSize : Size)
    (hs : s.Steady) : renderFrameOrFail device now renderSize s =
      renderFrame device now renderSize s := by
  unfold renderFrameOrFail renderFrame
  refine bind_congr_of_ok fun _ ready hprepare => ?_
  refine bind_congr_of_ok fun _ t ht => ?_
  cases ht
  refine bind_congr_of_ok fun reports rested hdraws => ?_
  -- drawing and giving back leave the parameters as they were when images had been loaded
  have hready := hs.of_prepare hprepare
  have hends := ends_drawPasses device (ready.scene.clock now) renderSize ready
  have hback := ends_thenReleaseTemporary hready.rests hends
    (fun _ _ h => h.onlyLends hready.consistent hready.wellFormed)
    (fun _ _ h => h.onlyLends hready.consistent hready.wellFormed)
  rw [hdraws] at hback
  have hrested : rested.document.Typed := fun p hp =>
    hready.typed p (hback.1.parameters ▸ hp)
  show EStateM.bind (settleOrFail now) _ rested = EStateM.bind (settle now) _ rested
  unfold EStateM.bind
  rw [settleOrFail_eq now hrested]

end

end Studio

namespace Session

/-- **Kinds never drift.**  A parameter that was read, or made from a name, has the kind with which
it was made, and so have all its values, after any changes, accepted or not; so have the parameters
of a document, whatever happens to it; and no frame of the document fails to end its events. -/
theorem kinds_never_drift (device : Device σ) (p : {p : Parameter // p.Made})
    (changes : List InputChange) (d : {d : Document // d.Opened}) (settings : SceneSettings)
    (started : Nat) (pool : PoolSettings) (state : σ) (moves : List Move) :
    p.1.Faithful (changes.foldl Parameter.after p.1) ∧
      List.Forall₂ Parameter.Faithful d.1.parameters
        (moved device moves (start d.1 settings started pool state)).studio.document.parameters ∧
      ∀ (now : Moment) (renderSize : Size),
        Studio.renderFrameOrFail device.observed now renderSize
            (moved device moves (start d.1 settings started pool state)).studio =
          Studio.renderFrame device.observed now renderSize
            (moved device moves (start d.1 settings started pool state)).studio := by
  have hp := p.2.coherent
  obtain ⟨htyped, hblank⟩ := hp.toTyped.foldl_after changes
  obtain ⟨hs, hdeclares⟩ :=
    steady_moved device (steady_start d.2 settings started pool state) moves
  refine ⟨hp.faithful htyped hblank, ?_, fun now renderSize => ?_⟩
  · exact Parameter.forall₂_faithful (fun q hq => (d.2.made q hq).coherent) hs.typed
      (congrArg (fun e : Document => e.parameters) hdeclares)
  · exact Studio.renderFrameOrFail_eq device.observed now renderSize hs

end Session

end ShaderEffect
