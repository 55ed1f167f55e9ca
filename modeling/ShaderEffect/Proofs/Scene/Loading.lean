/-
**What a frame does to parameters.**

A frame changes the value of a parameter in two ways only: it loads an image that has no buffer yet,
and it ends an event when it is complete.  Between these two moments all parameters stay as they
are, so that inputs are drawn with the values that they had before the frame.

Main definitions:

* `ShaderEffect.Studio.untilLoaded` — the part of a frame up to the images that it loads;
* `ShaderEffect.Studio.Loading` — what that part leaves behind.

Main results:

* `ShaderEffect.Studio.ends_untilLoaded` — how that part ends;
* `ShaderEffect.Studio.Loading.inputs`, `ShaderEffect.Studio.Loading.typed` — **inputs keep their
  values while images are loaded**, and all values their kinds;
* `ShaderEffect.Studio.exists_loading_of_ready` — what is known when the passes are drawn;
* `ShaderEffect.Studio.parameters_renderFrame` — **what a frame leaves of the parameters**.
-/

import ShaderEffect.Proofs.Document.Typed
import ShaderEffect.Proofs.Scene.Frame

set_option autoImplicit false

namespace ShaderEffect

open Pool Supply

variable {σ : Type}

/-! ### Inputs -/

/-- The parameter, if it is an input. -/
def Parameter.input? (p : Parameter) : Option Parameter := if p.isImport then none else some p

namespace Document

/-- Inputs stand in front of the imported images. -/
theorem inputs_congr {d d' : Document}
    (h : d'.parameters.map Parameter.input? = d.parameters.map Parameter.input?) :
    d'.inputs = d.inputs := by
  have hinputs (ps : List Parameter) : (ps.takeWhile fun p => !p.isImport) =
      ((ps.map Parameter.input?).takeWhile Option.isSome).filterMap id := by
    induction ps with
    | nil => rfl
    | cons p ps ih =>
        rw [List.map_cons, List.takeWhile_cons, List.takeWhile_cons, Parameter.input?]
        cases hp : p.isImport with
        | true => rfl
        | false => simpa using ih
  rw [inputs, inputs, hinputs, hinputs, h]

end Document

/-- Loading an image changes no input. -/
theorem input?_loadImport (device : Device σ) (p : Parameter) (s : Supply σ) :
    Ends (fun _ r => r.1.input? = p.input?) (fun _ r => r.1.input? = p.input?)
      (loadImport device (p, s)) := by
  unfold loadImport
  dsimp only
  split
  · rename_i path hpath _
    have himport : p.isImport = true := by simp [Parameter.isImport, hpath]
    rcases device.loadImage path s.device with ⟨⟨b, d⟩, state⟩ | ⟨fault, state⟩
    · dsimp only
      cases hbind : p.bind (some ⟨(s.pool.adopt d b).1, d, false⟩) with
      | error failure => exact rfl
      | ok q =>
          obtain ⟨v, rfl⟩ := InputChange.exists_of_apply
            (show (InputChange.bind _).apply p = .ok q from hbind)
          have himport' : Parameter.isImport { p with current := v } = true := himport
          show Parameter.input? { p with current := v } = p.input?
          rw [Parameter.input?, Parameter.input?, if_pos himport, if_pos himport']
    · exact rfl
  · exact rfl

namespace Studio

/-! ### Up to the images -/

/-- The part of a frame up to the images that it loads. -/
def untilLoaded (device : Device σ) (renderSize : Size) : Work σ Unit := do
  checkLoaded
  resize renderSize
  checkPasses
  onParameters (loadImport device)

theorem untilBuffers_eq (device : Device σ) (renderSize : Size) :
    untilBuffers device renderSize = (do
      untilLoaded device renderSize
      ensureProgram device) := by
  unfold untilBuffers untilLoaded
  simp only [bind_assoc]

/-- What the part of a frame up to the images leaves behind: images are loaded as far as it got, or
it did not get to them; targets may have other sizes. -/
structure Loading (device : Device σ) (s t : Studio σ) : Prop where
  loads : (t.document.parameters, t.supply) = (s.document.parameters, s.supply) ∨
    (t.document.parameters, t.supply) =
      remains (eachOf (loadImport device) (s.document.parameters, s.supply))
  blank : t.document.blank = s.document.blank
  scene : t.scene = s.scene

theorem Loading.refl (device : Device σ) (s : Studio σ) : Loading device s s :=
  ⟨Or.inl rfl, rfl, rfl⟩

/-- How it ends when images are loaded. -/
theorem loading_onParameters (device : Device σ) (s : Studio σ) :
    Ends (fun _ t => Loading device s t) (fun _ t => Loading device s t)
      (onParameters (loadImport device) s) := by
  have hblank := ends_eachOf_map (loadImport device) (f := Parameter.blank)
    (fun p t => blank_loadImport device p t) s.document.parameters s.supply
  unfold onParameters
  rcases hr : eachOf (loadImport device) (s.document.parameters, s.supply) with
    ⟨_, ps, supply⟩ | ⟨failure, ps, supply⟩
  all_goals
    rw [hr] at hblank
    refine ⟨Or.inr (by rw [hr]; rfl), ?_, rfl⟩
    show (s.document.withParameters ps).blank = s.document.blank
    unfold Document.withParameters Document.blank
    rw [show ps.map Parameter.blank = _ from hblank]

/-- **How it ends up to the images.** -/
theorem ends_untilLoaded (device : Device σ) (renderSize : Size) (s : Studio σ) :
    Ends (fun _ t => Loading device s t) (fun _ t => Loading device s t)
      (untilLoaded device renderSize s) := by
  have hrefl := Loading.refl device s
  refine Ends.bind ((ends_checkLoaded s).mono (fun _ _ h => h) fun _ _ h => h ▸ hrefl) ?_
  intro _ t ht
  rw [ht]
  refine Ends.bind ((ends_resize renderSize s).mono (fun _ _ h => h) fun _ _ h => h ▸ hrefl) ?_
  rintro _ s₁ ⟨d, hresize, rfl⟩
  have hblank := Document.blank_resize hresize
  have hparameters : d.parameters = s.document.parameters := by
    obtain ⟨_, _, -, -, rfl⟩ := Document.resize_eq_ok_iff.1 hresize
    rfl
  -- sizes are no parameters, so loading starts from the parameters of the start
  have hloading (t : Studio σ) (h : Loading device { s with document := d } t) :
      Loading device s t := by
    refine ⟨?_, h.blank.trans hblank, h.scene⟩
    have hloads := h.loads
    rw [show ({ s with document := d } : Studio σ).document.parameters = _ from hparameters]
      at hloads
    exact hloads
  refine Ends.bind ((ends_checkPasses _).mono (fun _ _ h => h) fun _ t h =>
    hloading t (h ▸ .refl device _)) ?_
  intro _ t ht
  rw [ht]
  exact (loading_onParameters device _).mono (fun _ t h => hloading t h) fun _ t h => hloading t h

namespace Loading

variable {device : Device σ} {s t : Studio σ}

/-- What loading keeps true of each parameter is true of all of them afterwards. -/
theorem forall_of_ends (h : Loading device s t) {P : Parameter → Prop}
    (hwork : ∀ p u, P p →
      Ends (fun _ r => P r.1) (fun _ r => P r.1) (loadImport device (p, u)))
    (hs : ∀ p ∈ s.document.parameters, P p) : ∀ p ∈ t.document.parameters, P p := by
  rcases h.loads with hloads | hloads
  · rw [Prod.mk.injEq] at hloads
    rw [hloads.1]
    exact hs
  · have heach := forall_eachOf hwork hs s.supply
    have hfirst := congrArg Prod.fst hloads
    dsimp only at hfirst
    rw [hfirst]
    rcases hr : eachOf (loadImport device) (s.document.parameters, s.supply) with
      ⟨_, ps, supply⟩ | ⟨failure, ps, supply⟩
    all_goals
      rw [hr] at heach
      exact heach

/-- Loading leaves all values of their kinds. -/
theorem typed (h : Loading device s t) (hs : s.document.Typed) : t.document.Typed :=
  h.forall_of_ends (fun _ u hp => hp.loadImport device u) hs

/-- **Inputs keep their values while images are loaded.** -/
theorem inputs (h : Loading device s t) : t.document.inputs = s.document.inputs := by
  refine Document.inputs_congr ?_
  rcases h.loads with hloads | hloads
  · rw [Prod.mk.injEq] at hloads
    rw [hloads.1]
  · have heach := ends_eachOf_map (loadImport device) (f := Parameter.input?)
      (fun p u => input?_loadImport device p u) s.document.parameters s.supply
    have hfirst := congrArg Prod.fst hloads
    dsimp only at hfirst
    rw [hfirst]
    rcases hr : eachOf (loadImport device) (s.document.parameters, s.supply) with
      ⟨_, ps, supply⟩ | ⟨failure, ps, supply⟩
    all_goals
      rw [hr] at heach
      exact heach

end Loading

/-! ### The rest of a frame -/

section

variable {device : Device σ} {now : Moment} {renderSize : Size} {s begun ready : Studio σ}

/-- What is known when a frame has failed before the buffers of targets. -/
theorem exists_loading_of_error {failure : Failure}
    (hbegun : untilBuffers device renderSize s = .error failure begun) :
    ∃ t, Loading device s t ∧ begun.document = t.document ∧
      begun.supply.pool = t.supply.pool := by
  rw [untilBuffers_eq] at hbegun
  have hloading := ends_untilLoaded device renderSize s
  rcases bind_eq_error hbegun with ht | ⟨_, t, ht, hprogram⟩
  · rw [ht] at hloading
    exact ⟨begun, hloading, rfl, rfl⟩
  · rw [ht] at hloading
    have hensure := ends_ensureProgram device t
    rw [hprogram] at hensure
    exact ⟨t, hloading, hensure⟩

/-- What is known when a frame has got as far as the buffers of targets. -/
theorem exists_loading_of_ok (hbegun : untilBuffers device renderSize s = .ok () begun) :
    ∃ t, untilLoaded device renderSize s = .ok () t ∧ Loading device s t ∧
      ensureProgram device t = .ok () begun ∧ begun.document = t.document ∧
      begun.supply.pool = t.supply.pool := by
  rw [untilBuffers_eq] at hbegun
  obtain ⟨_, t, ht, hprogram⟩ := bind_eq_ok hbegun
  have hloading := ends_untilLoaded device renderSize s
  rw [ht] at hloading
  have hensure := ends_ensureProgram device t
  rw [hprogram] at hensure
  exact ⟨t, ht, hloading, hprogram, hensure⟩

/-- **What is known when the passes are drawn**: images have been loaded, the program is the right
one, and neither parameters nor program have changed since. -/
theorem exists_loading_of_ready (hs : s.supply.pool.Consistent) (hd : s.document.WellFormed)
    (hbegun : untilBuffers device renderSize s = .ok () begun)
    (hready : onPersistent (ensureBuffers device) begun = .ok () ready) :
    ∃ t, untilLoaded device renderSize s = .ok () t ∧ Loading device s t ∧
      ensureProgram device t = .ok () begun ∧
      ready.document.parameters = t.document.parameters ∧ ready.scene = begun.scene := by
  obtain ⟨t, ht, hloading, hprogram, hdocument, -⟩ := exists_loading_of_ok hbegun
  have hkeeps := ends_onPersistent device (begins_of_ok hs hd hbegun).1.trades.consistent
  rw [hready] at hkeeps
  exact ⟨t, ht, hloading, hprogram, by rw [hkeeps.2.parameters, hdocument], hkeeps.2.scene⟩

/-- **What a frame leaves of the parameters**: images are loaded, and a complete frame has ended
events. -/
theorem parameters_renderFrame (device : Device σ) (now : Moment) (renderSize : Size)
    (hs : s.supply.pool.Consistent) (hd : s.document.WellFormed) (hrests : s.document.Rests) :
    Ends
      (fun _ s' => ∃ t, Loading device s t ∧
        s'.document.parameters = t.document.parameters.map Parameter.settle)
      (fun _ s' => ∃ t, Loading device s t ∧ s'.document.parameters = t.document.parameters)
      (renderFrame device now renderSize s) := by
  refine (ends_renderFrame device now renderSize hs hd hrests).mono ?_ ?_
  · rintro _ _ ⟨hbegun, hready, -, hback, -⟩
    obtain ⟨t, -, hloading, -, hparameters, -⟩ := exists_loading_of_ready hs hd hbegun hready
    refine ⟨t, hloading, ?_⟩
    show List.map _ _ = _
    rw [← hparameters, ← hback.parameters]
  · intro _ s' hfails
    cases hfails with
    | early hbegun =>
        obtain ⟨t, hloading, heq, -⟩ := exists_loading_of_error hbegun
        exact ⟨t, hloading, by rw [heq]⟩
    | refused hbegun hready =>
        obtain ⟨t, -, hloading, -, hdocument, -⟩ := exists_loading_of_ok hbegun
        have hkeeps := ends_onPersistent device (begins_of_ok hs hd hbegun).1.trades.consistent
        rw [hready] at hkeeps
        exact ⟨t, hloading, by rw [hkeeps.2.parameters, hdocument]⟩
    | late hbegun hready _ hback _ =>
        obtain ⟨t, -, hloading, -, hparameters, -⟩ := exists_loading_of_ready hs hd hbegun hready
        exact ⟨t, hloading, by rw [hback.parameters, hparameters]⟩

/-- A frame leaves all values of their kinds. -/
theorem typed_renderFrame (device : Device σ) (now : Moment) (renderSize : Size)
    (hs : s.supply.pool.Consistent) (hd : s.document.WellFormed) (hrests : s.document.Rests)
    (htyped : s.document.Typed) :
    Ends (fun _ s' => s'.document.Typed) (fun _ s' => s'.document.Typed)
      (renderFrame device now renderSize s) := by
  refine (parameters_renderFrame device now renderSize hs hd hrests).mono ?_ ?_
  · rintro _ s' ⟨t, hloading, heq⟩ p hp
    rw [heq] at hp
    obtain ⟨q, hq, rfl⟩ := List.mem_map.1 hp
    exact (hloading.typed htyped q hq).settle
  · rintro _ s' ⟨t, hloading, heq⟩ p hp
    exact hloading.typed htyped p (heq ▸ hp)

end

end Studio

end ShaderEffect
