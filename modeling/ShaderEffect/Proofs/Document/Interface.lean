/-
**What the programs of a document depend on.**

The programs of a document are made from its texts and from what they are to declare.  The texts
never change, nor do the names and the kinds of parameters and the names of targets; what changes
are the shapes of the textures that images are bound to.  The letters of the texture types tell
these shapes, so that two states of a document with the same letters have the same programs.

Main results:

* `ShaderEffect.Document.inputs_blank`, `ShaderEffect.Document.images_blank` — which parameters are
  inputs, and which are sampled, does not depend on values;
* `ShaderEffect.Document.programInterface_congr` — **the texture types tell what is declared**;
* `ShaderEffect.Document.generate_congr` — **and so the programs**.
-/

import ShaderEffect.Proofs.Document.WellFormed

set_option autoImplicit false

namespace ShaderEffect

/-- Names and shapes are all there is about samplers. -/
theorem Sampler.list_ext {ss ts : List Sampler} (hnames : ss.map Sampler.name = ts.map Sampler.name)
    (hshapes : ss.map Sampler.shape = ts.map Sampler.shape) : ss = ts := by
  have hzip (us : List Sampler) : us =
      ((us.map Sampler.name).zip (us.map Sampler.shape)).map fun x => ⟨x.1, x.2⟩ := by
    rw [List.zip_map', List.map_map]
    exact (List.map_id us).symm
  rw [hzip ss, hzip ts, hnames, hshapes]

namespace Document

variable {d d' : Document}

/-! ### Parameters without their values -/

theorem inputs_blank (d : Document) : d.blank.inputs = d.inputs.map Parameter.blank :=
  List.takeWhile_map ..

theorem images_blank (d : Document) : d.blank.images = d.images.map Parameter.blank := by
  simp only [images, imageInputs, audioInputs, imageImports, inputsOfKind, inputs_blank,
    List.filter_map, List.map_append]
  rw [show d.blank.parameters = d.parameters.map Parameter.blank from rfl, List.filter_map]
  rfl

/-! ### What is declared -/

theorem inputs_programInterface_blank (d : Document) :
    d.blank.programInterface.inputs = d.programInterface.inputs := by
  rw [programInterface, inputs_blank, List.filterMap_map]
  rfl

theorem map_name_samplers (d : Document) :
    d.samplers.map Sampler.name =
      d.images.map Parameter.name ++ d.passes.targets.map Target.name := by
  simp [samplers, Function.comp_def]

theorem map_name_samplers_blank (d : Document) :
    d.blank.samplers.map Sampler.name = d.samplers.map Sampler.name := by
  rw [map_name_samplers, map_name_samplers, images_blank, targets_blank, List.map_map, List.map_map]
  rfl

/-- The letters of the texture types tell the shapes. -/
theorem shapes_eq_of_textureTypes_eq (h : d'.textureTypes = d.textureTypes) :
    d'.samplers.map Sampler.shape = d.samplers.map Sampler.shape := by
  have hcodes : d'.samplers.map (fun s => s.shape.code) = d.samplers.map fun s => s.shape.code :=
    String.ofList_injective h
  refine List.map_injective_iff.2 (fun _ _ => Shape.code_injective) ?_
  rw [List.map_map, List.map_map]
  exact hcodes

/-- **The texture types tell what is declared.** -/
theorem programInterface_congr (hblank : d'.blank = d.blank)
    (htypes : d'.textureTypes = d.textureTypes) : d'.programInterface = d.programInterface := by
  have hinputs : d'.programInterface.inputs = d.programInterface.inputs := by
    rw [← inputs_programInterface_blank, hblank, inputs_programInterface_blank]
  have hsamplers : d'.samplers = d.samplers := by
    refine Sampler.list_ext ?_ (shapes_eq_of_textureTypes_eq htypes)
    rw [← map_name_samplers_blank, hblank, map_name_samplers_blank]
  have hinterface (e : Document) :
      e.programInterface = ⟨e.programInterface.inputs, e.samplers⟩ := rfl
  rw [hinterface, hinputs, hsamplers]
  rfl

/-- **The texture types tell the programs.** -/
theorem generate_congr (hblank : d'.blank = d.blank) (htypes : d'.textureTypes = d.textureTypes)
    (settings : SceneSettings) : d'.generate settings = d.generate settings := by
  have hsource := congrArg (fun e : Document => e.source) hblank
  have hvertex := congrArg (fun e : Document => e.vertex) hblank
  change d'.source = d.source at hsource
  change d'.vertex = d.vertex at hvertex
  rw [generate, programInterface_congr hblank htypes, hsource, hvertex]
  rfl

/-- The texture types depend on the parameters, and on nothing else that changes. -/
theorem textureTypes_congr (hblank : d'.blank = d.blank)
    (hparameters : d'.parameters = d.parameters) : d'.textureTypes = d.textureTypes := by
  have htargets : d'.passes.targets.map Target.name = d.passes.targets.map Target.name := by
    have hnames := congrArg (fun e : Document => e.passes.targets.map Target.name) hblank
    simpa [targets_blank, Function.comp_def] using hnames
  have hsamplers (e : Document) : e.samplers = e.images.map (fun p => ⟨p.name, p.shape⟩) ++
      (e.passes.targets.map Target.name).map fun name => ⟨name, .flat⟩ := by
    rw [List.map_map]
    rfl
  have himages : d'.images = d.images := by
    simp only [images, imageInputs, audioInputs, imageImports, inputsOfKind, inputs, hparameters]
  rw [textureTypes, hsamplers, himages, htargets, ← hsamplers]
  rfl

end Document

end ShaderEffect
