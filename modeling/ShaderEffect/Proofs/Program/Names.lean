/-
**The names that a program declares.**

A program declares what the metadata of its document names, and the generator adds names of its own:
the variables of all effects, those that accompany a sampler, and the place that the vertex program
hands on.  Reading sees to it that the names of the metadata differ from one another, and nothing
sees to it that they differ from those of the generator.  So a program declares no name twice
exactly if the metadata uses none of the names that the generator adds.

Main definitions:

* `ShaderEffect.Interface.ownNames` — the names of the generator.

Main results:

* `ShaderEffect.Interface.nodup_ownNames` — the names of the generator differ;
* `ShaderEffect.Document.WellFormed.names_perm` — the names that a stage declares are those of the
  generator and those of the metadata;
* `ShaderEffect.Document.generate_nodup_iff` — **when a program declares no name twice**.
-/

import Mathlib.Tactic.Abel
import ShaderEffect.Proofs.Program.Supply

set_option autoImplicit false

namespace ShaderEffect

open Text (Lacks)

/-! ### The names of the generator -/

namespace Interface

variable {i : Interface}

/-- The names that the generator adds. -/
def ownNames (i : Interface) : List String :=
  builtins.map Variable.name ++ (i.samplers.flatMap Sampler.companions).map Variable.name ++
    [normCoord.name]

/-- The names of what accompanies samplers differ, if the samplers have different names. -/
theorem nodup_companions (h : (i.samplers.map Sampler.name).Nodup) :
    ((i.samplers.flatMap Sampler.companions).map Variable.name).Nodup := by
  rw [List.map_flatMap, List.nodup_flatMap]
  refine ⟨fun s _ => ?_, ?_⟩
  · simp [Sampler.companions]
  · refine (List.pairwise_map.1 h).imp fun {s t} hne => ?_
    have hnames : s.name ≠ t.name := hne
    simpa [Function.onFun, Sampler.companions, List.disjoint_left] using hnames

/-- **The names that the generator adds differ**, if the samplers have different names, and so do
those that belong to a stage alone. -/
theorem nodup_ownNames (h : (i.samplers.map Sampler.name).Nodup) (d : Dialect) (stage : Stage) :
    (i.ownNames ++ (d.stageVariables stage).map Variable.name).Nodup := by
  -- what accompanies a sampler starts with an underscore, and nothing else that is added does
  have hcompanion : ∀ name ∈ (i.samplers.flatMap Sampler.companions).map Variable.name,
      name.toList.head? = some '_' := by
    intro name hname
    obtain ⟨v, hv, rfl⟩ := List.mem_map.1 hname
    obtain ⟨s, -, hv⟩ := List.mem_flatMap.1 hv
    simp only [Sampler.companions, List.mem_cons, List.not_mem_nil, or_false] at hv
    rcases hv with rfl | rfl | rfl
    · simp [Sampler.rectName]
    · simp [Sampler.sizeName]
    · simp [Sampler.flipName]
  have hfixed : (builtins.map Variable.name ++
      ([normCoord.name] ++ (d.stageVariables stage).map Variable.name)).Nodup ∧
        ∀ name ∈ builtins.map Variable.name ++
          ([normCoord.name] ++ (d.stageVariables stage).map Variable.name),
            name.toList.head? ≠ some '_' := by
    cases d <;> cases stage <;> decide
  obtain ⟨hnodup, hplain⟩ := hfixed
  have hperm : (i.ownNames ++ (d.stageVariables stage).map Variable.name).Perm
      ((i.samplers.flatMap Sampler.companions).map Variable.name ++ (builtins.map Variable.name ++
        ([normCoord.name] ++ (d.stageVariables stage).map Variable.name))) := by
    rw [ownNames, ← Multiset.coe_eq_coe]
    simp only [← Multiset.coe_add]
    abel
  rw [hperm.nodup_iff]
  refine List.nodup_append.2 ⟨nodup_companions h, hnodup, ?_⟩
  rintro name hname _ hmem rfl
  exact hplain name hmem (hcompanion name hname)

end Interface

/-! ### The names of the metadata -/

namespace Document

variable {d e : Document}

namespace WellFormed

/-- The names that the metadata gives differ. -/
theorem nodup_givenNames (hd : d.WellFormed) : d.givenNames.Nodup := by
  refine List.nodup_append.2 ⟨hd.parameters.names, hd.passes.names, ?_⟩
  rintro _ hname name htarget rfl
  obtain ⟨t, ht, rfl⟩ := List.mem_map.1 htarget
  exact hd.passes.apart t ht hname

/-- Every parameter is declared, as a variable or as a sampler, and no parameter is declared as
both. -/
theorem parameters_perm (hd : d.WellFormed) :
    (d.inputs.filter (fun p => p.kind.typeName?.isSome) ++ d.images).Perm d.parameters := by
  have hvariables : d.inputs.filter (fun p => p.kind.typeName?.isSome) =
      d.parameters.filter fun p => !p.kind.isSampler := by
    rw [hd.inputs_eq_filter, List.filter_filter]
    refine List.filter_congr fun p hp => ?_
    rw [Kind.isSome_typeName?]
    cases himport : p.isImport with
    | false => simp
    | true =>
        -- an imported image is sampled
        rw [hd.parameters.imports p hp himport]
        rfl
  rw [hvariables]
  refine (hd.images_perm.append_left _).trans (List.perm_append_comm.trans ?_)
  exact List.filter_append_perm (fun p : Parameter => p.kind.isSampler) d.parameters

/-- **The names that a stage declares** are those of the generator and those of the metadata. -/
theorem names_perm (hd : d.WellFormed) :
    (d.programInterface.handed.map Variable.name).Perm
      (d.programInterface.ownNames ++ d.givenNames) := by
  have hinputs : d.programInterface.inputs.map Variable.name =
      (d.inputs.filter fun p => p.kind.typeName?.isSome).map Parameter.name := by
    rw [programInterface]
    induction d.inputs with
    | nil => rfl
    | cons p ps ih =>
      cases h : p.kind.typeName? <;> simp_all
  have hsamplers : (d.programInterface.samplers.map Sampler.toVariable).map Variable.name =
      d.images.map Parameter.name ++ d.passes.targets.map Target.name :=
    (List.map_map ..).trans (map_name_samplers d)
  have hgiven : (d.programInterface.inputs.map Variable.name ++ (d.images.map Parameter.name ++
      d.passes.targets.map Target.name)).Perm d.givenNames := by
    rw [hinputs, ← List.append_assoc, ← List.map_append]
    exact (hd.parameters_perm.map _).append_right _
  rw [Interface.handed, Interface.uniforms, Interface.ownNames, List.map_append,
    List.map_append, List.map_append, List.map_append, hsamplers, List.map_singleton]
  refine (List.Perm.trans ?_ (hgiven.append_left _))
  rw [← Multiset.coe_eq_coe]
  simp only [← Multiset.coe_add]
  abel

end WellFormed

/-! ### Programs -/

/-- Names that differ from one another, and others that do so, differ if none is among both. -/
theorem nodup_append_iff {own given : List String} (hown : own.Nodup) (hgiven : given.Nodup) :
    (own ++ given).Nodup ↔ ∀ name ∈ given, name ∉ own := by
  rw [List.nodup_append', List.disjoint_comm]
  exact ⟨fun h => h.2.2, fun h => ⟨hown, hgiven, h⟩⟩

/-- **When a program declares no name twice.**  What stands in front of the body of a program
declares the variables of the stage and nothing else, line by line if no name of the metadata has a
semicolon or a line break.  Their names differ exactly if no parameter and no target is called like
a variable of all effects, like a variable that accompanies a sampler, or like the place that is
handed on.  And with what belongs to the stage alone, no name is declared twice exactly if none is
called like that either.  That is so for every document that was read, whatever values, sizes and
buffers it has got since. -/
theorem generate_nodup_iff {settings : SceneSettings} {source : ProgramSource} (hd : d.Opened)
    (he : e.blank = d.blank) (hsource : e.generate settings = .ok source) (stage : Stage) :
    (∃ out, Rewritten e.samplers none (e.body stage) out ∧
        source.program stage = e.front settings stage ++ String.ofList out) ∧
      e.programInterface.Declares settings.dialect settings.uniformBlock stage
        (e.front settings stage) ∧
      ((∀ name ∈ d.givenNames, Lacks [';', '\n'] name) →
        (Text.declarations (e.front settings stage)).map Declaration.name =
            e.programInterface.handed.map Variable.name ++
              (settings.dialect.stageVariables stage).map Variable.name ∧
          (((Text.declarations (e.front settings stage)).map Declaration.name).Nodup ↔
            ∀ name ∈ d.givenNames, name ∉ e.programInterface.ownNames ++
              (settings.dialect.stageVariables stage).map Variable.name)) ∧
      ((e.programInterface.handed.map Variable.name).Nodup ↔
        ∀ name ∈ d.givenNames, name ∉ e.programInterface.ownNames) := by
  have hwell : e.WellFormed := hd.spec.1.of_blank_eq he
  have hsamplers : (e.programInterface.samplers.map Sampler.name).Nodup := hwell.nodup_samplers
  have hown := Interface.nodup_ownNames hsamplers settings.dialect stage
  have hdeclares : e.programInterface.Declares settings.dialect settings.uniformBlock stage
      (e.front settings stage) := Interface.declares_stageFront e.type_mem_types
  rw [← givenNames_congr he]
  refine ⟨(generate_eq_ok_iff_written.1 hsource).2 stage, hdeclares, fun hnames => ?_, ?_⟩
  · have hnamesOf : (Text.declarations (e.front settings stage)).map Declaration.name =
        e.programInterface.handed.map Variable.name ++
          (settings.dialect.stageVariables stage).map Variable.name := by
      rw [hdeclares.each (lacks_of_mem_declared (by decide) hnames),
        Interface.map_name_declarationList]
    refine ⟨hnamesOf, ?_⟩
    have hperm : (e.programInterface.handed.map Variable.name ++
        (settings.dialect.stageVariables stage).map Variable.name).Perm
          (e.programInterface.ownNames ++
            (settings.dialect.stageVariables stage).map Variable.name ++ e.givenNames) := by
      refine (hwell.names_perm.append_right _).trans ?_
      rw [List.append_assoc, List.append_assoc]
      exact List.perm_append_comm.append_left _
    rw [hnamesOf, hperm.nodup_iff, nodup_append_iff hown hwell.nodup_givenNames]
  · rw [hwell.names_perm.nodup_iff, nodup_append_iff (List.nodup_append.1 hown).1
      hwell.nodup_givenNames]

/-- An effect with a number, an image and a target. -/
def gaugeText : String :=
  "/*\x7b\"INPUTS\":[\x7b\"NAME\":\"speed\",\"TYPE\":\"float\"\x7d," ++
    "\x7b\"NAME\":\"photo\",\"TYPE\":\"image\"\x7d]," ++
    "\"PASSES\":[\x7b\"TARGET\":\"a\"\x7d,\x7b\x7d]\x7d*/"

/-- **The programs of an effect with ordinary names** declare no name twice. -/
theorem generate_nodup_gauge :
    ∃ d source, (ofTexts gaugeText none "/").result = .ok d ∧
      d.generate ⟨.gl33, true⟩ = .ok source ∧
      ∀ stage, (∃ out, source.program stage = d.front ⟨.gl33, true⟩ stage ++ String.ofList out) ∧
        (Text.declarations (d.front ⟨.gl33, true⟩ stage)).map Declaration.name =
          ["PASSINDEX", "RENDERSIZE", "TIME", "TIMEDELTA", "DATE", "FRAMEINDEX", "speed",
            "_photo_imgRect", "_photo_imgSize", "_photo_flip", "_a_imgRect", "_a_imgSize",
            "_a_flip", "photo", "a", "isf_FragNormCoord",
            match stage with | .vertex => "VERTDATA" | .fragment => "isf_FragColor"] ∧
        ((Text.declarations (d.front ⟨.gl33, true⟩ stage)).map Declaration.name).Nodup ∧
        (d.programInterface.handed.map Variable.name).Nodup := by
  obtain ⟨d, source, hd, hsource, hcomputed⟩ := exists_of_computed gaugeText ⟨.gl33, true⟩
    (fun d => decide ((∀ name ∈ d.givenNames, Lacks [';', '\n'] name ∧
      name ∉ d.programInterface.ownNames ++ ["VERTDATA", "isf_FragColor"]) ∧
      d.programInterface.handed.map Variable.name =
        ["PASSINDEX", "RENDERSIZE", "TIME", "TIMEDELTA", "DATE", "FRAMEINDEX", "speed",
          "_photo_imgRect", "_photo_imgSize", "_photo_flip", "_a_imgRect", "_a_imgSize", "_a_flip",
          "photo", "a", "isf_FragNormCoord"])) true (by decide +kernel)
  obtain ⟨hnames, hhanded⟩ := of_decide_eq_true hcomputed
  refine ⟨d, source, hd, hsource, fun stage => ?_⟩
  obtain ⟨⟨out, -, hout⟩, -, hdeclared, hnodup⟩ := generate_nodup_iff (.texts hd) rfl hsource stage
  obtain ⟨hdeclared, hall⟩ := hdeclared fun name hname => (hnames name hname).1
  refine ⟨⟨out, hout⟩, ?_, hall.2 fun name hname hmem => ?_, hnodup.2 fun name hname hmem =>
    (hnames name hname).2 (List.mem_append_left _ hmem)⟩
  · rw [hdeclared, hhanded]
    cases stage <;> rfl
  · refine (hnames name hname).2 ?_
    rcases List.mem_append.1 hmem with hmem | hmem
    · exact List.mem_append_left _ hmem
    · have hstage : (Dialect.gl33.stageVariables stage).map Variable.name ⊆
          ["VERTDATA", "isf_FragColor"] := by
        cases stage <;> decide
      exact List.mem_append_right _ (hstage hmem)

/-- An effect with an input that is called like the time. -/
def clockText : String :=
  "/*\x7b\"INPUTS\":[\x7b\"NAME\":\"TIME\",\"TYPE\":\"float\"\x7d]\x7d*/"

/-- **An input that is called like the time is declared beside it.**  Reading accepts the effect,
and both of its programs declare the name twice, as numbers in lines of their own. -/
theorem exists_generate_not_nodup :
    ∃ d source, (ofTexts clockText none "/").result = .ok d ∧
      d.generate .standard = .ok source ∧
      ∀ stage, (∃ out, source.program stage = d.front .standard stage ++ String.ofList out) ∧
        (Text.declarations (d.front .standard stage)).filter (·.name = "TIME") =
          [⟨"uniform ", "float", "TIME"⟩, ⟨"uniform ", "float", "TIME"⟩] ∧
        ¬(d.programInterface.handed.map Variable.name).Nodup := by
  obtain ⟨d, source, hd, hsource, hcomputed⟩ := exists_of_computed clockText .standard
    (fun d => decide ((∀ name ∈ d.givenNames, Lacks [';', '\n'] name) ∧
      (∀ stage ∈ [Stage.vertex, .fragment],
        (d.declared .standard stage).filter (·.name = "TIME") =
          [⟨"uniform ", "float", "TIME"⟩, ⟨"uniform ", "float", "TIME"⟩]) ∧
      ¬(d.programInterface.handed.map Variable.name).Nodup)) true (by decide +kernel)
  obtain ⟨hnames, hdeclared, hnodup⟩ := of_decide_eq_true hcomputed
  refine ⟨d, source, hd, hsource, fun stage => ?_⟩
  obtain ⟨out, -, hout⟩ := (generate_eq_ok_iff_written.1 hsource).2 stage
  refine ⟨⟨out, hout⟩, ?_, hnodup⟩
  rw [front, (Interface.declares_stageFront d.type_mem_types).each
    (lacks_of_mem_declared (by decide) hnames)]
  exact hdeclared stage (by cases stage <;> simp)

end Document

end ShaderEffect
