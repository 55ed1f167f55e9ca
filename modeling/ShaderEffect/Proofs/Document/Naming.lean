/-
**Names in the metadata.**

All parameters of an effect and all its targets have different names.  Inputs, imported images and
passes are read one after the other, each with its own test for a name that is taken, and a pass may
name a target again that a pass before it has declared.  Together the three tests refuse just what
they should: if nothing else is wrong with the metadata, it is refused exactly if two names clash.

Main definitions:

* `ShaderEffect.EffectForm.Readable` — nothing is wrong with the metadata, but perhaps names clash;
* `ShaderEffect.EffectForm.Clashes` — names clash.

Main results:

* `ShaderEffect.Passes.ofForms_outcome` — when passes are accepted;
* `ShaderEffect.EffectForm.parametersOf_outcome` — when parameters are;
* `ShaderEffect.Metadata.parameters_and_names` — **what is read, and when names are refused**.
-/

import ShaderEffect.Proofs.Document.Views
import ShaderEffect.Proofs.Json.Sorted

set_option autoImplicit false

namespace ShaderEffect

/-- A pass draws into the target of a name. -/
def PassForm.Names (form : PassForm) (name : String) : Prop := form.target = some name ∧ name ≠ ""

/-- The flags of a pass can be read, as far as they matter. -/
def PassForm.HasFlags (form : PassForm) : Prop :=
  ∀ name, form.Names name →
    (∃ b, Passes.flagOf form.persistent = .ok b) ∧ ∃ b, Passes.flagOf form.float = .ok b

/-! ### Passes -/

namespace Passes

variable {taken : List String} {ps qs : Passes}

/-- No target has a name that no target may have. -/
def Apart (taken : List String) (ps : Passes) : Prop := ∀ t ∈ ps.targets, t.name ∉ taken

/-- A pass that is accepted leaves the targets apart. -/
theorem Apart.add (hps : ps.Apart taken) {form : PassForm}
    (h : (ps.add taken form).result = .ok qs) : qs.Apart taken := by
  rcases add_cases h with ⟨rfl, -⟩ | ⟨persistent, float, -, htaken, -, rfl⟩
  · exact hps
  · intro t ht
    rcases List.mem_cons.1 ((targets_addTarget ps _).mem_iff.1 ht) with rfl | ht
    · exact htaken
    · exact hps t ht

/-- **A pass is accepted, or the name of its target is taken.** -/
theorem add_outcome (hps : ps.Apart taken) {form : PassForm} (hflags : form.HasFlags) :
    ((∃ qs, (ps.add taken form).result = .ok qs) ∧ ∀ name, form.Names name → name ∉ taken) ∨
    ((∃ fault, (ps.add taken form).result = .error (.configuration fault)) ∧
      ∃ name, form.Names name ∧ name ∈ taken) := by
  unfold add
  dsimp only
  by_cases hempty : form.target.getD "" = ""
  · rw [if_pos hempty]
    refine Or.inl ⟨⟨_, rfl⟩, ?_⟩
    rintro name ⟨htarget, hne⟩
    rw [htarget] at hempty
    exact absurd hempty hne
  · obtain ⟨name, htarget⟩ : ∃ name, form.target = some name := by
      cases h : form.target with
      | none => exact absurd (by rw [h]; rfl) hempty
      | some name => exact ⟨name, rfl⟩
    have hname : form.target.getD "" = name := by rw [htarget]; rfl
    have hnames : form.Names name := ⟨htarget, hname ▸ hempty⟩
    have hunique {other : String} (h : form.Names other) : other = name :=
      Option.some.inj (h.1.symm.trans htarget)
    obtain ⟨⟨persistent, hpersistent⟩, ⟨float, hfloat⟩⟩ := hflags name hnames
    rw [if_neg hempty, hname, Report.result_bind_of_ok hpersistent, Report.result_bind_of_ok hfloat]
    cases hfind : ps.target? name with
    | some t =>
        -- a target that is declared already is not called like a parameter
        have hfree : name ∉ taken := by
          have htname : t.name = name := by simpa using List.find?_some hfind
          exact htname ▸ hps t (List.mem_of_find?_eq_some hfind)
        refine Or.inl ⟨⟨ps.draw name, ?_⟩, fun other h => hunique h ▸ hfree⟩
        dsimp only
        split
        · rfl
        · rfl
    | none =>
        dsimp only
        by_cases htaken : name ∈ taken
        · rw [if_pos htaken]
          exact Or.inr ⟨⟨_, rfl⟩, name, hnames, htaken⟩
        · rw [if_neg htaken]
          exact Or.inl ⟨⟨_, rfl⟩, fun other h => hunique h ▸ htaken⟩

/-- **Passes are accepted, or the name of a target is taken.** -/
theorem addAll_outcome {forms : List PassForm} (hps : ps.Apart taken)
    (hflags : ∀ form ∈ forms, form.HasFlags) :
    ((∃ qs, (addAll taken ps forms).result = .ok qs) ∧
      ∀ form ∈ forms, ∀ name, form.Names name → name ∉ taken) ∨
    ((∃ fault, (addAll taken ps forms).result = .error (.configuration fault)) ∧
      ∃ form ∈ forms, ∃ name, form.Names name ∧ name ∈ taken) := by
  induction forms generalizing ps with
  | nil => exact Or.inl ⟨⟨ps, rfl⟩, fun _ h => absurd h List.not_mem_nil⟩
  | cons form forms ih =>
      obtain ⟨hform, hforms⟩ := List.forall_mem_cons.1 hflags
      rw [addAll]
      rcases add_outcome hps hform with ⟨⟨qs, hqs⟩, hfree⟩ | ⟨⟨fault, hfault⟩, hclash⟩
      · rw [Report.result_bind_of_ok hqs]
        rcases ih (hps.add hqs) hforms with ⟨hok, hrest⟩ | ⟨herror, clash, hmem, hclash⟩
        · exact Or.inl ⟨hok, List.forall_mem_cons.2 ⟨hfree, hrest⟩⟩
        · exact Or.inr ⟨herror, clash, List.mem_cons_of_mem _ hmem, hclash⟩
      · refine Or.inr ⟨⟨fault, Report.result_bind_of_error hfault _⟩, form, ?_, hclash⟩
        exact List.mem_cons_self

/-- **The passes of an effect are accepted, or the name of a target is taken.** -/
theorem ofForms_outcome (taken : List String) {forms : List PassForm}
    (hflags : ∀ form ∈ forms, form.HasFlags) :
    ((∃ qs, (ofForms taken forms).result = .ok qs) ∧
      ∀ form ∈ forms, ∀ name, form.Names name → name ∉ taken) ∨
    ((∃ fault, (ofForms taken forms).result = .error (.configuration fault)) ∧
      ∃ form ∈ forms, ∃ name, form.Names name ∧ name ∈ taken) := by
  cases forms with
  | nil => exact Or.inl ⟨⟨_, rfl⟩, fun _ h => absurd h List.not_mem_nil⟩
  | cons form forms => exact addAll_outcome (fun _ h => absurd h List.not_mem_nil) hflags

end Passes

/-! ### Parameters -/

theorem configuration_of_addParameter {clash : String → ConfigurationFault} {ps : List Parameter}
    {p : Parameter} {failure : Failure} (h : addParameter clash ps p = .error failure) :
    ∃ fault, failure = .configuration fault := by
  unfold addParameter at h
  split at h
  · cases h
    exact ⟨_, rfl⟩
  · cases h

/-- Inputs that can be read are refused for their names alone. -/
theorem configuration_of_addInputs {forms : List InputForm} {inputs ps : List Parameter}
    (hforms : List.Forall₂ InputForm.ReadAs forms inputs) {failure : Failure}
    (h : (addInputs ps forms).result = .error failure) :
    ∃ fault, failure = .configuration fault := by
  induction hforms generalizing ps with
  | nil => cases h
  | cons hp _ ih =>
      rw [addInputs, Report.result_bind_of_ok hp] at h
      cases hadd : addParameter .duplicateInput ps _ with
      | error failure' =>
          rw [Report.result_bind_of_error hadd] at h
          cases h
          exact configuration_of_addParameter hadd
      | ok qs =>
          rw [Report.result_bind_of_ok hadd] at h
          exact ih h

/-- Imported images are refused for their names alone. -/
theorem configuration_of_addImports {images ps : List Parameter} {failure : Failure}
    (h : addImports ps images = .error failure) : ∃ fault, failure = .configuration fault := by
  induction images generalizing ps with
  | nil => cases h
  | cons p images ih =>
      rw [addImports] at h
      split at h
      · rename_i failure' hadd
        cases h
        exact configuration_of_addParameter hadd
      · exact ih h

namespace EffectForm

variable {directory : String} {form : EffectForm}

/-- **Nothing is wrong with the metadata**, but perhaps names clash. -/
structure Readable (directory : String) (form : EffectForm) : Prop where
  inputs : ∀ input ∈ form.inputs, ∃ p, InputForm.ReadAs input p
  images : ∃ images, importsOf directory form.imported = .ok images
  passes : ∀ pass ∈ form.passes.getD [], pass.HasFlags

/-- **Names clash.** -/
inductive Clashes (directory : String) (form : EffectForm) : Prop where
  /-- Two inputs share a name. -/
  | inputs : ¬ (form.inputs.map InputForm.name).Nodup → Clashes directory form
  /-- Two imported images share a name. -/
  | images {images : List Parameter} : importsOf directory form.imported = .ok images →
      ¬ (images.map Parameter.name).Nodup → Clashes directory form
  /-- An imported image is called like an input. -/
  | imported {images : List Parameter} {name : String} :
      importsOf directory form.imported = .ok images → name ∈ form.inputs.map InputForm.name →
      name ∈ images.map Parameter.name → Clashes directory form
  /-- A target is called like an input or an imported image. -/
  | target {images : List Parameter} {pass : PassForm} {name : String} :
      importsOf directory form.imported = .ok images → pass ∈ form.passes.getD [] →
      pass.Names name →
      name ∈ form.inputs.map InputForm.name ∨ name ∈ images.map Parameter.name →
      Clashes directory form

/-- Inputs that were read have the names of their forms. -/
theorem map_name_of_readAs {forms : List InputForm} {inputs : List Parameter}
    (h : List.Forall₂ InputForm.ReadAs forms inputs) :
    inputs.map Parameter.name = forms.map InputForm.name := by
  induction h with
  | nil => rfl
  | cons hp _ ih => rw [List.map_cons, List.map_cons, ih, InputForm.name_toParameter hp]

/-- Names clash exactly if the parameters do not have different names, or a target is called like
one of them. -/
theorem clashes_iff {inputs images : List Parameter}
    (hinputs : List.Forall₂ InputForm.ReadAs form.inputs inputs)
    (himages : importsOf directory form.imported = .ok images) :
    form.Clashes directory ↔ ¬ ((inputs ++ images).map Parameter.name).Nodup ∨
      ∃ pass ∈ form.passes.getD [], ∃ name, pass.Names name ∧
        name ∈ (inputs ++ images).map Parameter.name := by
  simp only [List.map_append, map_name_of_readAs hinputs, List.nodup_append', List.mem_append]
  constructor
  · rintro (h | ⟨h, hnodup⟩ | ⟨h, hname, hname'⟩ | ⟨h, hpass, hnames, hname⟩)
    · exact Or.inl fun hall => h hall.1
    all_goals
      rw [himages] at h
      cases h
    · exact Or.inl fun hall => hnodup hall.2.1
    · exact Or.inl fun hall => hall.2.2 hname hname'
    · exact Or.inr ⟨_, hpass, _, hnames, hname⟩
  · rintro (h | ⟨pass, hpass, name, hnames, hname⟩)
    · by_cases hin : (form.inputs.map InputForm.name).Nodup
      · by_cases him : (images.map Parameter.name).Nodup
        · have hshare : ¬ (form.inputs.map InputForm.name).Disjoint (images.map Parameter.name) :=
            fun hdisjoint => h ⟨hin, him, hdisjoint⟩
          simp only [List.Disjoint, not_forall] at hshare
          obtain ⟨name, hname, hname', -⟩ := hshare
          exact .imported himages hname hname'
        · exact .images himages him
      · exact .inputs hin
    · exact .target himages hpass hnames hname

/-- The inputs of readable metadata can all be read. -/
theorem Readable.exists_inputs (h : form.Readable directory) :
    ∃ inputs, List.Forall₂ InputForm.ReadAs form.inputs inputs := by
  have hinputs := h.inputs
  generalize form.inputs = forms at hinputs
  induction forms with
  | nil => exact ⟨[], .nil⟩
  | cons input forms ih =>
      obtain ⟨⟨p, hp⟩, hforms⟩ := List.forall_mem_cons.1 hinputs
      obtain ⟨ps, hps⟩ := ih hforms
      exact ⟨p :: ps, .cons hp hps⟩

/-- **Parameters that can be read are accepted exactly if they have different names.** -/
theorem parametersOf_outcome {inputs images : List Parameter}
    (hinputs : List.Forall₂ InputForm.ReadAs form.inputs inputs)
    (himages : importsOf directory form.imported = .ok images) :
    (((inputs ++ images).map Parameter.name).Nodup ∧
      (parametersOf directory form).result = .ok (inputs ++ images)) ∨
    (¬ ((inputs ++ images).map Parameter.name).Nodup ∧
      ∃ fault, (parametersOf directory form).result = .error (.configuration fault)) := by
  by_cases hnodup : ((inputs ++ images).map Parameter.name).Nodup
  · exact Or.inl ⟨hnodup, parametersOf_eq_ok_iff.2 ⟨_, _, hinputs, himages, rfl, hnodup⟩⟩
  · refine Or.inr ⟨hnodup, ?_⟩
    have hempty : (([] : List Parameter).map Parameter.name).Nodup := List.nodup_nil
    rw [parametersOf]
    cases hadd : (addInputs [] form.inputs).result with
    | error failure =>
        rw [Report.result_bind_of_error hadd]
        obtain ⟨fault, rfl⟩ := configuration_of_addInputs hinputs hadd
        exact ⟨fault, rfl⟩
    | ok ps =>
        rw [Report.result_bind_of_ok hadd,
          Report.result_bind_of_ok (r := .ofExcept (importsOf directory form.imported)) himages]
        cases hrest : addImports ps images with
        | error failure =>
            obtain ⟨fault, rfl⟩ := configuration_of_addImports hrest
            exact ⟨fault, rfl⟩
        | ok qs =>
            obtain ⟨inputs', hinputs', rfl, hps⟩ := (addInputs_eq_ok_iff hempty).1 hadd
            obtain ⟨rfl, hqs⟩ := (addImports_eq_ok_iff hps).1 hrest
            rw [List.map_append, map_name_of_readAs hinputs',
              ← map_name_of_readAs hinputs, ← List.map_append] at hqs
            exact absurd hqs hnodup

end EffectForm

/-! ### The metadata -/

namespace Metadata

variable {directory : String} {form : EffectForm}

/-- **If nothing else is wrong, metadata is refused exactly if names clash.** -/
theorem ofForm_outcome (hform : form.Readable directory) :
    (¬ form.Clashes directory ∧ ∃ m, (ofForm directory form).result = .ok m) ∨
    (form.Clashes directory ∧
      ∃ fault, (ofForm directory form).result = .error (.configuration fault)) := by
  obtain ⟨inputs, hinputs⟩ := hform.exists_inputs
  obtain ⟨images, himages⟩ := hform.images
  rw [EffectForm.clashes_iff hinputs himages, ofForm]
  rcases EffectForm.parametersOf_outcome hinputs himages with
    ⟨hnodup, hps⟩ | ⟨hnodup, fault, hfault⟩
  · rw [Report.result_bind_of_ok hps]
    have hpasses := Passes.ofForms_outcome ((inputs ++ images).map Parameter.name) hform.passes
    rcases hpasses with ⟨⟨qs, hqs⟩, hfree⟩ | ⟨⟨fault, hfault⟩, hclash⟩
    · refine Or.inl ⟨?_, _, by rw [Report.result_bind_of_ok hqs]; rfl⟩
      rintro (hclash | ⟨pass, hpass, name, hnames, hname⟩)
      · exact hclash hnodup
      · exact hfree pass hpass name hnames hname
    · exact Or.inr ⟨Or.inr hclash, fault, by rw [Report.result_bind_of_error hfault]⟩
  · exact Or.inr ⟨Or.inl hnodup, fault, by rw [Report.result_bind_of_error hfault]⟩

/-- **What metadata says, and when its names are refused.**  Where metadata is accepted, its
parameters are the inputs in the order of their declaration and then the imported images, in the
order of the list or of the keys of the object, of which none is there twice.  All names of
parameters and targets are different, and so the views of the document and its lookups by name are
what they should be, at first and whatever is changed later.  And where nothing else is wrong,
metadata is refused for its configuration exactly if names clash. -/
theorem parameters_and_names (directory text : String) :
    (∀ m, (ofText directory text).result = .ok m →
      ∃ form inputs images, EffectForm.ofText text = .ok form ∧
        m.parameters = inputs ++ images ∧
        List.Forall₂ (fun input p => InputForm.ReadAs input p ∧ p.name = input.name ∧
          p.isImport = false) form.inputs inputs ∧
        Imports directory form.imported images ∧
        (∀ members, form.imported = some (.object members) →
          (members.map Prod.fst).Pairwise (· < ·)) ∧
        (m.parameters.map Parameter.name ++ m.passes.targets.map Target.name).Nodup ∧
        ∀ d : Document, d.toMetadata = m → ∀ d' : Document, d'.blank = d.blank → d'.Indexed) ∧
    ∀ form, EffectForm.ofText text = .ok form → form.Readable directory →
      ((∃ fault, (ofText directory text).result = .error (.configuration fault)) ↔
        form.Clashes directory) ∧
      (¬ form.Clashes directory → ∃ m, (ofText directory text).result = .ok m) := by
  constructor
  · intro m hm
    have hdocument (d : Document) (hd : d.toMetadata = m) : d.WellFormed :=
      (Document.wellFormed_of_ofText hm hd).1
    have hnames : (m.parameters.map Parameter.name ++ m.passes.targets.map Target.name).Nodup := by
      have hwell := hdocument { m with
        path := none, source := ⟨"", "", ""⟩, vertex := "", importsDirectory := "",
        failure := none, parent := none } rfl
      refine List.nodup_append'.2 ⟨hwell.parameters.names, hwell.passes.names, ?_⟩
      intro name hname htarget
      obtain ⟨t, ht, rfl⟩ := List.mem_map.1 htarget
      exact hwell.passes.apart t ht hname
    unfold ofText at hm
    split at hm
    · cases hm
    · rename_i form hform
      obtain ⟨ps, hps, hm⟩ := Report.result_bind_eq_ok_iff.1 hm
      obtain ⟨passes, -, hm⟩ := Report.result_bind_eq_ok_iff.1 hm
      cases hm
      obtain ⟨inputs, images, hinputs, himages, rfl, -⟩ := parametersOf_eq_ok_iff.1 hps
      refine ⟨form, inputs, images, hform, rfl, ?_, importsOf_eq_ok_iff.1 himages, ?_, hnames, ?_⟩
      · exact hinputs.imp fun _ _ hp =>
          ⟨hp, InputForm.name_toParameter hp, InputForm.isImport_toParameter hp⟩
      · intro members himported
        cases EffectForm.sorted_imported hform _ himported with
        | object hkeys _ => exact hkeys
      · exact fun d hd d' hblank => ((hdocument d hd).of_blank_eq hblank).indexed
  · intro form hform hreadable
    have htext : ofText directory text = ofForm directory form := by rw [ofText, hform]
    rw [htext]
    rcases ofForm_outcome hreadable with ⟨hfree, m, hm⟩ | ⟨hclash, fault, hfault⟩
    · refine ⟨⟨?_, fun hclash => absurd hclash hfree⟩, fun _ => ⟨m, hm⟩⟩
      rintro ⟨fault, hfault⟩
      rw [hm] at hfault
      cases hfault
    · exact ⟨⟨fun _ => hclash, fun _ => ⟨fault, hfault⟩⟩, fun hfree => absurd hclash hfree⟩

end Metadata

end ShaderEffect
