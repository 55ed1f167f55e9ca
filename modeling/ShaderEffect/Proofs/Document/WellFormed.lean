/-
**What every document is like.**

However a document was read, its parameters and targets have different names, the inputs stand
before the imported images, the targets are sorted into those that persist and those that do not,
and every pass draws into the final output or into a declared target.  None of this changes while
the document is used: hosts and frames change values, sizes and buffers, and nothing else.

Main definitions:

* `ShaderEffect.Document.Opened` — the documents that can be read;
* `ShaderEffect.Document.blank` — a document without values, sizes and buffers;
* `ShaderEffect.Document.WellFormed` — what a document is like at all times;
* `ShaderEffect.Document.Fresh` — what a document is like at first.

Main results:

* `ShaderEffect.Document.Opened.metadata` — where the metadata of a document come from;
* `ShaderEffect.Document.Opened.spec` — **documents that were read are well formed and hold no
  buffers**;
* `ShaderEffect.Document.WellFormed.of_blank_eq` — changes of values, sizes and buffers do not
  matter.
-/

import Mathlib.Data.List.Nodup
import ShaderEffect.Document.Open
import ShaderEffect.Proofs.Metadata.Inputs

set_option autoImplicit false

namespace ShaderEffect

/-! ### What stays -/

/-- The target without size and buffers. -/
def Target.blank (t : Target) : Target := { t with size := none, current := none, previous := none }

/-- The parameter without its value. -/
def Parameter.blank (p : Parameter) : Parameter := { p with current := .zero p.kind }

namespace Document

/-- The document without values, sizes and buffers, and without its scene. -/
def blank (d : Document) : Document :=
  { d with
    parameters := d.parameters.map Parameter.blank
    passes := { d.passes with
      persistent := d.passes.persistent.map Target.blank
      temporary := d.passes.temporary.map Target.blank }
    parent := none }

end Document

/-- What the targets of a document and the order of drawing are like, when no target may have one
of the names in `taken`. -/
structure Passes.WellFormed (taken : List String) (ps : Passes) : Prop where
  /-- Targets have different names. -/
  names : (ps.targets.map Target.name).Nodup
  /-- A target is not called like a parameter. -/
  apart : ∀ t ∈ ps.targets, t.name ∉ taken
  persistent : ∀ t ∈ ps.persistent, t.persistent = true
  temporary : ∀ t ∈ ps.temporary, t.persistent = false
  /-- Every target is drawn into. -/
  drawn : ∀ t ∈ ps.targets, t.name ≠ "" ∧ t.name ∈ ps.order
  /-- Every pass draws into the final output or into a target. -/
  declared : ∀ name ∈ ps.order, name ≠ "" → ∃ t ∈ ps.targets, t.name = name

/-- What the parameters of a document are like. -/
structure Parameter.WellFormed (ps : List Parameter) : Prop where
  /-- Parameters have different names. -/
  names : (ps.map Parameter.name).Nodup
  /-- Behind an imported image there are only imported images. -/
  sorted : ps.Pairwise fun p q => p.isImport = true → q.isImport = true
  imports : ∀ p ∈ ps, p.isImport = true → p.kind = .image

namespace Document

/-- What a document is like at all times. -/
structure WellFormed (d : Document) : Prop where
  parameters : Parameter.WellFormed d.parameters
  passes : d.passes.WellFormed (d.parameters.map Parameter.name)

/-- What a document is like at first: targets have neither sizes nor buffers, and no image is
loaded. -/
structure Fresh (d : Document) : Prop where
  targets : ∀ t ∈ d.passes.targets, t.blank = t
  imports : ∀ p ∈ d.parameters, p.isImport = true → p.blank = p

/-- A document that was read, or stands for one that could not be read. -/
inductive Opened : Document → Prop where
  | texts {fragment : String} {vertex : Option String} {directory : String} {d : Document} :
      (ofTexts fragment vertex directory).result = .ok d → Opened d
  | file {disk : Disk} {path : String} {d : Document} : (ofFile disk path).result = .ok d → Opened d
  | invalid (failure : Failure) (path : Option String) (directory : String) :
      Opened (invalid failure path directory)

end Document

/-! ### Changes that do not matter -/

@[simp] theorem Target.name_blank (t : Target) : t.blank.name = t.name := rfl

@[simp] theorem Target.float_blank (t : Target) : t.blank.float = t.float := rfl

@[simp] theorem Target.persistent_blank (t : Target) : t.blank.persistent = t.persistent := rfl

@[simp] theorem Parameter.name_blank (p : Parameter) : p.blank.name = p.name := rfl

/-- Being well formed does not depend on values. -/
theorem Parameter.wellFormed_blank {ps : List Parameter} :
    Parameter.WellFormed (ps.map Parameter.blank) ↔ Parameter.WellFormed ps := by
  have hnames : (ps.map Parameter.blank).map Parameter.name = ps.map Parameter.name := by
    simp [Function.comp_def]
  constructor
  · intro h
    refine ⟨hnames ▸ h.names, ?_, fun p hp => h.imports p.blank (List.mem_map_of_mem hp)⟩
    exact List.pairwise_map.1 h.sorted
  · intro h
    refine ⟨hnames.symm ▸ h.names, List.pairwise_map.2 h.sorted, fun q hq => ?_⟩
    obtain ⟨p, hp, rfl⟩ := List.mem_map.1 hq
    exact h.imports p hp

namespace Document

variable {d d' : Document}

theorem targets_blank (d : Document) :
    d.blank.passes.targets = d.passes.targets.map Target.blank :=
  List.map_append.symm

theorem names_blank (d : Document) :
    d.blank.parameters.map Parameter.name = d.parameters.map Parameter.name := by
  simp [blank, Function.comp_def]

/-- Being well formed does not depend on values, sizes and buffers. -/
theorem wellFormed_blank : d.blank.WellFormed ↔ d.WellFormed := by
  have hnames : (d.passes.targets.map Target.blank).map Target.name =
      d.passes.targets.map Target.name := by
    simp [Function.comp_def]
  constructor
  · rintro ⟨hparameters, names, apart, persistent, temporary, drawn, declared⟩
    rw [targets_blank] at names apart drawn declared
    rw [names_blank] at apart
    refine ⟨Parameter.wellFormed_blank.1 hparameters, hnames ▸ names, ?_, ?_, ?_, ?_, ?_⟩
    · exact fun t ht => apart t.blank (List.mem_map_of_mem ht)
    · exact fun t ht => persistent t.blank (List.mem_map_of_mem ht)
    · exact fun t ht => temporary t.blank (List.mem_map_of_mem ht)
    · exact fun t ht => drawn t.blank (List.mem_map_of_mem ht)
    · intro name hname hne
      obtain ⟨u, hu, rfl⟩ := declared name hname hne
      obtain ⟨t, ht, rfl⟩ := List.mem_map.1 hu
      exact ⟨t, ht, rfl⟩
  · rintro ⟨hparameters, names, apart, persistent, temporary, drawn, declared⟩
    refine ⟨Parameter.wellFormed_blank.2 hparameters, ?_⟩
    rw [names_blank]
    refine ⟨targets_blank d ▸ hnames.symm ▸ names, ?_, ?_, ?_, ?_, ?_⟩
    · rw [targets_blank]
      exact List.forall_mem_map.2 apart
    · exact List.forall_mem_map.2 persistent
    · exact List.forall_mem_map.2 temporary
    · rw [targets_blank]
      exact List.forall_mem_map.2 drawn
    · intro name hname hne
      obtain ⟨t, ht, rfl⟩ := declared name hname hne
      exact ⟨t.blank, targets_blank d ▸ List.mem_map_of_mem ht, rfl⟩

/-- **Changes of values, sizes and buffers do not matter.** -/
theorem WellFormed.of_blank_eq (hd : d.WellFormed) (h : d'.blank = d.blank) : d'.WellFormed :=
  wellFormed_blank.1 (h ▸ wellFormed_blank.2 hd)

end Document

/-! ### Parameters as they are read -/

/-- What the label, the limits, the options and the default of a parameter leave alone: its name,
its kind and where it comes from. -/
def Parameter.signature (p : Parameter) : String × Kind × Option String :=
  (p.name, p.kind, p.importPath)

/-- An input that was read has the name and the kind of its form, and is no imported image. -/
theorem InputForm.signature_toParameter {form : InputForm} {p : Parameter}
    (h : form.toParameter.result = .ok p) :
    ∃ kind, Kind.ofName? form.kind = some kind ∧ p.signature = (form.name, kind, none) := by
  obtain ⟨kind, hkind, hp⟩ := yields_toParameter h
  refine ⟨kind, hkind, ?_⟩
  cases hp with
  | audio | image => rfl
  | value _ _ _ _ hchooses hdefaults =>
    obtain ⟨_, _, _, rfl⟩ := hchooses.exists_eq
    obtain ⟨_, _, rfl⟩ := hdefaults.exists_eq
    rfl

theorem InputForm.name_toParameter {form : InputForm} {p : Parameter}
    (h : form.toParameter.result = .ok p) : p.name = form.name := by
  obtain ⟨kind, -, hp⟩ := signature_toParameter h
  exact congrArg Prod.fst hp

theorem InputForm.isImport_toParameter {form : InputForm} {p : Parameter}
    (h : form.toParameter.result = .ok p) : p.isImport = false := by
  obtain ⟨kind, -, hp⟩ := signature_toParameter h
  have hpath : p.importPath = none := congrArg (fun x => x.2.2) hp
  rw [Parameter.isImport, hpath]
  rfl

/-- What is related to a member of a list on the right. -/
theorem exists_of_mem_forall₂ {α β : Type} {R : α → β → Prop} {as : List α} {bs : List β}
    (h : List.Forall₂ R as bs) {b : β} (hb : b ∈ bs) : ∃ a ∈ as, R a b := by
  induction h with
  | nil => cases hb
  | cons hab _ ih =>
    rcases List.mem_cons.1 hb with rfl | hb
    · exact ⟨_, List.mem_cons_self, hab⟩
    · obtain ⟨a, ha, hr⟩ := ih hb
      exact ⟨a, List.mem_cons_of_mem _ ha, hr⟩

/-- What is on the right of a relation to each member of a list. -/
theorem forall_of_forall₂ {α β : Type} {R : α → β → Prop} {P : β → Prop} {as : List α}
    {bs : List β} (h : List.Forall₂ R as bs) (hR : ∀ a b, R a b → P b) : ∀ b ∈ bs, P b := by
  intro b hb
  obtain ⟨a, -, hab⟩ := exists_of_mem_forall₂ h hb
  exact hR a b hab

/-- A form of an input, and the parameter that it was read as. -/
def InputForm.ReadAs (form : InputForm) (p : Parameter) : Prop := form.toParameter.result = .ok p

/-- A member of an object, and the imported image that it was read as; the key is the name. -/
def NamedAs (directory : String) (m : String × Json) (p : Parameter) : Prop :=
  ∃ form, ImportForm.ofJson m.2 = .ok form ∧ p = importOf directory m.1 form

/-- An item of a list, and the imported image that it was read as. -/
def ListedAs (directory : String) (json : Json) (p : Parameter) : Prop :=
  ∃ form name, ImportForm.ofJson json = .ok form ∧ form.name = some name ∧
    p = importOf directory name form

/-- **What the imported images of an effect are**: those of an object in the order of its members,
or those of a list in its order. -/
inductive Imports (directory : String) : Option Json → List Parameter → Prop where
  | none : Imports directory none []
  | named {members : List (String × Json)} {images : List Parameter} :
      List.Forall₂ (NamedAs directory) members images →
      Imports directory (some (.object members)) images
  | listed {items : List Json} {images : List Parameter} :
      List.Forall₂ (ListedAs directory) items images →
      Imports directory (some (.array items)) images

theorem namedImports_eq_ok_iff {directory : String} {members : List (String × Json)}
    {images : List Parameter} :
    namedImports directory members = .ok images ↔
      List.Forall₂ (NamedAs directory) members images := by
  induction members generalizing images with
  | nil => simp [namedImports, eq_comm]
  | cons m members ih =>
      obtain ⟨name, json⟩ := m
      rw [namedImports, List.forall₂_cons_left_iff]
      cases hform : ImportForm.ofJson json with
      | error fault => simp [NamedAs, hform]
      | ok form =>
          simp only [NamedAs, hform, Except.ok.injEq, exists_eq_left', ← ih]
          cases namedImports directory members with
          | error failure => simp [Except.map]
          | ok rest => simpa [Except.map] using eq_comm

theorem listedImports_eq_ok_iff {directory : String} {items : List Json}
    {images : List Parameter} :
    listedImports directory items = .ok images ↔
      List.Forall₂ (ListedAs directory) items images := by
  induction items generalizing images with
  | nil => simp [listedImports, eq_comm]
  | cons json items ih =>
      rw [listedImports, List.forall₂_cons_left_iff]
      cases hform : ImportForm.ofJson json with
      | error fault => simp [ListedAs, hform]
      | ok form =>
          simp only [ListedAs, hform, Except.ok.injEq, ← ih]
          cases hname : form.name with
          | none => simp [hname]
          | some name =>
              cases listedImports directory items with
              | error failure => simp [Except.map]
              | ok rest => simp [Except.map, hname, eq_comm]

theorem importsOf_eq_ok_iff {directory : String} {json : Option Json} {images : List Parameter} :
    importsOf directory json = .ok images ↔ Imports directory json images := by
  constructor
  · intro h
    unfold importsOf at h
    split at h
    · cases h
      exact .none
    · exact .named (namedImports_eq_ok_iff.1 h)
    · exact .listed (listedImports_eq_ok_iff.1 h)
    · cases h
  · rintro (_ | h | h)
    · rfl
    · exact namedImports_eq_ok_iff.2 h
    · exact listedImports_eq_ok_iff.2 h

/-- Imported images are made of a name and a path. -/
theorem exists_of_mem_importsOf {directory : String} {json : Option Json} {ps : List Parameter}
    (h : importsOf directory json = .ok ps) :
    ∀ p ∈ ps, ∃ name path, p = .imported name path := by
  rcases importsOf_eq_ok_iff.1 h with _ | hforms | hforms
  · simp
  · refine forall_of_forall₂ hforms ?_
    rintro m p ⟨form, -, rfl⟩
    exact ⟨_, _, rfl⟩
  · refine forall_of_forall₂ hforms ?_
    rintro json p ⟨form, name, -, -, rfl⟩
    exact ⟨_, _, rfl⟩

/-- A parameter is added exactly if its name is new. -/
theorem addParameter_eq_ok_iff {clash : String → ConfigurationFault} {ps qs : List Parameter}
    {p : Parameter} :
    addParameter clash ps p = .ok qs ↔ p.name ∉ ps.map Parameter.name ∧ qs = ps ++ [p] := by
  unfold addParameter
  by_cases hp : p.name ∈ ps.map Parameter.name
  · simp only [if_pos hp, reduceCtorEq, false_iff]
    exact fun h => h.1 hp
  · simp only [if_neg hp, Except.ok.injEq]
    exact ⟨fun h => ⟨hp, h.symm⟩, fun h => h.2.symm⟩

/-- A new name differs from all names before it. -/
theorem nodup_names_concat {ps : List Parameter} {p : Parameter} :
    ((ps ++ [p]).map Parameter.name).Nodup ↔
      p.name ∉ ps.map Parameter.name ∧ (ps.map Parameter.name).Nodup := by
  rw [List.map_append, List.map_singleton, ← List.concat_eq_append, List.nodup_concat]

/-- Names that are different are different up to any point. -/
theorem nodup_names_left {ps qs : List Parameter} (h : ((ps ++ qs).map Parameter.name).Nodup) :
    (ps.map Parameter.name).Nodup := by
  rw [List.map_append] at h
  exact h.of_append_left

/-- **Inputs are added exactly if all of them can be read and have new names**, in the order of
their declaration. -/
theorem addInputs_eq_ok_iff {forms : List InputForm} {ps qs : List Parameter}
    (hnames : (ps.map Parameter.name).Nodup) :
    (addInputs ps forms).result = .ok qs ↔ ∃ inputs, List.Forall₂ InputForm.ReadAs forms inputs ∧
      qs = ps ++ inputs ∧ (qs.map Parameter.name).Nodup := by
  induction forms generalizing ps with
  | nil =>
      simp only [addInputs, Report.result_pure, Except.ok.injEq, List.forall₂_nil_left_iff,
        exists_eq_left, List.append_nil]
      exact ⟨fun h => ⟨h.symm, h ▸ hnames⟩, fun h => h.1.symm⟩
  | cons form forms ih =>
      rw [addInputs, Report.result_bind_eq_ok_iff]
      constructor
      · rintro ⟨p, hp, h⟩
        obtain ⟨rs, hrs, h⟩ := Report.result_bind_eq_ok_iff.1 h
        obtain ⟨hnew, rfl⟩ := addParameter_eq_ok_iff.1 hrs
        obtain ⟨inputs, hinputs, rfl, hnodup⟩ := (ih (nodup_names_concat.2 ⟨hnew, hnames⟩)).1 h
        exact ⟨p :: inputs, .cons hp hinputs, List.append_assoc .., hnodup⟩
      · rintro ⟨_, hforms, rfl, hnodup⟩
        obtain ⟨p, inputs, hp, hinputs, rfl⟩ := List.forall₂_cons_left_iff.1 hforms
        have hsplit : ps ++ p :: inputs = ps ++ [p] ++ inputs := by simp
        have hprefix : ((ps ++ [p]).map Parameter.name).Nodup := nodup_names_left (hsplit ▸ hnodup)
        refine ⟨p, hp, Report.result_bind_eq_ok_iff.2 ⟨ps ++ [p], ?_, ?_⟩⟩
        · exact addParameter_eq_ok_iff.2 ⟨(nodup_names_concat.1 hprefix).1, rfl⟩
        · exact (ih hprefix).2 ⟨inputs, hinputs, hsplit, hnodup⟩

/-- **Imported images are added exactly if they have new names**, behind the inputs. -/
theorem addImports_eq_ok_iff {images : List Parameter} {ps qs : List Parameter}
    (hnames : (ps.map Parameter.name).Nodup) :
    addImports ps images = .ok qs ↔ qs = ps ++ images ∧ (qs.map Parameter.name).Nodup := by
  induction images generalizing ps with
  | nil =>
      simp only [addImports, Except.ok.injEq, List.append_nil]
      exact ⟨fun h => ⟨h.symm, h ▸ hnames⟩, fun h => h.1.symm⟩
  | cons p images ih =>
      have hsplit : ps ++ p :: images = ps ++ [p] ++ images := by simp
      rw [addImports]
      split
      · rename_i failure hfailure
        simp only [reduceCtorEq, false_iff]
        rintro ⟨rfl, hnodup⟩
        have hprefix := nodup_names_left (hsplit ▸ hnodup)
        rw [addParameter_eq_ok_iff.2 ⟨(nodup_names_concat.1 hprefix).1, rfl⟩] at hfailure
        cases hfailure
      · rename_i rs hrs
        obtain ⟨hnew, rfl⟩ := addParameter_eq_ok_iff.1 hrs
        rw [hsplit]
        exact ih (nodup_names_concat.2 ⟨hnew, hnames⟩)

/-- **Parameters are read exactly if inputs and imported images are, and have different names**. -/
theorem parametersOf_eq_ok_iff {directory : String} {form : EffectForm} {ps : List Parameter} :
    (parametersOf directory form).result = .ok ps ↔
      ∃ inputs images, List.Forall₂ InputForm.ReadAs form.inputs inputs ∧
        importsOf directory form.imported = .ok images ∧ ps = inputs ++ images ∧
        (ps.map Parameter.name).Nodup := by
  have hempty : (([] : List Parameter).map Parameter.name).Nodup := List.nodup_nil
  rw [parametersOf, Report.result_bind_eq_ok_iff]
  simp only [addInputs_eq_ok_iff hempty, Report.result_bind_eq_ok_iff, Report.result_ofExcept,
    List.nil_append]
  constructor
  · rintro ⟨inputs, ⟨_, hinputs, rfl, hnodup⟩, images, himages, h⟩
    exact ⟨inputs, images, hinputs, himages, (addImports_eq_ok_iff hnodup).1 h⟩
  · rintro ⟨inputs, images, hinputs, himages, rfl, hnodup⟩
    have hprefix := nodup_names_left hnodup
    exact ⟨inputs, ⟨inputs, hinputs, rfl, hprefix⟩, images, himages,
      (addImports_eq_ok_iff hprefix).2 ⟨rfl, hnodup⟩⟩

/-- What is true of every input that was read and of every imported image is true of all
parameters. -/
theorem forall_of_parametersOf {P : Parameter → Prop} {directory : String} {form : EffectForm}
    {ps : List Parameter} (h : (parametersOf directory form).result = .ok ps)
    (hinput : ∀ (form : InputForm) (p : Parameter), form.toParameter.result = .ok p → P p)
    (himported : ∀ name path, P (.imported name path)) : ∀ p ∈ ps, P p := by
  obtain ⟨inputs, images, hinputs, himages, rfl, -⟩ := parametersOf_eq_ok_iff.1 h
  refine List.forall_mem_append.2 ⟨forall_of_forall₂ hinputs hinput, fun p hp => ?_⟩
  obtain ⟨name, path, rfl⟩ := exists_of_mem_importsOf himages p hp
  exact himported name path

/-- Parameters that were read are well formed, and no imported image is loaded. -/
theorem parametersOf_spec {directory : String} {form : EffectForm} {ps : List Parameter}
    (h : (parametersOf directory form).result = .ok ps) :
    Parameter.WellFormed ps ∧ ∀ p ∈ ps, p.isImport = true → p.blank = p := by
  obtain ⟨inputs, images, hinputs, himages, rfl, hnodup⟩ := parametersOf_eq_ok_iff.1 h
  have hno := forall_of_forall₂ hinputs fun _ _ => InputForm.isImport_toParameter
  have hmade := exists_of_mem_importsOf himages
  have himport (p : Parameter) (hp : p ∈ inputs ++ images) (hi : p.isImport = true) :
      ∃ name path, p = .imported name path := by
    rcases List.mem_append.1 hp with hp | hp
    · rw [hno p hp] at hi
      cases hi
    · exact hmade p hp
  refine ⟨⟨hnodup, ?_, fun p hp hi => ?_⟩, fun p hp hi => ?_⟩
  · refine List.pairwise_append.2 ⟨?_, ?_, ?_⟩
    · exact List.pairwise_of_forall_mem_list fun p hp q _ hi => by simp [hno p hp] at hi
    · refine List.pairwise_of_forall_mem_list fun p _ q hq _ => ?_
      obtain ⟨name, path, rfl⟩ := hmade q hq
      rfl
    · exact fun p hp q _ hi => by simp [hno p hp] at hi
  · obtain ⟨name, path, rfl⟩ := himport p hp hi
    rfl
  · obtain ⟨name, path, rfl⟩ := himport p hp hi
    rfl

/-! ### Passes as they are read -/

namespace Passes

variable {taken : List String} {ps qs : Passes}

/-- A pass without a name draws into the final output. -/
theorem add_unnamed {form : PassForm} (hempty : form.target.getD "" = "") :
    ps.add taken form = pure (ps.draw (form.target.getD "")) := by
  unfold add
  exact if_pos hempty

/-- **A pass that names a target** has flags that can be read.  It draws into the target if that is
declared already, with a warning about other flags, and else it declares it. -/
theorem add_named {form : PassForm} (hne : form.target.getD "" ≠ "")
    (h : (ps.add taken form).result = .ok qs) :
    ∃ persistent float, flagOf form.persistent = .ok persistent ∧
      flagOf form.float = .ok float ∧
      ((∃ t, ps.target? (form.target.getD "") = some t ∧
        qs = ps.draw (form.target.getD "") ∧ (ps.add taken form).warnings =
          if t.persistent ≠ persistent ∨ t.float ≠ float then
            [.passFlags (form.target.getD "")] else []) ∨
      (ps.target? (form.target.getD "") = none ∧ form.target.getD "" ∉ taken ∧
        qs = (ps.addTarget (targetOf (form.target.getD "") persistent float form)).draw
          (form.target.getD "") ∧ (ps.add taken form).warnings = [])) := by
  unfold add at h ⊢
  dsimp only at h ⊢
  rw [if_neg hne] at h ⊢
  obtain ⟨persistent, hpersistent, h⟩ := Report.result_bind_eq_ok_iff.1 h
  obtain ⟨float, hfloat, h⟩ := Report.result_bind_eq_ok_iff.1 h
  refine ⟨persistent, float, hpersistent, hfloat, ?_⟩
  rw [Report.warnings_bind_of_ok hpersistent, Report.warnings_bind_of_ok hfloat]
  cases htarget : ps.target? (form.target.getD "") with
  | some t =>
      rw [htarget] at h
      dsimp only at h ⊢
      refine Or.inl ⟨t, rfl, ?_⟩
      by_cases hdiffer : t.persistent ≠ persistent ∨ t.float ≠ float
      · rw [if_pos hdiffer] at h ⊢
        cases h
        exact ⟨rfl, (if_pos hdiffer).symm⟩
      · rw [if_neg hdiffer] at h ⊢
        cases h
        exact ⟨rfl, (if_neg hdiffer).symm⟩
  | none =>
      rw [htarget] at h
      dsimp only at h ⊢
      by_cases htaken : form.target.getD "" ∈ taken
      · rw [if_pos htaken] at h
        cases h
      · rw [if_neg htaken] at h ⊢
        cases h
        exact Or.inr ⟨rfl, htaken, rfl, rfl⟩

/-- **What a pass adds**: it draws into the final output or into a declared target, or else it
declares a target that has a new name. -/
theorem add_cases {form : PassForm} (h : (ps.add taken form).result = .ok qs) :
    (qs = ps.draw (form.target.getD "") ∧
      (form.target.getD "" ≠ "" → ∃ t ∈ ps.targets, t.name = form.target.getD "")) ∨
    ∃ persistent float, form.target.getD "" ≠ "" ∧ form.target.getD "" ∉ taken ∧
      (∀ t ∈ ps.targets, t.name ≠ form.target.getD "") ∧
      qs = (ps.addTarget (targetOf (form.target.getD "") persistent float form)).draw
        (form.target.getD "") := by
  by_cases hempty : form.target.getD "" = ""
  · rw [add_unnamed hempty] at h
    cases h
    exact Or.inl ⟨rfl, fun hne => absurd hempty hne⟩
  · obtain ⟨persistent, float, -, -, ⟨t, ht, rfl, -⟩ | ⟨hnone, htaken, rfl, -⟩⟩ :=
      add_named hempty h
    · exact Or.inl ⟨rfl, fun _ => ⟨t, List.mem_of_find?_eq_some ht,
        by simpa using List.find?_some ht⟩⟩
    · exact Or.inr ⟨persistent, float, hempty, htaken, by simpa [target?] using hnone, rfl⟩

/-- A target is added to the others. -/
theorem targets_addTarget (ps : Passes) (t : Target) :
    (ps.addTarget t).targets.Perm (t :: ps.targets) := by
  unfold addTarget targets
  split
  · simp
  · have hcomm := @List.perm_append_comm _ (ps.persistent ++ ps.temporary) [t]
    simpa using hcomm

namespace WellFormed

/-- Drawing into the final output or into a declared target once more. -/
theorem draw (hps : ps.WellFormed taken) {name : String}
    (hname : name ≠ "" → ∃ t ∈ ps.targets, t.name = name) : (ps.draw name).WellFormed taken where
  names := hps.names
  apart := hps.apart
  persistent := hps.persistent
  temporary := hps.temporary
  drawn t ht := ⟨(hps.drawn t ht).1, List.mem_append_left _ (hps.drawn t ht).2⟩
  declared n hn hne := by
    rcases List.mem_append.1 hn with hn | hn
    · exact hps.declared n hn hne
    · obtain rfl := List.mem_singleton.1 hn
      exact hname hne

/-- Declaring a target and drawing into it. -/
theorem addTarget (hps : ps.WellFormed taken) {t : Target} (hne : t.name ≠ "")
    (htaken : t.name ∉ taken) (hnew : ∀ u ∈ ps.targets, u.name ≠ t.name) :
    ((ps.addTarget t).draw t.name).WellFormed taken := by
  have hperm := targets_addTarget ps t
  have hmem {u : Target} : u ∈ (ps.addTarget t).targets ↔ u = t ∨ u ∈ ps.targets := by
    rw [hperm.mem_iff, List.mem_cons]
  have horder : ((ps.addTarget t).draw t.name).order = ps.order ++ [t.name] := by
    unfold Passes.draw Passes.addTarget
    split <;> rfl
  constructor
  case names =>
    refine (hperm.map Target.name).nodup_iff.2 (List.nodup_cons.2 ⟨?_, hps.names⟩)
    intro h
    obtain ⟨u, hu, heq⟩ := List.mem_map.1 h
    exact hnew u hu heq
  case apart =>
    intro u hu
    rcases hmem.1 hu with rfl | hu
    · exact htaken
    · exact hps.apart u hu
  case persistent =>
    intro u hu
    unfold Passes.draw Passes.addTarget at hu
    split at hu
    · rcases List.mem_append.1 hu with hu | hu
      · exact hps.persistent u hu
      · obtain rfl := List.mem_singleton.1 hu
        assumption
    · exact hps.persistent u hu
  case temporary =>
    intro u hu
    unfold Passes.draw Passes.addTarget at hu
    split at hu
    · exact hps.temporary u hu
    · rcases List.mem_append.1 hu with hu | hu
      · exact hps.temporary u hu
      · obtain rfl := List.mem_singleton.1 hu
        exact Bool.not_eq_true _ ▸ ‹_›
  case drawn =>
    intro u hu
    rw [horder]
    rcases hmem.1 hu with rfl | hu
    · exact ⟨hne, List.mem_append_right _ (List.mem_singleton_self _)⟩
    · exact ⟨(hps.drawn u hu).1, List.mem_append_left _ (hps.drawn u hu).2⟩
  case declared =>
    intro name hname hnameNe
    rw [horder] at hname
    rcases List.mem_append.1 hname with hname | hname
    · obtain ⟨u, hu, heq⟩ := hps.declared name hname hnameNe
      exact ⟨u, hmem.2 (Or.inr hu), heq⟩
    · exact ⟨t, hmem.2 (Or.inl rfl), (List.mem_singleton.1 hname).symm⟩

end WellFormed

/-- Passes that were added are well formed, and their targets have neither sizes nor buffers. -/
theorem addAll_spec {forms : List PassForm} (h : (addAll taken ps forms).result = .ok qs)
    (hps : ps.WellFormed taken) (hblank : ∀ t ∈ ps.targets, t.blank = t) :
    qs.WellFormed taken ∧ ∀ t ∈ qs.targets, t.blank = t := by
  induction forms generalizing ps with
  | nil =>
      cases h
      exact ⟨hps, hblank⟩
  | cons form forms ih =>
      obtain ⟨rs, hrs, h⟩ := Report.result_bind_eq_ok_iff.1 h
      rcases add_cases hrs with ⟨rfl, hname⟩ | ⟨persistent, float, hne, htaken, hnew, rfl⟩
      · exact ih h (hps.draw hname) hblank
      · refine ih h (hps.addTarget hne htaken hnew) fun t ht => ?_
        rcases List.mem_cons.1 ((targets_addTarget ps _).mem_iff.1 ht) with rfl | ht
        · rfl
        · exact hblank t ht

theorem wellFormed_empty (taken : List String) : empty.WellFormed taken := by
  constructor <;> simp [empty, targets]

theorem ofForms_spec {forms : List PassForm} (h : (ofForms taken forms).result = .ok qs) :
    qs.WellFormed taken ∧ ∀ t ∈ qs.targets, t.blank = t := by
  unfold ofForms at h
  split at h
  · cases h
    exact ⟨(wellFormed_empty taken).draw fun h => absurd rfl h,
      fun _ ht => absurd ht List.not_mem_nil⟩
  · exact addAll_spec h (wellFormed_empty taken) (by simp [empty, targets])

end Passes

/-! ### Documents as they are read -/

/-- What metadata that were read are made of. -/
theorem Metadata.exists_form {directory text : String} {m : Metadata}
    (h : (ofText directory text).result = .ok m) :
    ∃ form : EffectForm, (parametersOf directory form).result = .ok m.parameters ∧
      (Passes.ofForms (m.parameters.map Parameter.name) (form.passes.getD [])).result =
        .ok m.passes := by
  unfold ofText at h
  split at h
  · cases h
  · rename_i form _
    obtain ⟨ps, hps, h⟩ := Report.result_bind_eq_ok_iff.1 h
    obtain ⟨passes, hpasses, h⟩ := Report.result_bind_eq_ok_iff.1 h
    cases h
    exact ⟨form, hps, hpasses⟩

namespace Document

variable {d : Document}

/-- The metadata alone makes a document well formed, and without buffers. -/
theorem wellFormed_of_ofText {directory text : String} {m : Metadata}
    (h : (Metadata.ofText directory text).result = .ok m) (hd : d.toMetadata = m) :
    d.WellFormed ∧ d.Fresh := by
  subst hd
  obtain ⟨form, hps, hpasses⟩ := Metadata.exists_form h
  obtain ⟨hparameters, himports⟩ := parametersOf_spec hps
  obtain ⟨hwell, hblank⟩ := Passes.ofForms_spec hpasses
  exact ⟨⟨hparameters, hwell⟩, ⟨hblank, himports⟩⟩

theorem exists_ofText_of_ofTexts {fragment : String} {vertex : Option String} {directory : String}
    (h : (ofTexts fragment vertex directory).result = .ok d) :
    ∃ text, (Metadata.ofText directory text).result = .ok d.toMetadata := by
  obtain ⟨source, -, h⟩ := Report.result_bind_eq_ok_iff.1 h
  obtain ⟨m, hm, h⟩ := Report.result_bind_eq_ok_iff.1 h
  cases h
  exact ⟨_, hm⟩

/-- The document of an effect, empty if the effect cannot be read. -/
theorem Opened.ofTextsLenient (fragment : String) (vertex : Option String) (directory : String) :
    (ofTextsLenient fragment vertex directory).2.Opened := by
  unfold Document.ofTextsLenient orInvalid
  cases h : (ofTexts fragment vertex directory).result with
  | error failure => exact .invalid _ _ _
  | ok d => exact .texts h

/-- **Where the metadata of a document come from**: a text that was read, or none. -/
theorem Opened.metadata (hd : d.Opened) :
    (∃ directory text, (Metadata.ofText directory text).result = .ok d.toMetadata) ∨
      d.toMetadata = .empty := by
  cases hd with
  | texts h => exact Or.inl ⟨_, exists_ofText_of_ofTexts h⟩
  | file h =>
      obtain ⟨fragment, -, h⟩ := Report.result_bind_eq_ok_iff.1 h
      obtain ⟨vertex, -, h⟩ := Report.result_bind_eq_ok_iff.1 h
      obtain ⟨e, he, h⟩ := Report.result_bind_eq_ok_iff.1 h
      cases h
      exact Or.inl ⟨_, exists_ofText_of_ofTexts (d := e) he⟩
  | invalid failure path directory => exact Or.inr rfl

/-- **Documents that were read are well formed and hold no buffers.** -/
theorem Opened.spec (hd : d.Opened) : d.WellFormed ∧ d.Fresh := by
  rcases hd.metadata with ⟨_, _, h⟩ | h
  · exact wellFormed_of_ofText h rfl
  · have hparameters : d.parameters = [] := congrArg Metadata.parameters h
    have hpasses : d.passes = .empty := congrArg Metadata.passes h
    refine ⟨⟨?_, hpasses ▸ Passes.wellFormed_empty _⟩, ⟨?_, ?_⟩⟩
    · rw [hparameters]
      exact ⟨List.nodup_nil, .nil, fun _ hp => absurd hp List.not_mem_nil⟩
    · rw [hpasses]
      exact fun _ ht => absurd ht List.not_mem_nil
    · rw [hparameters]
      exact fun _ hp => absurd hp List.not_mem_nil

end Document

/-- An effect with one persistent target. -/
def feedbackText : String :=
  "/*\x7b\"PASSES\":[\x7b\"TARGET\":\"a\",\"PERSISTENT\":true\x7d]\x7d*/"

end ShaderEffect
