/-
**Parameters and targets by what they are for, and by name.**

The inputs of a document are the parameters in front of the first imported image; images and sounds
are picked out of the inputs and of the parameters; and whatever is looked up by name is the first
that bears it.  All this would go wrong if an input stood behind an imported image, or if two things
shared a name.  In a document that is well formed neither happens.

Main definitions:

* `ShaderEffect.Document.Indexed` — the views and the lookups of a document are what they should be.

Main results:

* `ShaderEffect.Document.WellFormed.images_perm` — what is sampled is listed once;
* `ShaderEffect.Document.WellFormed.indexed` — **well-formed documents have faithful views and
  unambiguous lookups**.
-/

import Mathlib.Data.List.Perm.Basic
import ShaderEffect.Proofs.Document.WellFormed
import ShaderEffect.Scene.Frame

set_option autoImplicit false

namespace ShaderEffect

/-- Where keys are different, a search by key finds what has the key. -/
theorem find?_key_eq_some_iff {α β : Type} [DecidableEq β] {key : α → β} {as : List α}
    (hkeys : (as.map key).Nodup) {b : β} {a : α} :
    as.find? (fun a => key a = b) = some a ↔ a ∈ as ∧ key a = b := by
  constructor
  · intro h
    exact ⟨List.mem_of_find?_eq_some h, by simpa using List.find?_some h⟩
  · rintro ⟨ha, rfl⟩
    cases hfind : as.find? (fun c => key c = key a) with
    | none => simpa using List.find?_eq_none.1 hfind a ha
    | some c =>
        have hc : key c = key a := by simpa using List.find?_some hfind
        rw [List.inj_on_of_nodup_map hkeys (List.mem_of_find?_eq_some hfind) ha hc]

namespace Document

variable {d : Document}

/-! ### Views -/

/-- Behind the first imported image there are no inputs. -/
theorem WellFormed.inputs_eq_filter (hd : d.WellFormed) :
    d.inputs = d.parameters.filter fun p => !p.isImport := by
  have hsorted := hd.parameters.sorted
  unfold inputs
  generalize d.parameters = ps at hsorted ⊢
  induction ps with
  | nil => rfl
  | cons p ps ih =>
      obtain ⟨hp, hsorted⟩ := List.pairwise_cons.1 hsorted
      cases himport : p.isImport with
      | true =>
          have hrest : ps.filter (fun q => !q.isImport) = [] :=
            List.filter_eq_nil_iff.2 fun q hq => by simp [hp q hq himport]
          simp [himport, hrest]
      | false => simp [himport, ih hsorted]

/-- **What is sampled is listed once**: among the images, the sounds or the imported images. -/
theorem WellFormed.images_perm (hd : d.WellFormed) :
    d.images.Perm (d.parameters.filter fun p => p.kind.isSampler) := by
  have himports : d.parameters.filter Parameter.isImport =
      (d.parameters.filter fun p => p.kind.isSampler).filter Parameter.isImport := by
    rw [List.filter_filter]
    refine List.filter_congr fun p hp => ?_
    cases h : p.isImport with
    | false => rfl
    | true =>
        rw [hd.parameters.imports p hp h]
        rfl
  -- of the inputs that are sampled, the sounds are those that are no images
  have hsampled (q : Parameter → Bool) (hq : ∀ p, q p = true → p.kind.isSampler = true) :
      d.inputs.filter q = ((d.parameters.filter fun p => p.kind.isSampler).filter
        fun p => !p.isImport).filter q := by
    rw [hd.inputs_eq_filter, List.filter_filter, List.filter_filter, List.filter_filter]
    refine List.filter_congr fun p _ => ?_
    cases h : q p with
    | false => simp
    | true => simp [hq p h]
  have himages : d.imageInputs = ((d.parameters.filter fun p => p.kind.isSampler).filter
      fun p => !p.isImport).filter fun p => p.kind = .image := by
    refine hsampled _ fun p hp => ?_
    rw [of_decide_eq_true hp]
    rfl
  have hsounds : d.audioInputs = ((d.parameters.filter fun p => p.kind.isSampler).filter
      fun p => !p.isImport).filter fun p => !decide (p.kind = .image) := by
    have hkind (p : Parameter) :
        (p.kind.isSampler && !decide (p.kind = .image)) = p.kind.isAudio := by
      cases p.kind <;> rfl
    rw [audioInputs, hsampled (fun p => p.kind.isAudio) fun p hp => by
      rw [← hkind] at hp
      exact (Bool.and_eq_true_iff.1 hp).1]
    refine List.filter_congr fun p hp => ?_
    have hsampler : p.kind.isSampler = true :=
      (List.mem_filter.1 (List.mem_filter.1 hp).1).2
    rw [← hkind, hsampler]
    rfl
  rw [images, himages, hsounds, imageImports, himports]
  refine ((List.filter_append_perm _ _).append_right _).trans ?_
  exact List.perm_append_comm.trans (List.filter_append_perm Parameter.isImport _)

/-! ### Lookups -/

theorem parameter?_eq_some_iff (hd : d.WellFormed) {name : String} {p : Parameter} :
    d.parameter? name = some p ↔ p ∈ d.parameters ∧ p.name = name :=
  find?_key_eq_some_iff hd.parameters.names

theorem target?_eq_some_iff (hd : d.WellFormed) {name : String} {t : Target} :
    d.target? name = some t ↔ t ∈ d.passes.targets ∧ t.name = name :=
  find?_key_eq_some_iff hd.passes.names

theorem target?_eq_or (d : Document) (name : String) :
    d.target? name = (d.persistentTarget? name).or (d.temporaryTarget? name) :=
  List.find?_append

theorem targets_mapTarget (d : Document) (name : String) (f : Target → Target) :
    (d.mapTarget name f).passes.targets =
      d.passes.targets.map fun t => if t.name = name then f t else t :=
  List.map_append.symm

/-- **A change of the target of a name** is one of the target that is found, and of no other. -/
theorem WellFormed.targets_mapTarget (hd : d.WellFormed) {name : String} {t : Target}
    (ht : d.target? name = some t) (f : Target → Target) :
    ∃ before after, d.passes.targets = before ++ t :: after ∧
      (d.mapTarget name f).passes.targets = before ++ f t :: after := by
  obtain ⟨hmem, rfl⟩ := (target?_eq_some_iff hd).1 ht
  obtain ⟨before, after, hsplit⟩ := List.append_of_mem hmem
  have hnames := hd.passes.names
  rw [hsplit, List.map_append, List.map_cons, List.nodup_middle, List.nodup_cons] at hnames
  have hothers (us : List Target) (hus : ∀ u ∈ us, u ∈ before ++ after) :
      (us.map fun u => if u.name = t.name then f u else u) = us := by
    refine (List.map_congr_left fun u hu => if_neg fun heq => hnames.1 ?_).trans us.map_id
    rw [← List.map_append, ← heq]
    exact List.mem_map_of_mem (hus u hu)
  refine ⟨before, after, hsplit, ?_⟩
  rw [Document.targets_mapTarget, hsplit, List.map_append, List.map_cons, if_pos rfl,
    hothers before fun u hu => List.mem_append_left _ hu,
    hothers after fun u hu => List.mem_append_right _ hu]

/-! ### Everything at once -/

/-- **The views and the lookups of a document are what they should be.** -/
structure Indexed (d : Document) : Prop where
  inputs : d.inputs = d.parameters.filter fun p => !p.isImport
  /-- What is sampled is an image, a sound or an imported image, and listed once. -/
  samplers : (d.imageInputs ++ d.audioInputs ++ d.imageImports).Perm
    (d.parameters.filter fun p => p.kind.isSampler)
  samplers_nodup : ((d.imageInputs ++ d.audioInputs ++ d.imageImports).map Parameter.name).Nodup
  /-- The parameter of a name is the only one that bears it. -/
  parameter? : ∀ name p, d.parameter? name = some p ↔ p ∈ d.parameters ∧ p.name = name
  /-- The target of a name is the only one that bears it, be it persistent or not. -/
  target? : ∀ name t, (d.persistentTarget? name).or (d.temporaryTarget? name) = some t ↔
    t ∈ d.passes.persistent ++ d.passes.temporary ∧ t.name = name
  /-- What is changed under a name is what is found under it. -/
  mapTarget : ∀ name f t, (d.persistentTarget? name).or (d.temporaryTarget? name) = some t →
    ∃ before after, d.passes.persistent ++ d.passes.temporary = before ++ t :: after ∧
      (d.mapTarget name f).passes.persistent ++ (d.mapTarget name f).passes.temporary =
        before ++ f t :: after

/-- **Well-formed documents have faithful views and unambiguous lookups.** -/
theorem WellFormed.indexed (hd : d.WellFormed) : d.Indexed where
  inputs := hd.inputs_eq_filter
  samplers := hd.images_perm
  samplers_nodup := by
    refine (hd.images_perm.map _).nodup_iff.2 ?_
    exact hd.parameters.names.sublist (List.filter_sublist.map _)
  parameter? := fun _ _ => parameter?_eq_some_iff hd
  target? := fun name t => target?_eq_or d name ▸ target?_eq_some_iff hd
  mapTarget := fun name f t ht => hd.targets_mapTarget (target?_eq_or d name ▸ ht) f

end Document

end ShaderEffect
