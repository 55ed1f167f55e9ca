/-
**The names that the metadata gives.**

The metadata gives names to parameters and to targets.  The names that a program declares are these,
those of variables that accompany a sampler, and fixed ones.  So a character that stands in no
identifier stands in a declared name only if it stands in a name of the metadata.

Main definitions:

* `ShaderEffect.Document.givenNames` — the names of the metadata;
* `ShaderEffect.Document.declared` — what a stage has to declare.

Main results:

* `ShaderEffect.Document.type_mem_types` — inputs are declared with types of the language;
* `ShaderEffect.Document.lacks_of_mem_declared` — **what stands in no name of the metadata
  stands in no declared name**.
-/

import ShaderEffect.Expr.Token
import ShaderEffect.Proofs.Document.WellFormed
import ShaderEffect.Proofs.Program.Declarations

set_option autoImplicit false

namespace ShaderEffect.Document

open ShaderEffect.Expr (isNameChar)
open Text (Lacks)

variable {d e : Document} {settings : SceneSettings} {stage : Stage}

/-- The names that the metadata gives: those of the parameters, and those of the targets. -/
def givenNames (d : Document) : List String :=
  d.parameters.map Parameter.name ++ d.passes.targets.map Target.name

/-- The names that the metadata gives never change. -/
theorem givenNames_congr (h : e.blank = d.blank) : e.givenNames = d.givenNames := by
  have hnames (x : Document) : x.blank.givenNames = x.givenNames := by
    rw [givenNames, names_blank, targets_blank, List.map_map]
    rfl
  rw [← hnames, h, hnames]

/-- Inputs that are declared are named by the metadata, and have types of the language. -/
theorem exists_kind_of_mem_inputs {v : Variable} (hv : v ∈ d.programInterface.inputs) :
    v.name ∈ d.givenNames ∧ ∃ kind : Kind, kind.typeName? = some v.type := by
  obtain ⟨p, hp, hv⟩ := List.mem_filterMap.1 hv
  obtain ⟨type, htype, rfl⟩ := Option.map_eq_some_iff.1 hv
  have hmem : p ∈ d.parameters := (List.takeWhile_sublist _).mem hp
  exact ⟨List.mem_append_left _ (List.mem_map_of_mem hmem), p.kind, htype⟩

/-- Samplers are named by the metadata. -/
theorem name_mem_givenNames {s : Sampler} (hs : s ∈ d.samplers) : s.name ∈ d.givenNames := by
  have hinput (p : Parameter) (hp : p ∈ d.inputs) : p ∈ d.parameters :=
    (List.takeWhile_sublist _).mem hp
  rcases List.mem_append.1 hs with hs | hs
  · obtain ⟨p, hp, rfl⟩ := List.mem_map.1 hs
    refine List.mem_append_left _ (List.mem_map_of_mem ?_)
    rcases List.mem_append.1 hp with hp | hp
    · rcases List.mem_append.1 hp with hp | hp
      · exact hinput p (List.mem_of_mem_filter hp)
      · exact hinput p (List.mem_of_mem_filter hp)
    · exact List.mem_of_mem_filter hp
  · obtain ⟨t, ht, rfl⟩ := List.mem_map.1 hs
    exact List.mem_append_right _ (List.mem_map_of_mem ht)

/-- What a stage has to declare. -/
def declared (d : Document) (settings : SceneSettings) (stage : Stage) : List Declaration :=
  d.programInterface.declarationList settings.dialect settings.uniformBlock stage

/-- **Inputs are declared with types of the language.** -/
theorem type_mem_types (d : Document) :
    ∀ v ∈ d.programInterface.inputs, v.type ∈ Declaration.types := by
  intro v hv
  obtain ⟨-, kind, hkind⟩ := exists_kind_of_mem_inputs hv
  have hall (kind : Kind) : ∀ type ∈ kind.typeName?, type ∈ Declaration.types := by
    cases kind <;> decide
  exact hall kind _ hkind

/-- **What stands in no name of the metadata stands in no declared name**, if it stands in no
identifier. -/
theorem lacks_of_mem_declared {cs : List Char} (hcs : ∀ c ∈ cs, isNameChar c = false)
    (hnames : ∀ name ∈ d.givenNames, Lacks cs name) :
    ∀ x ∈ d.declared settings stage, Lacks cs x.name := by
  have hword {text : String} (htext : text.toList.all isNameChar) : Lacks cs text :=
    fun c hc hmem => Bool.false_ne_true ((hcs c hc).symm.trans (List.all_eq_true.1 htext c hmem))
  have hsampler {s : Sampler} (hs : s ∈ d.samplers) := hnames s.name (name_mem_givenNames hs)
  have huniform : ∀ v ∈ d.programInterface.uniforms, Lacks cs v.name := by
    intro v hv
    rcases List.mem_append.1 hv with hv | hv
    · rcases List.mem_append.1 hv with hv | hv
      · have hbuiltins : ∀ v ∈ builtins, v.name.toList.all isNameChar := by decide
        exact hword (hbuiltins v hv)
      · exact hnames v.name (exists_kind_of_mem_inputs hv).1
    · obtain ⟨s, hs, hv⟩ := List.mem_flatMap.1 hv
      have hstart : Lacks cs ("_" ++ s.name) := (hword (by decide)).append (hsampler hs)
      simp only [Sampler.companions, List.mem_cons, List.not_mem_nil, or_false] at hv
      rcases hv with rfl | rfl | rfl
      · exact hstart.append (hword (by decide))
      · exact hstart.append (hword (by decide))
      · exact hstart.append (hword (by decide))
  intro x hx
  rcases List.mem_append.1 hx with hx | hx
  · rcases List.mem_append.1 hx with hx | hx
    · obtain ⟨v, hv, rfl⟩ := List.mem_map.1 hx
      exact huniform v hv
    · obtain ⟨s, hs, rfl⟩ := List.mem_map.1 hx
      exact hsampler hs
  · have hstage : ∀ x ∈ (Declaration.of (settings.dialect.stageWords stage).1 normCoord ::
        (settings.dialect.stageVariables stage).map (.of (settings.dialect.stageWords stage).2)),
          x.name.toList.all isNameChar := by
      cases settings.dialect <;> cases stage <;> decide
    exact hword (hstage x hx)

end ShaderEffect.Document
