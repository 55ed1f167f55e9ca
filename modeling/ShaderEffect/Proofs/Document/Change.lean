/-
**What a host does to the inputs of a document.**

A host gives an input a value, binds an image to it, or resets it.  A change that is refused leaves
the document as it is, and so does one of something that is no input.

Main definitions:

* `ShaderEffect.InputChange` — the changes;
* `ShaderEffect.Document.changeInput` — a document after a change of an input.

Main results:

* `ShaderEffect.Document.changeInput_cases` — **at most one input changes, and only its value**;
* `ShaderEffect.Document.blank_changeInput`, `ShaderEffect.Document.imported_changeInput` — what
  does not change.
-/

import Mathlib.Data.List.TakeWhile
import ShaderEffect.Proofs.Scene.Buffers

set_option autoImplicit false

namespace ShaderEffect

/-- A change of the value of a parameter. -/
inductive InputChange where
  | set (v : Value)
  | bind (binding : Option Binding)
  | reset

/-- The parameter after a change, if it is accepted. -/
def InputChange.apply : InputChange → Parameter → Except Failure Parameter
  | set v, p => p.set v
  | bind binding, p => p.bind binding
  | reset, p => .ok p.reset

/-- Only the value of a parameter changes. -/
theorem InputChange.exists_of_apply {change : InputChange} {p q : Parameter}
    (h : change.apply p = .ok q) : ∃ v, q = { p with current := v } := by
  cases change with
  | set v => exact ⟨v, (Parameter.set_eq_ok_iff.1 h).2⟩
  | bind binding =>
      unfold apply at h
      dsimp only at h
      unfold Parameter.bind at h
      split at h
      · cases h
        exact ⟨_, rfl⟩
      · cases h
  | reset =>
      cases h
      exact ⟨_, rfl⟩

namespace Document

/-- The document after a change of the input of a name. -/
def changeInput (d : Document) (name : String) (change : InputChange) : Document :=
  if name ∈ d.inputs.map Parameter.name then
    match d.change? name change.apply with
    | some (.ok d) => d
    | _ => d
  else d

/-- The first parameter of a name is changed, if it accepts that. -/
theorem changeFirst_eq_some_ok {name : String} {f : Parameter → Except Failure Parameter}
    {ps qs : List Parameter} (h : changeFirst name f ps = some (.ok qs)) :
    ∃ before p q after, ps = before ++ p :: after ∧ p.name = name ∧ f p = .ok q ∧
      qs = before ++ q :: after := by
  induction ps generalizing qs with
  | nil => cases h
  | cons p ps ih =>
      rw [changeFirst] at h
      split at h
      · rename_i hname
        cases hf : f p with
        | error failure =>
            rw [hf] at h
            cases h
        | ok q =>
            rw [hf] at h
            cases h
            exact ⟨[], p, q, ps, rfl, hname, hf, rfl⟩
      · rcases hrest : changeFirst name f ps with _ | ⟨_ | rs⟩
        · rw [hrest] at h
          cases h
        · rw [hrest] at h
          cases h
        · rw [hrest] at h
          cases h
          obtain ⟨before, r, q, after, rfl, hname, hf, rfl⟩ := ih hrest
          exact ⟨p :: before, r, q, after, rfl, hname, hf, rfl⟩

variable {d : Document}

/-- **At most one input changes, and only its value.** -/
theorem changeInput_cases (hd : d.WellFormed) (name : String) (change : InputChange) :
    d.changeInput name change = d ∨
    ∃ before p v after, d.parameters = before ++ p :: after ∧ p.name = name ∧
      p.isImport = false ∧
      d.changeInput name change =
        d.withParameters (before ++ { p with current := v } :: after) := by
  unfold changeInput
  split
  · rename_i hname
    unfold change?
    rcases hc : changeFirst name change.apply d.parameters with _ | ⟨_ | qs⟩
    · exact Or.inl rfl
    · exact Or.inl rfl
    · obtain ⟨before, p, q, after, hsplit, rfl, happly, rfl⟩ := changeFirst_eq_some_ok hc
      obtain ⟨v, rfl⟩ := InputChange.exists_of_apply happly
      refine Or.inr ⟨before, p, v, after, hsplit, rfl, ?_, rfl⟩
      -- names are different, so the parameter that is changed is the input of that name
      obtain ⟨i, hi, heq⟩ := List.mem_map.1 hname
      have hmem : i ∈ d.parameters := (List.takeWhile_sublist _).mem hi
      have hp : p ∈ d.parameters := hsplit ▸ List.mem_append_right _ List.mem_cons_self
      obtain rfl := List.inj_on_of_nodup_map hd.parameters.names hmem hp heq
      simpa using List.mem_takeWhile_imp hi
  · exact Or.inl rfl

@[simp] theorem passes_changeInput (d : Document) (name : String) (change : InputChange) :
    (d.changeInput name change).passes = d.passes := by
  unfold changeInput change?
  split
  · rcases changeFirst name change.apply d.parameters with _ | ⟨_ | qs⟩ <;> rfl
  · rfl

theorem blank_changeInput (hd : d.WellFormed) (name : String) (change : InputChange) :
    (d.changeInput name change).blank = d.blank := by
  rcases changeInput_cases hd name change with h | ⟨before, p, v, after, hsplit, -, -, h⟩
  · rw [h]
  · rw [h]
    simp [blank, withParameters, hsplit, Parameter.blank]

/-- Imported images keep their buffers. -/
theorem imported_changeInput (hd : d.WellFormed) (name : String) (change : InputChange) :
    (d.changeInput name change).imported = d.imported := by
  rcases changeInput_cases hd name change with h | ⟨before, p, v, after, hsplit, -, hinput, h⟩
  · rw [h]
  · have hnew : Parameter.held { p with current := v } = p.held := by
      have hinput' : Parameter.isImport { p with current := v } = false := hinput
      simp [Parameter.held, hinput, hinput']
    rw [h, imported, imported, hsplit]
    show allHeld _ (before ++ { p with current := v } :: after) = _
    rw [allHeld_append, allHeld_append, allHeld_cons, allHeld_cons, hnew]

end Document

end ShaderEffect
