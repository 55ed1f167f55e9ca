/-
**What the variables of size expressions stand for.**

An environment has a render size and the values of names.  From the start, `WIDTH` and `HEIGHT` have
the extents of the render size as their values, and they cannot be given another value.

Main definitions:

* `ShaderEffect.Environment` — a render size and the values of names;
* `ShaderEffect.Environment.insert`, `ShaderEffect.Environment.get?` — giving and reading a value;
* `ShaderEffect.Environment.Anchored` — `WIDTH` and `HEIGHT` have the extents of the render size as
  their values.

Main results:

* `ShaderEffect.Environment.get?_insert` — an inserted value is read back, other names keep theirs;
* `ShaderEffect.Environment.anchored_ofSize`, `ShaderEffect.Environment.Anchored.insert` — the
  render size cannot be hidden.
-/

import ShaderEffect.Size

set_option autoImplicit false

namespace ShaderEffect

/-- A render size and the values of names, the latest first. -/
structure Environment where
  /-- The size of the final output. -/
  renderSize : Size
  /-- The values given to names. -/
  bindings : List (String × Float)

namespace Environment

/-- The environment that knows the render size alone. -/
def ofSize (s : Size) : Environment :=
  ⟨s, [("HEIGHT", s.height.toFloat), ("WIDTH", s.width.toFloat)]⟩

/-- The axis whose extent a name always stands for. -/
def reserved? (name : String) : Option Axis :=
  if name = "WIDTH" then some .width else if name = "HEIGHT" then some .height else none

/-- The extent of the render size along an axis. -/
def extent (env : Environment) (axis : Axis) : Float := (env.renderSize.along axis).toFloat

/-- Gives a name a value; the names of the render size keep theirs. -/
def insert (env : Environment) (name : String) (value : Float) : Environment :=
  if name ≠ "WIDTH" ∧ name ≠ "HEIGHT" then { env with bindings := (name, value) :: env.bindings }
  else env

/-- The value of a name. -/
def get? (env : Environment) (name : String) : Option Float := env.bindings.lookup name

theorem reserved?_eq_none_iff {name : String} :
    reserved? name = none ↔ name ≠ "WIDTH" ∧ name ≠ "HEIGHT" := by
  unfold reserved?
  split
  · simp_all
  · split <;> simp_all

/-- At first, no other name has a value. -/
theorem get?_ofSize {name : String} (h : reserved? name = none) (s : Size) :
    (ofSize s).get? name = none := by
  obtain ⟨hwidth, hheight⟩ := reserved?_eq_none_iff.1 h
  rw [get?, ofSize, List.lookup_cons, beq_eq_false_iff_ne.2 hheight, List.lookup_cons,
    beq_eq_false_iff_ne.2 hwidth, List.lookup_nil]

@[simp] theorem renderSize_insert (env : Environment) (name : String) (value : Float) :
    (env.insert name value).renderSize = env.renderSize := by
  unfold insert
  split <;> rfl

/-- An inserted value is read back under its name, and other names keep their values. -/
theorem get?_insert {env : Environment} {name : String} {value : Float}
    (h : reserved? name = none) (other : String) :
    (env.insert name value).get? other =
      if other = name then some value else env.get? other := by
  rw [insert, if_pos (reserved?_eq_none_iff.1 h), get?, get?, List.lookup_cons]
  by_cases hother : other = name
  · rw [if_pos hother, beq_iff_eq.2 hother]
  · rw [if_neg hother, beq_eq_false_iff_ne.2 hother]

/-- Inserting a reserved name changes nothing. -/
theorem insert_of_reserved {env : Environment} {name : String} {value : Float} {axis : Axis}
    (h : reserved? name = some axis) : env.insert name value = env := by
  refine if_neg fun hname => ?_
  rw [reserved?_eq_none_iff.2 hname] at h
  cases h

/-- A name stands for an extent of the render size if it is reserved for that. -/
def Anchored (env : Environment) : Prop :=
  ∀ ⦃name : String⦄ ⦃axis : Axis⦄, reserved? name = some axis →
    env.get? name = some (env.extent axis)

theorem anchored_ofSize (s : Size) : (ofSize s).Anchored := by
  intro name axis h
  unfold reserved? at h
  split at h
  · rename_i hname
    subst hname
    cases h
    rfl
  · split at h
    · rename_i hname
      subst hname
      cases h
      rfl
    · cases h

/-- The names of the render size keep their values. -/
theorem Anchored.insert {env : Environment} (henv : env.Anchored) (name : String) (value : Float) :
    (env.insert name value).Anchored := by
  intro other axis h
  cases hname : reserved? name with
  | some axis' =>
    rw [insert_of_reserved hname]
    exact henv h
  | none =>
    -- the name that is inserted is another one
    have hother : other ≠ name := by
      rintro rfl
      rw [h] at hname
      cases hname
    rw [get?_insert hname, if_neg hother, extent, renderSize_insert]
    exact henv h

end Environment

end ShaderEffect
