/-
**Parameters of an effect.**

A parameter is declared by the metadata: an input, whose value the host sets, or an imported image,
whose buffer is loaded from a file.

Main definitions:

* `ShaderEffect.Parameter` — a parameter with its declaration and its current value;
* `ShaderEffect.Parameter.set`, `ShaderEffect.Parameter.bind`, `ShaderEffect.Parameter.reset` — the
  three ways to change the value.

Main results:

* `ShaderEffect.Parameter.set_eq_ok_iff`, `ShaderEffect.Parameter.bind_isOk_iff` — when a value is
  accepted;
* `ShaderEffect.Parameter.kind_set`, `ShaderEffect.Parameter.kind_bind`,
  `ShaderEffect.Parameter.kind_reset` — the kind never changes.
-/

import ShaderEffect.Failure

set_option autoImplicit false

namespace ShaderEffect

/-- A parameter of an effect. -/
structure Parameter where
  /-- The name it has in programs. -/
  name : String
  /-- What it is called for users. -/
  label : Option String
  /-- The kind of its values. -/
  kind : Kind
  /-- Its current value. -/
  current : Value
  /-- The value that a reset restores. -/
  default : Option Value
  /-- The least value. -/
  min : Option Value
  /-- The greatest value. -/
  max : Option Value
  /-- The value without effect. -/
  identity : Option Value
  /-- The values to choose from, with their labels. -/
  options : List (Int32 × String)
  /-- How many samples of a sound are wanted. -/
  samples : Option UInt32
  /-- The file of an imported image. -/
  importPath : Option String

namespace Parameter

/-- A parameter of which only the name and the kind are known. -/
def ofKind (name : String) (kind : Kind) : Parameter :=
  ⟨name, none, kind, Value.zero kind, none, none, none, none, [], none, none⟩

/-- An imported image. -/
def imported (name path : String) : Parameter :=
  { ofKind name .image with importPath := some path }

/-- Whether the parameter is an imported image. -/
def isImport (p : Parameter) : Bool := p.importPath.isSome

/-- Gives the parameter a value of its kind. -/
def set (p : Parameter) (v : Value) : Except Failure Parameter :=
  if v.kind = p.kind then .ok { p with current := v }
  else .error (.parse (.wrongKind v.kind p.kind p.name))

/-- Binds a buffer, or none, to a parameter that is sampled. -/
def bind (p : Parameter) (binding : Option Binding) : Except Failure Parameter :=
  match Value.ofBinding? binding p.kind with
  | some v => .ok { p with current := v }
  | none => .error (.parse (.notSampled p.name p.kind))

/-- Restores the default value. -/
def reset (p : Parameter) : Parameter :=
  { p with current := p.default.getD (Value.zero p.kind) }

/-- Makes a value the default and the current value. -/
def withDefault (p : Parameter) (v : Value) : Parameter :=
  { p with default := some v, current := v }

/-- The shape that the parameter is sampled with. -/
def shape (p : Parameter) : Shape :=
  match p.current.binding? with
  | some b => b.descriptor.shape
  | none => .flat

/-- The parameter in one line. -/
def text (p : Parameter) : String :=
  let file := match p.importPath with
    | some path => " <- " ++ path
    | none => ""
  p.name ++ " (" ++ p.kind.name ++ ")" ++ file

/-- A value is accepted exactly if it is of the kind of the parameter. -/
theorem set_eq_ok_iff {p p' : Parameter} {v : Value} :
    p.set v = .ok p' ↔ v.kind = p.kind ∧ p' = { p with current := v } := by
  unfold set
  split
  · rename_i h
    simp [h, eq_comm]
  · rename_i h
    simp [h]

/-- A buffer is accepted exactly by a parameter that is sampled. -/
theorem bind_isOk_iff {p : Parameter} {binding : Option Binding} :
    (p.bind binding).isOk ↔ p.kind.isSampler := by
  unfold bind
  cases p.kind <;> simp [Value.ofBinding?, Kind.isSampler, Except.isOk, Except.toBool]

theorem kind_set {p p' : Parameter} {v : Value} (h : p.set v = .ok p') : p'.kind = p.kind := by
  obtain ⟨-, rfl⟩ := set_eq_ok_iff.1 h
  rfl

theorem kind_bind {p p' : Parameter} {binding : Option Binding} (h : p.bind binding = .ok p') :
    p'.kind = p.kind := by
  unfold bind at h
  split at h
  · cases h
    rfl
  · cases h

@[simp] theorem kind_reset (p : Parameter) : p.reset.kind = p.kind := rfl

end Parameter

end ShaderEffect
