/-
**What an input is read as.**

An input of a known kind starts as a parameter of that kind.  A sound is only given how many
samples are wanted, an image nothing.  For anything else the limits are read first, then the
values to choose from, which only whole numbers have, and last the declared default; where none is
declared, the first choice is the default.

Main definitions:

* `ShaderEffect.ReadFor` — what stands for a value, and the value that it is read as;
* `ShaderEffect.InputForm.Chooses`, `ShaderEffect.InputForm.Defaults` — a parameter before and after
  its choices and its default have been read;
* `ShaderEffect.InputForm.Yields` — **the parameter that an input of a kind is read as**.

Main results:

* `ShaderEffect.InputForm.yields_toParameter` — inputs are read so.
-/

import Mathlib.Data.Option.Basic
import ShaderEffect.Metadata.Basic

set_option autoImplicit false

namespace ShaderEffect

variable {form : InputForm} {p q : Parameter}

/-! ### Values -/

/-- What stands for a value that may be left out, and the value that it is read as. -/
inductive ReadFor (kind : Kind) : Option Json → Option Value → Prop where
  | absent : ReadFor kind none none
  | present {json : Json} {v : Value} : Value.ofJson? kind json = some v →
      ReadFor kind (some json) (some v)

theorem valueFor_eq_ok {kind : Kind} {key : String} {json : Json} {v : Value}
    (h : valueFor kind key json = .ok v) : Value.ofJson? kind json = some v := by
  unfold valueFor at h
  split at h
  · rename_i w hw
    cases h
    exact hw
  · cases h

theorem readFor_optionalValueFor {kind : Kind} {key : String} {json : Option Json}
    {stored : Option Value} (h : optionalValueFor kind key json = .ok stored) :
    ReadFor kind json stored := by
  cases json with
  | none =>
    cases h
    exact .absent
  | some json =>
    cases hv : valueFor kind key json with
    | error failure =>
      rw [optionalValueFor, hv] at h
      cases h
    | ok v =>
      rw [optionalValueFor, hv] at h
      cases h
      exact .present (valueFor_eq_ok hv)

/-! ### Steps -/

/-- **Limits** are read as values of the kind of the parameter. -/
theorem readFor_withLimits (h : withLimits form p = .ok q) :
    ∃ least greatest neutral, ReadFor p.kind form.min least ∧ ReadFor p.kind form.max greatest ∧
      ReadFor p.kind form.identity neutral ∧
      q = { p with min := least, max := greatest, identity := neutral } := by
  simp only [withLimits, bind, Except.bind, pure, Except.pure] at h
  split at h
  · cases h
  · rename_i least hleast
    split at h
    · cases h
    · rename_i greatest hgreatest
      split at h
      · cases h
      · rename_i neutral hneutral
        cases h
        exact ⟨least, greatest, neutral, readFor_optionalValueFor hleast,
          readFor_optionalValueFor hgreatest, readFor_optionalValueFor hneutral, rfl⟩

namespace InputForm

/-- The first choice, if no default is declared. -/
def choice? (form : InputForm) (numbers : List Int32) : Option Int32 :=
  if form.default.isNone then numbers.head? else none

/-- A parameter with values to choose from. -/
def choosing (form : InputForm) (numbers : List Int32) (p : Parameter) : Parameter :=
  { ((form.choice? numbers).elim p fun n => p.withDefault (.long n)) with
    options := labelled numbers (form.labels.getD []) }

/-- A parameter before and after its values to choose from have been read. -/
inductive Chooses (form : InputForm) (p : Parameter) : Parameter → Prop where
  | skipped : p.kind ≠ .long ∨ form.values = none → Chooses form p p
  | read {values : List Json} {numbers : List Int32} : p.kind = .long →
      form.values = some values → optionNumbers? values = some numbers →
      Chooses form p (form.choosing numbers p)

/-- A parameter before and after its declared default has been read. -/
inductive Defaults (form : InputForm) (p : Parameter) : Parameter → Prop where
  | undeclared : form.default = none → Defaults form p p
  | declared {json : Json} {v : Value} : form.default = some json →
      Value.ofJson? p.kind json = some v → Defaults form p (p.withDefault v)

/-- Choices and a default do not touch the limits, nor anything else but the value. -/
theorem Chooses.exists_eq (h : form.Chooses p q) :
    ∃ current default options,
      q = { p with current := current, default := default, options := options } := by
  cases h with
  | skipped => exact ⟨_, _, _, rfl⟩
  | @read _ numbers =>
    unfold choosing
    cases form.choice? numbers <;> exact ⟨_, _, _, rfl⟩

theorem Defaults.exists_eq (h : form.Defaults p q) :
    ∃ current default, q = { p with current := current, default := default } := by
  cases h <;> exact ⟨_, _, rfl⟩

theorem choice?_elim (form : InputForm) (numbers : List Int32) (p : Parameter) :
    (match form.default, numbers with
      | none, n :: _ => p.withDefault (.long n)
      | _, _ => p) = (form.choice? numbers).elim p fun n => p.withDefault (.long n) := by
  unfold choice?
  cases form.default <;> cases numbers <;> rfl

theorem chooses_withOptions (hkind : p.kind = .long) (h : (withOptions form p).result = .ok q) :
    form.Chooses p q := by
  unfold withOptions at h
  split at h
  · rename_i hvalues
    cases h
    exact .skipped (Or.inr hvalues)
  · rename_i values hvalues
    split at h
    · cases h
    · rename_i numbers hnumbers
      have hq : q = form.choosing numbers p := by
        rw [choosing, ← choice?_elim]
        dsimp only at h
        split at h
        · obtain ⟨-, -, h⟩ := Report.result_bind_eq_ok_iff.1 h
          cases h
          rfl
        · cases h
          rfl
      rw [hq]
      exact .read hkind hvalues hnumbers

theorem defaults_withDeclaredDefault (h : withDeclaredDefault form p = .ok q) :
    form.Defaults p q := by
  unfold withDeclaredDefault at h
  split at h
  · rename_i hdefault
    cases h
    exact .undeclared hdefault
  · rename_i json hdefault
    cases hv : valueFor p.kind "DEFAULT" json with
    | error failure =>
      rw [hv] at h
      cases h
    | ok v =>
      rw [hv] at h
      cases h
      exact .declared hdefault (valueFor_eq_ok hv)

/-! ### Inputs -/

/-- The parameter that an input of a kind starts as. -/
def start (form : InputForm) (kind : Kind) : Parameter :=
  { Parameter.ofKind form.name kind with label := form.label }

/-- **The parameter that an input of a kind is read as.** -/
inductive Yields (form : InputForm) (kind : Kind) : Parameter → Prop where
  | audio {n : Option UInt32} : kind.isAudio = true → samplesOf form.name form.max = .ok n →
      Yields form kind { form.start kind with samples := n }
  | image : kind.isAudio = false → kind.isSampler = true → Yields form kind (form.start kind)
  | value {least greatest neutral : Option Value} {q p : Parameter} : kind.isSampler = false →
      ReadFor kind form.min least → ReadFor kind form.max greatest →
      ReadFor kind form.identity neutral →
      form.Chooses
        { form.start kind with min := least, max := greatest, identity := neutral } q →
      form.Defaults q p → Yields form kind p

/-- **Inputs are read so.** -/
theorem yields_toParameter (h : form.toParameter.result = .ok p) :
    ∃ kind, Kind.ofName? form.kind = some kind ∧ form.Yields kind p := by
  unfold toParameter at h
  split at h
  · cases h
  · rename_i kind hkind
    refine ⟨kind, hkind, ?_⟩
    dsimp only at h
    split at h
    · rename_i haudio
      cases hn : samplesOf form.name form.max with
      | error failure =>
        rw [hn] at h
        cases h
      | ok n =>
        rw [hn] at h
        cases h
        exact .audio haudio hn
    · rename_i haudio
      rw [Bool.not_eq_true] at haudio
      split at h
      · rename_i hsampler
        cases h
        exact .image haudio hsampler
      · rename_i hsampler
        rw [Bool.not_eq_true] at hsampler
        obtain ⟨q, hq, h⟩ := Report.result_bind_eq_ok_iff.1 h
        obtain ⟨least, greatest, neutral, hleast, hgreatest, hneutral, rfl⟩ :=
          readFor_withLimits hq
        split at h
        · rename_i hlong
          obtain ⟨r, hr, h⟩ := Report.result_bind_eq_ok_iff.1 h
          exact .value hsampler hleast hgreatest hneutral (chooses_withOptions hlong hr)
            (defaults_withDeclaredDefault h)
        · rename_i hlong
          exact .value hsampler hleast hgreatest hneutral (.skipped (Or.inl hlong))
            (defaults_withDeclaredDefault h)

end InputForm

end ShaderEffect
