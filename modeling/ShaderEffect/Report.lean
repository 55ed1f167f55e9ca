/-
**Results with warnings.**

Reading the metadata of an effect can warn about what it accepts.  A warning that came before a
failure has been given nevertheless.

Main definitions:

* `ShaderEffect.Warning` — what is warned about;
* `ShaderEffect.Report` — warnings, in order, and a result or a failure.
-/

import ShaderEffect.Failure

set_option autoImplicit false

namespace ShaderEffect

/-- Something that is accepted, but probably not meant. -/
inductive Warning where
  /-- A parameter has other numbers of values and labels to choose from. -/
  | optionLengths (parameter : String) (values labels : Nat)
  /-- A repeated target has other flags than its first declaration, which is kept. -/
  | passFlags (target : String)
  /-- An effect failed to load, and stands for an empty document. -/
  | loadFailed (path : Option String) (failure : String)
  deriving DecidableEq

/-- What is said about something accepted. -/
def Warning.message : Warning → String
  | optionLengths .. => "VALUES and LABELS differ in length"
  | passFlags _ => "repeated TARGET declares different flags; keeping the first declaration"
  | loadFailed .. => "ISF document failed to load"

/-- Warnings and a result. -/
structure Report (α : Type) where
  /-- The warnings, in the order in which they were given. -/
  warnings : List Warning
  /-- What came out. -/
  result : Except Failure α

namespace Report

variable {α β : Type}

/-- A result without warnings. -/
protected def pure (a : α) : Report α := ⟨[], .ok a⟩

/-- A failure without warnings of its own. -/
def fail (failure : Failure) : Report α := ⟨[], .error failure⟩

/-- A result or a failure, without warnings. -/
def ofExcept (result : Except Failure α) : Report α := ⟨[], result⟩

/-- A warning. -/
def warn (w : Warning) : Report Unit := ⟨[w], .ok ()⟩

/-- Goes on with a result; the warnings add up. -/
protected def bind (r : Report α) (f : α → Report β) : Report β :=
  match r.result with
  | .error failure => ⟨r.warnings, .error failure⟩
  | .ok a => ⟨r.warnings ++ (f a).warnings, (f a).result⟩

instance : Monad Report where
  pure := Report.pure
  bind := Report.bind

@[simp] theorem result_pure (a : α) : (pure a : Report α).result = .ok a := rfl

@[simp] theorem warnings_pure (a : α) : (pure a : Report α).warnings = [] := rfl

@[simp] theorem result_ofExcept (x : Except Failure α) : (ofExcept x).result = x := rfl

@[simp] theorem warnings_ofExcept (x : Except Failure α) : (ofExcept x).warnings = [] := rfl

/-- A sequence has a result exactly if both parts have one. -/
theorem result_bind_eq_ok_iff {r : Report α} {f : α → Report β} {b : β} :
    (r >>= f).result = .ok b ↔ ∃ a, r.result = .ok a ∧ (f a).result = .ok b := by
  show (Report.bind r f).result = .ok b ↔ _
  unfold Report.bind
  cases h : r.result with
  | error failure => simp
  | ok a => simp

theorem result_bind_of_ok {r : Report α} {a : α} (h : r.result = .ok a) (f : α → Report β) :
    (r >>= f).result = (f a).result := by
  show (Report.bind r f).result = _
  simp [Report.bind, h]

theorem result_bind_of_error {r : Report α} {failure : Failure} (h : r.result = .error failure)
    (f : α → Report β) : (r >>= f).result = .error failure := by
  show (Report.bind r f).result = _
  simp [Report.bind, h]

/-- The warnings of both parts add up, if the first one has a result. -/
theorem warnings_bind_of_ok {r : Report α} {a : α} (h : r.result = .ok a) (f : α → Report β) :
    (r >>= f).warnings = r.warnings ++ (f a).warnings := by
  show (Report.bind r f).warnings = _
  simp [Report.bind, h]

end Report

end ShaderEffect
