/-
**Readings: a value taken off the front of a list of symbols.**

The expression reader works on tokens and the metadata reader on characters.  Both take a value
off the front of a list and go on with the rest.  A `Reading` keeps the one fact that every loop
over readings needs: at least one symbol has been taken, so the rest is shorter.

Main definitions:

* `ShaderEffect.Reading` — a value, the rest, and the proof that the rest is shorter;
* `ShaderEffect.Reading.ofHead` — reading one symbol;
* `ShaderEffect.Reading.map`, `ShaderEffect.Reading.after`, `ShaderEffect.Reading.behind` — changing
  the value, and reading further back.
-/

set_option autoImplicit false

namespace ShaderEffect

/-- A value read off the front of `s` and the symbols after it; at least one symbol was taken. -/
structure Reading {τ : Type} (α : Type) (s : List τ) where
  /-- What was read. -/
  value : α
  /-- What follows it. -/
  rest : List τ
  /-- Something was taken. -/
  shorter : rest.length < s.length

namespace Reading

variable {τ α β : Type} {s s' : List τ}

/-- What one symbol stands for. -/
def ofHead {x : τ} (a : α) : Reading α (x :: s) := ⟨a, s, Nat.lt_succ_self _⟩

/-- The same reading with another value. -/
def map (f : α → β) (r : Reading α s) : Reading β s := ⟨f r.value, r.rest, r.shorter⟩

/-- A reading of the rest of a list is a reading of the list. -/
def after (r : Reading α s) (h : s.length ≤ s'.length) : Reading α s' :=
  ⟨r.value, r.rest, Nat.lt_of_lt_of_le r.shorter h⟩

/-- A reading behind one more symbol. -/
def behind (r : Reading α s) (x : τ) : Reading α (x :: s) :=
  ⟨r.value, r.rest, Nat.lt_succ_of_lt r.shorter⟩

@[simp] theorem value_ofHead {x : τ} (a : α) : (ofHead a : Reading α (x :: s)).value = a := rfl

@[simp] theorem rest_ofHead {x : τ} (a : α) : (ofHead a : Reading α (x :: s)).rest = s := rfl

@[simp] theorem value_map (f : α → β) (r : Reading α s) : (r.map f).value = f r.value := rfl

@[simp] theorem rest_map (f : α → β) (r : Reading α s) : (r.map f).rest = r.rest := rfl

@[simp] theorem value_after (r : Reading α s) (h : s.length ≤ s'.length) :
    (r.after h).value = r.value := rfl

@[simp] theorem rest_after (r : Reading α s) (h : s.length ≤ s'.length) :
    (r.after h).rest = r.rest := rfl

@[simp] theorem value_behind (r : Reading α s) (x : τ) : (r.behind x).value = r.value := rfl

@[simp] theorem rest_behind (r : Reading α s) (x : τ) : (r.behind x).rest = r.rest := rfl

end Reading

end ShaderEffect
