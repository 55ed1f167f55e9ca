/-
**Free-form metadata values.**

Where the metadata of an effect allows a value of any form, it is kept as a tree.  The members of
an object are kept in the order of their keys, and of two members with one key the later is kept.

Main definitions:

* `ShaderEffect.Json.Number`, `ShaderEffect.Json` — numbers and trees;
* `ShaderEffect.Json.putMember` — a member added to those of an object;
* `ShaderEffect.Json.Number.toFloat`, `ShaderEffect.Json.float?`, `ShaderEffect.Json.natural?` — a
  value as a number.

Main results:

* `ShaderEffect.Json.pairwise_putMember` — keys stay in strictly increasing order;
* `ShaderEffect.Json.lookup_putMember` — a member added is found, the others are kept.
-/

import ShaderEffect.Decimal.Double

set_option autoImplicit false

namespace ShaderEffect

/-- A number: a whole number that fits a machine word, or a double. -/
inductive Json.Number where
  | whole (n : Int)
  | decimal (x : Float)
  deriving DecidableEq

/-- A value of any form. -/
inductive Json where
  | null
  | bool (b : Bool)
  | number (n : Json.Number)
  | text (s : String)
  | array (items : List Json)
  | object (members : List (String × Json))
  deriving Inhabited

namespace Json

/-! ### Numbers -/

/-- The double nearest to a number. -/
def Number.toFloat : Number → Float
  | whole n => Decimal.ofFraction (n < 0) n.natAbs 1
  | decimal x => x

/-- A value that is a number, as a double. -/
def float? : Json → Option Float
  | number n => some n.toFloat
  | _ => none

/-- A value that is a whole number and not negative. -/
def natural? : Json → Option Nat
  | number (.whole n) => if 0 ≤ n then some n.toNat else none
  | _ => none

/-! ### Members of an object -/

/-- Adds a member in the order of the keys; an earlier member with this key is replaced. -/
def putMember (key : String) (value : Json) : List (String × Json) → List (String × Json)
  | [] => [(key, value)]
  | (k, v) :: rest =>
    if key < k then (key, value) :: (k, v) :: rest
    else if key = k then (key, value) :: rest
    else (k, v) :: putMember key value rest

theorem mem_keys_putMember (key : String) (value : Json) (k : String) :
    ∀ members : List (String × Json),
      k ∈ (putMember key value members).map Prod.fst ↔ k = key ∨ k ∈ members.map Prod.fst
  | [] => by simp [putMember]
  | (k', v') :: rest => by
    have ih := mem_keys_putMember key value k rest
    unfold putMember
    split
    · simp
    · split
      · rename_i h
        subst h
        simp
      · simp only [List.map_cons, List.mem_cons, ih]
        constructor
        · rintro (h | h | h) <;> simp [h]
        · rintro (h | h | h) <;> simp [h]

/-- Keys in strictly increasing order stay so. -/
theorem pairwise_putMember {key : String} {value : Json} :
    ∀ {members : List (String × Json)}, (members.map Prod.fst).Pairwise (· < ·) →
      ((putMember key value members).map Prod.fst).Pairwise (· < ·)
  | [], _ => by simp [putMember]
  | (k, v) :: rest, h => by
    rw [List.map_cons, List.pairwise_cons] at h
    unfold putMember
    split
    · rename_i hlt
      simp only [List.map_cons, List.pairwise_cons]
      refine ⟨?_, h.1, h.2⟩
      intro b hb
      rcases List.mem_cons.1 hb with rfl | hb
      · exact hlt
      · exact String.lt_trans hlt (h.1 b hb)
    · split
      · rename_i heq
        subst heq
        simpa using h
      · rename_i hlt hne
        simp only [List.map_cons, List.pairwise_cons]
        refine ⟨?_, pairwise_putMember h.2⟩
        intro b hb
        rcases (mem_keys_putMember key value b rest).1 hb with rfl | hb
        · rcases String.le_total b k with hle | hle
          · exact absurd (String.le_antisymm hle (String.not_lt.1 hlt)) hne
          · exact String.not_le.1 fun hge => hne (String.le_antisymm hge hle)
        · exact h.1 b hb

/-- A member added is found under its key, and the other members are kept. -/
theorem lookup_putMember (key : String) (value : Json) (k : String) :
    ∀ {members : List (String × Json)}, (members.map Prod.fst).Pairwise (· < ·) →
      (putMember key value members).lookup k = if k = key then some value else members.lookup k
  | [], _ => by
    by_cases h : k = key
    · simp [putMember, h]
    · have hb : (k == key) = false := by simpa using h
      simp [putMember, List.lookup_cons, h, hb]
  | (k', v) :: rest, h => by
    rw [List.map_cons, List.pairwise_cons] at h
    have ih := lookup_putMember key value k h.2
    unfold putMember
    split
    · by_cases hk : k = key
      · simp [hk]
      · have hb : (k == key) = false := by simpa using hk
        simp [List.lookup_cons, hb, hk]
    · split
      · rename_i heq
        subst heq
        by_cases hk : k = key
        · simp [hk]
        · have hb : (k == key) = false := by simpa using hk
          simp [List.lookup_cons, hb, hk]
      · rename_i hne
        by_cases hk : k = k'
        · subst hk
          have : ¬ k = key := fun h => hne h.symm
          simp [this]
        · have hb : (k == k') = false := by simpa using hk
          simp [List.lookup_cons, hb, ih]

end Json

end ShaderEffect
