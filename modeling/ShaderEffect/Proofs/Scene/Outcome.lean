/-
**What comes of work.**

Work ends with a value or with a failure, and leaves something behind either way.  This module says
what is true at both ends, follows that through sequences, and through work on the members of a
list, which goes on up to the first failure.

Main definitions:

* `ShaderEffect.Ends` — **what is true when work is over**;
* `ShaderEffect.stopsAt` — the member of a list that work fails at.

Main results:

* `ShaderEffect.Ends.bind`, `ShaderEffect.bind_eq_ok`, `ShaderEffect.bind_eq_error` — what is true
  of a sequence, and where it fails;
* `ShaderEffect.eachOf_append`, `ShaderEffect.eachOf_eq_ok_of_append` — work on a list in parts;
* `ShaderEffect.ends_eachOf_induct` — **what comes of work on a list, member by member**;
* `ShaderEffect.ends_eachOf_map`, `ShaderEffect.ends_eachOf_rest` — what work on a list leaves
  alone, and how it fails;
* `ShaderEffect.stopsAt_eq_none_iff` — work that stops nowhere does not fail.
-/

import ShaderEffect.Scene.Frame

set_option autoImplicit false

namespace ShaderEffect

/-! ### The two ends -/

/-- What is true when work is over: one thing of a value and what is left, another of a failure and
what is left. -/
def Ends {ε τ α : Type} (ok : α → τ → Prop) (error : ε → τ → Prop) :
    EStateM.Result ε τ α → Prop
  | .ok a s => ok a s
  | .error e s => error e s

namespace Ends

variable {ε τ α β : Type}

/-- What follows from what is true at an end is true there, too. -/
theorem mono {ok ok' : α → τ → Prop} {error error' : ε → τ → Prop}
    {r : EStateM.Result ε τ α} (h : Ends ok error r) (hok : ∀ a s, ok a s → ok' a s)
    (herror : ∀ e s, error e s → error' e s) : Ends ok' error' r := by
  cases r with
  | ok a s => exact hok a s h
  | error e s => exact herror e s h

/-- What two things say of an end is true there together. -/
theorem and {ok ok' : α → τ → Prop} {error error' : ε → τ → Prop} {r : EStateM.Result ε τ α}
    (h : Ends ok error r) (h' : Ends ok' error' r) :
    Ends (fun a s => ok a s ∧ ok' a s) (fun e s => error e s ∧ error' e s) r := by
  cases r with
  | ok a s => exact ⟨h, h'⟩
  | error e s => exact ⟨h, h'⟩

/-- **What is true of a sequence**: the second part starts where the first one ended. -/
theorem bind {x : EStateM ε τ α} {f : α → EStateM ε τ β} {s : τ} {ok : α → τ → Prop}
    {ok' : β → τ → Prop} {error : ε → τ → Prop} (hx : Ends ok error (x s))
    (hf : ∀ a s', ok a s' → Ends ok' error (f a s')) : Ends ok' error ((x >>= f) s) := by
  show Ends ok' error (EStateM.bind x f s)
  unfold EStateM.bind
  revert hx
  cases x s with
  | ok a s' => exact hf a s'
  | error e s' => exact id

/-- Looking at the state first. -/
theorem get_bind {f : τ → EStateM ε τ β} {s : τ} {ok : β → τ → Prop} {error : ε → τ → Prop}
    (h : Ends ok error (f s s)) : Ends ok error ((get >>= f) s) := h

end Ends

/-- A sequence ends with a value if both parts do. -/
theorem bind_eq_ok {ε τ α β : Type} {x : EStateM ε τ α} {f : α → EStateM ε τ β} {s s' : τ} {b : β}
    (h : (x >>= f) s = .ok b s') : ∃ a t, x s = .ok a t ∧ f a t = .ok b s' := by
  change EStateM.bind x f s = _ at h
  unfold EStateM.bind at h
  cases hx : x s with
  | ok a t =>
      rw [hx] at h
      exact ⟨a, t, rfl, h⟩
  | error e t =>
      rw [hx] at h
      cases h

/-- A sequence fails in one of its parts. -/
theorem bind_eq_error {ε τ α β : Type} {x : EStateM ε τ α} {f : α → EStateM ε τ β} {s s' : τ}
    {e : ε} (h : (x >>= f) s = .error e s') :
    x s = .error e s' ∨ ∃ a t, x s = .ok a t ∧ f a t = .error e s' := by
  change EStateM.bind x f s = _ at h
  unfold EStateM.bind at h
  cases hx : x s with
  | ok a t =>
      rw [hx] at h
      exact Or.inr ⟨a, t, rfl, h⟩
  | error e t =>
      rw [hx] at h
      cases h
      exact Or.inl rfl

/-- The second part of a sequence goes on where the first one ended. -/
theorem bind_of_ok {ε τ α β : Type} {x : EStateM ε τ α} {f : α → EStateM ε τ β} {s t : τ} {a : α}
    (h : x s = .ok a t) : (x >>= f) s = f a t := by
  show EStateM.bind x f s = _
  unfold EStateM.bind
  rw [h]

/-- A sequence fails where its first part fails. -/
theorem bind_of_error {ε τ α β : Type} {x : EStateM ε τ α} {f : α → EStateM ε τ β} {s t : τ} {e : ε}
    (h : x s = .error e t) : (x >>= f) s = .error e t := by
  show EStateM.bind x f s = _
  unfold EStateM.bind
  rw [h]

/-- Two sequences that begin alike end alike if they go on alike from where the first part can end.
-/
theorem bind_congr_of_ok {ε τ α β : Type} {x : EStateM ε τ α} {f g : α → EStateM ε τ β} {s : τ}
    (h : ∀ a t, x s = .ok a t → f a t = g a t) : (x >>= f) s = (x >>= g) s := by
  show EStateM.bind x f s = EStateM.bind x g s
  unfold EStateM.bind
  cases hx : x s with
  | ok a t => exact h a t hx
  | error e t => rfl

/-! ### Work on lists -/

section Lists

variable {ε α τ : Type} (work : EStateM ε (α × τ) Unit)

/-- Work on a list in two parts. -/
theorem eachOf_append (as bs : List α) (s : τ) :
    eachOf work (as ++ bs, s) =
      match eachOf work (as, s) with
      | .error e (as, s) => .error e (as ++ bs, s)
      | .ok _ (as, s) =>
        match eachOf work (bs, s) with
        | .error e (bs, s) => .error e (as ++ bs, s)
        | .ok _ (bs, s) => .ok () (as ++ bs, s) := by
  induction as generalizing s with
  | nil =>
      rw [List.nil_append, eachOf]
      dsimp only
      rcases eachOf work (bs, s) with ⟨_, _, _⟩ | ⟨_, _, _⟩ <;> rfl
  | cons a as ih =>
      rw [List.cons_append, eachOf, eachOf]
      rcases work (a, s) with ⟨_, a', s'⟩ | ⟨e, a', s'⟩
      · dsimp only
        rw [ih]
        rcases eachOf work (as, s') with ⟨_, as', t⟩ | ⟨_, as', t⟩
        · dsimp only
          rcases eachOf work (bs, t) with ⟨_, _, _⟩ | ⟨_, _, _⟩ <;> rfl
        · rfl
      · rfl

/-- Work on a list that does not fail does not fail at any member. -/
theorem eachOf_eq_ok_of_append {before after cs : List α} {a : α} {s s' : τ}
    (h : eachOf work (before ++ a :: after, s) = .ok () (cs, s')) :
    ∃ before' s₁ a' s₂ after', eachOf work (before, s) = .ok () (before', s₁) ∧
      work (a, s₁) = .ok () (a', s₂) ∧ eachOf work (after, s₂) = .ok () (after', s') ∧
      cs = before' ++ a' :: after' := by
  rw [eachOf_append] at h
  rcases hb : eachOf work (before, s) with ⟨_, before', s₁⟩ | ⟨_, before', s₁⟩
  · rw [hb] at h
    dsimp only at h
    rw [eachOf] at h
    rcases ha : work (a, s₁) with ⟨_, a', s₂⟩ | ⟨_, a', s₂⟩
    · rw [ha] at h
      dsimp only at h
      rcases hafter : eachOf work (after, s₂) with ⟨_, after', s₃⟩ | ⟨_, after', s₃⟩
      · rw [hafter] at h
        cases h
        exact ⟨before', s₁, a', s₂, after', rfl, ha, hafter, rfl⟩
      · rw [hafter] at h
        cases h
    · rw [ha] at h
      cases h
  · rw [hb] at h
    cases h

/-- **What comes of work on a list is told member by member.**  A member in front finds what work on
the list needs, and leaves what work on the rest needs; what then comes of the rest comes of the
list, and so does a failure at the member in front. -/
theorem ends_eachOf_induct {I : List α → τ → Prop} {P : List α → τ → List α → τ → Prop}
    {Q : ε → List α → τ → List α → τ → Prop} (hnil : ∀ s, I [] s → P [] s [] s)
    (hcons : ∀ a as s, I (a :: as) s → Ends
      (fun _ r => I as r.2 ∧ (∀ bs t, P as r.2 bs t → P (a :: as) s (r.1 :: bs) t) ∧
        ∀ e bs t, Q e as r.2 bs t → Q e (a :: as) s (r.1 :: bs) t)
      (fun e r => Q e (a :: as) s (r.1 :: as) r.2) (work (a, s)))
    {as : List α} {s : τ} (hs : I as s) :
    Ends (fun _ r => P as s r.1 r.2) (fun e r => Q e as s r.1 r.2) (eachOf work (as, s)) := by
  induction as generalizing s with
  | nil =>
      rw [eachOf]
      exact hnil s hs
  | cons a as ih =>
      have hfirst := hcons a as s hs
      rw [eachOf]
      rcases hw : work (a, s) with ⟨_, a', s'⟩ | ⟨e, a', s'⟩
      · rw [hw] at hfirst
        obtain ⟨hs', hok, herror⟩ := hfirst
        have hrest := ih hs'
        dsimp only
        rcases hr : eachOf work (as, s') with ⟨_, bs, t⟩ | ⟨e, bs, t⟩
        · rw [hr] at hrest
          exact hok bs t hrest
        · rw [hr] at hrest
          exact herror e bs t hrest
      · rw [hw] at hfirst
        exact hfirst

/-- The same of what is true at both ends. -/
theorem ends_eachOf_induct_same {I : List α → τ → Prop} {R : List α → τ → List α → τ → Prop}
    (hnil : ∀ s, I [] s → R [] s [] s)
    (hcons : ∀ a as s, I (a :: as) s → Ends
      (fun _ r => I as r.2 ∧ ∀ bs t, R as r.2 bs t → R (a :: as) s (r.1 :: bs) t)
      (fun _ r => R (a :: as) s (r.1 :: as) r.2) (work (a, s)))
    {as : List α} {s : τ} (hs : I as s) :
    Ends (fun _ r => R as s r.1 r.2) (fun _ r => R as s r.1 r.2) (eachOf work (as, s)) :=
  ends_eachOf_induct work (Q := fun _ => R) hnil
    (fun a as s h => (hcons a as s h).mono
      (fun _ _ ⟨hI, hR⟩ => ⟨hI, hR, fun _ => hR⟩) fun _ _ hR => hR) hs

/-- The same of work that does not fail, told by work on the members that does not. -/
theorem eachOf_eq_ok_induct {I : List α → τ → Prop} {P : List α → τ → List α → τ → Prop}
    (hnil : ∀ s, I [] s → P [] s [] s)
    (hcons : ∀ a as s b t, I (a :: as) s → work (a, s) = .ok () (b, t) →
      I as t ∧ ∀ bs u, P as t bs u → P (a :: as) s (b :: bs) u)
    {as bs : List α} {s t : τ} (hs : I as s) (h : eachOf work (as, s) = .ok () (bs, t)) :
    P as s bs t := by
  have hends : Ends (fun _ r => P as s r.1 r.2) (fun _ _ => True) (eachOf work (as, s)) := by
    refine ends_eachOf_induct work (Q := fun _ _ _ _ _ => True) hnil (fun a as s hs => ?_) hs
    rcases hw : work (a, s) with ⟨_, b, t⟩ | ⟨e, b, t⟩
    · obtain ⟨ht, hP⟩ := hcons a as s b t hs hw
      exact ⟨ht, hP, fun _ _ _ _ => trivial⟩
    · exact trivial
  rw [h] at hends
  exact hends

/-- What work leaves alone in each member, it leaves alone in all of them. -/
theorem ends_eachOf_map {β : Type} {f : α → β}
    (hwork : ∀ a s, Ends (fun _ r => f r.1 = f a) (fun _ r => f r.1 = f a) (work (a, s)))
    (as : List α) (s : τ) :
    Ends (fun _ r => r.1.map f = as.map f) (fun _ r => r.1.map f = as.map f)
      (eachOf work (as, s)) := by
  refine ends_eachOf_induct_same work (I := fun _ _ => True)
    (R := fun as _ bs _ => bs.map f = as.map f) (fun _ _ => rfl) (fun a as s _ => ?_) trivial
  refine (hwork a s).mono (fun _ r ha => ⟨trivial, fun bs _ has => ?_⟩) fun _ r ha => ?_
  · exact List.cons_eq_cons.2 ⟨ha, has⟩
  · exact congrArg (· :: as.map f) ha

/-- **Work on a list fails as work on one of its members fails**, if the members before leave what
it needs. -/
theorem ends_eachOf_rest {I : τ → Prop} {P : ε → τ → Prop} (as : List α)
    (hwork : ∀ a ∈ as, ∀ s, I s → Ends (fun _ r => I r.2) (fun e r => P e r.2) (work (a, s)))
    {s : τ} (hs : I s) :
    Ends (fun _ r => I r.2) (fun e r => P e r.2) (eachOf work (as, s)) := by
  refine ends_eachOf_induct work (P := fun _ _ _ t => I t) (Q := fun e _ _ _ t => P e t)
    (I := fun as s => I s ∧
      ∀ a ∈ as, ∀ s, I s → Ends (fun _ r => I r.2) (fun e r => P e r.2) (work (a, s)))
    (fun _ h => h.1) (fun a as s h => ?_) ⟨hs, hwork⟩
  obtain ⟨ha, has⟩ := List.forall_mem_cons.1 h.2
  exact (ha s h.1).mono (fun _ _ h => ⟨⟨h, has⟩, fun _ _ h => h, fun _ _ _ h => h⟩)
    fun _ _ h => h

/-- The member of a list that work fails at, and what it finds there. -/
def stopsAt : List α × τ → Option (α × τ)
  | ([], _) => none
  | (a :: as, s) =>
    match work (a, s) with
    | .error _ _ => some (a, s)
    | .ok _ (_, s) => stopsAt (as, s)

/-- Work that stops nowhere does not fail. -/
theorem stopsAt_eq_none_iff (as : List α) (s : τ) :
    stopsAt work (as, s) = none ↔ ∃ r, eachOf work (as, s) = .ok () r := by
  induction as generalizing s with
  | nil => simp [stopsAt, eachOf]
  | cons a as ih =>
      rw [stopsAt, eachOf]
      rcases work (a, s) with ⟨_, a', s'⟩ | ⟨e, a', s'⟩
      · dsimp only
        rw [ih]
        rcases eachOf work (as, s') with ⟨_, as', t⟩ | ⟨_, as', t⟩ <;> simp
      · simp

end Lists

end ShaderEffect
