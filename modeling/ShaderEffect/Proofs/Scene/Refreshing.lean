/-
**What persistent targets hold when a frame is over that did not complete.**

Before passes are drawn, each slot of a persistent target keeps its buffer if the pool knows that
under the descriptor of the target, and gets another one with this descriptor otherwise.  Nothing
else happens to persistent targets unless a frame is completed.  A target whose two buffers were
exchanged would hold in each slot what the other one held; refreshing never leaves a target so, but
for one that holds the same in both slots anyway.

Main definitions:

* `ShaderEffect.Refilled` — a slot keeps its buffer, or gets another one;
* `ShaderEffect.Target.Refreshed` — **what becomes of a persistent target**.

Main results:

* `ShaderEffect.refreshed_ensureBuffers` — a target that asks for its buffers;
* `ShaderEffect.Studio.refreshed_prepare` — all persistent targets, before the passes are drawn.
-/

import ShaderEffect.Proofs.Scene.Handles

set_option autoImplicit false

namespace ShaderEffect

open Pool Supply

variable {σ : Type}

/-! ### One target -/

/-- A slot keeps its buffer, or gets another one with a descriptor, under which the pool did not
know the old one. -/
def Refilled (p q : Pool) (d : Option Descriptor) (slot slot' : Option Handle) : Prop :=
  slot' = slot ∨ ∃ k e, slot' = some k ∧ d = some e ∧ q.descriptor? k = some e ∧
    ∀ h, slot = some h → p.descriptor? h ≠ some e

theorem Refilled.mono {p p' q q' : Pool} {d : Option Descriptor} {slot slot' : Option Handle}
    (h : Refilled p' q d slot slot') (hp : p.Consistent) (hpp : p.Grows p')
    (hq : q.Consistent) (hqq : q.Grows q') : Refilled p q' d slot slot' := by
  rcases h with h | ⟨k, e, hk, hd, hknown, hold⟩
  · exact Or.inl h
  · refine Or.inr ⟨k, e, hk, hd, hqq.descriptor? hq hknown, fun h hh hknown' => ?_⟩
    exact hold h hh (hpp.descriptor? hp hknown')

/-- **What becomes of a persistent target** in a frame that is not completed: it gets the size of
the frame, if it comes to that, its slots are refreshed one by one, and they are not exchanged. -/
structure Target.Refreshed (p q : Pool) (t t' : Target) : Prop where
  blank : t'.blank = t.blank
  current : Refilled p q t'.descriptor? t.current t'.current
  previous : Refilled p q t'.descriptor? t.previous t'.previous
  unswapped : t'.slots = t.swap.slots → t'.slots = t.slots

namespace Target.Refreshed

variable {p p' q q' : Pool} {t t' u : Target}

/-- A target whose slots stay as they are. -/
theorem of_slots_eq (hblank : t'.blank = t.blank) (hslots : t'.slots = t.slots) :
    Refreshed p q t t' := by
  obtain ⟨hcurrent, hprevious⟩ := Prod.mk.inj hslots
  exact ⟨hblank, Or.inl hcurrent, Or.inl hprevious, fun _ => hslots⟩

/-- What is said about pools stays true of earlier and later ones. -/
theorem mono (h : Refreshed p' q t t') (hp : p.Consistent) (hpp : p.Grows p')
    (hq : q.Consistent) (hqq : q.Grows q') : Refreshed p q' t t' :=
  ⟨h.blank, h.current.mono hp hpp hq hqq, h.previous.mono hp hpp hq hqq, h.unswapped⟩

/-- What is said about slots does not depend on the size before. -/
theorem congr_left (h : Refreshed p q t t') (hblank : t.blank = u.blank)
    (hslots : t.slots = u.slots) : Refreshed p q u t' := by
  obtain ⟨hcurrent, hprevious⟩ := Prod.mk.inj hslots
  refine ⟨h.blank.trans hblank, hcurrent ▸ h.current, hprevious ▸ h.previous, fun hswap => ?_⟩
  rw [← hslots]
  refine h.unswapped (hswap.trans ?_)
  exact Prod.ext hprevious.symm hcurrent.symm

end Target.Refreshed

/-- A slot that is refreshed. -/
theorem refilled_refreshSlot (device : Device σ) {s : Supply σ} (hs : s.pool.Consistent)
    (slot : Option Handle) (d : Descriptor) :
    Ends (fun h s' => Refilled s.pool s'.pool (some d) slot (some h)) (fun _ _ => True)
      (refreshSlot device slot d s) := by
  refine (ends_refreshSlot device hs slot d).mono ?_ fun _ _ _ => trivial
  rintro k s' ⟨-, hknown, hkeeps⟩
  by_cases hkept : ∃ h, slot = some h ∧ s.pool.descriptor? h = some d
  · obtain ⟨h, rfl, hd⟩ := hkept
    exact Or.inl (congrArg some (hkeeps h rfl hd).1)
  · exact Or.inr ⟨k, d, rfl, rfl, hknown, fun h hh hd => hkept ⟨h, hh, hd⟩⟩

/-- **A persistent target that asks for its buffers** is refreshed, whether it gets them or not. -/
theorem refreshed_ensureBuffers (device : Device σ) {s : Supply σ} (hs : s.pool.Consistent)
    (t : Target) :
    Ends (fun _ r => Target.Refreshed s.pool r.2.pool t r.1)
      (fun _ r => Target.Refreshed s.pool r.2.pool t r.1) (ensureBuffers device (t, s)) := by
  unfold ensureBuffers
  dsimp only
  cases hd : t.descriptor? with
  | none => exact .of_slots_eq rfl rfl
  | some d =>
    dsimp only
    have hcurrent := refilled_refreshSlot device hs t.current d
    have hgrows := kept_grows.refreshSlot (grows_acquire device d) t.current s
    have hends := ends_refreshSlot device hs t.current d
    rcases hc : refreshSlot device t.current d s with ⟨c, s₁⟩ | ⟨e, s₁⟩
    · rw [hc] at hcurrent hgrows hends
      have hs₁ : s₁.pool.Consistent := (hgrows hs).1
      have hprevious := refilled_refreshSlot device hs₁ t.previous d
      have hgrows' := kept_grows.refreshSlot (grows_acquire device d) t.previous s₁
      have hends' := ends_refreshSlot device hs₁ t.previous d
      have hfirst (q : Pool) (hq : s₁.pool.Grows q) :
          Refilled s.pool q (some d) t.current (some c) :=
        Refilled.mono hcurrent hs (.refl _) hs₁ hq
      dsimp only
      rcases hv : refreshSlot device t.previous d s₁ with ⟨v, s₂⟩ | ⟨e, s₂⟩
      · rw [hv] at hprevious hgrows' hends'
        have hs₂ : s₂.pool.Consistent := (hgrows' hs₁).1
        refine ⟨rfl, ?_, ?_, fun hswap => ?_⟩
        · exact (hd.symm ▸ hfirst s₂.pool hgrows' : Refilled _ _ t.descriptor? _ _)
        · have hrefilled := Refilled.mono hprevious hs hgrows hs₂ (.refl _)
          exact (hd.symm ▸ hrefilled : Refilled _ _ t.descriptor? _ _)
        · -- a slot that already holds what the first one has got keeps it
          obtain ⟨hcp, hvc⟩ := Prod.mk.inj hswap
          obtain ⟨rfl, -⟩ := hends'.2.2 c hcp.symm hends.2.1
          exact Prod.ext hvc hcp
      · rw [hv] at hgrows'
        refine ⟨rfl, ?_, Or.inl rfl, fun hswap => ?_⟩
        · exact (hd.symm ▸ hfirst s₂.pool hgrows' : Refilled _ _ t.descriptor? _ _)
        · obtain ⟨hcp, hpc⟩ := Prod.mk.inj hswap
          exact Prod.ext (hcp.trans hpc) rfl
    · exact .of_slots_eq rfl rfl

/-! ### All of them -/

/-- Members that correspond to members that correspond. -/
theorem forall₂_comp {α β γ : Type} {R : α → β → Prop} {S : β → γ → Prop} {T : α → γ → Prop}
    (h : ∀ a b c, R a b → S b c → T a c) {as : List α} {bs : List β} {cs : List γ}
    (hr : List.Forall₂ R as bs) (hs : List.Forall₂ S bs cs) : List.Forall₂ T as cs := by
  induction hr generalizing cs with
  | nil =>
    cases hs
    exact .nil
  | cons hab _ ih =>
    cases hs with
    | cons hbc hs => exact .cons (h _ _ _ hab hbc) (ih hs)

/-- Targets are refreshed one by one, up to one that is refused a buffer. -/
theorem refreshed_eachOf (device : Device σ) (ts : List Target) {s : Supply σ}
    (hs : s.pool.Consistent) :
    Ends (fun _ r => List.Forall₂ (Target.Refreshed s.pool r.2.pool) ts r.1)
      (fun _ r => List.Forall₂ (Target.Refreshed s.pool r.2.pool) ts r.1)
      (eachOf (ensureBuffers device) (ts, s)) := by
  -- what is said about the pools of one target has to be carried to those of all
  refine (ends_eachOf_induct_same (ensureBuffers device) (I := fun _ s => s.pool.Consistent)
    (R := fun ts s us t => s.pool.Grows t.pool ∧
      List.Forall₂ (Target.Refreshed s.pool t.pool) ts us)
    (fun _ _ => ⟨.refl _, .nil⟩) (fun t ts s hs => ?_) hs).mono
    (fun _ _ h => h.2) fun _ _ h => h.2
  have hgrows := ends_same_iff (p := fun r : Target × Supply σ => s.pool.Grows r.2.pool).2
    (kept_grows.ensureBuffers (t := t) (fun d _ => grows_acquire device d) s)
  refine ((refreshed_ensureBuffers device hs t).and hgrows).mono ?_ ?_
  · rintro _ r ⟨hfirst, hgrows⟩
    have hs₁ : r.2.pool.Consistent := (hgrows hs).1
    refine ⟨hs₁, ?_⟩
    rintro us u ⟨hgrows', hrest⟩
    have hu : u.pool.Consistent := (hgrows' hs₁).1
    refine ⟨hgrows.trans hgrows', .cons (hfirst.mono hs (.refl _) hs₁ hgrows') ?_⟩
    exact hrest.imp fun _ _ h => h.mono hs hgrows hu (.refl _)
  · rintro _ r ⟨hfirst, hgrows⟩
    exact ⟨hgrows, .cons hfirst (List.forall₂_same.2 fun _ _ => .of_slots_eq rfl rfl)⟩

namespace Studio

variable {device : Device σ} {renderSize : Size} {s s' : Studio σ}

/-- The sizes of a frame leave all slots as they are. -/
theorem Begins.forall₂ (h : Begins renderSize s s') :
    List.Forall₂ (fun t t' : Target => t'.blank = t.blank ∧ t'.slots = t.slots)
      s.document.passes.persistent s'.document.passes.persistent := by
  rcases h.passes with hpasses | ⟨d, hresize, hpasses⟩
  · rw [hpasses]
    exact List.forall₂_same.2 fun _ _ => ⟨rfl, rfl⟩
  · obtain ⟨persistent, temporary, hpersistent, -, rfl⟩ := Document.resize_eq_ok_iff.1 hresize
    rw [hpasses]
    refine (Document.resizeAll_spec hpersistent).imp fun t t' h => ?_
    obtain ⟨size, -, rfl⟩ := h
    exact ⟨rfl, rfl⟩

/-- **Before the passes are drawn, persistent targets are refreshed**, as far as it comes to that.
-/
theorem refreshed_prepare (device : Device σ) (renderSize : Size) {s : Studio σ}
    (hs : s.supply.pool.Consistent) (hd : s.document.WellFormed) :
    Ends
      (fun _ t => List.Forall₂ (Target.Refreshed s.supply.pool t.supply.pool)
        s.document.passes.persistent t.document.passes.persistent)
      (fun _ t => List.Forall₂ (Target.Refreshed s.supply.pool t.supply.pool)
        s.document.passes.persistent t.document.passes.persistent)
      (prepare device renderSize s) := by
  have hgrows := kept_grows.untilBuffers (grows_loadImport device) (fun _ _ => .refl _)
    renderSize s
  rw [prepare_eq]
  show Ends _ _ (EStateM.bind _ _ s)
  simp only [EStateM.bind]
  rcases hbegun : untilBuffers device renderSize s with ⟨_, begun⟩ | ⟨failure, begun⟩
  · rw [hbegun] at hgrows
    have hbegins := (begins_of_ok hs hd hbegun).1
    have hconsistent := hbegins.trades.consistent
    have hrefreshed := refreshed_eachOf device begun.document.passes.persistent hconsistent
    have hthen := kept_grows.onPersistent (grows_acquire device) begun
    dsimp only
    unfold onPersistent at hthen ⊢
    rcases hr : eachOf (ensureBuffers device) (begun.document.passes.persistent, begun.supply) with
      ⟨_, us, u⟩ | ⟨failure, us, u⟩
    all_goals
      rw [hr] at hrefreshed hthen
      -- what was known before images were loaded is still known
      refine forall₂_comp (fun t₁ t₂ t₃ h h' => ?_) hbegins.forall₂ hrefreshed
      have hmono := Target.Refreshed.mono h' hs hgrows (hthen hconsistent).1 (.refl _)
      exact hmono.congr_left h.1 h.2
  · exact (begins_of_error hs hd hbegun).forall₂.imp fun _ _ h => .of_slots_eq h.1 h.2

end Studio

end ShaderEffect
