/-
**Who holds which buffers.**

Every handle that a pool has handed out is held by somebody: by a scene in one of its slots, or by
somebody else.  A part of a program that knows only its own handles exchanges some of them for
others, and must leave alone what the others hold.  This module says so for each operation of a
pool.  What is held is a collection in which nothing may stand twice, so holding something and being
the only one to hold it are the same.

Main definitions:

* `ShaderEffect.Pool.used` — the handles that are handed out;
* `ShaderEffect.Pool.Trades` — **handles are exchanged for others**, and the rest stays;
* `ShaderEffect.Pool.TradesBut` — the same, but one handle may have been given back and held on to.

Main results:

* `ShaderEffect.Pool.Trades.trans`, `ShaderEffect.Pool.Trades.beside` — one exchange after another,
  of the same handles and of different ones;
* `ShaderEffect.Pool.TradesBut.le_used_iff` — what is held is handed out unless a handle was lost;
* `ShaderEffect.Supply.ends_acquire`, `ShaderEffect.Supply.ends_releaseHeld`,
  `ShaderEffect.Supply.ends_releaseAll`, `ShaderEffect.Supply.ends_releaseAllHeld`,
  `ShaderEffect.Pool.trades_evict` — the operations.
-/

import Mathlib.Algebra.Order.Group.Multiset
import ShaderEffect.Proofs.Pool.Operation
import ShaderEffect.Proofs.Scene.Outcome

set_option autoImplicit false

namespace ShaderEffect

namespace Pool

/-! ### What is handed out -/

/-- The handles that are handed out. -/
def used (p : Pool) : Multiset Handle :=
  ((p.entries.filter fun x => x.2.inUse).map Prod.fst : List Handle)

/-- A handle is among those handed out exactly if it is marked so. -/
theorem mem_used {p : Pool} (hp : p.Consistent) {h : Handle} : h ∈ p.used ↔ p.isInUse h = true := by
  rw [used, Multiset.mem_coe, isInUse_iff]
  simp [find?_eq_some_iff hp.keys]

/-- Nothing is handed out twice. -/
theorem nodup_used {p : Pool} (hp : p.Consistent) : p.used.Nodup :=
  Multiset.coe_nodup.2 (List.Nodup.sublist (List.filter_sublist.map _) hp.keys)

/-- What it means that a collection of handles is handed out. -/
theorem le_used_iff {p : Pool} (hp : p.Consistent) {held : List Handle} :
    (held : Multiset Handle) ≤ p.used ↔ held.Nodup ∧ ∀ h ∈ held, p.isInUse h = true := by
  constructor
  · intro hle
    refine ⟨Multiset.coe_nodup.1 (Multiset.nodup_of_le hle (nodup_used hp)), fun h hh => ?_⟩
    exact (mem_used hp).1 (Multiset.mem_of_le hle (Multiset.mem_coe.2 hh))
  · rintro ⟨hnodup, huse⟩
    refine (Multiset.le_iff_subset (Multiset.coe_nodup.2 hnodup)).2 fun h hh => ?_
    exact (mem_used hp).2 (huse h (Multiset.mem_coe.1 hh))

/-- One more handle is handed out, and no other mark is changed. -/
theorem used_eq_cons {p q : Pool} (hp : p.Consistent) (hq : q.Consistent) {h : Handle}
    (hfree : p.isInUse h = false) (hh : q.isInUse h = true)
    (hothers : ∀ k, k ≠ h → q.find? k = p.find? k) : q.used = h ::ₘ p.used := by
  have hnot : h ∉ p.used := fun hmem => by simp [(mem_used hp).1 hmem] at hfree
  refine (Multiset.Nodup.ext (nodup_used hq) (Multiset.nodup_cons.2 ⟨hnot, nodup_used hp⟩)).2 ?_
  intro k
  rw [Multiset.mem_cons, mem_used hq, mem_used hp]
  -- the two pools mark all handles alike but `h`
  by_cases hk : k = h
  · simp [hk, hh]
  · simp [hk, isInUse, hothers k hk]

/-! ### Exchanging handles -/

/-- **Handles are exchanged for others.**  The pool stays consistent, and whatever else is handed
out is not given back, and is not known differently. -/
structure Trades (p : Pool) (before : Multiset Handle) (q : Pool) (after : Multiset Handle) :
    Prop where
  consistent : q.Consistent
  used : ∀ rest, p.used = before + rest → q.used = after + rest
  find? : ∀ rest, p.used = before + rest → ∀ h ∈ rest, q.find? h = p.find? h

namespace Trades

variable {p q r : Pool} {before middle after held held' : Multiset Handle}

/-- Where nothing happens, nothing is exchanged. -/
theorem refl (hp : p.Consistent) (held : Multiset Handle) : Trades p held p held :=
  ⟨hp, fun _ h => h, fun _ _ _ _ => rfl⟩

/-- One exchange after another. -/
theorem trans (h : Trades p before q middle) (h' : Trades q middle r after) :
    Trades p before r after where
  consistent := h'.consistent
  used rest hrest := h'.used rest (h.used rest hrest)
  find? rest hrest k hk :=
    (h'.find? rest (h.used rest hrest) k hk).trans (h.find? rest hrest k hk)

/-- What is exchanged is exchanged whatever else is held. -/
theorem add_right (h : Trades p before q after) (held : Multiset Handle) :
    Trades p (before + held) q (after + held) where
  consistent := h.consistent
  used rest hrest := by
    rw [add_assoc] at hrest ⊢
    exact h.used (held + rest) hrest
  find? rest hrest k hk := by
    rw [add_assoc] at hrest
    exact h.find? (held + rest) hrest k (Multiset.mem_add.2 (Or.inr hk))

theorem add_left (h : Trades p before q after) (held : Multiset Handle) :
    Trades p (held + before) q (held + after) := by
  rw [add_comm held, add_comm held]
  exact h.add_right held

/-- One exchange after another of different handles. -/
theorem beside (h : Trades p before q after) (h' : Trades q held r held') :
    Trades p (before + held) r (after + held') :=
  (h.add_right held).trans (h'.add_left after)

/-- What is held afterwards is handed out, if what was held before is. -/
theorem used_le (h : Trades p before q after) (hle : before ≤ p.used) : after ≤ q.used := by
  obtain ⟨rest, hrest⟩ := Multiset.le_iff_exists_add.1 hle
  exact Multiset.le_iff_exists_add.2 ⟨rest, h.used rest hrest⟩

/-- Something else that is held is known as before. -/
theorem find?_of_mem (h : Trades p before q after) (hle : before + held ≤ p.used) {k : Handle}
    (hk : k ∈ held) : q.find? k = p.find? k := by
  obtain ⟨rest, hrest⟩ := Multiset.le_iff_exists_add.1 hle
  rw [add_assoc] at hrest
  exact h.find? _ hrest k (Multiset.mem_add.2 (Or.inl hk))

/-- Handles that are not handed out are not exchanged. -/
theorem of_not_le (hq : q.Consistent) (hnot : ¬ before ≤ p.used) : Trades p before q after where
  consistent := hq
  used rest hrest := absurd (Multiset.le_iff_exists_add.2 ⟨rest, hrest⟩) hnot
  find? rest hrest := absurd (Multiset.le_iff_exists_add.2 ⟨rest, hrest⟩) hnot

end Trades

/-! ### Losing a handle -/

/-- Handles are exchanged for others, but one of them, if any, has been given back although it is
still held. -/
def TradesBut (lost : Option Handle) (p : Pool) (before : Multiset Handle) (q : Pool)
    (after : Multiset Handle) : Prop :=
  match lost with
  | none => Trades p before q after
  | some h => h ∈ after ∧ q.isInUse h = false ∧ Trades p before q (after.erase h)

namespace TradesBut

variable {p q r : Pool} {before middle after held : Multiset Handle} {lost : Option Handle}

theorem consistent (h : TradesBut lost p before q after) : q.Consistent := by
  cases lost with
  | none => exact Trades.consistent h
  | some k => exact h.2.2.consistent

/-- What is exchanged is exchanged whatever else is held. -/
theorem add_right (h : TradesBut lost p before q after) (held : Multiset Handle) :
    TradesBut lost p (before + held) q (after + held) := by
  cases lost with
  | none => exact Trades.add_right h held
  | some k =>
      obtain ⟨hmem, hfree, htrades⟩ := h
      refine ⟨Multiset.mem_add.2 (Or.inl hmem), hfree, ?_⟩
      rw [Multiset.erase_add_left_pos held hmem]
      exact htrades.add_right held

theorem add_left (h : TradesBut lost p before q after) (held : Multiset Handle) :
    TradesBut lost p (held + before) q (held + after) := by
  rw [add_comm held, add_comm held]
  exact h.add_right held

/-- A handle is lost after others were exchanged. -/
theorem after_trades (h' : TradesBut lost q middle r after) (h : Trades p before q middle) :
    TradesBut lost p before r after := by
  cases lost with
  | none => exact h.trans h'
  | some k => exact ⟨h'.1, h'.2.1, h.trans h'.2.2⟩

/-- **What is held is handed out, unless a handle was lost.** -/
theorem le_used_iff (h : TradesBut lost p before q after) (hle : before ≤ p.used) :
    after ≤ q.used ↔ lost = none := by
  cases lost with
  | none => exact iff_of_true (h.used_le hle) rfl
  | some k =>
      refine iff_of_false (fun hafter => ?_) (Option.some_ne_none k)
      have huse := (mem_used h.consistent).1 (Multiset.mem_of_le hafter h.1)
      exact Bool.false_ne_true (h.2.1.symm.trans huse)

end TradesBut

/-! ### The operations of a pool -/

/-- Handing out an idle buffer. -/
theorem trades_reuse {p q : Pool} (hp : p.Consistent) {d : Descriptor} {h : Handle}
    (hr : p.reuse d = (some h, q)) : Trades p 0 q {h} := by
  have hfree := hp.not_isInUse (Consistent.reuse_mem hr)
  obtain ⟨e, he, -⟩ := hp.idle_entry d h (Consistent.reuse_mem hr)
  have hh : q.isInUse h = true := by simp [isInUse, find?_reuse hr, he]
  have hothers (k : Handle) (hk : k ≠ h) : q.find? k = p.find? k := by
    rw [find?_reuse hr, if_neg hk]
  refine ⟨hp.reuse hr, fun rest hrest => ?_, fun rest hrest k hk => hothers k ?_⟩
  · rw [used_eq_cons hp (hp.reuse hr) hfree hh hothers, hrest, zero_add, Multiset.singleton_add]
  · rintro rfl
    rw [zero_add] at hrest
    simp [(mem_used hp).1 (hrest ▸ hk)] at hfree

/-- The buffer that is handed out has the descriptor. -/
theorem descriptor?_reuse {p q : Pool} (hp : p.Consistent) {d : Descriptor} {h : Handle}
    (hr : p.reuse d = (some h, q)) : q.descriptor? h = some d := by
  obtain ⟨e, he, hd, -⟩ := hp.idle_entry d h (Consistent.reuse_mem hr)
  simp [descriptor?, find?_reuse hr, he, hd]

/-- Taking a buffer in. -/
theorem trades_adopt {p : Pool} (hp : p.Consistent) (d : Descriptor) (b : Buffer) :
    Trades p 0 (p.adopt d b).2 {(p.adopt d b).1} := by
  have hfree : p.isInUse (p.adopt d b).1 = false := by
    have hnew : p.find? (p.adopt d b).1 = none := hp.find?_next
    simp [isInUse, hnew]
  have hothers (k : Handle) (hk : k ≠ (p.adopt d b).1) :
      (p.adopt d b).2.find? k = p.find? k := by
    rw [find?_adopt, if_neg hk]
  refine ⟨hp.adopt d b, fun rest hrest => ?_, fun rest hrest k hk => hothers k ?_⟩
  · rw [zero_add] at hrest
    rw [← hrest]
    rfl
  · rintro rfl
    rw [zero_add] at hrest
    simp [(mem_used hp).1 (hrest ▸ hk)] at hfree

theorem descriptor?_adopt (p : Pool) (d : Descriptor) (b : Buffer) :
    (p.adopt d b).2.descriptor? (p.adopt d b).1 = some d := by
  simp [descriptor?, find?_adopt]

/-- A handle that was given back is not handed out. -/
theorem isInUse_release {p q : Pool} {h : Handle} (hr : p.release h = .ok q) :
    q.isInUse h = false := by
  obtain ⟨e, he, -⟩ := release_eq_ok_iff.1 hr
  simp [isInUse, find?_release hr, he]

/-- Giving a buffer back. -/
theorem trades_release {p q : Pool} (hp : p.Consistent) {h : Handle} (hr : p.release h = .ok q) :
    Trades p {h} q 0 := by
  have hq := hp.release hr
  obtain ⟨e, he, hu, -⟩ := release_eq_ok_iff.1 hr
  have hh : p.isInUse h = true := isInUse_iff.2 ⟨e, he, hu⟩
  have hfree := isInUse_release hr
  have hothers (k : Handle) (hk : k ≠ h) : p.find? k = q.find? k := by
    rw [find?_release hr, if_neg hk]
  have hused := used_eq_cons hq hp hfree hh hothers
  have hrest {rest : Multiset Handle} (hrest : p.used = {h} + rest) : q.used = rest := by
    rw [hused, Multiset.singleton_add] at hrest
    exact Multiset.cons_inj_right h |>.1 hrest
  refine ⟨hq, fun rest heq => ?_, fun rest heq k hk => (hothers k ?_).symm⟩
  · rw [hrest heq, zero_add]
  · rintro rfl
    simp [(mem_used hq).1 (hrest heq ▸ hk)] at hfree

/-- A round of housekeeping. -/
theorem trades_evict {p : Pool} (hp : p.Consistent) (held : Multiset Handle) :
    Trades p held p.evict.2 held := by
  have hfind {k : Handle} (hk : p.isInUse k = true) : p.evict.2.find? k = p.find? k := by
    -- only idle handles expire
    have hnot : k ∉ p.nextRound.expired := by
      intro hmem
      obtain ⟨x, hx, rfl⟩ := List.mem_map.1 (List.mem_filter.1 hmem).1
      exact Bool.false_ne_true ((hp.not_isInUse hx).symm.trans hk)
    exact (find?_without _ _ k).trans (if_neg hnot)
  have hused : p.evict.2.used = p.used := by
    refine (Multiset.Nodup.ext (nodup_used hp.evict) (nodup_used hp)).2 fun k => ?_
    rw [mem_used hp.evict, mem_used hp]
    constructor
    · intro hk
      obtain ⟨e, he, hu⟩ := isInUse_iff.1 hk
      have hwithout : p.evict.2.find? k = if k ∈ _ then none else p.find? k := find?_without _ _ k
      split at hwithout
      · rw [he] at hwithout
        cases hwithout
      · exact isInUse_iff.2 ⟨e, hwithout ▸ he, hu⟩
    · intro hk
      rw [isInUse, hfind hk]
      exact hk
  refine ⟨hp.evict, fun rest hrest => hused.trans hrest, fun rest hrest k hk => hfind ?_⟩
  exact (mem_used hp).1 (hrest ▸ Multiset.mem_add.2 (Or.inr hk))

end Pool

namespace Supply

open Pool

variable {σ : Type}

/-! ### The operations of a supply -/

/-- **Acquiring hands out one more buffer**, which has the descriptor, or else changes nothing in
the pool. -/
theorem ends_acquire (device : Device σ) {s : Supply σ} (hs : s.pool.Consistent)
    (d : Descriptor) :
    Ends (fun h s' => Trades s.pool 0 s'.pool {h} ∧ s'.pool.descriptor? h = some d)
      (fun _ s' => s'.pool = s.pool) (acquire device d s) := by
  rcases acquire_cases hs device d with
    ⟨h, p, hr, heq⟩ | ⟨-, ⟨b, state, -, heq⟩ | ⟨reason, state, -, heq⟩⟩
  · rw [heq]
    exact ⟨trades_reuse hs hr, descriptor?_reuse hs hr⟩
  · rw [heq]
    exact ⟨trades_adopt hs d b, descriptor?_adopt s.pool d b⟩
  · rw [heq]
    rfl

/-- Giving a buffer back if it is handed out never fails; it is not handed out afterwards. -/
theorem ends_releaseHeld {s : Supply σ} (hs : s.pool.Consistent) (h : Handle) :
    Ends (fun _ s' => Trades s.pool {h} s'.pool 0 ∧ s'.pool.isInUse h = false ∧
        s'.device = s.device)
      (fun _ _ => False) (releaseHeld h s) := by
  unfold releaseHeld
  by_cases hu : s.pool.isInUse h = true
  · obtain ⟨e, he, heu⟩ := isInUse_iff.1 hu
    have hr := release_eq_ok_iff.2 ⟨e, he, heu, rfl⟩
    rw [if_pos hu, Supply.release, hr]
    exact ⟨trades_release hs hr, isInUse_release hr, rfl⟩
  · rw [if_neg hu]
    -- nothing happens, and there is nothing to exchange: the handle is not handed out
    refine ⟨Trades.of_not_le hs fun hle => hu ?_, Bool.not_eq_true _ ▸ hu, rfl⟩
    exact (mem_used hs).1 (Multiset.singleton_le.1 hle)

/-- Giving buffers back that are handed out never fails. -/
theorem ends_releaseAll {hs : List Handle} {s : Supply σ} (hp : s.pool.Consistent)
    (hle : (hs : Multiset Handle) ≤ s.pool.used) :
    Ends (fun _ s' => Trades s.pool hs s'.pool 0 ∧ s'.device = s.device) (fun _ _ => False)
      (releaseAll hs s) := by
  induction hs generalizing s with
  | nil => exact ⟨Trades.refl hp 0, rfl⟩
  | cons h hs ih =>
      obtain ⟨e, he, hu⟩ := isInUse_iff.1 (((le_used_iff hp).1 hle).2 h List.mem_cons_self)
      obtain ⟨p, hr⟩ : ∃ p, s.pool.release h = .ok p :=
        ⟨_, release_eq_ok_iff.2 ⟨e, he, hu, rfl⟩⟩
      have hfirst := trades_release hp hr
      have hadd : ((h :: hs : List Handle) : Multiset Handle) = {h} + (hs : Multiset Handle) :=
        (Multiset.singleton_add h hs).symm
      rw [hadd] at hle ⊢
      have hrest := (hfirst.add_right hs).used_le hle
      rw [zero_add] at hrest
      have hthen := ih (s := { s with pool := p }) hfirst.consistent hrest
      unfold releaseAll
      have hrelease : Ends (fun _ s' => s' = { s with pool := p }) (fun _ _ => False)
          (Supply.release h s) := by
        rw [Supply.release, hr]
        rfl
      refine Ends.bind hrelease ?_
      rintro _ _ rfl
      refine hthen.mono (fun _ s' h' => ⟨?_, h'.2⟩) fun _ _ h' => h'
      simpa using hfirst.beside h'.1

/-- Giving back those buffers that are handed out never fails. -/
theorem ends_releaseAllHeld (hs : List Handle) {s : Supply σ} (hp : s.pool.Consistent) :
    Ends (fun _ s' => Trades s.pool hs s'.pool 0 ∧ s'.device = s.device) (fun _ _ => False)
      (releaseAllHeld hs s) := by
  induction hs generalizing s with
  | nil => exact ⟨Trades.refl hp 0, rfl⟩
  | cons h hs ih =>
      refine Ends.bind (ends_releaseHeld hp h) fun _ s' hfirst => ?_
      refine (ih hfirst.1.consistent).mono (fun _ t hrest => ⟨?_, ?_⟩) fun _ _ h' => h'
      · simpa using hfirst.1.beside hrest.1
      · exact hrest.2.trans hfirst.2.2

end Supply

end ShaderEffect
