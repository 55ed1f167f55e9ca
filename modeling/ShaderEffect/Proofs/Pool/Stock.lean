/-
**What is left for the next request.**

A buffer that is given back waits in the pool until its descriptor is asked for again, or until it
has been idle for too many rounds of housekeeping.  So what was given back lately is still there:
as long as there are fewer rounds than the pool allows, a request for its descriptor is met without
a new buffer.  How many idle buffers there are of each descriptor is all that matters for that, and
not which of them is handed out.

Main definitions:

* `ShaderEffect.Pool.stock` — **the descriptors of the idle buffers**, each as often as it can be
  asked for;
* `ShaderEffect.Pool.Recent` — a buffer is handed out, or was given back lately;
* `ShaderEffect.Pool.afterRounds`, `ShaderEffect.Pool.Spares` — a pool after rounds of housekeeping,
  and what they do not destroy;
* `ShaderEffect.Pool.Offers` — idle buffers with certain descriptors were given back lately.

Main results:

* `ShaderEffect.Pool.exists_reuse`, `ShaderEffect.Pool.stock_reuse` — what is in stock is handed
  out, and one less is in stock then;
* `ShaderEffect.Pool.Recent.afterRounds` — **a few rounds spare what was given back lately**;
* `ShaderEffect.Pool.Offers.le_stock`, `ShaderEffect.Pool.Offers.afterRounds` — and so it is in
  stock after them.
-/

import ShaderEffect.Proofs.Pool.Holding

set_option autoImplicit false

namespace ShaderEffect.Pool

/-! ### Stock -/

/-- **The descriptors of the idle buffers.** -/
def stock (p : Pool) : Multiset Descriptor := (p.idle.map Prod.fst : List Descriptor)

section

variable {p q : Pool} {d : Descriptor} {h : Handle}

/-- What is in stock is handed out. -/
theorem exists_reuse (hp : p.Consistent) (hd : d ∈ p.stock) : ∃ h q, p.reuse d = (some h, q) := by
  rcases hr : p.reuse d with ⟨_ | h, q⟩
  · obtain ⟨x, hx, heq⟩ := List.mem_map.1 (Multiset.mem_coe.1 hd)
    exact absurd heq ((hp.reuse_eq_none hr).2 x hx)
  · exact ⟨h, q, rfl⟩

/-- Handing out takes one descriptor out of the stock. -/
theorem stock_reuse (hr : p.reuse d = (some h, q)) : p.stock = d ::ₘ q.stock := by
  obtain ⟨before, after, hidle, -, hq⟩ := idle_reuse hr
  have hperm : p.idle.Perm ((d, h) :: q.idle) := by
    rw [hidle, hq]
    exact List.perm_middle
  exact Multiset.coe_eq_coe.2 (hperm.map Prod.fst)

end

/-! ### Lately -/

/-- A buffer is handed out, or was given back since a round. -/
def Recent (since : Nat) (p : Pool) (h : Handle) : Prop :=
  ∃ e, p.find? h = some e ∧ (e.inUse = true ∨ since ≤ e.releasedAt)

/-- The pool stays consistent, and no round passes.  What was handed out, or given back lately, is
handed out or was given back lately afterwards. -/
def Retains (since : Nat) (p q : Pool) : Prop :=
  p.Consistent → q.Consistent ∧ (q.round = p.round ∧ q.settings = p.settings) ∧
    (since ≤ p.round → ∀ h, p.Recent since h → q.Recent since h)

namespace Retains

variable {since : Nat} {p q r : Pool}

theorem refl (since : Nat) (p : Pool) : Retains since p p :=
  fun hp => ⟨hp, ⟨rfl, rfl⟩, fun _ _ h => h⟩

theorem trans (h : Retains since p q) (h' : Retains since q r) : Retains since p r := by
  intro hp
  obtain ⟨hq, ⟨hround, hsettings⟩, hkeep⟩ := h hp
  obtain ⟨hr, ⟨hround', hsettings'⟩, hkeep'⟩ := h' hq
  refine ⟨hr, ⟨hround'.trans hround, hsettings'.trans hsettings⟩, fun hsince k hk => ?_⟩
  exact hkeep' (hround ▸ hsince) k (hkeep hsince k hk)

end Retains

section

variable {since : Nat} {p q : Pool} {d : Descriptor} {h k : Handle}

theorem Recent.of_isInUse (hk : p.isInUse k = true) : p.Recent since k := by
  obtain ⟨e, he, hu⟩ := isInUse_iff.1 hk
  exact ⟨e, he, Or.inl hu⟩

theorem retains_reuse (hr : p.reuse d = (some h, q)) : Retains since p q := by
  have hq : q.round = p.round ∧ q.settings = p.settings := by
    have hround := p.round_reuse d
    rwa [hr] at hround
  refine fun hp => ⟨hp.reuse hr, hq, ?_⟩
  rintro - k ⟨e, he, hrecent⟩
  rw [Recent, find?_reuse hr, he]
  split
  · exact ⟨_, rfl, Or.inl rfl⟩
  · exact ⟨e, rfl, hrecent⟩

theorem retains_adopt (p : Pool) (d : Descriptor) (b : Buffer) :
    Retains since p (p.adopt d b).2 := by
  refine fun hp => ⟨hp.adopt d b, ⟨rfl, rfl⟩, ?_⟩
  rintro - k ⟨e, he, hrecent⟩
  rw [Recent, find?_adopt, he]
  split
  · exact ⟨_, rfl, Or.inl rfl⟩
  · exact ⟨e, rfl, hrecent⟩

theorem retains_release (hr : p.release h = .ok q) : Retains since p q := by
  have hq : q.round = p.round ∧ q.settings = p.settings := by
    obtain ⟨e, -, -, rfl⟩ := release_eq_ok_iff.1 hr
    exact ⟨rfl, rfl⟩
  refine fun hp => ⟨hp.release hr, hq, ?_⟩
  rintro hsince k ⟨e, he, hrecent⟩
  rw [Recent, find?_release hr, he]
  split
  · -- it is given back now, which is late enough
    exact ⟨_, rfl, Or.inr hsince⟩
  · exact ⟨e, rfl, hrecent⟩

end

/-! ### Rounds of housekeeping -/

/-- The pool after a number of rounds of housekeeping. -/
def afterRounds (p : Pool) : Nat → Pool
  | 0 => p
  | n + 1 => (p.afterRounds n).evict.2

/-- None of a number of rounds destroys a buffer. -/
def Spares (p : Pool) (n : Nat) (h : Handle) : Prop := ∀ j < n, h ∉ (p.afterRounds j).evict.1

theorem round_afterRounds (p : Pool) (n : Nat) :
    (p.afterRounds n).round = p.round + n ∧ (p.afterRounds n).settings = p.settings := by
  induction n with
  | zero => exact ⟨rfl, rfl⟩
  | succ n ih => exact ⟨congrArg (· + 1) ih.1, ih.2⟩

/-- What is handed out stays handed out. -/
theorem trades_afterRounds {p : Pool} (hp : p.Consistent) (held : Multiset Handle) (n : Nat) :
    Trades p held (p.afterRounds n) held := by
  induction n with
  | zero => exact Trades.refl hp held
  | succ n ih => exact ih.trans (trades_evict ih.consistent held)

theorem Consistent.afterRounds {p : Pool} (hp : p.Consistent) (n : Nat) :
    (p.afterRounds n).Consistent :=
  (trades_afterRounds hp 0 n).consistent

/-- What was given back lately does not expire yet. -/
theorem Recent.not_mem_expired {since : Nat} {p : Pool} {k : Handle} (hp : p.Consistent)
    (hk : p.Recent since k) (hlt : p.round + 1 < since + p.settings.maxIdle) :
    k ∉ p.evict.1 := by
  obtain ⟨e, he, hrecent⟩ := hk
  intro hmem
  obtain ⟨hidle, hexpired⟩ := List.mem_filter.1 hmem
  rcases hrecent with hu | hsince
  · obtain ⟨x, hx, rfl⟩ := List.mem_map.1 hidle
    obtain ⟨f, hf, -, hfree⟩ := hp.idle_entry x.1 x.2 hx
    cases he.symm.trans hf
    exact Bool.false_ne_true (hfree.symm.trans hu)
  · have hnext : p.nextRound.find? k = some e := he
    rw [isExpired, hnext] at hexpired
    have hold : p.settings.maxIdle ≤ p.round + 1 - e.releasedAt := of_decide_eq_true hexpired
    have hreleased := hp.releasedAt_le k e he
    omega

/-- Housekeeping leaves what it does not destroy as it is. -/
theorem find?_evict_of_not_mem {p : Pool} {k : Handle} (hk : k ∉ p.evict.1) :
    p.evict.2.find? k = p.find? k :=
  (find?_without _ _ k).trans (if_neg hk)

/-- **A few rounds spare what was given back lately**: none of them destroys it, and it is known as
before. -/
theorem Recent.afterRounds {p : Pool} {k : Handle} (hp : p.Consistent) (hk : p.Recent p.round k)
    {n : Nat} (hn : n < max 1 p.settings.maxIdle) :
    p.Spares n k ∧ (p.afterRounds n).find? k = p.find? k := by
  -- rounds are counted up, so that the last one finds what the ones before have spared
  induction n with
  | zero => exact ⟨fun _ hj => absurd hj (Nat.not_lt_zero _), rfl⟩
  | succ n ih =>
      obtain ⟨hspared, hfind⟩ := ih (by omega)
      obtain ⟨hround, hsettings⟩ := p.round_afterRounds n
      have hrecent : (p.afterRounds n).Recent p.round k := by
        rw [Recent, hfind]
        exact hk
      have hlast : k ∉ (p.afterRounds n).evict.1 := by
        refine hrecent.not_mem_expired (hp.afterRounds n) ?_
        rw [hround, hsettings]
        omega
      refine ⟨fun j hj => ?_, (find?_evict_of_not_mem hlast).trans hfind⟩
      rcases Nat.lt_succ_iff_lt_or_eq.1 hj with hj | rfl
      · exact hspared j hj
      · exact hlast

/-! ### What is offered -/

/-- **Idle buffers with these descriptors were given back since a round**, each under a handle of
its own. -/
def Offers (since : Nat) (p : Pool) (needs : Multiset Descriptor) : Prop :=
  ∃ offered : List (Descriptor × Handle),
    ((offered.map Prod.fst : List Descriptor) : Multiset Descriptor) = needs ∧
    (offered.map Prod.snd).Nodup ∧
    ∀ x ∈ offered, ∃ e, p.find? x.2 = some e ∧ e.descriptor = x.1 ∧ e.inUse = false ∧
      since ≤ e.releasedAt

namespace Offers

variable {since : Nat} {p : Pool} {needs : Multiset Descriptor}

/-- What is offered is in stock. -/
theorem le_stock (h : p.Offers since needs) (hp : p.Consistent) : needs ≤ p.stock := by
  obtain ⟨offered, rfl, hnodup, hknown⟩ := h
  have hle : (offered : Multiset (Descriptor × Handle)) ≤ p.idle := by
    refine (Multiset.le_iff_subset (Multiset.coe_nodup.2 hnodup.of_map)).2 fun x hx => ?_
    obtain ⟨e, he, hd, hu, -⟩ := hknown x (Multiset.mem_coe.1 hx)
    have hidle : (x.1, x.2) ∈ p.idle := hd ▸ hp.idle_mem x.2 e he hu
    exact Multiset.mem_coe.2 hidle
  exact Multiset.map_le_map hle

/-- What is offered is still offered after a few rounds. -/
theorem afterRounds (h : p.Offers p.round needs) (hp : p.Consistent) {n : Nat}
    (hn : n < max 1 p.settings.maxIdle) : (p.afterRounds n).Offers p.round needs := by
  obtain ⟨offered, hneeds, hnodup, hknown⟩ := h
  refine ⟨offered, hneeds, hnodup, fun x hx => ?_⟩
  obtain ⟨e, he, hrest⟩ := hknown x hx
  refine ⟨e, ?_, hrest⟩
  have hrecent : p.Recent p.round x.2 := ⟨e, he, Or.inr hrest.2.2⟩
  exact (hrecent.afterRounds hp hn).2.trans he

end Offers

end ShaderEffect.Pool
