/-
**The two views of a pool agree.**

A pool keeps a table of the buffers it owns, in which each is marked as handed out or not, and a
list of the idle ones.  The two say the same in different ways, and every operation has to update
both.  This module states what it means that they agree, and that each operation on pools keeps it
so.

Main definitions:

* `ShaderEffect.Pool.Consistent` — the table and the list of a pool agree;
* `ShaderEffect.Pool.bucket` — the idle handles with one descriptor, the one given back first in
  front.

Main results:

* `ShaderEffect.Pool.find?_reuse`, `ShaderEffect.Pool.idle_reuse`,
  `ShaderEffect.Pool.Consistent.reuse_eq_none` — what handing out an idle buffer does to a pool;
* `ShaderEffect.Pool.find?_without` — what forgetting some buffers does;
* `ShaderEffect.Pool.Consistent.reuse`, `ShaderEffect.Pool.Consistent.adopt`,
  `ShaderEffect.Pool.Consistent.release`, `ShaderEffect.Pool.Consistent.evict`,
  `ShaderEffect.Pool.consistent_cleared` — **every operation keeps a pool consistent**;
* `ShaderEffect.Pool.Consistent.length_idle` — the idle list is as long as the table has idle
  entries.
-/

import Mathlib.Data.List.Basic
import Mathlib.Data.List.Nodup
import ShaderEffect.Pool.Lemmas

set_option autoImplicit false

namespace ShaderEffect.Pool

/-! ### The table -/

/-- Looking a handle up in a table entry by entry. -/
theorem lookup_cons_eq_ite (h k : Handle) (e : PoolEntry) (entries : List (Handle × PoolEntry)) :
    List.lookup h ((k, e) :: entries) = if h = k then some e else List.lookup h entries := by
  rw [List.lookup_cons]
  by_cases hk : h = k
  · simp [hk]
  · rw [beq_eq_false_iff_ne.2 hk, if_neg hk]

/-- A handle is known exactly if it is a key of the table. -/
theorem isSome_find?_iff {p : Pool} {h : Handle} :
    (p.find? h).isSome ↔ h ∈ p.entries.map Prod.fst := by
  unfold find?
  induction p.entries with
  | nil => simp
  | cons x entries ih =>
      obtain ⟨k, e⟩ := x
      rw [lookup_cons_eq_ite, List.map_cons, List.mem_cons]
      by_cases hk : h = k
      · simp [hk]
      · rw [if_neg hk, ih]
        simp [hk]

/-- With one entry for each key, what is known about a handle is its entry. -/
theorem find?_eq_some_iff {p : Pool} (hkeys : (p.entries.map Prod.fst).Nodup) {h : Handle}
    {e : PoolEntry} : p.find? h = some e ↔ (h, e) ∈ p.entries := by
  unfold find?
  revert hkeys
  induction p.entries with
  | nil => simp
  | cons x entries ih =>
      obtain ⟨k, f⟩ := x
      intro hkeys
      rw [List.map_cons, List.nodup_cons] at hkeys
      rw [lookup_cons_eq_ite, List.mem_cons, Prod.mk.injEq]
      by_cases hk : h = k
      · have hnot : (h, e) ∉ entries := fun hmem =>
          hkeys.1 (List.mem_map.2 ⟨(h, e), hmem, hk⟩)
        simp [hk ▸ hnot, hk, eq_comm]
      · rw [if_neg hk, ih hkeys.2]
        simp [hk]

/-- Changing an entry changes no key. -/
@[simp] theorem keys_update (h : Handle) (f : PoolEntry → PoolEntry)
    (entries : List (Handle × PoolEntry)) :
    (update h f entries).map Prod.fst = entries.map Prod.fst := by
  unfold update
  rw [List.map_map]
  refine List.map_congr_left ?_
  intro x _
  by_cases hx : x.1 = h <;> simp [hx]

/-- Changing an entry changes what is known about its handle alone. -/
theorem find?_of_update {p q : Pool} {h : Handle} {f : PoolEntry → PoolEntry}
    (hq : q.entries = update h f p.entries) (k : Handle) :
    q.find? k = if k = h then (p.find? k).map f else p.find? k := by
  unfold find?
  rw [hq]
  exact lookup_update h f k p.entries

/-- Forgotten handles are not known; nothing else changes. -/
theorem find?_without (p : Pool) (hs : List Handle) (h : Handle) :
    (p.without hs).find? h = if h ∈ hs then none else p.find? h := by
  unfold without find?
  dsimp only
  induction p.entries with
  | nil => simp
  | cons x entries ih =>
      obtain ⟨k, e⟩ := x
      rw [lookup_cons_eq_ite]
      by_cases hmem : k ∈ hs
      · rw [List.filter_cons_of_neg (by simpa using hmem), ih]
        by_cases hk : h = k <;> simp [hk, hmem]
      · rw [List.filter_cons_of_pos (by simpa using hmem), lookup_cons_eq_ite, ih]
        by_cases hk : h = k <;> simp [hk, hmem]

/-! ### Agreement -/

/-- In the idle list, what was given back later is further in front. -/
def Ordered (p : Pool) : Prop :=
  p.idle.Pairwise fun x y =>
    ∀ e f, p.find? x.2 = some e → p.find? y.2 = some f → f.releasedAt ≤ e.releasedAt

/-- The table and the idle list of a pool agree. -/
structure Consistent (p : Pool) : Prop where
  /-- No handle has two entries. -/
  keys : (p.entries.map Prod.fst).Nodup
  /-- No handle is idle twice. -/
  idle_nodup : (p.idle.map Prod.snd).Nodup
  /-- An idle handle is owned, not handed out, and listed under its own descriptor. -/
  idle_entry : ∀ d h, (d, h) ∈ p.idle →
    ∃ e, p.find? h = some e ∧ e.descriptor = d ∧ e.inUse = false
  /-- An owned handle that is not handed out is idle. -/
  idle_mem : ∀ h e, p.find? h = some e → e.inUse = false → (e.descriptor, h) ∈ p.idle
  /-- Handles are numbered in the order in which they are issued. -/
  number_lt : ∀ h e, p.find? h = some e → h.number < p.nextNumber
  /-- Nothing was given back later than now. -/
  releasedAt_le : ∀ h e, p.find? h = some e → e.releasedAt ≤ p.round
  /-- Idle handles stand in the order in which they were given back. -/
  ordered : p.Ordered

namespace Consistent

variable {p : Pool}

/-- A handle in the idle list is not handed out. -/
theorem not_isInUse (hp : p.Consistent) {d : Descriptor} {h : Handle} (hmem : (d, h) ∈ p.idle) :
    p.isInUse h = false := by
  obtain ⟨e, he, -, hu⟩ := hp.idle_entry d h hmem
  simp [isInUse, he, hu]

/-- A handle in the idle list is known, and not handed out. -/
theorem exists_of_mem_idle (hp : p.Consistent) {h : Handle} (hmem : h ∈ p.idle.map Prod.snd) :
    ∃ e, p.find? h = some e ∧ e.inUse = false := by
  obtain ⟨x, hx, rfl⟩ := List.mem_map.1 hmem
  obtain ⟨e, he, -, hu⟩ := hp.idle_entry x.1 x.2 hx
  exact ⟨e, he, hu⟩

/-- The handle that is issued next is not known yet. -/
theorem find?_next (hp : p.Consistent) : p.find? ⟨p.nextNumber⟩ = none := by
  cases hf : p.find? ⟨p.nextNumber⟩ with
  | none => rfl
  | some e => exact absurd (hp.number_lt _ e hf) (Nat.lt_irrefl _)

end Consistent

/-- An empty pool is consistent. -/
theorem consistent_ofSettings (settings : PoolSettings) : (ofSettings settings).Consistent where
  keys := List.nodup_nil
  idle_nodup := List.nodup_nil
  idle_entry := by simp [ofSettings]
  idle_mem := by simp [ofSettings, find?]
  number_lt := by simp [ofSettings, find?]
  releasedAt_le := by simp [ofSettings, find?]
  ordered := List.Pairwise.nil

/-! ### Handing out an idle buffer -/

/-- No handle is taken exactly if none is idle under the descriptor. -/
theorem takeIdle_eq_none_iff {d : Descriptor} :
    ∀ {idle : List (Descriptor × Handle)}, takeIdle d idle = none ↔ ∀ x ∈ idle, x.1 ≠ d
  | [] => by simp [takeIdle]
  | x :: idle => by
      rw [takeIdle, List.forall_mem_cons]
      by_cases hx : x.1 = d
      · simp [hx]
      · rw [if_neg hx, Option.map_eq_none_iff, takeIdle_eq_none_iff]
        exact ⟨fun h => ⟨hx, h⟩, fun h => h.2⟩

/-- Handing out marks one handle; what is known about the others stays. -/
theorem find?_reuse {p q : Pool} {d : Descriptor} {h : Handle} (hr : p.reuse d = (some h, q))
    (k : Handle) :
    q.find? k = if k = h then (p.find? k).map fun e => { e with inUse := true }
      else p.find? k := by
  unfold reuse at hr
  split at hr
  · cases hr
  · split at hr
    · obtain ⟨hh, rfl⟩ := Prod.mk.inj hr
      cases hh
      exact find?_of_update rfl k
    · cases hr

/-- Handing out changes no number, no round and no key. -/
theorem reuse_keeps {p q : Pool} {d : Descriptor} {h : Handle} (hr : p.reuse d = (some h, q)) :
    q.nextNumber = p.nextNumber ∧ q.round = p.round ∧
      q.entries.map Prod.fst = p.entries.map Prod.fst := by
  unfold reuse at hr
  split at hr
  · cases hr
  · split at hr
    · obtain ⟨-, rfl⟩ := Prod.mk.inj hr
      exact ⟨rfl, rfl, by simp⟩
    · cases hr

/-- Handing out lets no round pass and changes no setting. -/
theorem round_reuse (p : Pool) (d : Descriptor) :
    (p.reuse d).2.round = p.round ∧ (p.reuse d).2.settings = p.settings := by
  unfold reuse
  split
  · exact ⟨rfl, rfl⟩
  · split <;> exact ⟨rfl, rfl⟩

/-- The handle that is handed out is the first idle one with the descriptor, and leaves the list. -/
theorem idle_reuse {p q : Pool} {d : Descriptor} {h : Handle} (hr : p.reuse d = (some h, q)) :
    ∃ before after, p.idle = before ++ (d, h) :: after ∧ (∀ x ∈ before, x.1 ≠ d) ∧
      q.idle = before ++ after := by
  unfold reuse at hr
  split at hr
  · cases hr
  · rename_i k rest htake
    split at hr
    · obtain ⟨hh, rfl⟩ := Prod.mk.inj hr
      cases hh
      obtain ⟨before, after, hidle, rfl, hne⟩ := takeIdle_eq_some_iff.1 htake
      exact ⟨before, after, hidle, hne, rfl⟩
    · cases hr

namespace Consistent

variable {p q : Pool} {d : Descriptor} {h : Handle}

/-- **A handle is never taken from the idle list in vain**: if none is handed out, none was idle,
and the pool is as before. -/
theorem reuse_eq_none (hp : p.Consistent) (hr : p.reuse d = (none, q)) :
    q = p ∧ ∀ x ∈ p.idle, x.1 ≠ d := by
  unfold reuse at hr
  split at hr
  · rename_i htake
    cases hr
    exact ⟨rfl, takeIdle_eq_none_iff.1 htake⟩
  · rename_i k rest htake
    obtain ⟨before, after, hidle, -⟩ := takeIdle_eq_some_iff.1 htake
    obtain ⟨e, he, -⟩ := hp.idle_entry d k (hidle ▸ List.mem_append_right _ List.mem_cons_self)
    rw [if_pos (he ▸ rfl)] at hr
    cases hr

/-- The handle that is handed out was idle under the descriptor. -/
theorem reuse_mem (hr : p.reuse d = (some h, q)) : (d, h) ∈ p.idle := by
  obtain ⟨before, after, hidle, -⟩ := idle_reuse hr
  exact hidle ▸ List.mem_append_right _ List.mem_cons_self

/-- All other handles stay idle. -/
theorem mem_idle_reuse (hp : p.Consistent) (hr : p.reuse d = (some h, q))
    {x : Descriptor × Handle} : x ∈ q.idle ↔ x ∈ p.idle ∧ x.2 ≠ h := by
  obtain ⟨before, after, hidle, -, hq⟩ := idle_reuse hr
  have hperm : p.idle.Perm ((d, h) :: (before ++ after)) := hidle ▸ List.perm_middle
  have hnodup := (hperm.map Prod.snd).nodup_iff.1 hp.idle_nodup
  rw [hq, hperm.mem_iff, List.mem_cons]
  constructor
  · intro hx
    refine ⟨Or.inr hx, fun heq => ?_⟩
    exact (List.nodup_cons.1 hnodup).1 (List.mem_map.2 ⟨x, hx, heq⟩)
  · rintro ⟨rfl | hx, hne⟩
    · exact absurd rfl hne
    · exact hx

end Consistent

/-- The order of the others stays. -/
theorem sublist_reuse {p q : Pool} {d : Descriptor} {h : Handle}
    (hr : p.reuse d = (some h, q)) : q.idle.Sublist p.idle := by
  obtain ⟨before, after, hidle, -, hq⟩ := idle_reuse hr
  rw [hidle, hq]
  exact List.Sublist.append_left (List.sublist_cons_self _ _) before

/-! ### The operations -/

/-- The order survives when handles leave the idle list and the rest keep their stamps. -/
theorem Ordered.of_sublist {p q : Pool} (hp : p.Ordered) (hsub : q.idle.Sublist p.idle)
    (hfind : ∀ k f, q.find? k = some f → ∃ e, p.find? k = some e ∧ e.releasedAt = f.releasedAt) :
    q.Ordered := by
  refine (List.Pairwise.sublist hsub hp).imp ?_
  intro x y hxy e f he hf
  obtain ⟨e₀, he₀, hex⟩ := hfind _ e he
  obtain ⟨f₀, hf₀, hfy⟩ := hfind _ f hf
  rw [← hex, ← hfy]
  exact hxy e₀ f₀ he₀ hf₀

namespace Consistent

variable {p : Pool}

/-- Handing out an idle buffer keeps a pool consistent. -/
theorem reuse (hp : p.Consistent) {q : Pool} {d : Descriptor} {h : Handle}
    (hr : p.reuse d = (some h, q)) : q.Consistent := by
  have hfind := find?_reuse hr
  have hmem {x : Descriptor × Handle} := hp.mem_idle_reuse hr (x := x)
  obtain ⟨hnext, hround, hkeys⟩ := reuse_keeps hr
  have hback (k : Handle) (f : PoolEntry) (hk : q.find? k = some f) :
      ∃ e, p.find? k = some e ∧ e.releasedAt = f.releasedAt ∧
        (f.inUse = false → k ≠ h ∧ e = f) := by
    rw [hfind] at hk
    split at hk
    · obtain ⟨e, he, rfl⟩ := Option.map_eq_some_iff.1 hk
      refine ⟨e, he, rfl, ?_⟩
      intro hu
      cases hu
    · exact ⟨f, hk, rfl, fun _ => ⟨‹_›, rfl⟩⟩
  constructor
  case keys => exact hkeys ▸ hp.keys
  case idle_nodup => exact List.Nodup.sublist ((sublist_reuse hr).map _) hp.idle_nodup
  case idle_entry =>
    intro d' k hk
    rw [hfind, if_neg (hmem.1 hk).2]
    exact hp.idle_entry d' k (hmem.1 hk).1
  case idle_mem =>
    intro k f hf hu
    obtain ⟨e, he, -, hkeep⟩ := hback k f hf
    obtain ⟨hkh, rfl⟩ := hkeep hu
    exact hmem.2 ⟨hp.idle_mem k e he hu, hkh⟩
  case number_lt =>
    intro k f hf
    obtain ⟨e, he, -⟩ := hback k f hf
    exact hnext ▸ hp.number_lt k e he
  case releasedAt_le =>
    intro k f hf
    obtain ⟨e, he, hrel, -⟩ := hback k f hf
    exact hrel ▸ hround ▸ hp.releasedAt_le k e he
  case ordered =>
    refine hp.ordered.of_sublist (sublist_reuse hr) ?_
    intro k f hf
    obtain ⟨e, he, hrel, -⟩ := hback k f hf
    exact ⟨e, he, hrel⟩

/-- Taking a buffer in keeps a pool consistent. -/
theorem adopt (hp : p.Consistent) (d : Descriptor) (b : Buffer) : (p.adopt d b).2.Consistent := by
  have hfind (k : Handle) (f : PoolEntry) (hk : (p.adopt d b).2.find? k = some f) :
      (k = ⟨p.nextNumber⟩ ∧ f = ⟨d, b, true, p.round⟩) ∨
        (k ≠ ⟨p.nextNumber⟩ ∧ p.find? k = some f) := by
    rw [find?_adopt] at hk
    split at hk
    · exact Or.inl ⟨‹_›, (Option.some.inj hk).symm⟩
    · exact Or.inr ⟨‹_›, hk⟩
  have hidle {x : Descriptor × Handle} (hx : x ∈ p.idle) : x.2 ≠ (p.adopt d b).1 := by
    intro heq
    obtain ⟨e, he, -⟩ := hp.idle_entry x.1 x.2 hx
    have hlt := hp.number_lt x.2 e he
    rw [heq] at hlt
    exact Nat.lt_irrefl _ hlt
  constructor
  case keys =>
    refine List.nodup_cons.2 ⟨?_, hp.keys⟩
    rw [← isSome_find?_iff, hp.find?_next]
    exact Bool.false_ne_true
  case idle_nodup => exact hp.idle_nodup
  case idle_entry =>
    intro d' k hk
    rw [find?_adopt, if_neg (hidle hk)]
    exact hp.idle_entry d' k hk
  case idle_mem =>
    intro k f hf hu
    rcases hfind k f hf with ⟨-, rfl⟩ | ⟨-, hf⟩
    · cases hu
    · exact hp.idle_mem k f hf hu
  case number_lt =>
    intro k f hf
    rcases hfind k f hf with ⟨rfl, -⟩ | ⟨-, hf⟩
    · exact Nat.lt_succ_self _
    · exact Nat.lt_succ_of_lt (hp.number_lt k f hf)
  case releasedAt_le =>
    intro k f hf
    rcases hfind k f hf with ⟨-, rfl⟩ | ⟨-, hf⟩
    · exact Nat.le_refl _
    · exact hp.releasedAt_le k f hf
  case ordered =>
    refine List.Pairwise.imp_of_mem ?_ hp.ordered
    intro x y hx hy hxy e f he hf
    rw [find?_adopt, if_neg (hidle hx)] at he
    rw [find?_adopt, if_neg (hidle hy)] at hf
    exact hxy e f he hf

end Consistent

/-- **What giving back does**: a handle that is handed out is marked and put in front. -/
theorem release_eq_ok_iff {p q : Pool} {h : Handle} :
    p.release h = .ok q ↔ ∃ e, p.find? h = some e ∧ e.inUse = true ∧ q = { p with
      entries := update h (fun e => { e with inUse := false, releasedAt := p.round }) p.entries
      idle := (e.descriptor, h) :: p.idle } := by
  unfold release
  cases p.find? h with
  | none => simp
  | some e =>
      by_cases hu : e.inUse
      · simpa [hu] using eq_comm
      · simp [hu]

namespace Consistent

variable {p : Pool}

/-- Giving a buffer back keeps a pool consistent. -/
theorem release (hp : p.Consistent) {q : Pool} {h : Handle} (hr : p.release h = .ok q) :
    q.Consistent := by
  have hfind := find?_release hr
  obtain ⟨e, he, hu, hq⟩ := release_eq_ok_iff.1 hr
  have hidle : q.idle = (e.descriptor, h) :: p.idle := by rw [hq]
  have hround : q.round = p.round := by rw [hq]
  have hnew : h ∉ p.idle.map Prod.snd := by
    intro hmem
    obtain ⟨x, hx, rfl⟩ := List.mem_map.1 hmem
    obtain ⟨f, hf, -, hfu⟩ := hp.idle_entry x.1 x.2 hx
    rw [he] at hf
    cases hf
    rw [hu] at hfu
    cases hfu
  have hne {x : Descriptor × Handle} (hx : x ∈ p.idle) : x.2 ≠ h := by
    rintro rfl
    exact hnew (List.mem_map_of_mem hx)
  have hback (k : Handle) (f : PoolEntry) (hk : q.find? k = some f) :
      (k = h ∧ f = { e with inUse := false, releasedAt := p.round }) ∨
        (k ≠ h ∧ p.find? k = some f) := by
    rw [hfind] at hk
    split at hk
    · rename_i hkh
      rw [hkh, he] at hk
      exact Or.inl ⟨hkh, (Option.some.inj hk).symm⟩
    · exact Or.inr ⟨‹_›, hk⟩
  constructor
  case keys =>
    rw [hq, keys_update]
    exact hp.keys
  case idle_nodup =>
    rw [hidle]
    exact List.nodup_cons.2 ⟨hnew, hp.idle_nodup⟩
  case idle_entry =>
    intro d k hk
    rw [hidle, List.mem_cons, Prod.mk.injEq] at hk
    rcases hk with ⟨rfl, rfl⟩ | hk
    · rw [hfind, if_pos rfl, he]
      exact ⟨_, rfl, rfl, rfl⟩
    · rw [hfind, if_neg (hne hk)]
      exact hp.idle_entry d k hk
  case idle_mem =>
    intro k f hf hfu
    rw [hidle]
    rcases hback k f hf with ⟨rfl, rfl⟩ | ⟨-, hf⟩
    · exact List.mem_cons_self
    · exact List.mem_cons_of_mem _ (hp.idle_mem k f hf hfu)
  case number_lt =>
    intro k f hf
    have hnext : q.nextNumber = p.nextNumber := by rw [hq]
    rw [hnext]
    rcases hback k f hf with ⟨rfl, -⟩ | ⟨-, hf⟩
    · exact hp.number_lt k e he
    · exact hp.number_lt k f hf
  case releasedAt_le =>
    intro k f hf
    rw [hround]
    rcases hback k f hf with ⟨-, rfl⟩ | ⟨-, hf⟩
    · exact Nat.le_refl _
    · exact hp.releasedAt_le k f hf
  case ordered =>
    rw [Ordered, hidle]
    refine List.pairwise_cons.2 ⟨?_, ?_⟩
    -- the new head carries the current round, and no stamp is later than that
    · intro y hy f g hf hg
      rw [hfind, if_pos rfl, he] at hf
      rw [hfind, if_neg (hne hy)] at hg
      cases hf
      exact hp.releasedAt_le y.2 g hg
    · refine List.Pairwise.imp_of_mem ?_ hp.ordered
      intro x y hx hy hxy f g hf hg
      rw [hfind, if_neg (hne hx)] at hf
      rw [hfind, if_neg (hne hy)] at hg
      exact hxy f g hf hg

/-- A round more keeps a pool consistent. -/
theorem nextRound (hp : p.Consistent) : p.nextRound.Consistent :=
  { hp with releasedAt_le := fun h e he => Nat.le_succ_of_le (hp.releasedAt_le h e he) }

/-- Forgetting buffers keeps a pool consistent. -/
theorem without (hp : p.Consistent) (hs : List Handle) : (p.without hs).Consistent := by
  have hback (k : Handle) (f : PoolEntry) (hk : (p.without hs).find? k = some f) :
      k ∉ hs ∧ p.find? k = some f := by
    rw [find?_without] at hk
    split at hk
    · cases hk
    · exact ⟨‹_›, hk⟩
  have hmem {d : Descriptor} {k : Handle} :
      (d, k) ∈ (p.without hs).idle ↔ (d, k) ∈ p.idle ∧ k ∉ hs := by
    simp [Pool.without]
  have hsub : (p.without hs).idle.Sublist p.idle := List.filter_sublist
  constructor
  case keys => exact List.Nodup.sublist (List.filter_sublist.map _) hp.keys
  case idle_nodup => exact List.Nodup.sublist (hsub.map _) hp.idle_nodup
  case idle_entry =>
    intro d k hk
    rw [find?_without, if_neg (hmem.1 hk).2]
    exact hp.idle_entry d k (hmem.1 hk).1
  case idle_mem =>
    intro k f hf hu
    exact hmem.2 ⟨hp.idle_mem k f (hback k f hf).2 hu, (hback k f hf).1⟩
  case number_lt => exact fun k f hf => hp.number_lt k f (hback k f hf).2
  case releasedAt_le => exact fun k f hf => hp.releasedAt_le k f (hback k f hf).2
  case ordered =>
    exact hp.ordered.of_sublist hsub fun k f hf => ⟨f, (hback k f hf).2, rfl⟩

/-- A round of housekeeping keeps a pool consistent. -/
theorem evict (hp : p.Consistent) : p.evict.2.Consistent := hp.nextRound.without _

end Consistent

/-- A pool whose buffers were all destroyed is consistent. -/
theorem consistent_cleared (p : Pool) : p.cleared.Consistent := by
  have hnone {k : Handle} {f : PoolEntry} (hf : p.cleared.find? k = some f) : False := by
    cases hf
  exact {
    keys := List.nodup_nil
    idle_nodup := List.nodup_nil
    idle_entry := fun _ _ hk => absurd hk List.not_mem_nil
    idle_mem := fun _ _ hf _ => (hnone hf).elim
    number_lt := fun _ _ hf => (hnone hf).elim
    releasedAt_le := fun _ _ hf => (hnone hf).elim
    ordered := List.Pairwise.nil }

/-! ### Counting -/

/-- **The idle list is as long as the table has idle entries.** -/
theorem Consistent.length_idle {p : Pool} (hp : p.Consistent) :
    p.idle.length = (p.entries.filter fun x => !x.2.inUse).length := by
  have hmem (h : Handle) : h ∈ p.idle.map Prod.snd ↔
      h ∈ (p.entries.filter fun x => !x.2.inUse).map Prod.fst := by
    simp only [List.mem_map, List.mem_filter, Bool.not_eq_true', Prod.exists, exists_eq_right]
    constructor
    · rintro ⟨d, hd⟩
      obtain ⟨e, he, -, hu⟩ := hp.idle_entry d h hd
      exact ⟨h, e, ⟨(find?_eq_some_iff hp.keys).1 he, hu⟩, rfl⟩
    · rintro ⟨h, e, ⟨he, hu⟩, rfl⟩
      exact ⟨e.descriptor, hp.idle_mem h e ((find?_eq_some_iff hp.keys).2 he) hu⟩
  have hkeys := List.Nodup.sublist
    ((List.filter_sublist (p := fun x : Handle × PoolEntry => !x.2.inUse)).map Prod.fst) hp.keys
  calc p.idle.length = (p.idle.map Prod.snd).length := (List.length_map ..).symm
    _ = ((p.entries.filter fun x => !x.2.inUse).map Prod.fst).length :=
        ((List.perm_ext_iff_of_nodup hp.idle_nodup hkeys).2 hmem).length_eq
    _ = _ := List.length_map ..

/-- The idle handles and those that are handed out are all there are. -/
theorem Consistent.length_entries {p : Pool} (hp : p.Consistent) :
    p.entries.length = p.idle.length + (p.entries.filter fun x => x.2.inUse).length := by
  rw [hp.length_idle, Nat.add_comm]
  exact List.length_eq_length_filter_add _

/-! ### Buckets -/

/-- The idle handles with a descriptor, the one given back first in front. -/
def bucket (p : Pool) (d : Descriptor) : List Handle :=
  ((p.idle.filter fun x => x.1 = d).map Prod.snd).reverse

theorem mem_bucket {p : Pool} {d : Descriptor} {h : Handle} :
    h ∈ p.bucket d ↔ (d, h) ∈ p.idle := by
  simp [bucket]

namespace Consistent

variable {p : Pool}

/-- No handle stands in a bucket twice. -/
theorem nodup_bucket (hp : p.Consistent) (d : Descriptor) : (p.bucket d).Nodup :=
  List.nodup_reverse.2 (List.Nodup.sublist (List.filter_sublist.map _) hp.idle_nodup)

/-- A bucket is in the order of giving back. -/
theorem pairwise_bucket (hp : p.Consistent) (d : Descriptor) :
    (p.bucket d).Pairwise fun h k =>
      ∀ e f, p.find? h = some e → p.find? k = some f → e.releasedAt ≤ f.releasedAt := by
  rw [bucket, List.pairwise_reverse, List.pairwise_map]
  refine (List.Pairwise.sublist List.filter_sublist hp.ordered).imp ?_
  intro x y hxy e f he hf
  exact hxy f e hf he

end Consistent

end ShaderEffect.Pool
