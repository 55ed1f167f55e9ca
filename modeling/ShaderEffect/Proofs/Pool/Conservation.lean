/-
**No buffer is lost, and none is destroyed twice.**

A buffer comes to a pool because the device creates it or because somebody hands it in.  Then it is
handed out and given back, stands among the idle ones, and is destroyed by housekeeping or with
everything else.  Every operation balances: what it destroys and what the pool owns afterwards is
what came in together with what the pool owned before, up to order.  The balance of a whole run
follows by adding up, and from it everything else, as soon as no buffer comes in twice.

Main definitions:

* `ShaderEffect.Observed.created`, `ShaderEffect.Observed.destroyed` — the buffers that a device
  created and destroyed;
* `ShaderEffect.Pool.owned` — the buffers of a pool;
* `ShaderEffect.Supply.obtained` — the buffers that came to a pool in a run;
* `ShaderEffect.Supply.Balances` — what an operation does with buffers;
* `ShaderEffect.Supply.Spent` — how an operation may destroy a buffer.

Main results:

* `ShaderEffect.Supply.balances_perform` — every operation balances;
* `ShaderEffect.Supply.obtained_perm` — whole runs balance;
* `ShaderEffect.Supply.buffers_conserved` — **what was obtained is destroyed once or still owned**.
-/

import ShaderEffect.Device.Recorder
import ShaderEffect.Proofs.Pool.History

set_option autoImplicit false

namespace ShaderEffect

/-! ### Coming and going -/

/-- The buffer that a call created. -/
def DeviceCall.created? : DeviceCall → Option Buffer
  | create _ answer => answer
  | destroy _ | load .. | compile .. | command _ => none

/-- The buffer that a call destroyed. -/
def DeviceCall.destroyed? : DeviceCall → Option Buffer
  | destroy b => some b
  | create .. | load .. | compile .. | command _ => none

namespace Observed

variable {σ : Type}

/-- The buffers that a device created. -/
def created (s : Observed σ) : List Buffer := s.calls.filterMap DeviceCall.created?

/-- The buffers that it destroyed. -/
def destroyed (s : Observed σ) : List Buffer := s.calls.filterMap DeviceCall.destroyed?

end Observed

namespace Pool

variable {p : Pool}

/-- The buffers that a pool owns. -/
def owned (p : Pool) : List Buffer := p.entries.map fun e => e.2.buffer

/-- The buffers that are reachable through a handle are those that the pool owns. -/
theorem mem_owned_iff (hkeys : (p.entries.map Prod.fst).Nodup) {b : Buffer} :
    b ∈ p.owned ↔ ∃ h, p.buffer? h = some b := by
  simp only [owned, List.mem_map, buffer?, Option.map_eq_some_iff, Prod.exists]
  constructor
  · rintro ⟨h, e, hmem, hb⟩
    exact ⟨h, e, (find?_eq_some_iff hkeys).2 hmem, hb⟩
  · rintro ⟨h, e, he, hb⟩
    exact ⟨h, e, (find?_eq_some_iff hkeys).1 he, hb⟩

/-- In a pool that owns no buffer twice, a buffer has one handle. -/
theorem eq_of_buffer? (hkeys : (p.entries.map Prod.fst).Nodup) (howned : p.owned.Nodup)
    {h k : Handle} {b : Buffer} (hh : p.buffer? h = some b) (hk : p.buffer? k = some b) :
    h = k := by
  obtain ⟨e, he, rfl⟩ := Option.map_eq_some_iff.1 hh
  obtain ⟨f, hf, hfe⟩ := Option.map_eq_some_iff.1 hk
  have heq := List.inj_on_of_nodup_map howned ((find?_eq_some_iff hkeys).1 he)
    ((find?_eq_some_iff hkeys).1 hf) hfe.symm
  exact congrArg Prod.fst heq

/-- Changing what is known about a handle, but not its buffer, changes no buffer. -/
theorem owned_of_update {q : Pool} {h : Handle} {f : PoolEntry → PoolEntry}
    (hq : q.entries = update h f p.entries) (hf : ∀ e, (f e).buffer = e.buffer) :
    q.owned = p.owned := by
  rw [owned, hq, update, List.map_map]
  refine List.map_congr_left fun e _ => ?_
  by_cases he : e.1 = h
  · simp [he, hf]
  · simp [he]

/-- Handing out an idle buffer changes no buffer. -/
theorem owned_reuse {q : Pool} {d : Descriptor} {h : Handle} (hr : p.reuse d = (some h, q)) :
    q.owned = p.owned := by
  unfold reuse at hr
  split at hr
  · cases hr
  · split at hr
    · obtain ⟨-, rfl⟩ := Prod.mk.inj hr
      let mark (e : PoolEntry) : PoolEntry := { e with inUse := true }
      exact owned_of_update (f := mark) rfl fun _ => rfl
    · cases hr

/-- Giving a buffer back changes no buffer. -/
theorem owned_release {q : Pool} {h : Handle} (hr : p.release h = .ok q) :
    q.owned = p.owned := by
  obtain ⟨e, -, -, rfl⟩ := release_eq_ok_iff.1 hr
  let mark (e : PoolEntry) : PoolEntry := { e with inUse := false, releasedAt := p.round }
  exact owned_of_update (f := mark) rfl fun _ => rfl

/-- **Forgotten buffers and those that stay** are all there were. -/
theorem owned_without (hkeys : (p.entries.map Prod.fst).Nodup) {hs : List Handle}
    (hnodup : hs.Nodup) : (hs.filterMap p.buffer? ++ (p.without hs).owned).Perm p.owned := by
  let entry (h : Handle) : Option (Handle × PoolEntry) := (p.find? h).map (Prod.mk h)
  have hentry {h : Handle} {x : Handle × PoolEntry} :
      entry h = some x ↔ x.1 = h ∧ x ∈ p.entries := by
    rw [Option.map_eq_some_iff]
    constructor
    · rintro ⟨e, he, rfl⟩
      exact ⟨rfl, (find?_eq_some_iff hkeys).1 he⟩
    · rintro ⟨rfl, hx⟩
      exact ⟨x.2, (find?_eq_some_iff hkeys).2 hx, rfl⟩
  have hbuffers : hs.filterMap p.buffer? = (hs.filterMap entry).map fun e => e.2.buffer := by
    rw [List.map_filterMap]
    refine List.filterMap_congr fun h _ => ?_
    rw [Option.map_map]
    rfl
  -- the entries of the forgotten handles, once in the order of the handles and once in the table
  have hforgotten : (hs.filterMap entry).Perm (p.entries.filter fun e => e.1 ∈ hs) := by
    refine (List.perm_ext_iff_of_nodup ?_ ?_).2 fun x => ?_
    · refine hnodup.filterMap fun h k x hh hk => ?_
      exact (hentry.1 hh).1.symm.trans (hentry.1 hk).1
    · exact (List.Nodup.of_map Prod.fst hkeys).filter _
    · simp only [List.mem_filterMap, hentry, List.mem_filter, decide_eq_true_eq]
      exact ⟨fun ⟨h, hh, hx, hmem⟩ => ⟨hmem, hx ▸ hh⟩, fun ⟨hmem, hx⟩ => ⟨x.1, hx, rfl, hmem⟩⟩
  have hsplit := List.filter_append_perm (fun e : Handle × PoolEntry => decide (e.1 ∈ hs)) p.entries
  have hrest : (p.without hs).owned =
      (p.entries.filter fun e => !decide (e.1 ∈ hs)).map fun e => e.2.buffer := by
    rw [owned, without]
    simp only [decide_not]
  calc hs.filterMap p.buffer? ++ (p.without hs).owned
    _ = (hs.filterMap entry ++ p.entries.filter fun e => !decide (e.1 ∈ hs)).map
          fun e => e.2.buffer := by rw [hbuffers, hrest, List.map_append]
    _ |>.Perm ((p.entries.filter (fun e => decide (e.1 ∈ hs)) ++
          p.entries.filter fun e => !decide (e.1 ∈ hs)).map fun e => e.2.buffer) :=
        (hforgotten.append_right _).map _
    _ |>.Perm p.owned := hsplit.map _

end Pool

namespace Supply

variable {σ : Type}

/-! ### The balance of an operation -/

/-- The buffer that an operation hands in. -/
def Operation.adopted? : Operation → Option Buffer
  | adopt _ b => some b
  | acquire _ | release _ | housekeep | clear => none

/-- The buffers that operations hand in. -/
def adopted (ops : List Operation) : List Buffer := ops.filterMap Operation.adopted?

/-- **What an operation does with buffers**: some are created, some are destroyed, and what is
destroyed and what is owned afterwards is what came in and what was owned before. -/
structure Balances (s t : Supply (Observed σ)) (op : Operation) (made gone : List Buffer) :
    Prop where
  created : t.device.created = s.device.created ++ made
  destroyed : t.device.destroyed = s.device.destroyed ++ gone
  balance : (gone ++ t.pool.owned).Perm (made ++ op.adopted?.toList ++ s.pool.owned)
  /-- What is destroyed was known, and only clearing destroys what is handed out. -/
  spares : ∀ b ∈ gone, ∃ h, s.pool.buffer? h = some b ∧ (op ≠ .clear → s.pool.isInUse h = false)

variable {s t : Supply (Observed σ)} {op : Operation}

/-- Nothing happened to any buffer. -/
theorem Balances.of_eq (hadopted : op.adopted? = none)
    (hcreated : t.device.created = s.device.created)
    (hdestroyed : t.device.destroyed = s.device.destroyed) (howned : t.pool.owned = s.pool.owned) :
    Balances s t op [] [] where
  created := by rw [hcreated, List.append_nil]
  destroyed := by rw [hdestroyed, List.append_nil]
  balance := by rw [howned, hadopted]; rfl
  spares := fun _ hb => absurd hb List.not_mem_nil

/-- Buffers were destroyed, and nothing else was done. -/
theorem Balances.of_destroyAll {device : Device σ} {p : Pool} {gone : List Buffer}
    (hadopted : op.adopted? = none) (hbalance : (gone ++ p.owned).Perm s.pool.owned)
    (hspares : ∀ b ∈ gone, ∃ h,
      s.pool.buffer? h = some b ∧ (op ≠ .clear → s.pool.isInUse h = false)) :
    Balances s ⟨p, device.observed.destroyAll gone s.device⟩ op [] gone where
  created := by
    rw [Device.destroyAll_observed, Observed.created, Observed.created, List.filterMap_append,
      List.filterMap_map]
    simp [Function.comp_def, DeviceCall.created?]
  destroyed := by
    rw [Device.destroyAll_observed, Observed.destroyed, Observed.destroyed, List.filterMap_append,
      List.filterMap_map]
    simp [Function.comp_def, DeviceCall.destroyed?]
  balance := by rwa [hadopted]
  spares := hspares

/-- What housekeeping destroys was known, and not handed out. -/
theorem exists_of_mem_expired {p : Pool} (hp : p.Consistent) {b : Buffer}
    (hb : b ∈ p.nextRound.expired.filterMap p.buffer?) :
    ∃ h, p.buffer? h = some b ∧ p.isInUse h = false := by
  obtain ⟨h, hmem, hb⟩ := List.mem_filterMap.1 hb
  obtain ⟨x, hx, rfl⟩ := List.mem_map.1 (List.mem_filter.1 hmem).1
  exact ⟨x.2, hb, hp.not_isInUse (d := x.1) hx⟩

/-- **Every operation balances.** -/
theorem balances_perform (device : Device σ) (hs : s.pool.Consistent) (op : Operation) :
    ∃ made gone, Balances s (op.perform device.observed s) op made gone := by
  cases op with
  | acquire d =>
      rw [Operation.perform]
      rcases acquire_cases hs device.observed d with
        ⟨h, p, hr, heq⟩ | ⟨-, ⟨b, state, hb, heq⟩ | ⟨reason, state, hb, heq⟩⟩
      · rw [heq]
        exact ⟨[], [], .of_eq rfl rfl rfl (Pool.owned_reuse hr)⟩
      · have hcalls := Device.calls_of_noted_ok hb
        rw [heq]
        refine ⟨[b], [], ?_, ?_, List.Perm.refl _, fun _ hmem => absurd hmem List.not_mem_nil⟩
        · simp [remains, Observed.created, hcalls, DeviceCall.created?]
        · simp [remains, Observed.destroyed, hcalls, DeviceCall.destroyed?]
      · have hcalls := Device.calls_of_noted_error hb
        rw [heq]
        refine ⟨[], [], .of_eq rfl ?_ ?_ rfl⟩
        · simp [remains, Observed.created, hcalls, DeviceCall.created?]
        · simp [remains, Observed.destroyed, hcalls, DeviceCall.destroyed?]
  | adopt d b =>
      refine ⟨[], [], ?_, ?_, List.Perm.refl _, fun _ hmem => absurd hmem List.not_mem_nil⟩
      · simp [Operation.perform]
      · simp [Operation.perform]
  | release h =>
      rw [Operation.perform, release]
      cases hr : s.pool.release h with
      | error failure => exact ⟨[], [], .of_eq rfl rfl rfl rfl⟩
      | ok p => exact ⟨[], [], .of_eq rfl rfl rfl (Pool.owned_release hr)⟩
  | housekeep =>
      have hnodup : s.pool.nextRound.expired.Nodup := hs.idle_nodup.filter _
      have hbalance := Pool.owned_without (p := s.pool.nextRound) hs.keys hnodup
      refine ⟨[], _, .of_destroyAll rfl hbalance ?_⟩
      intro b hb
      obtain ⟨h, hb, hu⟩ := exists_of_mem_expired hs hb
      exact ⟨h, hb, fun _ => hu⟩
  | clear =>
      refine ⟨[], _, .of_destroyAll rfl (List.Perm.of_eq (List.append_nil _)) ?_⟩
      intro b hb
      obtain ⟨h, hb⟩ := (Pool.mem_owned_iff hs.keys).1 hb
      exact ⟨h, hb, fun hne => absurd rfl hne⟩

/-! ### The balance of a run -/

/-- An empty pool, and a device that has not been called. -/
def unused (settings : PoolSettings) (start : σ) : Supply (Observed σ) :=
  ⟨.ofSettings settings, ⟨start, []⟩⟩

/-- **The buffers that came to a pool** in a run: the device created them, or they were handed
in. -/
def obtained (device : Device σ) (ops : List Operation) (s : Supply (Observed σ)) : List Buffer :=
  (after device.observed ops s).device.created ++ adopted ops

theorem adopted_concat (ops : List Operation) (op : Operation) :
    adopted (ops ++ [op]) = adopted ops ++ op.adopted?.toList := by
  rw [adopted, List.filterMap_append, adopted, List.filterMap_cons]
  cases op.adopted? <;> rfl

section Runs

variable (device : Device σ) (settings : PoolSettings) (start : σ)

/-- **Whole runs balance**: what was obtained was destroyed or is owned. -/
theorem obtained_perm (ops : List Operation) :
    let s := after device.observed ops (unused settings start)
    (obtained device ops (unused settings start)).Perm (s.device.destroyed ++ s.pool.owned) := by
  induction ops using List.reverseRecOn with
  | nil => exact List.Perm.refl _
  | append_singleton ops op ih =>
      have hs : (after device.observed ops (unused settings start)).pool.Consistent :=
        consistent_after device.observed settings ⟨start, []⟩ ops
      obtain ⟨made, gone, hb⟩ := balances_perform device hs op
      simp only [obtained, after_concat, adopted_concat] at ih ⊢
      set s := after device.observed ops (unused settings start)
      rw [hb.created, hb.destroyed]
      calc s.device.created ++ made ++ (adopted ops ++ op.adopted?.toList)
        _ |>.Perm (s.device.created ++ adopted ops ++ (made ++ op.adopted?.toList)) := by
            simp only [List.append_assoc]
            exact (List.perm_append_comm_assoc made (adopted ops) _).append_left _
        _ |>.Perm (s.device.destroyed ++ s.pool.owned ++ (made ++ op.adopted?.toList)) :=
            ih.append_right _
        _ |>.Perm (s.device.destroyed ++ (made ++ op.adopted?.toList ++ s.pool.owned)) := by
            rw [List.append_assoc]
            exact List.perm_append_comm.append_left _
        _ |>.Perm (s.device.destroyed ++ (gone ++ (op.perform device.observed s).pool.owned)) :=
            hb.balance.symm.append_left _
        _ |>.Perm (s.device.destroyed ++ gone ++ (op.perform device.observed s).pool.owned) := by
            rw [List.append_assoc]

/-- What came in earlier is among what came in altogether. -/
theorem obtained_sublist (ops later : List Operation) :
    (obtained device ops (unused settings start)).Sublist
      (obtained device (ops ++ later) (unused settings start)) := by
  induction later using List.reverseRecOn with
  | nil => rw [List.append_nil]
  | append_singleton later op ih =>
      have hs : (after device.observed (ops ++ later) (unused settings start)).pool.Consistent :=
        consistent_after device.observed settings ⟨start, []⟩ (ops ++ later)
      obtain ⟨made, gone, hb⟩ := balances_perform device hs op
      refine ih.trans ?_
      rw [← List.append_assoc, obtained, obtained, after_concat, adopted_concat, hb.created]
      exact (List.sublist_append_left _ _).append (List.sublist_append_left _ _)

/-- **How an operation may destroy a buffer**: it was known, and not handed out unless everything is
destroyed, and no handle reaches it any more. -/
structure Spent (op : Operation) (s t : Supply (Observed σ)) (b : Buffer) : Prop where
  known : ∃ h, s.pool.buffer? h = some b
  spared : op ≠ .clear → ∀ h, s.pool.buffer? h = some b → s.pool.isInUse h = false
  unreachable : ∀ h, t.pool.buffer? h ≠ some b

section Distinct

variable {device settings start} {before later : List Operation}

/-- If no buffer comes in twice, those that were destroyed and those that are owned are different
ones. -/
theorem nodup_destroyed_append_owned
    (hdistinct : (obtained device (before ++ later) (unused settings start)).Nodup) :
    let s := after device.observed before (unused settings start)
    (s.device.destroyed ++ s.pool.owned).Nodup :=
  (obtained_perm device settings start before).nodup_iff.1
    (hdistinct.sublist (obtained_sublist device settings start before later))

/-- No handle reaches a buffer that was destroyed. -/
theorem buffer?_ne_of_mem_destroyed
    (hdistinct : (obtained device (before ++ later) (unused settings start)).Nodup) {b : Buffer}
    (hb : b ∈ (after device.observed before (unused settings start)).device.destroyed)
    (h : Handle) :
    (after device.observed before (unused settings start)).pool.buffer? h ≠ some b := by
  intro hh
  have hs := consistent_after device.observed settings ⟨start, []⟩ before
  have howned := (Pool.mem_owned_iff hs.keys).2 ⟨h, hh⟩
  exact List.disjoint_of_nodup_append (nodup_destroyed_append_owned hdistinct) hb howned

/-- **What an operation destroys** is destroyed as it may be. -/
theorem exists_spent {op : Operation}
    (hdistinct : (obtained device (before ++ op :: later) (unused settings start)).Nodup) :
    let s := after device.observed before (unused settings start)
    let t := after device.observed (before ++ [op]) (unused settings start)
    ∃ gone, t.device.destroyed = s.device.destroyed ++ gone ∧ ∀ b ∈ gone, Spent op s t b := by
  intro s t
  have hs : s.pool.Consistent := consistent_after device.observed settings ⟨start, []⟩ before
  obtain ⟨made, gone, hb⟩ := balances_perform device hs op
  have ht : t = op.perform device.observed s := after_concat device.observed before op _
  refine ⟨gone, ht ▸ hb.destroyed, fun b hgone => ?_⟩
  obtain ⟨h, hh, hidle⟩ := hb.spares b hgone
  constructor
  case known => exact ⟨h, hh⟩
  case spared =>
    intro hne k hk
    have howned : s.pool.owned.Nodup := (nodup_destroyed_append_owned hdistinct).of_append_right
    exact Pool.eq_of_buffer? hs.keys howned hh hk ▸ hidle hne
  case unreachable =>
    rw [List.append_cons] at hdistinct
    refine buffer?_ne_of_mem_destroyed hdistinct ?_
    rw [show after device.observed (before ++ [op]) _ = _ from ht, hb.destroyed]
    exact List.mem_append_right _ hgone

/-- What was handed out before everything was cleared is unknown ever after. -/
theorem find?_eq_none_of_cleared {h : Handle} {d : Descriptor}
    (hissued : IssuedFor (history device.observed before (unused settings start)) h d) :
    (after device.observed (before ++ .clear :: later) (unused settings start)).pool.find? h =
      none := by
  have htells := tells_after device.observed settings ⟨start, []⟩ before
  have hlt := htells.number_lt h d hissued
  rw [after_append device.observed before (.clear :: later)]
  exact (identity_after device.observed
    (s := (after device.observed before (unused settings start)).clear device.observed)
    (Pool.consistent_cleared _) later hlt).1 (Or.inl rfl)

end Distinct

/-- **No buffer is lost, and none is destroyed twice.**  If no buffer comes in twice, then after any
operations those that came in are just those that were destroyed and those that are owned, each of
them once, and no handle reaches a destroyed one.  Every operation destroys buffers that were known,
and only clearing destroys those that are handed out.  After everything was cleared the pool owns
nothing, and what was handed out before is unknown ever after. -/
theorem buffers_conserved (ops : List Operation)
    (hdistinct : (obtained device ops (unused settings start)).Nodup) :
    let run (ops : List Operation) := after device.observed ops (unused settings start)
    let s := run ops
    ((obtained device ops (unused settings start)).Perm (s.device.destroyed ++ s.pool.owned) ∧
      s.device.destroyed.Disjoint s.pool.owned ∧
      s.device.destroyed.Nodup ∧
      ∀ b ∈ s.device.destroyed, ∀ h, s.pool.buffer? h ≠ some b) ∧
    (∀ before op later, ops = before ++ op :: later →
      ∃ gone, (run (before ++ [op])).device.destroyed = (run before).device.destroyed ++ gone ∧
        ∀ b ∈ gone, Spent op (run before) (run (before ++ [op])) b) ∧
    ∀ before later, ops = before ++ .clear :: later →
      (run (before ++ [.clear])).pool.size = 0 ∧
      ∀ h d, IssuedFor (history device.observed before (unused settings start)) h d →
        s.pool.buffer? h = none ∧ s.pool.descriptor? h = none ∧ s.pool.isInUse h = false ∧
        release h s = .error (.configuration (.notOwned h)) s := by
  intro run s
  have hnodup : (s.device.destroyed ++ s.pool.owned).Nodup :=
    nodup_destroyed_append_owned (by rwa [List.append_nil ops])
  refine ⟨⟨obtained_perm device settings start ops, List.disjoint_of_nodup_append hnodup,
    hnodup.of_append_left, fun b hb => ?_⟩, ?_, ?_⟩
  · exact buffer?_ne_of_mem_destroyed (by rwa [List.append_nil ops]) hb
  · rintro before op later rfl
    exact exists_spent hdistinct
  · rintro before later rfl
    refine ⟨by rw [show run _ = _ from after_concat ..]; rfl, fun h d hissued => ?_⟩
    have hgone : s.pool.find? h = none := find?_eq_none_of_cleared hissued
    refine ⟨by simp [Pool.buffer?, hgone], by simp [Pool.descriptor?, hgone],
      by simp [Pool.isInUse, hgone], by simp [release, Pool.release, hgone]⟩

end Runs

/-- A run in which one buffer is given back and expires, and two others, of which one was handed in,
are there when everything is cleared. -/
def lifeAndDeath : List Operation :=
  [.acquire default, .release ⟨1⟩, .housekeep, .adopt default ⟨7⟩, .acquire default, .release ⟨2⟩,
    .clear, .acquire default]

/-- **A run on the recorder**: of the four buffers that came in, three were destroyed, each once. -/
theorem buffers_conserved_recorder :
    let s := after Recorder.device.observed lifeAndDeath (unused ⟨1⟩ .fresh)
    s.device.destroyed = [⟨1⟩, ⟨2⟩, ⟨7⟩] ∧ s.pool.owned = [⟨3⟩] ∧
      s.device.destroyed.Disjoint s.pool.owned ∧
      release ⟨2⟩ s = .error (.configuration (.notOwned ⟨2⟩)) s := by
  intro s
  have hdistinct : (obtained Recorder.device lifeAndDeath (unused ⟨1⟩ .fresh)).Nodup := by decide
  obtain ⟨⟨-, hdisjoint, -⟩, -, hcleared⟩ :=
    buffers_conserved Recorder.device ⟨1⟩ .fresh lifeAndDeath hdistinct
  refine ⟨by decide, by decide, hdisjoint, ?_⟩
  refine (hcleared (lifeAndDeath.take 6) [.acquire default] rfl).2 ⟨2⟩ default ?_ |>.2.2.2
  exact ⟨.adopted default ⟨7⟩ ⟨2⟩, List.mem_of_getElem? (i := 3) rfl, rfl, rfl⟩

end Supply

end ShaderEffect
