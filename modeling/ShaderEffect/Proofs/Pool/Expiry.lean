/-
**What housekeeping destroys.**

A pool stamps a buffer with the round in which it is given back, and a round of housekeeping
destroys the idle buffers whose stamps are old enough.  Here this is said without stamps: what a
round destroys is told by the operations before it, and by how many rounds there are among them
since a handle was given back.  So a buffer that nobody asks for goes in a certain round, and in no
other.  The buckets of a pool may be gone through in any order, with the same outcome.

Main definitions:

* `ShaderEffect.Supply.rounds` — how many rounds of housekeeping there are among operations;
* `ShaderEffect.Supply.Stamped` — the stamps of a pool are the rounds of its history;
* `ShaderEffect.Supply.Evicts` — a round of housekeeping destroys certain handles, and does nothing
  else;
* `ShaderEffect.Supply.LeftAlone` — a handle was not handed out again, and nothing was cleared;
* `ShaderEffect.Pool.evictInOrder` — housekeeping that goes from bucket to bucket.

Main results:

* `ShaderEffect.Supply.stamped_after` — every pool is stamped as its history says;
* `ShaderEffect.Supply.waits_or_lost` — a handle that is left alone waits, or was destroyed in time;
* `ShaderEffect.Pool.evictInOrder_perm` — **the order of the buckets does not matter**;
* `ShaderEffect.Supply.housekeeping_law` — **what a round destroys, and which round destroys it**.
-/

import ShaderEffect.Proofs.Pool.Conservation

set_option autoImplicit false

namespace ShaderEffect

namespace Pool

/-! ### Housekeeping bucket by bucket -/

/-- The expired handles of one bucket leave it. -/
def sweepBucket (s : List Handle × Pool) (d : Descriptor) : List Handle × Pool :=
  (s.1 ++ (s.2.bucket d).filter s.2.isExpired,
    { s.2 with idle := s.2.idle.filter fun x => ¬ (x.1 = d ∧ s.2.isExpired x.2) })

/-- **Housekeeping that goes from bucket to bucket**: those handles that have left their buckets are
forgotten at the end. -/
def evictInOrder (p : Pool) (order : List Descriptor) : List Handle × Pool :=
  let (hs, q) := order.foldl sweepBucket ([], p.nextRound)
  (hs, { q with entries := q.entries.filter fun e => e.1 ∉ hs })

section

variable {p : Pool} {order : List Descriptor} {s : List Handle × Pool} {d : Descriptor} {h : Handle}

/-- What has happened when some buckets have been gone through: their expired handles have left. -/
structure Swept (p : Pool) (order : List Descriptor) (s : List Handle × Pool) : Prop where
  pool : s.2 = { p with idle := p.idle.filter fun x => ¬ (x.1 ∈ order ∧ p.isExpired x.2) }
  mem : ∀ h, h ∈ s.1 ↔ ∃ d ∈ order, (d, h) ∈ p.idle ∧ p.isExpired h
  nodup : s.1.Nodup

theorem swept_nil (p : Pool) : Swept p [] ([], p) where
  pool := by simp
  mem := by simp
  nodup := List.nodup_nil

/-- What is in a bucket when others have been gone through. -/
theorem Swept.mem_bucket_iff (hswept : Swept p order s) :
    h ∈ s.2.bucket d ↔ (d, h) ∈ p.idle ∧ ¬ (d ∈ order ∧ p.isExpired h) := by
  rw [mem_bucket, hswept.pool, List.mem_filter, decide_eq_true_iff]

/-- A handle is idle under one descriptor. -/
theorem Consistent.eq_of_mem_idle (hp : p.Consistent) {d' : Descriptor} (hd : (d, h) ∈ p.idle)
    (hd' : (d', h) ∈ p.idle) : d = d' := by
  obtain ⟨e, he, rfl, -⟩ := hp.idle_entry d h hd
  obtain ⟨e', he', rfl, -⟩ := hp.idle_entry d' h hd'
  rw [Option.some.inj (he.symm.trans he')]

/-- **Going through one more bucket.** -/
theorem Swept.concat (hp : p.Consistent) (hswept : Swept p order s) (d : Descriptor) :
    Swept p (order ++ [d]) (sweepBucket s d) := by
  have hexpired (h : Handle) : s.2.isExpired h = p.isExpired h := by
    rw [hswept.pool]
    rfl
  have hleaves (h : Handle) : h ∈ (s.2.bucket d).filter s.2.isExpired ↔
      (d, h) ∈ p.idle ∧ d ∉ order ∧ p.isExpired h := by
    rw [List.mem_filter, hswept.mem_bucket_iff, hexpired]
    tauto
  constructor
  case pool =>
    simp only [sweepBucket, hexpired]
    rw [hswept.pool]
    simp only [List.filter_filter]
    congr 1
    refine List.filter_congr fun x _ => ?_
    simp only [List.mem_append, List.mem_singleton, ← Bool.decide_and, decide_eq_decide]
    tauto
  case mem =>
    intro h
    rw [sweepBucket, List.mem_append, hswept.mem, hleaves]
    constructor
    · rintro (⟨d', hd', hrest⟩ | ⟨hmem, -, hexp⟩)
      · exact ⟨d', List.mem_append_left _ hd', hrest⟩
      · exact ⟨d, List.mem_append_right _ (List.mem_singleton_self d), hmem, hexp⟩
    · rintro ⟨d', hd', hmem, hexp⟩
      by_cases horder : d' ∈ order
      · exact .inl ⟨d', horder, hmem, hexp⟩
      · obtain rfl := List.mem_singleton.1 ((List.mem_append.1 hd').resolve_left horder)
        exact .inr ⟨hmem, horder, hexp⟩
  case nodup =>
    refine List.nodup_append'.2 ⟨hswept.nodup, ?_, fun h hh hleave => ?_⟩
    · refine List.Nodup.filter _ ?_
      rw [hswept.pool, bucket, List.nodup_reverse]
      exact List.Nodup.sublist ((List.filter_sublist.trans List.filter_sublist).map _) hp.idle_nodup
    · -- a handle that left a bucket before was idle under the descriptor of that bucket
      obtain ⟨d', hd', hmem', -⟩ := (hswept.mem h).1 hh
      obtain ⟨hmem, hnew, -⟩ := (hleaves h).1 hleave
      exact hnew (hp.eq_of_mem_idle hmem hmem' ▸ hd')

theorem swept_foldl (hp : p.Consistent) (order : List Descriptor) :
    Swept p order (order.foldl sweepBucket ([], p)) := by
  induction order using List.reverseRecOn with
  | nil => exact swept_nil p
  | append_singleton order d ih =>
      rw [List.foldl_concat]
      exact ih.concat hp d

/-- Where handles are forgotten, the others stay in order. -/
theorem bucket_without (p : Pool) (hs : List Handle) (d : Descriptor) :
    (p.without hs).bucket d = (p.bucket d).filter fun h => h ∉ hs := by
  simp only [bucket, without, List.filter_reverse, List.filter_map, List.filter_filter]
  congr 2
  exact List.filter_congr fun x _ => Bool.and_comm _ _

theorem mem_expired_iff : h ∈ p.expired ↔ h ∈ p.idle.map Prod.snd ∧ p.isExpired h :=
  List.mem_filter

/-- What housekeeping destroys was known, and not handed out. -/
theorem Consistent.exists_of_mem_evict (hp : p.Consistent) (hmem : h ∈ p.evict.1) :
    ∃ e, p.find? h = some e ∧ e.inUse = false :=
  hp.exists_of_mem_idle (mem_expired_iff.1 hmem).1

/-- **The order of the buckets does not matter**, if each bucket with handles in it has its turn:
the same handles are destroyed, and the same pool is left. -/
theorem evictInOrder_perm (hp : p.Consistent) {order : List Descriptor}
    (horder : ∀ x ∈ p.idle, x.1 ∈ order) :
    (p.evictInOrder order).1.Perm p.evict.1 ∧ (p.evictInOrder order).2 = p.evict.2 := by
  obtain ⟨hpool, hmem, hnodup⟩ := swept_foldl hp.nextRound order
  set s := order.foldl sweepBucket ([], p.nextRound)
  have hsame (h : Handle) : h ∈ s.1 ↔ h ∈ p.nextRound.expired := by
    rw [hmem, mem_expired_iff, List.mem_map]
    constructor
    · rintro ⟨d, -, hidle, hexp⟩
      exact ⟨⟨(d, h), hidle, rfl⟩, hexp⟩
    · rintro ⟨⟨x, hx, rfl⟩, hexp⟩
      exact ⟨x.1, horder x hx, hx, hexp⟩
  have hidle : p.idle.filter (fun x => ¬ (x.1 ∈ order ∧ p.nextRound.isExpired x.2)) =
      p.idle.filter fun x => x.2 ∉ p.nextRound.expired := by
    refine List.filter_congr fun x hx => ?_
    have hx' : x.2 ∈ p.nextRound.idle.map Prod.snd := List.mem_map_of_mem hx
    simp only [mem_expired_iff, horder x hx, hx', true_and]
  constructor
  · exact (List.perm_ext_iff_of_nodup hnodup (hp.idle_nodup.filter _)).2 hsame
  · show ({ s.2 with entries := s.2.entries.filter fun e => e.1 ∉ s.1 } : Pool) = _
    simp only [hpool, hsame, evict, without, nextRound] at hidle ⊢
    rw [hidle]
    rfl

end

end Pool

namespace Supply

variable {σ : Type}

/-! ### Rounds -/

/-- Whether an operation is a round of housekeeping. -/
def Operation.isRound : Operation → Bool
  | housekeep => true
  | acquire _ | adopt .. | release _ | clear => false

/-- **How many rounds of housekeeping** there are among operations. -/
def rounds (ops : List Operation) : Nat := ops.countP Operation.isRound

theorem rounds_concat (ops : List Operation) (op : Operation) :
    rounds (ops ++ [op]) = rounds ops + rounds [op] :=
  List.countP_append

theorem rounds_take_add_drop (ops : List Operation) (i : Nat) :
    rounds (ops.take i) + rounds (ops.drop i) = rounds ops := by
  rw [rounds, rounds, rounds, ← List.countP_append, List.take_append_drop]

/-- No operation changes the settings, and only housekeeping goes on to the next round. -/
theorem round_perform (device : Device σ) (s : Supply σ) (op : Operation) :
    (op.perform device s).pool.round = s.pool.round + rounds [op] ∧
      (op.perform device s).pool.settings = s.pool.settings := by
  cases op with
  | acquire d =>
      have hreuse := s.pool.round_reuse d
      rw [Operation.perform, acquire]
      split
      · rename_i h p hr
        rw [hr] at hreuse
        exact hreuse
      · rename_i p hr
        rw [hr] at hreuse
        split <;> exact hreuse
  | adopt d b => exact ⟨rfl, rfl⟩
  | release h =>
      rw [Operation.perform, release]
      cases hr : s.pool.release h with
      | error failure => exact ⟨rfl, rfl⟩
      | ok p =>
          obtain ⟨e, -, -, rfl⟩ := Pool.release_eq_ok_iff.1 hr
          exact ⟨rfl, rfl⟩
  | housekeep => exact ⟨rfl, rfl⟩
  | clear => exact ⟨rfl, rfl⟩

/-! ### Stamps -/

/-- **The stamps of a pool are the rounds of its history**: a handle that waits was given back in
the round it is stamped with. -/
structure Stamped (ops : List Operation) (past : List Record) (p : Pool) : Prop where
  round : p.round = rounds ops
  stamp : ∀ h i, WaitsSince past h i →
    ∃ e, p.find? h = some e ∧ e.releasedAt = rounds (ops.take (i + 1))

section

variable (device : Device σ) (settings : PoolSettings) (start : σ)

theorem settings_after (ops : List Operation) :
    (after device ops ⟨.ofSettings settings, start⟩).pool.settings = settings := by
  induction ops using List.reverseRecOn with
  | nil => rfl
  | append_singleton ops op ih =>
      rw [after_concat]
      exact (round_perform device _ op).2.trans ih

/-- **Every pool is stamped as its history says.** -/
theorem stamped_after (ops : List Operation) :
    Stamped ops (history device ops ⟨.ofSettings settings, start⟩)
      (after device ops ⟨.ofSettings settings, start⟩).pool := by
  induction ops using List.reverseRecOn with
  | nil => exact ⟨rfl, fun h i hw => absurd hw.lt_length (Nat.not_lt_zero i)⟩
  | append_singleton ops op ih =>
      have hs := consistent_after device settings start ops
      have hlength := length_history device ops ⟨.ofSettings settings, start⟩
      rw [history_append, after_concat]
      set s := after device ops ⟨.ofSettings settings, start⟩
      have hround := (round_perform device s op).1
      refine ⟨by rw [hround, ih.round, rounds_concat], fun h i hw => ?_⟩
      rcases waitsSince_concat.1 hw with ⟨hw, hm⟩ | ⟨rfl, hr⟩
      · -- nothing has happened to the handle in this step, so it has kept its stamp
        obtain ⟨e, he, hstamp⟩ := ih.stamp h i hw
        have hlt : i + 1 ≤ ops.length := hlength ▸ hw.lt_length
        rw [List.take_append_of_le_length hlt]
        exact ⟨e, find?_perform_of_not_mentions hs he hm, hstamp⟩
      · obtain ⟨rfl, e, he, -, hstamp⟩ := find?_perform_of_returned hr
        refine ⟨e, he, hstamp.trans ?_⟩
        rw [hlength, List.take_of_length_le (by simp), rounds_concat, ih.round]
        rfl

/-- **What a round destroys**: the handles that wait, and have done so for enough rounds. -/
theorem mem_evict_iff (ops : List Operation) (h : Handle) :
    h ∈ (after device ops ⟨.ofSettings settings, start⟩).pool.evict.1 ↔
      ∃ i, WaitsSince (history device ops ⟨.ofSettings settings, start⟩) h i ∧
        settings.maxIdle ≤ rounds (ops.drop (i + 1)) + 1 := by
  have htells := tells_after device settings start ops
  have hstamped := stamped_after device settings start ops
  have hsettings := settings_after device settings start ops
  set s := after device ops ⟨.ofSettings settings, start⟩
  have hexpired (i : Nat) (hw : WaitsSince (history device ops ⟨.ofSettings settings, start⟩) h i) :
      s.pool.nextRound.isExpired h ↔ settings.maxIdle ≤ rounds (ops.drop (i + 1)) + 1 := by
    obtain ⟨e, he, hstamp⟩ := hstamped.stamp h i hw
    have hage : s.pool.round + 1 - e.releasedAt = rounds (ops.drop (i + 1)) + 1 := by
      have hsplit := rounds_take_add_drop ops (i + 1)
      rw [hstamped.round, hstamp]
      omega
    have hnext : s.pool.nextRound.find? h = some e := he
    rw [Pool.isExpired, hnext, decide_eq_true_iff]
    simp only [Pool.nextRound, hsettings, hage]
  rw [Pool.evict, Pool.mem_expired_iff]
  constructor
  · rintro ⟨hidle, hexp⟩
    obtain ⟨i, hi⟩ := (htells.waits h).1 hidle
    exact ⟨i, hi, (hexpired i hi).1 hexp⟩
  · rintro ⟨i, hi, hle⟩
    exact ⟨(htells.waits h).2 ⟨i, hi⟩, (hexpired i hi).2 hle⟩

/-! ### When a handle is destroyed -/

/-- **A handle was left alone** since a moment: it was not handed out again, and nothing was
cleared. -/
def LeftAlone (ops : List Operation) (past : List Record) (h : Handle) (i : Nat) : Prop :=
  ∀ j, i < j → (∀ d, past[j]? ≠ some (.acquired d h)) ∧ ops[j]? ≠ some .clear

theorem LeftAlone.of_concat {ops : List Operation} {past : List Record} {op : Operation}
    {r : Record} {h : Handle} {i : Nat} (ha : LeftAlone (ops ++ [op]) (past ++ [r]) h i) :
    LeftAlone ops past h i :=
  fun j hij => ⟨fun d hd => (ha j hij).1 d (getElem?_concat_of_eq_some hd),
    fun hclear => (ha j hij).2 (getElem?_concat_of_eq_some hclear)⟩

/-- The record of a round mentions the handles that expire. -/
theorem mentions_housekeep_iff {device} {s : Supply σ} (hs : s.pool.Consistent) {h : Handle} :
    (Operation.housekeep.record device s).Mentions h ↔ h ∈ s.pool.evict.1 := by
  refine ((follows_perform device hs .housekeep).destroys h).trans ?_
  rw [Operation.perform, housekeep, Pool.evict, Pool.find?_without]
  constructor
  · rintro ⟨hknown, hlost⟩
    split at hlost
    · assumption
    · have hnone : s.pool.find? h = none := hlost
      rw [hnone] at hknown
      cases hknown
  · intro hmem
    obtain ⟨e, he, -⟩ := hs.exists_of_mem_evict hmem
    exact ⟨he ▸ rfl, if_pos hmem⟩

/-- Only housekeeping does something to an idle handle, if it is not handed out and nothing is
cleared. -/
theorem eq_housekeep_of_mentions {device} {s : Supply σ} (hs : s.pool.Consistent) {h : Handle}
    (hidle : h ∈ s.pool.idle.map Prod.snd) {op : Operation} (hclear : op ≠ .clear)
    (hacquired : ∀ d, op.record device s ≠ .acquired d h)
    (hm : (op.record device s).Mentions h) : op = .housekeep := by
  obtain ⟨e, he, hu⟩ := hs.exists_of_mem_idle hidle
  cases op with
  | acquire d =>
      rw [Operation.record] at hm hacquired
      split at hm
      · rename_i k _ heq
        exact absurd (by rw [heq, show k = h from hm]) (hacquired d)
      · exact absurd hm id
  | adopt d b =>
      have hnew : s.pool.find? (s.pool.adopt d b).1 = none := hs.find?_next
      rw [show (s.pool.adopt d b).1 = h from hm, he] at hnew
      cases hnew
  | release k =>
      rw [Operation.record, release] at hm
      cases hr : s.pool.release k with
      | error failure =>
          rw [hr] at hm
          exact absurd hm id
      | ok p =>
          rw [hr] at hm
          obtain rfl : k = h := hm
          obtain ⟨f, hf, hused, -⟩ := Pool.release_eq_ok_iff.1 hr
          cases he.symm.trans hf
          exact absurd hused (Bool.eq_false_iff.1 hu)
  | housekeep => rfl
  | clear => exact absurd rfl hclear

/-- A handle that was given back has a number that was issued. -/
theorem number_lt_of_returned (ops : List Operation) {h : Handle} {i : Nat}
    (hreturned : (history device ops ⟨.ofSettings settings, start⟩)[i]? = some (.returned h)) :
    h.number < (after device ops ⟨.ofSettings settings, start⟩).pool.nextNumber := by
  induction ops using List.reverseRecOn with
  | nil => cases hreturned
  | append_singleton ops op ih =>
      have hs := consistent_after device settings start ops
      have hf := follows_perform device hs op
      rw [history_append] at hreturned
      rw [after_concat]
      rcases getElem?_concat_cases hreturned with hreturned | ⟨-, hr⟩
      · exact Nat.lt_of_lt_of_le (ih hreturned) hf.nextNumber_le
      · obtain ⟨-, e, he, -⟩ := find?_perform_of_returned hr.symm
        exact hf.consistent.number_lt h e he

/-- **One operation on a handle that waits**: it goes on waiting, and there is a round left for it,
or the operation is the last round that it may stay for. -/
theorem waits_perform (ops : List Operation) {h : Handle} {i : Nat}
    (hw : WaitsSince (history device ops ⟨.ofSettings settings, start⟩) h i)
    (hearly : rounds (ops.drop (i + 1)) < max 1 settings.maxIdle) {op : Operation}
    (hclear : op ≠ .clear)
    (hacquired : ∀ d,
      op.record device (after device ops ⟨.ofSettings settings, start⟩) ≠ .acquired d h) :
    let s := after device ops ⟨.ofSettings settings, start⟩
    (¬ (op.record device s).Mentions h ∧
      rounds (ops.drop (i + 1)) + rounds [op] < max 1 settings.maxIdle) ∨
    ((op.perform device s).pool.find? h = none ∧
      max 1 settings.maxIdle ≤ rounds (ops.drop (i + 1)) + rounds [op]) := by
  intro s
  have hs : s.pool.Consistent := consistent_after device settings start ops
  have hevict := mem_evict_iff device settings start ops h
  by_cases hm : (op.record device s).Mentions h
  · have hidle := ((tells_after device settings start ops).waits h).2 ⟨i, hw⟩
    obtain rfl := eq_housekeep_of_mentions hs hidle hclear hacquired hm
    obtain ⟨j, hj, hold⟩ := hevict.1 ((mentions_housekeep_iff hs).1 hm)
    obtain rfl := hw.unique hj
    refine .inr ⟨(((follows_perform device hs .housekeep).destroys h).1 hm).2, ?_⟩
    exact Nat.max_le.2 ⟨Nat.le_add_left 1 _, hold⟩
  · refine .inl ⟨hm, ?_⟩
    cases op with
    | housekeep =>
        have hyoung : ¬ settings.maxIdle ≤ rounds (ops.drop (i + 1)) + 1 := fun hle =>
          hm ((mentions_housekeep_iff hs).2 (hevict.2 ⟨i, hw, hle⟩))
        have hone : rounds [Operation.housekeep] = 1 := rfl
        omega
    | acquire | adopt | release | clear => exact hearly

/-- **A handle that is left alone waits, or was destroyed in time**: it waits while there were fewer
rounds than it may stay for, and is gone from then on. -/
theorem waits_or_lost (ops : List Operation) {h : Handle} {i : Nat}
    (hreturned : (history device ops ⟨.ofSettings settings, start⟩)[i]? = some (.returned h))
    (halone : LeftAlone ops (history device ops ⟨.ofSettings settings, start⟩) h i) :
    (WaitsSince (history device ops ⟨.ofSettings settings, start⟩) h i ∧
      rounds (ops.drop (i + 1)) < max 1 settings.maxIdle) ∨
    ((after device ops ⟨.ofSettings settings, start⟩).pool.find? h = none ∧
      max 1 settings.maxIdle ≤ rounds (ops.drop (i + 1))) := by
  induction ops using List.reverseRecOn with
  | nil => cases hreturned
  | append_singleton ops op ih =>
      have htells := tells_after device settings start ops
      have hlength := length_history device ops ⟨.ofSettings settings, start⟩
      rw [history_append] at hreturned halone ⊢
      rw [after_concat]
      set s := after device ops ⟨.ofSettings settings, start⟩
      set past := history device ops ⟨.ofSettings settings, start⟩
      simp only [history] at hreturned halone ⊢
      rcases getElem?_concat_cases hreturned with hreturned | ⟨rfl, hr⟩
      · have hlt : i < past.length := (List.getElem?_eq_some_iff.1 hreturned).1
        rw [List.drop_append_of_le_length (by omega), rounds_concat, waitsSince_concat]
        rcases ih hreturned halone.of_concat with ⟨hw, hearly⟩ | ⟨hnone, hlate⟩
        · obtain ⟨hacquired, hclear⟩ := halone past.length hlt
          rw [List.getElem?_concat_length] at hacquired
          rw [hlength, List.getElem?_concat_length] at hclear
          rcases waits_perform device settings start ops hw hearly
            (fun heq => hclear (congrArg some heq))
            (fun d heq => hacquired d (congrArg some heq)) with ⟨hm, hearly⟩ | hlost
          · exact .inl ⟨.inl ⟨hw, hm⟩, hearly⟩
          · exact .inr hlost
        · -- what was destroyed before is not known again, as its number was issued already
          refine .inr ⟨?_, Nat.le_trans hlate (Nat.le_add_right _ _)⟩
          have hnumber : h.number < s.pool.nextNumber :=
            number_lt_of_returned device settings start ops hreturned
          cases hfind : (op.perform device s).pool.find? h with
          | none => rfl
          | some f =>
              have hnew := ((follows_perform device htells.consistent op).fresh h f hnone hfind).1
              exact absurd hnumber (hnew ▸ Nat.lt_irrefl _)
      · refine .inl ⟨waitsSince_concat.2 (.inr ⟨rfl, hr.symm⟩), ?_⟩
        rw [List.drop_eq_nil_of_le (by simp [hlength])]
        exact Nat.lt_of_lt_of_le Nat.zero_lt_one (Nat.le_max_left _ _)

/-- **When a handle is destroyed**: in the round that makes the number of rounds since it was given
back full, and in no other. -/
theorem mem_evict_iff_of_leftAlone (ops : List Operation) {h : Handle} {i : Nat}
    (hreturned : (history device ops ⟨.ofSettings settings, start⟩)[i]? = some (.returned h))
    (halone : LeftAlone ops (history device ops ⟨.ofSettings settings, start⟩) h i) :
    h ∈ (after device ops ⟨.ofSettings settings, start⟩).pool.evict.1 ↔
      rounds (ops.drop (i + 1)) + 1 = max 1 settings.maxIdle := by
  rcases waits_or_lost device settings start ops hreturned halone with
    ⟨hw, hearly⟩ | ⟨hnone, hlate⟩
  · rw [mem_evict_iff]
    constructor
    · rintro ⟨j, hj, hle⟩
      obtain rfl := hw.unique hj
      omega
    · intro heq
      exact ⟨i, hw, heq ▸ Nat.le_max_right 1 _⟩
  · have hs := consistent_after device settings start ops
    constructor
    · intro hmem
      obtain ⟨e, he, -⟩ := hs.exists_of_mem_evict hmem
      rw [hnone] at he
      cases he
    · omega

end

/-! ### A round as a whole -/

/-- **A round of housekeeping destroys certain handles, and does nothing else.** -/
structure Evicts (hs : List Handle) (s t : Supply (Observed σ)) : Prop where
  nodup : hs.Nodup
  /-- Each handle is known before, and not handed out. -/
  idle : ∀ h ∈ hs, (s.pool.buffer? h).isSome ∧ s.pool.isInUse h = false
  /-- The buffers are destroyed, and nothing else is asked of the device. -/
  calls : t.device.calls = s.device.calls ++ (hs.filterMap s.pool.buffer?).map .destroy
  lost : ∀ h ∈ hs, t.pool.find? h = none
  /-- All others are known as before. -/
  others : ∀ h ∉ hs, t.pool.find? h = s.pool.find? h
  /-- In each bucket, those that are left stand in the order in which they stood. -/
  buckets : ∀ d, t.pool.bucket d = (s.pool.bucket d).filter fun h => h ∉ hs

/-- What housekeeping does to a pool and its device. -/
theorem evicts_housekeep (device : Device σ) {s : Supply (Observed σ)} (hs : s.pool.Consistent) :
    Evicts s.pool.evict.1 s (s.housekeep device.observed).2 := by
  have hfind (h : Handle) : (s.housekeep device.observed).2.pool.find? h =
      if h ∈ s.pool.evict.1 then none else s.pool.find? h :=
    Pool.find?_without s.pool.nextRound s.pool.nextRound.expired h
  constructor
  case nodup => exact hs.idle_nodup.filter _
  case idle =>
    intro h hmem
    obtain ⟨e, he, hu⟩ := hs.exists_of_mem_evict hmem
    exact ⟨by rw [Pool.buffer?, he]; rfl, by rw [Pool.isInUse, he]; exact hu⟩
  case calls => exact congrArg Observed.calls (Device.destroyAll_observed device _ s.device)
  case lost => exact fun h hmem => (hfind h).trans (if_pos hmem)
  case others => exact fun h hmem => (hfind h).trans (if_neg hmem)
  case buckets => exact fun d => Pool.bucket_without s.pool.nextRound _ d

/-- **What a round destroys, and which round destroys it.**  After any operations, a round destroys
just those handles that wait and have done so for as many rounds as the settings allow, this one
included; it says how many these are, and does nothing else.  So a handle that was given back and
left alone since is destroyed by the round that makes that number full, which is the next one at the
earliest, and by no other; whenever it is handed out and given back, the count starts again.  The
order in which the buckets are gone through does not matter. -/
theorem housekeeping_law (device : Device σ) (settings : PoolSettings) (start : σ)
    (ops : List Operation) :
    let past := history device.observed ops (unused settings start)
    let s := after device.observed ops (unused settings start)
    let t := (s.housekeep device.observed).2
    ∃ hs, (s.housekeep device.observed).1 = hs.length ∧ Evicts hs s t ∧
      (∀ h, h ∈ hs ↔ ∃ i, WaitsSince past h i ∧
        settings.maxIdle ≤ rounds (ops.drop (i + 1)) + 1) ∧
      (∀ h i, past[i]? = some (.returned h) → LeftAlone ops past h i →
        (h ∈ hs ↔ rounds (ops.drop (i + 1)) + 1 = max 1 settings.maxIdle)) ∧
      ∀ order, (∀ x ∈ s.pool.idle, x.1 ∈ order) →
        (s.pool.evictInOrder order).1.Perm hs ∧ (s.pool.evictInOrder order).2 = t.pool := by
  intro past s t
  have hs : s.pool.Consistent := consistent_after device.observed settings ⟨start, []⟩ ops
  refine ⟨s.pool.evict.1, rfl, evicts_housekeep device hs, fun h => ?_, fun h i hr ha => ?_,
    fun order horder => Pool.evictInOrder_perm hs horder⟩
  · exact mem_evict_iff device.observed settings ⟨start, []⟩ ops h
  · exact mem_evict_iff_of_leftAlone device.observed settings ⟨start, []⟩ ops hr ha

/-- A run in which a buffer is given back, handed out again and given back, and a round passes after
each time. -/
def comeAndGo : List Operation :=
  [.acquire default, .release ⟨1⟩, .housekeep, .acquire default, .release ⟨1⟩, .housekeep]

/-- **A buffer that may stay for two rounds** goes in the second one after it was given back last,
which is the third one after it was given back first. -/
theorem housekeeping_law_twice :
    let s := after Recorder.device.observed comeAndGo (unused ⟨2⟩ .fresh)
    rounds comeAndGo = 2 ∧ (s.housekeep Recorder.device.observed).1 = 1 ∧
      (s.housekeep Recorder.device.observed).2.pool.find? ⟨1⟩ = none := by
  intro s
  obtain ⟨hs, hcount, hevicts, -, hround, -⟩ :=
    housekeeping_law Recorder.device ⟨2⟩ .fresh comeAndGo
  have halone : LeftAlone comeAndGo
      (history Recorder.device.observed comeAndGo (unused ⟨2⟩ .fresh)) ⟨1⟩ 4 := by
    have hrecord : (history Recorder.device.observed comeAndGo (unused ⟨2⟩ .fresh))[5]? =
        some (.destroyed []) := rfl
    intro j hj
    obtain rfl | hlong : j = 5 ∨ 6 ≤ j := by omega
    · refine ⟨fun d heq => ?_, fun heq => ?_⟩
      · cases hrecord.symm.trans heq
      · cases heq
    · rw [List.getElem?_eq_none (by rw [length_history]; exact hlong),
        List.getElem?_eq_none (by exact hlong)]
      exact ⟨fun _ => Option.some_ne_none _ |>.symm, Option.some_ne_none _ |>.symm⟩
  have hmem : (⟨1⟩ : Handle) ∈ hs := (hround ⟨1⟩ 4 rfl halone).2 rfl
  exact ⟨rfl, by decide, hevicts.lost ⟨1⟩ hmem⟩

end Supply

end ShaderEffect
