/-
**What fails leaves no trace.**

A pool refuses to take back what is not handed out, and cannot hand out what the device does not
create.  After both it goes on as if it had not been asked.  That is a statement about two runs: the
same operations are performed once after the failure and once without it, and nobody can tell the
one run from the other by what is answered.  A device may remember that it was asked, so all that
can be said where it takes part is that the runs agree as long as it answers alike.

Main definitions:

* `ShaderEffect.Device.Alike` — two states of a device in which it answers alike ever after;
* `ShaderEffect.Supply.Indistinguishable` — two pools that answer alike ever after.

Main results:

* `ShaderEffect.Supply.indistinguishable_of_alike` — **equal pools on devices that answer alike
  cannot be told apart**;
* `ShaderEffect.Supply.isInUse_perform_eq_false` — nothing but handing a handle out makes it be
  handed out;
* `ShaderEffect.Supply.exists_issues_of_returned` — a handle is not accepted back twice;
* `ShaderEffect.Supply.release_acquire_atomic` — **what is accepted back, and that failures leave no
  trace**.
-/

import ShaderEffect.Device.Recorder
import ShaderEffect.Proofs.Pool.History

set_option autoImplicit false

namespace ShaderEffect

/-! ### Devices that answer alike -/

namespace Device

variable {σ : Type} {device : Device σ} {R : σ → σ → Prop} {a b : σ}

/-- Two answers that say the same, and leave related states. -/
inductive SameAnswer (R : σ → σ → Prop) :
    EStateM.Result String σ Buffer → EStateM.Result String σ Buffer → Prop
  | ok {a b : σ} (buffer : Buffer) (h : R a b) : SameAnswer R (.ok buffer a) (.ok buffer b)
  | error {a b : σ} (reason : String) (h : R a b) : SameAnswer R (.error reason a) (.error reason b)

/-- A relation between states that no request of a pool leads out of, and no answer breaks. -/
structure Bisimulation (device : Device σ) (R : σ → σ → Prop) : Prop where
  create : ∀ d a b, R a b → SameAnswer R (device.createBuffer d a) (device.createBuffer d b)
  destroy : ∀ x a b, R a b → R (device.destroyBuffer x a) (device.destroyBuffer x b)

/-- **Two states in which a device answers alike**, now and after any requests of a pool. -/
def Alike (device : Device σ) (a b : σ) : Prop := ∃ R, device.Bisimulation R ∧ R a b

theorem bisimulation_eq (device : Device σ) : device.Bisimulation Eq where
  create := by
    rintro d a _ rfl
    cases device.createBuffer d a with
    | ok buffer state => exact .ok buffer rfl
    | error reason state => exact .error reason rfl
  destroy := by
    rintro x a _ rfl
    rfl

theorem alike_refl (device : Device σ) (a : σ) : device.Alike a a :=
  ⟨Eq, device.bisimulation_eq, rfl⟩

theorem Bisimulation.destroyAll (hR : device.Bisimulation R) (buffers : List Buffer) (h : R a b) :
    R (device.destroyAll buffers a) (device.destroyAll buffers b) := by
  induction buffers generalizing a b with
  | nil => exact h
  | cons x buffers ih => exact ih (hR.destroy x a b h)

end Device

/-- A recorder that refuses to create a buffer stays as it is. -/
theorem Recorder.eq_of_createBuffer_error {d : Descriptor} {r r' : Recorder} {reason : String}
    (h : Recorder.device.createBuffer d r = .error reason r') : r' = r := by
  unfold Recorder.device Recorder.createBuffer at h
  dsimp only at h
  split at h
  · cases h
    rfl
  · cases h

namespace Supply

variable {σ : Type} {device : Device σ} {s t : Supply σ} {h : Handle}

/-! ### Two runs -/

/-- **One operation in two runs**: it answers the same, and the pools stay equal. -/
theorem perform_alike {R : σ → σ → Prop} (hR : device.Bisimulation R) (hpool : s.pool = t.pool)
    (hdevice : R s.device t.device) (op : Operation) :
    op.record device s = op.record device t ∧
      (op.perform device s).pool = (op.perform device t).pool ∧
      R (op.perform device s).device (op.perform device t).device := by
  obtain ⟨p, a⟩ := s
  obtain ⟨q, b⟩ := t
  obtain rfl : p = q := hpool
  have hdevice : R a b := hdevice
  cases op with
  | acquire d =>
      simp only [Operation.record, Operation.perform, acquire]
      rcases p.reuse d with ⟨_ | h, q⟩
      · dsimp only
        generalize hx : device.createBuffer d a = x, hy : device.createBuffer d b = y
        have hsame := hR.create d a b hdevice
        rw [hx, hy] at hsame
        cases hsame with
        | ok buffer h => exact ⟨rfl, rfl, h⟩
        | error reason h => exact ⟨rfl, rfl, h⟩
      · exact ⟨rfl, rfl, hdevice⟩
  | adopt d x => exact ⟨rfl, rfl, hdevice⟩
  | release h =>
      simp only [Operation.record, Operation.perform, release]
      cases p.release h with
      | error failure => exact ⟨rfl, rfl, hdevice⟩
      | ok q => exact ⟨rfl, rfl, hdevice⟩
  | housekeep => exact ⟨rfl, rfl, hR.destroyAll _ hdevice⟩
  | clear => exact ⟨rfl, rfl, hR.destroyAll _ hdevice⟩

/-- **Two runs of the same operations** answer the same, and leave equal pools. -/
theorem after_alike {R : σ → σ → Prop} (hR : device.Bisimulation R) (later : List Operation)
    (hpool : s.pool = t.pool) (hdevice : R s.device t.device) :
    history device later s = history device later t ∧
      (after device later s).pool = (after device later t).pool := by
  induction later generalizing s t with
  | nil => exact ⟨rfl, hpool⟩
  | cons op later ih =>
      obtain ⟨hrecord, hpool', hdevice'⟩ := perform_alike hR hpool hdevice op
      obtain ⟨hhistory, hafter⟩ := ih hpool' hdevice'
      exact ⟨by rw [history, history, hrecord, hhistory], hafter⟩

/-- **Nobody can tell two pools apart**: whatever operations are performed on both, they answer the
same, and what can be seen afterwards is the same. -/
structure Indistinguishable (device : Device σ) (s t : Supply σ) : Prop where
  /-- The same handles are handed out, accepted back and destroyed. -/
  history : ∀ later, history device later s = history device later t
  buffer : ∀ later h,
    (after device later s).pool.buffer? h = (after device later t).pool.buffer? h
  descriptor : ∀ later h,
    (after device later s).pool.descriptor? h = (after device later t).pool.descriptor? h
  isInUse : ∀ later h,
    (after device later s).pool.isInUse h = (after device later t).pool.isInUse h
  size : ∀ later, (after device later s).pool.size = (after device later t).pool.size
  idleCount : ∀ later,
    (after device later s).pool.idleCount = (after device later t).pool.idleCount
  /-- A round of housekeeping reports the same number. -/
  housekeep : ∀ later, ((after device later s).housekeep device).1 =
    ((after device later t).housekeep device).1

/-- **Equal pools on devices that answer alike cannot be told apart.** -/
theorem indistinguishable_of_alike (hpool : s.pool = t.pool)
    (halike : device.Alike s.device t.device) : Indistinguishable device s t := by
  obtain ⟨R, hR, hdevice⟩ := halike
  have hrun (later : List Operation) := after_alike hR later hpool hdevice
  constructor
  case history => exact fun later => (hrun later).1
  case buffer => exact fun later h => by rw [(hrun later).2]
  case descriptor => exact fun later h => by rw [(hrun later).2]
  case isInUse => exact fun later h => by rw [(hrun later).2]
  case size => exact fun later => by rw [(hrun later).2]
  case idleCount => exact fun later => by rw [(hrun later).2]
  case housekeep => exact fun later => by rw [Supply.housekeep, Supply.housekeep, (hrun later).2]

/-! ### Giving back -/

/-- A handle is accepted back exactly if it is handed out, and otherwise nothing happens. -/
theorem release_cases (h : Handle) (s : Supply σ) :
    (s.pool.isInUse h = true ∧ ∃ p, s.pool.release h = .ok p ∧
      release h s = .ok () { s with pool := p }) ∨
    (s.pool.isInUse h = false ∧ ∃ failure, release h s = .error failure s) := by
  have hok := Pool.isOk_release_iff (p := s.pool) (h := h)
  unfold release
  cases hr : s.pool.release h with
  | ok p =>
      rw [hr] at hok
      exact .inl ⟨hok.1 rfl, p, rfl, rfl⟩
  | error failure =>
      rw [hr] at hok
      refine .inr ⟨Bool.eq_false_iff.2 fun hu => ?_, failure, rfl⟩
      cases hok.2 hu

/-- **Nothing but handing a handle out makes it be handed out.** -/
theorem isInUse_perform_eq_false (hs : s.pool.Consistent) {op : Operation}
    (hfree : s.pool.isInUse h = false) (hissues : ∀ d, ¬ (op.record device s).Issues h d) :
    (op.perform device s).pool.isInUse h = false := by
  have hf := follows_perform device hs op
  have hlost (hnone : (op.perform device s).pool.find? h = none) :
      (op.perform device s).pool.isInUse h = false := by
    rw [Pool.isInUse, hnone]
  cases he : s.pool.find? h with
  | none =>
      refine hlost (Option.eq_none_iff_forall_ne_some.2 fun f hfind => ?_)
      exact hissues f.descriptor (hf.fresh h f he hfind).2
  | some e =>
      by_cases hm : (op.record device s).Mentions h
      · cases hr : op.record device s with
        | acquired d k =>
            rw [hr] at hm hissues
            exact absurd ⟨rfl, hm⟩ (hissues d)
        | adopted d b k =>
            rw [hr] at hm hissues
            exact absurd ⟨rfl, hm⟩ (hissues d)
        | returned k =>
            rw [hr] at hm
            obtain rfl : k = h := hm
            obtain ⟨-, f, hfind, hu, -⟩ := find?_perform_of_returned hr
            rw [Pool.isInUse, hfind]
            exact hu
        | destroyed hs => exact hlost ((hf.destroys h).1 (by rw [hr] at hm ⊢; exact hm)).2
        | refused d =>
            rw [hr] at hm
            exact absurd hm id
        | rejected k =>
            rw [hr] at hm
            exact absurd hm id
      · rw [Pool.isInUse, find?_perform_of_not_mentions hs he hm]
        rw [Pool.isInUse, he] at hfree
        exact hfree

section

variable (device : Device σ) (settings : PoolSettings) (start : σ) (ops : List Operation)

/-- **What was given back is not handed out** until it is handed out again. -/
theorem isInUse_eq_false_of_returned {i : Nat}
    (hreturned : (history device ops ⟨.ofSettings settings, start⟩)[i]? = some (.returned h))
    (hissues : ∀ l r d, i < l → (history device ops ⟨.ofSettings settings, start⟩)[l]? = some r →
      ¬ r.Issues h d) :
    (after device ops ⟨.ofSettings settings, start⟩).pool.isInUse h = false := by
  induction ops using List.reverseRecOn with
  | nil => cases hreturned
  | append_singleton ops op ih =>
      have hs := consistent_after device settings start ops
      rw [history_append] at hreturned hissues
      rw [after_concat]
      set s := after device ops ⟨.ofSettings settings, start⟩
      set past := history device ops ⟨.ofSettings settings, start⟩
      simp only [history] at hreturned hissues
      rcases getElem?_concat_cases hreturned with hreturned | ⟨rfl, hr⟩
      · have hlt : i < past.length := (List.getElem?_eq_some_iff.1 hreturned).1
        exact isInUse_perform_eq_false hs
          (ih hreturned fun l r d hil hl => hissues l r d hil (getElem?_concat_of_eq_some hl))
          fun d => hissues past.length _ d hlt List.getElem?_concat_length
      · obtain ⟨-, e, he, hu, -⟩ := find?_perform_of_returned hr.symm
        rw [Pool.isInUse, he]
        exact hu

/-- **A handle is not accepted back twice**, unless it is handed out in between. -/
theorem exists_issues_of_returned {i j : Nat} (hij : i < j)
    (hi : (history device ops ⟨.ofSettings settings, start⟩)[i]? = some (.returned h))
    (hj : (history device ops ⟨.ofSettings settings, start⟩)[j]? = some (.returned h)) :
    ∃ l r d, i < l ∧ l < j ∧
      (history device ops ⟨.ofSettings settings, start⟩)[l]? = some r ∧ r.Issues h d := by
  by_contra hnone
  have hfree := isInUse_eq_false_of_returned (h := h) (i := i) device settings start (ops.take j)
    (by rw [history_take, List.getElem?_take_of_lt hij, hi]) fun l r d hil hl hissues => by
      rw [history_take, List.getElem?_take] at hl
      split at hl
      · exact hnone ⟨l, r, d, hil, ‹_›, hl, hissues⟩
      · cases hl
  rw [getElem?_history, Option.map_eq_some_iff] at hj
  obtain ⟨op, -, hr⟩ := hj
  obtain ⟨rfl, -⟩ := find?_perform_of_returned hr
  rw [Operation.record] at hr
  rcases release_cases h (after device (ops.take j) ⟨.ofSettings settings, start⟩) with
    ⟨hused, -⟩ | ⟨-, failure, hrefused⟩
  · rw [hfree] at hused
    cases hused
  · rw [hrefused] at hr
    cases hr

end

/-! ### Failures -/

/-- **What is accepted back, and that failures leave no trace.**  After any operations, a handle is
accepted back exactly if it is known and handed out, so that it is accepted back at most once before
it is handed out again.  If it is not accepted, or if an acquisition fails, the pool is as before.
From then on nobody can tell it from a pool that was never asked, as long as the device answers
alike. -/
theorem release_acquire_atomic (device : Device σ) (settings : PoolSettings) (start : σ)
    (ops : List Operation) :
    let past := history device ops ⟨.ofSettings settings, start⟩
    let s := after device ops ⟨.ofSettings settings, start⟩
    (∀ h, (∃ s', release h s = .ok () s') ↔ ∃ e, s.pool.find? h = some e ∧ e.inUse = true) ∧
    (∀ (h : Handle) (i j : Nat), i < j → past[i]? = some (.returned h) →
      past[j]? = some (.returned h) →
      ∃ l r d, i < l ∧ l < j ∧ past[l]? = some r ∧ r.Issues h d) ∧
    (∀ h failure s', release h s = .error failure s' →
      s' = s ∧ Indistinguishable device s' s) ∧
    ∀ d failure s', acquire device d s = .error failure s' →
      s'.pool = s.pool ∧
        ∀ state, device.Alike s'.device state → Indistinguishable device s' ⟨s.pool, state⟩ := by
  intro past s
  have hs : s.pool.Consistent := consistent_after device settings start ops
  refine ⟨fun h => ?_, fun h i j hij => exists_issues_of_returned device settings start ops hij,
    fun h failure s' hfail => ?_, fun d failure s' hfail => ?_⟩
  · rcases release_cases h s with ⟨hu, p, -, heq⟩ | ⟨hu, failure, heq⟩
    · rw [heq]
      exact ⟨fun _ => Pool.isInUse_iff.1 hu, fun _ => ⟨_, rfl⟩⟩
    · rw [heq]
      constructor
      · rintro ⟨s', hs'⟩
        cases hs'
      · intro hused
        rw [Pool.isInUse_iff.2 hused] at hu
        cases hu
  · rcases release_cases h s with ⟨-, p, -, heq⟩ | ⟨-, failure', heq⟩
    · rw [heq] at hfail
      cases hfail
    · rw [heq] at hfail
      cases hfail
      exact ⟨rfl, indistinguishable_of_alike rfl (device.alike_refl _)⟩
  · rcases acquire_cases hs device d with
      ⟨h, p, -, heq⟩ | ⟨-, ⟨b, state, -, heq⟩ | ⟨reason, state, -, heq⟩⟩
    · rw [heq] at hfail
      cases hfail
    · rw [heq] at hfail
      cases hfail
    · rw [heq] at hfail
      cases hfail
      exact ⟨rfl, fun _ halike => indistinguishable_of_alike rfl halike⟩

/-- A failed acquisition leaves a recorder as it was, too. -/
theorem eq_of_acquire_recorder_error {s s' : Supply Recorder} (hs : s.pool.Consistent)
    {d : Descriptor} {failure : Failure} (h : acquire Recorder.device d s = .error failure s') :
    s' = s := by
  rcases acquire_cases hs Recorder.device d with
    ⟨k, p, -, heq⟩ | ⟨-, ⟨b, state, -, heq⟩ | ⟨reason, state, hcreate, heq⟩⟩
  · rw [heq] at h
    cases h
  · rw [heq] at h
    cases h
  · rw [heq] at h
    cases h
    rw [Recorder.eq_of_createBuffer_error hcreate]

/-- **A recorder with room for one buffer**: a second one is refused while the first one is idle,
and nobody can tell that it was asked for. -/
theorem release_acquire_atomic_full :
    let s := after Recorder.device [.acquire default, .release ⟨1⟩]
      ⟨.ofSettings ⟨1⟩, { Recorder.fresh with allocationsLeft := some 1 }⟩
    ∃ failure s', acquire Recorder.device (.renderTarget ⟨4, 4⟩ true) s = .error failure s' ∧
      s'.pool.idleCount = 1 ∧ Indistinguishable Recorder.device s' s := by
  intro s
  have hs : s.pool.Consistent := consistent_after Recorder.device ⟨1⟩ _ _
  obtain ⟨-, -, -, hacquire⟩ := release_acquire_atomic Recorder.device ⟨1⟩
    { Recorder.fresh with allocationsLeft := some 1 } [.acquire default, .release ⟨1⟩]
  have hrefused : (Operation.acquire (.renderTarget ⟨4, 4⟩ true)).record Recorder.device s =
      .refused (.renderTarget ⟨4, 4⟩ true) := rfl
  cases h : acquire Recorder.device (.renderTarget ⟨4, 4⟩ true) s with
  | ok k s' =>
      rw [Operation.record, h] at hrefused
      cases hrefused
  | error failure s' =>
      obtain ⟨hpool, hsame⟩ := hacquire _ failure s' h
      have heq := eq_of_acquire_recorder_error hs h
      refine ⟨failure, s', rfl, by rw [hpool]; decide, hsame s.device ?_⟩
      rw [heq]
      exact Recorder.device.alike_refl s.device

end Supply

end ShaderEffect
