/-
**What reaches the device.**

Each part of a frame asks the device for one sort of thing: persistent targets for buffers, imported
images for images, the scene for a program.  Whether a part fails or not, the calls that were
remembered before are still there afterwards, with those of its own sort behind them.

Main definitions:

* `ShaderEffect.Observed.Adds` — only calls of some sort have been added;
* `ShaderEffect.Observed.Logs`, `ShaderEffect.Observed.Told` — what stands in the calls that have
  been added, and the commands among them;
* `ShaderEffect.Observed.HasRefused`, `ShaderEffect.Observed.Refusal` — the device has refused to
  create a buffer, and work has failed with that.

Main results:

* `ShaderEffect.Studio.adds_untilBuffers`, `ShaderEffect.Studio.adds_onPersistent`,
  `ShaderEffect.Studio.Lending.adds` — **what each part of a frame asks for**;
* `ShaderEffect.Studio.Drawn.told` — **what drawing tells the device**;
* `ShaderEffect.Studio.refusal_of_error` — persistent targets get their buffers unless the
  device refuses one.
-/

import ShaderEffect.Proofs.Device.Observed
import ShaderEffect.Proofs.Scene.Kept

set_option autoImplicit false

namespace ShaderEffect

open Pool

variable {σ : Type}

/-! ### Calls -/

/-- Whether a call asks for a buffer, and is refused it. -/
def DeviceCall.refusesBuffer : DeviceCall → Bool
  | .create _ none => true
  | _ => false

namespace Observed

/-- Calls have been added, and only some that satisfy a condition. -/
def Adds (P : DeviceCall → Prop) (s s' : Observed σ) : Prop :=
  ∃ calls, s'.calls = s.calls ++ calls ∧ ∀ c ∈ calls, P c

/-- The device has refused to create a buffer. -/
def HasRefused (s : Observed σ) : Prop := ∃ c ∈ s.calls, c.refusesBuffer = true

instance (s : Observed σ) : Decidable s.HasRefused :=
  inferInstanceAs (Decidable (∃ c ∈ s.calls, c.refusesBuffer = true))

/-- Work has failed because the device has refused to create a buffer. -/
structure Refusal (failure : Failure) (s : Observed σ) : Prop where
  tells : ∃ size reason, failure = .device (.create size reason)
  hasRefused : s.HasRefused

namespace Adds

variable {P Q : DeviceCall → Prop} {s s' s'' : Observed σ}

theorem refl (s : Observed σ) : Adds P s s := ⟨[], (List.append_nil _).symm, by simp⟩

theorem trans (h : Adds P s s') (h' : Adds P s' s'') : Adds P s s'' := by
  obtain ⟨calls, heq, hcalls⟩ := h
  obtain ⟨calls', heq', hcalls'⟩ := h'
  refine ⟨calls ++ calls', by rw [heq', heq, List.append_assoc], ?_⟩
  exact List.forall_mem_append.2 ⟨hcalls, hcalls'⟩

/-- What was refused once stays remembered. -/
theorem hasRefused (h : Adds P s s') (hs : s.HasRefused) : s'.HasRefused := by
  obtain ⟨calls, heq, -⟩ := h
  obtain ⟨c, hc, hrefuses⟩ := hs
  exact ⟨c, heq ▸ List.mem_append_left _ hc, hrefuses⟩

end Adds

/-- A call that is remembered is added. -/
theorem adds_noted {ε α : Type} {P : DeviceCall → Prop} {call : Option α → DeviceCall}
    (hP : ∀ a, P (call a)) (s : Observed σ) (r : EStateM.Result ε σ α) :
    Adds P s (Supply.remains (Device.noted call s.calls r)) := by
  cases r with
  | ok a state => exact ⟨[call (some a)], rfl, by simp [hP]⟩
  | error e state => exact ⟨[call none], rfl, by simp [hP]⟩

end Observed

/-! ### Commands -/

/-- The command of a call, if it is one. -/
def DeviceCall.command? : DeviceCall → Option Command
  | .command c => some c
  | _ => none

namespace Observed

/-- Calls have been added, and this is what a function picks out of them. -/
def Logs {α : Type} (pick : DeviceCall → Option α) (picked : List α) (s s' : Observed σ) : Prop :=
  ∃ calls, s'.calls = s.calls ++ calls ∧ calls.filterMap pick = picked

/-- Calls have been added, among them these commands and no others. -/
def Told (commands : List Command) (s s' : Observed σ) : Prop :=
  ∃ calls, s'.calls = s.calls ++ calls ∧ calls.filterMap DeviceCall.command? = commands

section

variable {α : Type} {pick : DeviceCall → Option α} {picked picked' : List α}
  {s s' s'' : Observed σ}

theorem Logs.refl (s : Observed σ) : Logs pick [] s s := ⟨[], (List.append_nil _).symm, rfl⟩

theorem Logs.trans (h : Logs pick picked s s') (h' : Logs pick picked' s' s'') :
    Logs pick (picked ++ picked') s s'' := by
  obtain ⟨calls, heq, rfl⟩ := h
  obtain ⟨calls', heq', rfl⟩ := h'
  exact ⟨calls ++ calls', by rw [heq', heq, List.append_assoc], List.filterMap_append⟩

/-- Nothing is picked out of calls of other sorts. -/
theorem Adds.logs (h : Adds (fun c => pick c = none) s s') : Logs pick [] s s' := by
  obtain ⟨calls, heq, hcalls⟩ := h
  exact ⟨calls, heq, List.filterMap_eq_nil_iff.2 hcalls⟩

/-- What is picked out of all that was added since an earlier moment. -/
theorem Logs.filterMap_drop (h : Logs pick picked s s') :
    (s'.calls.drop s.calls.length).filterMap pick = picked := by
  obtain ⟨calls, heq, rfl⟩ := h
  rw [heq, List.drop_left]

end

variable {s s' s'' : Observed σ}

theorem Told.refl (s : Observed σ) : Told [] s s := Logs.refl s

theorem Told.trans {commands commands' : List Command} (h : Told commands s s')
    (h' : Told commands' s' s'') : Told (commands ++ commands') s s'' :=
  Logs.trans h h'

/-- Other calls are no commands. -/
theorem Adds.told (h : Adds (fun c => c.command? = none) s s') : Told [] s s' := h.logs

/-- Commands that are obeyed are remembered, as such. -/
theorem adds_performAll {P : DeviceCall → Prop} (device : Device σ) (hP : ∀ c, P (.command c))
    (commands : List Command) (s : Observed σ) :
    Adds P s (device.observed.performAll commands s) := by
  rw [Device.performAll_observed]
  exact ⟨commands.map .command, rfl, List.forall_mem_map.2 fun c _ => hP c⟩

/-- Commands that are obeyed are remembered. -/
theorem told_performAll (device : Device σ) (commands : List Command) (s : Observed σ) :
    Told commands s (device.observed.performAll commands s) := by
  rw [Device.performAll_observed]
  refine ⟨commands.map .command, rfl, ?_⟩
  rw [List.filterMap_map]
  exact List.filterMap_some

end Observed

open Observed Supply

/-! ### Buffers, images and programs -/

section

/-- Giving buffers back adds no calls. -/
theorem kept_adds (P : DeviceCall → Prop) :
    Kept fun s t : Supply (Observed σ) => Adds P s.device t.device where
  refl s := .refl s.device
  trans _ _ _ h h' := h.trans h'
  release h s := by
    rw [kept_device.release h s]
    exact .refl s.device

variable {P : DeviceCall → Prop} (device : Device σ)

/-- Acquiring asks for at most one buffer. -/
theorem adds_acquire (d : Descriptor) (hP : ∀ b, P (.create d b)) (s : Supply (Observed σ)) :
    Adds P s.device (remains (Supply.acquire device.observed d s)).device := by
  unfold Supply.acquire
  rcases s.pool.reuse d with ⟨_ | h, p⟩
  · have hadds : Adds P s.device (remains (device.observed.createBuffer d s.device)) :=
      adds_noted hP _ _
    dsimp only
    rcases hr : device.observed.createBuffer d s.device with ⟨b, state⟩ | ⟨reason, state⟩
    all_goals
      rw [hr] at hadds
      exact hadds
  · exact .refl _

/-- **An acquisition fails because the device refuses a buffer**: that is the last call, and the
failure tells the reason. -/
theorem refusal_of_acquire {d : Descriptor} {s s' : Supply (Observed σ)} {failure : Failure}
    (h : Supply.acquire device.observed d s = .error failure s') :
    (∃ reason, failure = .device (.create d.size reason)) ∧
      s'.device.calls = s.device.calls ++ [.create d none] := by
  unfold Supply.acquire at h
  rcases hr : s.pool.reuse d with ⟨_ | k, p⟩
  · rw [hr] at h
    dsimp only at h
    rcases hc : device.observed.createBuffer d s.device with ⟨b, state⟩ | ⟨reason, state⟩
    · rw [hc] at h
      cases h
    · rw [hc] at h
      cases h
      exact ⟨⟨reason, rfl⟩, Device.calls_of_noted_error hc⟩
  · rw [hr] at h
    cases h

theorem refusal_acquire {d : Descriptor} {s s' : Supply (Observed σ)} {failure : Failure}
    (h : Supply.acquire device.observed d s = .error failure s') : s'.device.Refusal failure := by
  obtain ⟨⟨reason, hfailure⟩, hcalls⟩ := refusal_of_acquire device h
  refine ⟨⟨d.size, reason, hfailure⟩, .create d none, ?_, rfl⟩
  rw [hcalls]
  exact List.mem_append_right _ (List.mem_singleton_self _)

/-- Destroying buffers is remembered. -/
theorem adds_destroyAll (hP : ∀ b, P (.destroy b)) (buffers : List Buffer) (s : Observed σ) :
    Adds P s (device.observed.destroyAll buffers s) := by
  unfold Device.destroyAll
  induction buffers generalizing s with
  | nil => exact .refl s
  | cons b buffers ih => exact Adds.trans ⟨[.destroy b], rfl, by simp [hP]⟩ (ih _)

/-- A slot is refreshed unless the device refuses a buffer. -/
theorem refusal_refreshSlot {slot : Option Handle} {d : Descriptor}
    {s s' : Supply (Observed σ)} {failure : Failure} (hs : s.pool.Consistent)
    (h : refreshSlot device.observed slot d s = .error failure s') :
    s'.device.Refusal failure := by
  cases slot with
  | none => exact refusal_acquire device h
  | some k =>
      rw [refreshSlot_some] at h
      split at h
      · cases h
      · have hrelease := Supply.ends_releaseHeld hs k
        change EStateM.bind _ _ s = _ at h
        unfold EStateM.bind at h
        rcases hr : Supply.releaseHeld k s with ⟨_, t⟩ | ⟨_, t⟩
        · rw [hr] at h
          exact refusal_acquire device h
        · rw [hr] at hrelease
          exact hrelease.elim

/-- A persistent target gets its buffers unless the device refuses one. -/
theorem refusal_ensureBuffers {t : Target} {s : Supply (Observed σ)}
    {r : Target × Supply (Observed σ)} {failure : Failure} (hs : s.pool.Consistent)
    (h : ensureBuffers device.observed (t, s) = .error failure r) :
    r.2.device.Refusal failure := by
  unfold ensureBuffers at h
  dsimp only at h
  cases hd : t.descriptor? with
  | none =>
      rw [hd] at h
      cases h
  | some d =>
      rw [hd] at h
      dsimp only at h
      have hcurrent := ends_refreshSlot device.observed hs t.current d
      rcases hc : refreshSlot device.observed t.current d s with ⟨c, s₁⟩ | ⟨e, s₁⟩
      · rw [hc] at h hcurrent
        dsimp only at h
        rcases hv : refreshSlot device.observed t.previous d s₁ with ⟨v, s₂⟩ | ⟨e, s₂⟩
        · rw [hv] at h
          cases h
        · rw [hv] at h
          cases h
          exact refusal_refreshSlot device hcurrent.1.consistent hv
      · rw [hc] at h
        cases h
        exact refusal_refreshSlot device hs hc

/-- Loading an imported image asks for at most one image. -/
theorem adds_loadImport (hP : ∀ path r, P (.load path r)) (p : Parameter)
    (s : Supply (Observed σ)) :
    Adds P s.device (remains (loadImport device.observed (p, s))).2.device := by
  unfold loadImport
  dsimp only
  split
  · rename_i path _ _
    have hadds : Adds P s.device (remains (device.observed.loadImage path s.device)) :=
      adds_noted (hP path) _ _
    rcases hr : device.observed.loadImage path s.device with ⟨⟨b, d⟩, state⟩ | ⟨fault, state⟩
    · rw [hr] at hadds
      dsimp only
      cases p.bind (some ⟨(s.pool.adopt d b).1, d, false⟩) <;> exact hadds
    · rw [hr] at hadds
      exact hadds
  · exact .refl _

/-- Compiling is remembered. -/
theorem adds_compile (hP : ∀ source r, P (.compile source r)) (source : ProgramSource)
    (s : Supply (Observed σ)) :
    Adds P s.device (remains (device.observed.compile source s.device)) :=
  adds_noted (hP source) _ _

end

/-! ### Parts of a frame -/

namespace Studio

variable {P : DeviceCall → Prop} {device : Device σ}

/-- Calls have been added on the way from one studio to another. -/
def Adds (P : DeviceCall → Prop) (s s' : Studio (Observed σ)) : Prop :=
  Observed.Adds P s.supply.device s'.supply.device

theorem Adds.trans {s s' s'' : Studio (Observed σ)} (h : Adds P s s') (h' : Adds P s' s'') :
    Adds P s s'' :=
  Observed.Adds.trans h h'

/-- **Up to the images**, nothing is asked for but images. -/
theorem adds_untilLoaded (device : Device σ) (hP : ∀ path r, P (.load path r)) (renderSize : Size)
    (s : Studio (Observed σ)) :
    Adds P s (remains (untilLoaded device.observed renderSize s)) :=
  (kept_adds P).untilLoaded (adds_loadImport device hP) renderSize s

/-- **Before targets get buffers**, images are loaded and a program is compiled. -/
theorem adds_untilBuffers (device : Device σ) (hload : ∀ path r, P (.load path r))
    (hcompile : ∀ source r, P (.compile source r)) (renderSize : Size)
    (s : Studio (Observed σ)) :
    Adds P s (remains (untilBuffers device.observed renderSize s)) :=
  (kept_adds P).untilBuffers (adds_loadImport device hload) (adds_compile device hcompile)
    renderSize s

/-- **Persistent targets ask for buffers alone.** -/
theorem adds_onPersistent (device : Device σ) (hP : ∀ d b, P (.create d b))
    (s : Studio (Observed σ)) :
    Adds P s (remains (onPersistent (ensureBuffers device.observed) s)) :=
  (kept_adds P).onPersistent (fun d => adds_acquire device d (hP d)) s

/-- **Finding the buffer of a pass asks for at most that buffer.** -/
theorem Lending.adds {renderSize : Size} {name : String} {s s' : Studio (Observed σ)}
    {r : Option Handle × Size} (h : Lending device.observed renderSize name s r s')
    (hP : ∀ d b, P (.create d b)) : Adds P s s' :=
  (kept_adds P).lending (fun d => adds_acquire device d (hP d)) h

theorem Refused.adds {s s' : Studio (Observed σ)} {failure : Failure}
    (h : Refused device.observed s failure s') (hP : ∀ d b, P (.create d b)) : Adds P s s' := by
  rcases h with rfl | ⟨d, supply, hacquire, rfl⟩
  · exact Observed.Adds.refl _
  · have hadds := adds_acquire device d (hP d) s.supply
    rw [hacquire] at hadds
    exact hadds

theorem Abandoned.adds {renderSize : Size} {s s' : Studio (Observed σ)} {failure : Failure}
    (h : Abandoned device.observed renderSize s failure s') (hP : ∀ d b, P (.create d b)) :
    Adds P s s' := by
  rcases h with h | ⟨name, r, h⟩
  · exact h.adds hP
  · exact h.adds hP

/-- **Drawing passes tells the device what the passes do**, and nothing else. -/
theorem Drawn.told {program : Program} {clock : Clock} {renderSize : Size} {index : Nat}
    {written names : List String} {s s' : Studio (Observed σ)} {shots : List Shot}
    (h : Drawn device.observed program clock renderSize index written names s shots s') :
    Told (shots.flatMap (Shot.commands program clock)) s.supply.device s'.supply.device := by
  induction h with
  | nil => exact .refl _
  | cons hlending hbuffer hshot hdrawn ih =>
      have hfirst : Told [] _ _ := Adds.told (hlending.adds fun _ _ => rfl)
      exact (hfirst.trans (told_performAll device _ _)).trans ih

section

variable {renderSize : Size} {s begun ready : Studio (Observed σ)}

/-- A frame that is ready to draw has told the device nothing. -/
theorem told_of_ready
    (hbegun : untilBuffers device.observed renderSize s = .ok () begun)
    (hready : onPersistent (ensureBuffers device.observed) begun = .ok () ready) :
    Told [] s.supply.device ready.supply.device := by
  have hfirst := adds_untilBuffers (P := fun c => c.command? = none) device
    (fun _ _ => rfl) (fun _ _ => rfl) renderSize s
  have hthen := adds_onPersistent (P := fun c => c.command? = none) device
    (fun _ _ => rfl) begun
  rw [hbegun] at hfirst
  rw [hready] at hthen
  exact Adds.told (hfirst.trans hthen)

/-- **Persistent targets get their buffers unless the device refuses one.** -/
theorem refusal_of_error {failure : Failure} (hs : begun.supply.pool.Consistent)
    (h : onPersistent (ensureBuffers device.observed) begun = .error failure ready) :
    ready.supply.device.Refusal failure := by
  -- targets that got their buffers leave a consistent pool to the next one
  have hwork (t : Target) (u : Supply (Observed σ)) (hu : u.pool.Consistent) :
      Ends (fun _ r => r.2.pool.Consistent) (fun failure r => r.2.device.Refusal failure)
        (ensureBuffers device.observed (t, u)) := by
    have htarget := ends_ensureBuffers device.observed hu t
    rcases hr : ensureBuffers device.observed (t, u) with ⟨_, r⟩ | ⟨e, r⟩
    · rw [hr] at htarget
      exact htarget.1.consistent
    · exact refusal_ensureBuffers device hu hr
  have hends := ends_eachOf_rest (ensureBuffers device.observed) (I := fun u => u.pool.Consistent)
    (P := fun failure u => u.device.Refusal failure) begun.document.passes.persistent
    (fun t _ => hwork t) hs
  unfold onPersistent at h
  rcases hr : eachOf (ensureBuffers device.observed)
      (begun.document.passes.persistent, begun.supply) with ⟨_, ts, u⟩ | ⟨e, ts, u⟩
  · rw [hr] at h
    cases h
  · rw [hr] at h hends
    cases h
    exact hends

/-- A complete frame tells the device what its passes do, and nothing else. -/
theorem told_of_completes {drawn rested : Studio (Observed σ)} {clock : Clock}
    {reports : List PassReport}
    (hbegun : untilBuffers device.observed renderSize s = .ok () begun)
    (hready : onPersistent (ensureBuffers device.observed) begun = .ok () ready)
    (hdraws : DrawsAll device.observed clock renderSize ready reports drawn)
    (hdevice : rested.supply.device = drawn.supply.device) :
    ∃ program shots, reports = shots.map Shot.report ∧
      Drawn device.observed program clock renderSize 0 [] ready.document.passes.order ready shots
        drawn ∧
      Told (shots.flatMap (Shot.commands program clock)) s.supply.device
        rested.supply.device := by
  obtain ⟨c, shots, -, hreports, hdrawn⟩ := hdraws
  refine ⟨c.program, shots, hreports, hdrawn, ?_⟩
  rw [hdevice]
  exact (told_of_ready hbegun hready).trans hdrawn.told

end

/-- **A frame adds calls**, however it ends. -/
theorem adds_renderFrame (device : Device σ) (now : Moment) (renderSize : Size)
    (s : Studio (Observed σ)) :
    Adds (fun _ => True) s (remains (renderFrame device.observed now renderSize s)) :=
  (kept_adds _).renderFrame (fun d => adds_acquire device d fun _ => trivial)
    (fun commands s => adds_performAll device (fun _ => trivial) commands s.device)
    (adds_loadImport device fun _ _ => trivial) (adds_compile device fun _ _ => trivial) now
    renderSize s

end Studio

end ShaderEffect
