/-
**Persistent targets and their two buffers, frame after frame.**

A persistent target has two buffers.  In each complete frame one of them is drawn into, and the
other one, which the complete frame before drew into, is what the target is sampled as until it has
been drawn into again.  Frames that fail change nothing about this, whenever they fail and whatever
for, as long as the device has room for buffers and the target keeps its size.

Main definitions:

* `ShaderEffect.Rendered.DrawsInto`, `ShaderEffect.Rendered.SamplesFirst` — what a frame does with a
  target;
* `ShaderEffect.Session.PingPong` — **two buffers take turns**;
* `ShaderEffect.Session.Phase` — how far a persistent target has come.

Main results:

* `ShaderEffect.Studio.Completes.draws` — what a complete frame does with a persistent target;
* `ShaderEffect.Session.phase_turn`, `ShaderEffect.Session.phase_after` — what a turn does to it,
  and what is true after all turns;
* `ShaderEffect.Session.buffers_take_turns` — **the buffers of every persistent target take turns in
  every session**.
-/

import ShaderEffect.Device.Recorder
import ShaderEffect.Proofs.Scene.Acquisitions

set_option autoImplicit false

namespace ShaderEffect

open Pool Observed

variable {σ : Type}

/-! ### Two buffers in a frame -/

namespace Studio

section Drawn

variable {device : Device σ} {program : Program} {clock : Clock} {renderSize : Size}
  {order : List String} {ready drawn : Studio σ} {shots : List Shot} {name : String}
  {d : Descriptor} {buffers : Handle → Buffer} {c v : Handle} {float : Bool}

/-- The reports of passes name the targets of the passes. -/
theorem Drawn.map_target {index : Nat} {written names : List String} {s s' : Studio σ}
    (h : Drawn device program clock renderSize index written names s shots s') :
    (shots.map Shot.report).map PassReport.target = names := by
  induction h with
  | nil => rfl
  | cons _ _ hshot _ ih =>
      rw [List.map_cons, List.map_cons, ih, hshot]

/-- A pass that looks for the buffer of a persistent target finds it. -/
theorem Lending.eq_of_holds {handle : Option Handle} {size : Size} {s s' : Studio σ}
    (h : Lending device renderSize name s (handle, size) s') (hholds : Holds name d buffers c v s)
    (hd : s.document.WellFormed) (hdeclares : s.document.Declares name float) :
    handle = some c ∧ s' = s := by
  obtain ⟨t, ht, rfl, hc, -⟩ := hholds.exists_target hd hdeclares
  have hmem : t ∈ s.document.passes.targets := List.mem_append_left _ ht
  have hfind := hd.target?_eq hmem
  cases h with
  | output hname => exact absurd hname (hd.passes.drawn t hmem).1
  | found u hname hu hbuffer =>
      cases hfind.symm.trans hu
      exact ⟨hc, rfl⟩
  | lent u h supply hname hu hp =>
      cases hfind.symm.trans hu
      rw [hd.passes.persistent t ht] at hp
      cases hp

/-- **What a pass does with a persistent target that holds two buffers**: if it draws into the
target, it draws into the first buffer; if nothing has drawn into the target before, it samples the
second one. -/
theorem Drawn.shot_of_holds
    (h : Drawn device program clock renderSize 0 [] order ready shots drawn) (hs : ready.Sound)
    (hholds : Holds name d buffers c v ready) (hdeclares : ready.document.Declares name float)
    {i : Nat} {shot : Shot} (hi : shots[i]? = some shot) :
    (shot.report.target = name → shot.report.buffer = some c ∧
      ∀ buffer size, Command.bindTarget buffer size ∈ shot.commands program clock ↔
        buffer = some (buffers c) ∧ size = shot.report.size) ∧
    (name ∉ order.take i → ∀ buffer,
      (∃ unit, Command.bindSampler name unit buffer ∈ shot.commands program clock) ↔
        buffer = some (buffers v)) := by
  obtain ⟨s₀, s₁, target, handle, buffer, size, hlends, hlending, -, hbuffer, rfl⟩ :=
    h.exists_of_getElem? hs.consistent hs.wellFormed hi
  have hwell := hs.wellFormed.of_blank_eq hlends.blank
  have hlends' := hlends.trans (hlending.onlyLends hlends.trades.consistent hwell)
  have hwell' := hs.wellFormed.of_blank_eq hlends'.blank
  have hholds' := hholds.onlyLends hs hlends'
  refine ⟨fun htarget => ?_, fun hnot => ?_⟩
  · obtain rfl : target = name := htarget
    obtain ⟨rfl, rfl⟩ := hlending.eq_of_holds (hholds.onlyLends hs hlends) hwell
      (hdeclares.of_blank_eq hlends.blank)
    cases hbuffer with
    | some hb =>
        rw [hholds'.buffer? c (by simp)] at hb
        cases hb
        exact ⟨rfl, fun buffer size => Document.bindTarget_mem_iff⟩
  · obtain ⟨t, ht, rfl, -, hv⟩ := hholds'.exists_target hwell'
      (hdeclares.of_blank_eq hlends'.blank)
    have hmem : t ∈ s₁.document.passes.targets := List.mem_append_left _ ht
    intro buffer
    refine (Document.bindSampler_mem_iff hwell' hmem).trans ?_
    -- the second buffer is sampled as long as the name is not among those drawn into
    have hnot' : t.name ∉ (order.take i).foldl writtenAfter [] := fun hmem' => by
      rcases (mem_foldl_writtenAfter (hwell'.passes.drawn t hmem).1).1 hmem' with h | h
      · exact hnot h
      · cases h
    have hsample : (t.sample ((order.take i).foldl writtenAfter [])).handle = some v := by
      rw [Target.sample, if_neg hnot', if_pos (hwell'.passes.persistent t ht), hv]
    rw [hsample]
    exact iff_of_eq (congrArg (buffer = ·) (hholds'.buffer? v (by simp)))

end Drawn

end Studio

/-! ### What a frame does with a target -/

namespace Rendered

/-- A frame draws into a target with a buffer: some pass of it does, and every one that does tells
the device to draw into that buffer alone. -/
structure DrawsInto (r : Rendered σ) (name : String) (h : Handle) (b : Buffer) : Prop where
  /-- There is a draw for each pass. -/
  length : r.draws.length = r.passes.length
  drawn : ∃ p ∈ r.passes, p.target = name
  handle : ∀ p ∈ r.passes, p.target = name → p.buffer = some h
  buffer : ∀ (i : Nat) (p : PassReport) (draw : List Command), r.passes[i]? = some p →
    p.target = name → r.draws[i]? = some draw →
    ∀ buffer size, Command.bindTarget buffer size ∈ draw ↔ buffer = some b ∧ size = p.size
  known : r.after.supply.pool.buffer? h = some b

/-- In all passes up to the first one that draws into a target, and in this one, too, a frame
samples the target as a buffer, and as nothing else. -/
def SamplesFirst (r : Rendered σ) (name : String) (b : Buffer) : Prop :=
  ∀ (i : Nat) (draw : List Command), r.draws[i]? = some draw →
    (∀ p ∈ r.passes.take i, p.target ≠ name) →
    ∀ buffer, (∃ unit, Command.bindSampler name unit buffer ∈ draw) ↔ buffer = some b

/-- The frame failed, and a target held nothing before and after it. -/
structure LeavesBare (r : Rendered σ) (name : String) : Prop where
  failed : r.isComplete = false
  before : r.before.document.stored name = []
  after : r.after.document.stored name = []

/-- What a frame drew is what the device was told. -/
theorem draws_eq {r : Rendered σ} {commands : List Command}
    (h : Told commands r.before.supply.device r.after.supply.device) :
    r.draws = ShaderEffect.draws commands :=
  congrArg ShaderEffect.draws (Logs.filterMap_drop h)

end Rendered

namespace Studio

section Rendered

variable {device : Device (Observed σ)} {program : Program} {clock : Clock} {renderSize : Size}
  {ready drawn : Studio (Observed σ)} {shots : List Shot} {name : String} {d : Descriptor}
  {buffers : Handle → Buffer} {c v : Handle} {float : Bool} {r : Rendered σ}

/-- A frame draws into the first one of the two buffers that a persistent target holds. -/
theorem Drawn.drawsInto
    (h : Drawn device program clock renderSize 0 [] ready.document.passes.order ready shots drawn)
    (hs : ready.Sound) (hholds : Holds name d buffers c v ready)
    (hdeclares : ready.document.Declares name float) (hpasses : r.passes = shots.map Shot.report)
    (hdraws : r.draws = shots.map (Shot.commands program clock))
    (hknown : r.after.supply.pool.buffer? c = some (buffers c)) :
    r.DrawsInto name c (buffers c) where
  length := by rw [hpasses, hdraws, List.length_map, List.length_map]
  drawn := by
    -- a pass is declared for every target
    obtain ⟨t, ht, rfl, -⟩ := hdeclares
    have hmem := (hs.wellFormed.passes.drawn t (List.mem_append_left _ ht)).2
    rw [← h.map_target, ← hpasses] at hmem
    exact List.mem_map.1 hmem
  handle := by
    intro p hp htarget
    rw [hpasses] at hp
    obtain ⟨shot, hmem, rfl⟩ := List.mem_map.1 hp
    obtain ⟨i, hi⟩ := List.mem_iff_getElem?.1 hmem
    exact ((h.shot_of_holds hs hholds hdeclares hi).1 htarget).1
  buffer := by
    -- passes, shots and draws are numbered in the same way
    intro i p draw hp htarget hdraw
    rw [hpasses, List.getElem?_map] at hp
    rw [hdraws, List.getElem?_map] at hdraw
    obtain ⟨shot, hi, rfl⟩ := Option.map_eq_some_iff.1 hp
    rw [hi] at hdraw
    cases hdraw
    exact ((h.shot_of_holds hs hholds hdeclares hi).1 htarget).2
  known := hknown

/-- Up to the first pass that draws into a persistent target, a frame samples the second one of the
two buffers that the target holds. -/
theorem Drawn.samplesFirst
    (h : Drawn device program clock renderSize 0 [] ready.document.passes.order ready shots drawn)
    (hs : ready.Sound) (hholds : Holds name d buffers c v ready)
    (hdeclares : ready.document.Declares name float) (hpasses : r.passes = shots.map Shot.report)
    (hdraws : r.draws = shots.map (Shot.commands program clock)) :
    r.SamplesFirst name (buffers v) := by
  intro i draw hdraw hfirst
  rw [hdraws, List.getElem?_map] at hdraw
  obtain ⟨shot, hi, rfl⟩ := Option.map_eq_some_iff.1 hdraw
  refine (h.shot_of_holds hs hholds hdeclares hi).2 ?_
  intro hmem
  rw [← h.map_target, ← hpasses, ← List.map_take] at hmem
  obtain ⟨p, hp, htarget⟩ := List.mem_map.1 hmem
  exact hfirst p hp htarget

end Rendered

/-- **What a complete frame does with a persistent target**: it draws into the first one of the two
buffers that the target holds when the passes are drawn, and samples the second one; then the two
change places. -/
theorem Completes.draws {device : Device σ} {s s' : Studio (Observed σ)} {now : Moment}
    {renderSize size : Size} {report : FrameReport} {name : String} {float : Bool}
    (h : Completes device.observed now renderSize s report s') (hs : s.Sound)
    (hdeclares : s.document.Declares name float)
    (hsize : ∀ z ∈ s.document.sizeIn? name renderSize, z = size) :
    ∃ ready, Readies name (.renderTarget size float) s ready ∧ ready.Sound ∧ ∀ buffers c v,
      Holds name (.renderTarget size float) buffers c v ready →
        Holds name (.renderTarget size float) buffers v c s' ∧
        (Rendered.mk s renderSize (.ok report) s').DrawsInto name c (buffers c) ∧
        (Rendered.mk s renderSize (.ok report) s').SamplesFirst name (buffers v) := by
  cases h with
  | @intro begun ready drawn rested reports hbegun hready hdraws hback hdevice =>
      have hsound := hs.of_ready hbegun hready
      have hdeclares' := hdeclares.of_blank_eq
        (prepares_of_ok hs.consistent hs.wellFormed hbegun hready).1.blank
      obtain ⟨program, shots, rfl, hdrawn, htold⟩ :=
        told_of_completes hbegun hready hdraws hdevice
      refine ⟨ready, readies_of_ok hs hdeclares hsize hbegun hready, hsound, ?_⟩
      intro buffers c v hholds
      have hsettled : Holds name (.renderTarget size float) buffers v c
          { rested with
            scene := rested.scene.advance now
            document := rested.document.settle } :=
        hholds.completes hsound hdeclares' hback
      refine ⟨hsettled,
        hdrawn.drawsInto hsound hholds hdeclares' rfl ?_ (hsettled.buffer? c (by simp)),
        hdrawn.samplesFirst hsound hholds hdeclares' rfl ?_⟩
      all_goals exact (Rendered.draws_eq htold).trans (draws_shots program _ shots)

end Studio

namespace Session

/-! ### Two buffers that take turns -/

/-- **Two buffers of a persistent target take turns** in the frames of a session: the `n`-th
complete frame draws into `W n`, and the next one samples it. -/
structure PingPong (device : Device σ) (d : Descriptor) (name : String) (W : Nat → Handle)
    (buffers : Handle → Buffer) (frames : List (Rendered σ)) : Prop where
  ne : ∀ n, W (n + 1) ≠ W n
  again : ∀ n, W (n + 2) = W n
  draws : ∀ (n : Nat) (r : Rendered σ), (completed frames)[n]? = some r →
    r.DrawsInto name (W n) (buffers (W n))
  samples : ∀ (n : Nat) (r : Rendered σ), (completed frames)[n + 1]? = some r →
    r.SamplesFirst name (buffers (W n))
  /-- All frames together acquire these two buffers and no others, or none as long as no frame was
  completed. -/
  acquired : ∃ hs, Acquired device d name frames hs ∧
    (completed frames = [] ∧ hs = [] ∨ hs.Perm [W 0, W 1])
  /-- Which buffer is drawn into next, and which is sampled, depends only on how many frames were
  completed. -/
  next : ∀ (i : Nat) (r : Rendered σ), frames[i]? = some r →
    r.before.document.stored name =
        [W (completed (frames.take i)).length, W ((completed (frames.take i)).length + 1)] ∨
      (completed (frames.take i)).length = 0 ∧ r.before.document.stored name = []
  /-- A frame that fails does not change it. -/
  kept : ∀ r ∈ frames, r.isComplete = false → r.before.document.stored name ≠ [] →
    r.after.document.stored name = r.before.document.stored name

/-- Two handles in turn. -/
def alternate (c v : Handle) : Nat → Handle
  | 0 => c
  | 1 => v
  | n + 2 => alternate c v n

theorem alternate_ne {c v : Handle} (h : c ≠ v) :
    ∀ n, alternate c v (n + 1) ≠ alternate c v n
  | 0 => h.symm
  | 1 => h
  | n + 2 => alternate_ne h n

/-- One frame more. -/
theorem completed_concat (frames : List (Rendered σ)) (r : Rendered σ) :
    completed (frames ++ [r]) = completed frames ++ if r.isComplete then [r] else [] := by
  unfold completed
  rw [List.filter_append, List.filter_singleton]
  cases r.isComplete <;> rfl

/-- No frame was completed while there were no buffers. -/
theorem completed_of_failed {name : String} {frames : List (Rendered σ)}
    (failed : ∀ r ∈ frames, r.LeavesBare name) : completed frames = [] := by
  refine List.filter_eq_nil_iff.2 ?_
  intro r hr
  simp [(failed r hr).failed]

/-! ### One frame more -/

namespace PingPong

variable {device : Device σ} {d : Descriptor} {name : String} {W : Nat → Handle}
  {buffers : Handle → Buffer} {frames : List (Rendered σ)} {r : Rendered σ}

/-- Buffers take turns as long as there are none. -/
theorem of_none {c v : Handle} (hne : c ≠ v) (buffers : Handle → Buffer)
    (failed : ∀ r ∈ frames, r.LeavesBare name) (hacquired : Acquired device d name frames []) :
    PingPong device d name (alternate c v) buffers frames := by
  have hnone := completed_of_failed failed
  refine ⟨alternate_ne hne, fun _ => rfl, fun n r hr => ?_, fun n r hr => ?_,
    ⟨[], hacquired, Or.inl ⟨hnone, rfl⟩⟩, fun i r hr => Or.inr ⟨?_, ?_⟩,
    fun r hr _ hbefore => absurd (failed r hr).before hbefore⟩
  · rw [hnone] at hr
    cases hr
  · rw [hnone] at hr
    cases hr
  · rw [completed_of_failed fun r hr => failed r (List.mem_of_mem_take hr)]
    rfl
  · exact (failed r (List.mem_of_getElem? hr)).before

/-- **Buffers go on taking turns in one frame more**, if it finds the two buffers where they should
be, draws into the first and samples the second one if it is completed, and leaves them alone if it
fails. -/
theorem concat (h : PingPong device d name W buffers frames)
    (hnext : r.before.document.stored name =
        [W (completed frames).length, W ((completed frames).length + 1)] ∨
      (completed frames).length = 0 ∧ r.before.document.stored name = [])
    (hdraws : r.isComplete = true →
      r.DrawsInto name (W (completed frames).length) (buffers (W (completed frames).length)) ∧
        r.SamplesFirst name (buffers (W ((completed frames).length + 1))))
    (hkept : r.isComplete = false → r.before.document.stored name ≠ [] →
      r.after.document.stored name = r.before.document.stored name)
    {hs : List Handle} (hacquired : Acquired device d name (frames ++ [r]) hs)
    (hperm : hs.Perm [W 0, W 1]) : PingPong device d name W buffers (frames ++ [r]) := by
  -- a complete frame of the longer list is one of the shorter list, or the new one
  have hcases {n : Nat} {x : Rendered σ} (hx : (completed (frames ++ [r]))[n]? = some x) :
      (completed frames)[n]? = some x ∨
        n = (completed frames).length ∧ x = r ∧ r.isComplete = true := by
    rw [completed_concat] at hx
    cases hcomplete : r.isComplete with
    | true =>
        rw [hcomplete] at hx
        rcases getElem?_concat_cases hx with h | ⟨hn, rfl⟩
        · exact Or.inl h
        · exact Or.inr ⟨hn, rfl, rfl⟩
    | false =>
        rw [hcomplete] at hx
        simp only [Bool.false_eq_true, if_false, List.append_nil] at hx
        exact Or.inl hx
  refine ⟨h.ne, h.again, fun n x hx => ?_, fun n x hx => ?_, ⟨hs, hacquired, Or.inr hperm⟩,
    fun i x hx => ?_, fun x hx hfailed hbefore => ?_⟩
  · rcases hcases hx with hx | ⟨rfl, rfl, hcomplete⟩
    · exact h.draws n x hx
    · exact (hdraws hcomplete).1
  · rcases hcases hx with hx | ⟨hn, rfl, hcomplete⟩
    · exact h.samples n x hx
    · rw [← h.again n, show n + 2 = (completed frames).length + 1 by rw [← hn]]
      exact (hdraws hcomplete).2
  · rcases getElem?_concat_cases hx with hx | ⟨rfl, rfl⟩
    · have hi := (List.getElem?_eq_some_iff.1 hx).1
      rw [List.take_append_of_le_length hi.le]
      exact h.next i x hx
    · rw [List.take_left]
      exact hnext
  · rcases List.mem_append.1 hx with hx | hx
    · exact h.kept x hx hfailed hbefore
    · obtain rfl := List.mem_singleton.1 hx
      exact hkept hfailed hbefore

end PingPong

/-! ### How far a target has come -/

/-- A target that holds two buffers before and after a frame has got no others. -/
theorem eq_nil_of_stored {name : String} {d : Descriptor} {buffers : Handle → Buffer}
    {c v : Handle} {s : Studio (Observed σ)} {stored new : List Handle}
    (holds : Studio.Holds name d buffers c v s) (hstored : stored.Perm [c, v])
    (hnew : (s.document.stored name ++ new).Perm stored) : new = [] := by
  have hlength := (hnew.trans hstored).length_eq
  rw [List.length_append, holds.stored] at hlength
  exact List.length_eq_zero_iff.1 (Nat.add_left_cancel hlength)

/-- How far a persistent target has come: it has no buffers yet, and no frame was completed, or it
has two that take turns. -/
inductive Phase (device : Device σ) (name : String) (d : Descriptor) (frames : List (Rendered σ))
    (s : Studio (Observed σ)) : Prop where
  | none (failed : ∀ r ∈ frames, r.LeavesBare name) (stored : s.document.stored name = [])
    (acquired : Acquired device d name frames []) : Phase device name d frames s
  | two (W : Nat → Handle) (buffers : Handle → Buffer)
    (turns : PingPong device d name W buffers frames) (hs : List Handle)
    (acquired : Acquired device d name frames hs) (perm : hs.Perm [W 0, W 1])
    (holds : Studio.Holds name d buffers (W (completed frames).length)
      (W ((completed frames).length + 1)) s) : Phase device name d frames s

namespace Phase

variable {device : Device σ} {name : String} {d : Descriptor} {frames : List (Rendered σ)}
  {s s' : Studio (Observed σ)}

/-- The buffers take turns in all phases. -/
theorem exists_pingPong (h : Phase device name d frames s) :
    ∃ W buffers, PingPong device d name W buffers frames := by
  cases h with
  | none failed stored acquired =>
      have hne : (⟨0⟩ : Handle) ≠ ⟨1⟩ := by decide
      exact ⟨_, _, PingPong.of_none hne (fun _ => ⟨0⟩) failed acquired⟩
  | two W buffers turns => exact ⟨W, buffers, turns⟩

/-- In all phases the target holds nothing, or two buffers. -/
theorem holds (h : Phase device name d frames s) :
    s.document.stored name = [] ∨ ∃ buffers c v, Studio.Holds name d buffers c v s := by
  cases h with
  | none failed stored => exact Or.inl stored
  | two W buffers turns hs acquired perm holds => exact Or.inr ⟨_, _, _, holds⟩

/-- **A frame that is completed** brings the two buffers, or finds them, and exchanges them. -/
theorem concat_completed {r : Rendered σ} {ready : Studio (Observed σ)}
    (h : Phase device name d frames r.before) (hcomplete : r.isComplete = true)
    (hreadies : Studio.Readies name d r.before ready) (hready : ready.Sound)
    (hdraws : ∀ buffers c v, Studio.Holds name d buffers c v ready →
      Studio.Holds name d buffers v c r.after ∧ r.DrawsInto name c (buffers c) ∧
        r.SamplesFirst name (buffers v))
    {new : List Handle} (hacquires : r.Acquires device d name new)
    (hnew : (r.before.document.stored name ++ new).Perm (r.after.document.stored name)) :
    Phase device name d (frames ++ [r]) r.after := by
  have hcompleted : completed (frames ++ [r]) = completed frames ++ [r] := by
    rw [completed_concat, if_pos hcomplete]
  have hkept : r.isComplete = false → r.before.document.stored name ≠ [] →
      r.after.document.stored name = r.before.document.stored name := by
    rw [hcomplete]
    intro hfailed
    cases hfailed
  cases h with
  | none failed stored acquired =>
      obtain ⟨buffers, c, v, hholds⟩ := hreadies.holds
      have hne := hholds.ne hready.consistent hready.kept_le
      obtain ⟨hholds', hinto, hfirst⟩ := hdraws buffers c v hholds
      have hnone := completed_of_failed failed
      -- the first complete frame gets both buffers, and leaves them exchanged
      have hperm : new.Perm [c, v] := by
        rw [stored, List.nil_append, hholds'.stored] at hnew
        exact hnew.trans (.swap c v [])
      refine .two (alternate c v) buffers ((PingPong.of_none hne buffers failed acquired).concat
        ?_ ?_ hkept (acquired.concat hacquires) hperm) new (acquired.concat hacquires) hperm ?_
      · rw [hnone]
        exact Or.inr ⟨rfl, stored⟩
      · rw [hnone]
        exact fun _ => ⟨hinto, hfirst⟩
      · rw [hcompleted, hnone]
        exact hholds'
  | two W buffers turns hs acquired perm holds =>
      obtain ⟨hholds', hinto, hfirst⟩ := hdraws _ _ _ (hreadies.keeps _ _ _ holds)
      have hnothing : new = [] := eq_nil_of_stored holds (hholds'.stored ▸ .swap _ _ []) hnew
      have hacquired : Acquired device d name (frames ++ [r]) hs :=
        acquired.concat_nil (hnothing ▸ hacquires)
      refine .two W buffers (turns.concat (Or.inl holds.stored) (fun _ => ⟨hinto, hfirst⟩) hkept
        hacquired perm) hs hacquired perm ?_
      rw [hcompleted, List.length_append, List.length_singleton, turns.again]
      exact hholds'

/-- **A frame that fails** brings the two buffers, or leaves them as they are. -/
theorem concat_failed {r : Rendered σ} (h : Phase device name d frames r.before)
    (hfailed : r.isComplete = false) (hafter : r.after.Sound)
    (hfails : (r.after.document.stored name = r.before.document.stored name ∧
        ∀ buffers c v, Studio.Holds name d buffers c v r.before →
          Studio.Holds name d buffers c v r.after) ∨ Studio.Readies name d r.before r.after)
    {new : List Handle} (hacquires : r.Acquires device d name new)
    (hnew : (r.before.document.stored name ++ new).Perm (r.after.document.stored name)) :
    Phase device name d (frames ++ [r]) r.after := by
  have hcompleted : completed (frames ++ [r]) = completed frames := by
    rw [completed_concat, hfailed]
    exact List.append_nil _
  have hdraws {P : Prop} : r.isComplete = true → P := by
    rw [hfailed]
    intro hcomplete
    cases hcomplete
  cases h with
  | none failed stored acquired =>
      rw [stored, List.nil_append] at hnew
      rcases hfails with ⟨hstored, -⟩ | hreadies
      · have hbare := hstored.trans stored
        rw [hbare, List.perm_nil] at hnew
        subst hnew
        refine .none (List.forall_mem_append.2 ⟨failed, ?_⟩) hbare (acquired.concat hacquires)
        exact List.forall_mem_singleton.2 ⟨hfailed, stored, hbare⟩
      · obtain ⟨buffers, c, v, hholds⟩ := hreadies.holds
        have hne := hholds.ne hafter.consistent hafter.kept_le
        have hnone := completed_of_failed failed
        -- a frame that fails while it draws has got both buffers before
        have hperm : new.Perm [c, v] := by rwa [hholds.stored] at hnew
        refine .two (alternate c v) buffers ((PingPong.of_none hne buffers failed acquired).concat
          ?_ hdraws (fun _ hbefore => absurd stored hbefore) (acquired.concat hacquires) hperm) new
          (acquired.concat hacquires) hperm ?_
        · rw [hnone]
          exact Or.inr ⟨rfl, stored⟩
        · rw [hcompleted, hnone]
          exact hholds
  | two W buffers turns hs acquired perm holds =>
      have hholds : Studio.Holds name d buffers (W (completed frames).length)
          (W ((completed frames).length + 1)) r.after := by
        rcases hfails with ⟨-, hkeeps⟩ | hreadies
        · exact hkeeps _ _ _ holds
        · exact hreadies.keeps _ _ _ holds
      have hnothing : new = [] := eq_nil_of_stored holds (.of_eq hholds.stored) hnew
      have hacquired : Acquired device d name (frames ++ [r]) hs :=
        acquired.concat_nil (hnothing ▸ hacquires)
      refine .two W buffers (turns.concat (Or.inl holds.stored) hdraws
        (fun _ _ => hholds.stored.trans holds.stored.symm) hacquired perm) hs hacquired perm ?_
      rw [hcompleted]
      exact hholds

/-- What happens between frames changes nothing. -/
theorem keeps (h : Phase device name d frames s) (hkeeps : Keeps s s') (hs : s.Sound) :
    Phase device name d frames s' := by
  cases h with
  | none failed stored acquired =>
      exact .none failed ((hkeeps.stored name).trans stored) acquired
  | two W buffers turns handles acquired perm holds =>
      exact .two W buffers turns handles acquired perm (hkeeps.holds hs holds)

end Phase

/-! ### Whole sessions -/

section Runs

variable {device : Device σ} {s : Session σ} {name : String} {size : Size} {float : Bool}

/-- **What a turn does to a persistent target** of which the size does not change. -/
theorem phase_turn (h : Phase device name (.renderTarget size float) s.frames s.studio)
    (hs : s.studio.Sound) (hdeclares : s.studio.document.Declares name float) {a : Turn}
    (hallocated : ¬ (turn device s a).studio.supply.device.HasRefused)
    (hsize : ∀ r ∈ (turn device s a).frames,
      ∀ z ∈ r.before.document.sizeIn? name r.renderSize, z = size) :
    Phase device name (.renderTarget size float) (turn device s a).frames
      (turn device s a).studio := by
  have hsound := (sound_turn hs hallocated).1
  by_cases ha : ∃ now renderSize, a = .frame now renderSize
  · obtain ⟨now, renderSize, rfl⟩ := ha
    rw [turn_frame] at hallocated hsize hsound ⊢
    dsimp only at hallocated hsize hsound ⊢
    have hsize' := hsize _ (List.mem_append_right _ (List.mem_singleton_self _))
    obtain ⟨new, hacquires, hnew⟩ :=
      exists_acquires device now hs hdeclares (by simpa using hsize') h.holds hallocated
    rcases ofFrame_cases device hs now renderSize with
      ⟨report, s', hcompletes, heq⟩ | ⟨failure, s', hfails, heq⟩
    · rw [heq] at hsize' hacquires hnew ⊢
      obtain ⟨ready, hreadies, hready, hdraws⟩ := hcompletes.draws hs hdeclares hsize'
      exact h.concat_completed rfl hreadies hready hdraws hacquires hnew
    · rw [heq] at hallocated hsize' hsound hacquires hnew ⊢
      exact h.concat_failed rfl hsound (hfails.holds hs hdeclares hsize' hallocated) hacquires hnew
  · obtain ⟨hkeeps, hframes⟩ :=
      keeps_turn device hs fun now renderSize h => ha ⟨now, renderSize, h⟩
    rw [hframes]
    exact h.keeps hkeeps hs

/-- Turns only add frames. -/
theorem frames_subset_turn (device : Device σ) (s : Session σ) (a : Turn) :
    s.frames ⊆ (turn device s a).frames := by
  cases a with
  | frame now renderSize => exact List.subset_append_left _ _
  | change name change => exact List.Subset.refl _
  | configure settings => exact List.Subset.refl _
  | elsewhere op =>
      rw [turn]
      split <;> exact List.Subset.refl _

/-- A session starts with a studio that is as it should be, and nothing is held. -/
theorem sound_start {d : Document} (hd : d.Opened) (settings : SceneSettings) (started : Nat)
    (pool : PoolSettings) (state : σ) : (start d settings started pool state).studio.Sound := by
  obtain ⟨hwell, hfresh⟩ := hd.spec
  obtain ⟨hrests, hheld⟩ := hfresh.held_eq
  refine ⟨consistent_ofSettings pool, hwell, hrests, ?_⟩
  show d.held ≤ _
  rw [hheld]
  exact Multiset.zero_le _

/-- **What is true after all turns** of a session in which the device does not refuse a buffer. -/
theorem phase_after (hs : s.studio.Sound) (hdeclares : s.studio.document.Declares name float)
    (h : Phase device name (.renderTarget size float) s.frames s.studio) (turns : List Turn)
    (hallocated : ¬ (after device turns s).studio.supply.device.HasRefused)
    (hsize : ∀ r ∈ (after device turns s).frames,
      ∀ z ∈ r.before.document.sizeIn? name r.renderSize, z = size) :
    (after device turns s).studio.Sound ∧
      (after device turns s).studio.document.Declares name float ∧
      Phase device name (.renderTarget size float) (after device turns s).frames
        (after device turns s).studio := by
  -- the turns are taken off at the end; what was not refused in all of them was not refused before
  induction turns using List.reverseRecOn with
  | nil => exact ⟨hs, hdeclares, h⟩
  | append_singleton turns a ih =>
      rw [after_concat] at hallocated hsize ⊢
      obtain ⟨hs', hdeclares', h'⟩ := ih
        (fun hrefused => hallocated ((adds_turn device _ a).hasRefused hrefused))
        (fun r hr => hsize r (frames_subset_turn device _ a hr))
      obtain ⟨hsound, hblank⟩ := sound_turn hs' hallocated
      exact ⟨hsound, hdeclares'.of_blank_eq hblank, phase_turn h' hs' hdeclares' hallocated hsize⟩

end Runs

/-- **The two buffers of a persistent target take turns in every session** in which the device does
not refuse a buffer and the target keeps its size. -/
theorem buffers_take_turns (device : Device σ) (d : {d : Document // d.Opened})
    (settings : SceneSettings) (started : Nat) (pool : PoolSettings) (state : σ)
    (turns : List Turn) {name : String} (hname : name ∈ d.1.passes.persistent.map Target.name)
    {size : Size}
    (hallocated : ¬ (after device turns
      (start d.1 settings started pool state)).studio.supply.device.HasRefused)
    (hsize : ∀ r ∈ (after device turns (start d.1 settings started pool state)).frames,
      ∀ z ∈ r.before.document.sizeIn? name r.renderSize, z = size) :
    ∃ float W buffers, PingPong device (.renderTarget size float) name W buffers
      (after device turns (start d.1 settings started pool state)).frames := by
  obtain ⟨t, ht, rfl⟩ := List.mem_map.1 hname
  have hs := sound_start d.2 settings started pool state
  have hstored : d.1.stored t.name = [] := by
    rw [d.2.spec.1.stored_eq ht, ← d.2.spec.2.targets t (List.mem_append_left _ ht)]
    rfl
  have hnone : Phase device t.name (.renderTarget size t.float)
      (start d.1 settings started pool state).frames
      (start d.1 settings started pool state).studio :=
    .none (fun _ hr => absurd hr List.not_mem_nil) hstored acquired_nil
  exact ⟨t.float,
    (phase_after hs ⟨t, ht, rfl, rfl⟩ hnone turns hallocated hsize).2.2.exists_pingPong⟩

/-- Three frames with housekeeping between them; the second one fails, as no program can be written
for it. -/
def feedbackTurns : List Turn :=
  [.frame (.ofNanoseconds 0) ⟨8, 8⟩, .elsewhere .housekeep, .configure ⟨.unknown, false⟩,
    .frame (.ofNanoseconds 1) ⟨8, 8⟩, .configure .standard, .frame (.ofNanoseconds 2) ⟨8, 8⟩]

/-- The session with these turns. -/
def feedbackSession : Session Recorder :=
  after Recorder.device feedbackTurns
    (start (Document.ofTextsLenient feedbackText none "/").2 .standard 0 .standard Recorder.fresh)

/-- **A session with a frame that fails**: its complete frames use two buffers in turn. -/
theorem buffers_take_turns_feedback :
    feedbackSession.frames.map Rendered.isComplete = [true, false, true] ∧
      ∃ float W buffers, PingPong Recorder.device (.renderTarget ⟨8, 8⟩ float) "a" W buffers
        feedbackSession.frames := by
  have hcomplete : feedbackSession.frames.map Rendered.isComplete = [true, false, true] := by
    decide +kernel
  have hname : "a" ∈ (Document.ofTextsLenient feedbackText none "/").2.passes.persistent.map
      Target.name := by
    decide +kernel
  have hallocated : ¬ feedbackSession.studio.supply.device.HasRefused := by decide +kernel
  have hsize : ∀ r ∈ feedbackSession.frames,
      ∀ z ∈ r.before.document.sizeIn? "a" r.renderSize, z = ⟨8, 8⟩ := by
    decide +kernel
  exact ⟨hcomplete, buffers_take_turns Recorder.device
    ⟨_, .ofTextsLenient feedbackText none "/"⟩ .standard 0 .standard Recorder.fresh feedbackTurns
    hname hallocated hsize⟩

end Session

end ShaderEffect
