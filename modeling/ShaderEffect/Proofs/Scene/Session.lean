/-
**Sessions.**

A scene renders frame after frame.  Between frames its host changes inputs and settings, and others
use the pool, but they leave the buffers of the document alone.  A session remembers how each frame
went, and what the scene, the document, the pool and the device were like before and after it.

Main definitions:

* `ShaderEffect.Rendered` — **a frame that was rendered**, with what it drew;
* `ShaderEffect.Turn`, `ShaderEffect.Session` — what happens in a session, and what is left;
* `ShaderEffect.Supply.Operation.spares` — operations of others that leave some buffers alone.

Main results:

* `ShaderEffect.Supply.Operation.exists_trades` — **others exchange handles of their own**;
* `ShaderEffect.Session.keeps_turn` — what happens between frames leaves documents alone;
* `ShaderEffect.Session.sound_turn` — **nothing is lost unless the device refuses a buffer**.
-/

import ShaderEffect.Proofs.Document.Change
import ShaderEffect.Proofs.Scene.Shots
import ShaderEffect.Proofs.Scene.Slots

set_option autoImplicit false

namespace ShaderEffect

open Pool Observed

variable {σ : Type}

/-! ### Others -/

namespace Supply

/-- Whether an operation leaves some buffers alone. -/
def Operation.spares (held : List Handle) : Operation → Bool
  | .release h => h ∉ held
  | .clear => false
  | _ => true

/-- **Others exchange handles of their own**, which are not among those that they leave alone. -/
theorem Operation.exists_trades (device : Device σ) {s : Supply σ} (hs : s.pool.Consistent)
    {op : Operation} {held : List Handle} (hle : (held : Multiset Handle) ≤ s.pool.used)
    (hspares : op.spares held = true) :
    ∃ before after, Trades s.pool before (op.perform device s).pool after ∧
      before + held ≤ s.pool.used := by
  have hnone : 0 + (held : Multiset Handle) ≤ s.pool.used := by
    rw [zero_add]
    exact hle
  cases op with
  | acquire d =>
      have hends := ends_acquire device hs d
      rw [perform]
      rcases hr : Supply.acquire device d s with ⟨h, s'⟩ | ⟨failure, s'⟩
      · rw [hr] at hends
        exact ⟨0, {h}, hends.1, hnone⟩
      · rw [hr] at hends
        refine ⟨0, 0, ?_, hnone⟩
        show Trades s.pool 0 s'.pool 0
        rw [show s'.pool = s.pool from hends]
        exact Trades.refl hs 0
  | adopt d b => exact ⟨0, _, trades_adopt hs d b, hnone⟩
  | release h =>
      have hnot : h ∉ held := by simpa [spares] using hspares
      rw [perform, Supply.release]
      cases hr : s.pool.release h with
      | error failure => exact ⟨0, 0, Trades.refl hs 0, hnone⟩
      | ok p =>
          -- the handle that goes back is handed out, and is none of those that are held
          refine ⟨{h}, 0, trades_release hs hr, ?_⟩
          obtain ⟨e, he, hu, -⟩ := release_eq_ok_iff.1 hr
          obtain ⟨hnodup, huse⟩ := (le_used_iff hs).1 hle
          rw [Multiset.singleton_add, Multiset.cons_coe, le_used_iff hs]
          exact ⟨List.nodup_cons.2 ⟨hnot, hnodup⟩,
            List.forall_mem_cons.2 ⟨isInUse_iff.2 ⟨e, he, hu⟩, huse⟩⟩
  | housekeep => exact ⟨0, 0, trades_evict hs 0, hnone⟩
  | clear => cases hspares

/-- Others add calls. -/
theorem Operation.adds_perform (device : Device σ) (op : Operation) (s : Supply (Observed σ)) :
    Adds (fun _ => True) s.device (op.perform device.observed s).device := by
  cases op with
  | acquire d => exact adds_acquire device d (fun _ => trivial) s
  | adopt d b => exact .refl _
  | release h =>
      rw [perform, Supply.release]
      cases s.pool.release h <;> exact .refl _
  | housekeep => exact adds_destroyAll device (fun _ => trivial) _ _
  | clear => exact adds_destroyAll device (fun _ => trivial) _ _

end Supply

/-! ### Frames -/

/-- A frame that was rendered. -/
structure Rendered (σ : Type) where
  before : Studio (Observed σ)
  renderSize : Size
  outcome : Except Failure FrameReport
  after : Studio (Observed σ)

namespace Rendered

/-- A frame as it is rendered. -/
def ofFrame (device : Device σ) (now : Moment) (renderSize : Size) (s : Studio (Observed σ)) :
    Rendered σ :=
  match Studio.renderFrame device.observed now renderSize s with
  | .ok report s' => ⟨s, renderSize, .ok report, s'⟩
  | .error failure s' => ⟨s, renderSize, .error failure, s'⟩

/-- **A frame goes in one of two ways**: it is completed, or it fails. -/
theorem goes (device : Device σ) (now : Moment) (renderSize : Size) {s : Studio (Observed σ)}
    (hs : s.supply.pool.Consistent) (hd : s.document.WellFormed) (hrests : s.document.Rests) :
    (∃ report s', Studio.Completes device.observed now renderSize s report s' ∧
      ofFrame device now renderSize s = ⟨s, renderSize, .ok report, s'⟩) ∨
    ∃ failure s', Studio.Fails device.observed now renderSize s failure s' ∧
      ofFrame device now renderSize s = ⟨s, renderSize, .error failure, s'⟩ := by
  have hends := Studio.ends_renderFrame device.observed now renderSize hs hd hrests
  unfold ofFrame
  rcases hr : Studio.renderFrame device.observed now renderSize s with
    ⟨report, s'⟩ | ⟨failure, s'⟩
  · rw [hr] at hends
    exact Or.inl ⟨report, s', hends, rfl⟩
  · rw [hr] at hends
    exact Or.inr ⟨failure, s', hends, rfl⟩

/-- What is true of a frame however it goes. -/
theorem ofFrame_of_ends {device : Device σ} {now : Moment} {renderSize : Size}
    {s : Studio (Observed σ)} {P : Studio (Observed σ) → Prop}
    (h : Ends (fun _ s' => P s') (fun _ s' => P s')
      (Studio.renderFrame device.observed now renderSize s)) :
    P (ofFrame device now renderSize s).after := by
  unfold ofFrame
  rcases hr : Studio.renderFrame device.observed now renderSize s with
    ⟨report, s'⟩ | ⟨failure, s'⟩
  all_goals
    rw [hr] at h
    exact h

@[simp] theorem before_ofFrame (device : Device σ) (now : Moment) (renderSize : Size)
    (s : Studio (Observed σ)) : (ofFrame device now renderSize s).before = s := by
  unfold ofFrame
  cases Studio.renderFrame device.observed now renderSize s <;> rfl

@[simp] theorem renderSize_ofFrame (device : Device σ) (now : Moment) (renderSize : Size)
    (s : Studio (Observed σ)) : (ofFrame device now renderSize s).renderSize = renderSize := by
  unfold ofFrame
  cases Studio.renderFrame device.observed now renderSize s <;> rfl

/-- What is left of a frame is what rendering leaves. -/
theorem after_ofFrame (device : Device σ) (now : Moment) (renderSize : Size)
    (s : Studio (Observed σ)) : (ofFrame device now renderSize s).after =
      Supply.remains (Studio.renderFrame device.observed now renderSize s) := by
  unfold ofFrame
  cases Studio.renderFrame device.observed now renderSize s <;> rfl

/-- Frames add calls. -/
theorem adds_ofFrame (device : Device σ) (now : Moment) (renderSize : Size)
    (s : Studio (Observed σ)) :
    Adds (fun _ => True) s.supply.device
      (ofFrame device now renderSize s).after.supply.device := by
  rw [after_ofFrame]
  exact Studio.adds_renderFrame device now renderSize s

/-- Whether the frame was completed. -/
def isComplete (r : Rendered σ) : Bool :=
  match r.outcome with
  | .ok _ => true
  | .error _ => false

/-- The passes that a complete frame reports. -/
def passes (r : Rendered σ) : List PassReport :=
  match r.outcome with
  | .ok report => report.passes
  | .error _ => []

/-- What the device was told, cut behind each draw. -/
def draws (r : Rendered σ) : List (List Command) :=
  ShaderEffect.draws ((r.after.supply.device.calls.drop
    r.before.supply.device.calls.length).filterMap DeviceCall.command?)

end Rendered

/-! ### Turns -/

/-- Something that happens in a session. -/
inductive Turn where
  /-- A frame is rendered. -/
  | frame (now : Moment) (renderSize : Size)
  /-- The host changes an input. -/
  | change (name : String) (change : InputChange)
  /-- The host changes the settings of the scene. -/
  | configure (settings : SceneSettings)
  /-- Housekeeping, or something that others do with the pool. -/
  | elsewhere (op : Supply.Operation)

/-- A scene with its document and the pool, and the frames that it has rendered. -/
structure Session (σ : Type) where
  studio : Studio (Observed σ)
  frames : List (Rendered σ)

namespace Session

/-- A new scene with an empty pool. -/
def start (d : Document) (settings : SceneSettings) (started : Nat) (pool : PoolSettings)
    (state : σ) : Session σ :=
  ⟨⟨.ofSettings settings started, d, ⟨.ofSettings pool, ⟨state, []⟩⟩⟩, []⟩

/-- What is left after a turn.  Others do not touch the buffers of the document. -/
def turn (device : Device σ) (s : Session σ) : Turn → Session σ
  | .frame now renderSize =>
    let r := Rendered.ofFrame device now renderSize s.studio
    ⟨r.after, s.frames ++ [r]⟩
  | .change name change =>
    { s with studio := { s.studio with
        document := s.studio.document.changeInput name change } }
  | .configure settings =>
    { s with studio := { s.studio with
        scene := { s.studio.scene with settings := settings } } }
  | .elsewhere op =>
    if op.spares (Studio.heldBuffers s.studio.document) then
      { s with studio := { s.studio with
          supply := op.perform device.observed s.studio.supply } }
    else s

/-- What is left after turns, one after the other. -/
def after (device : Device σ) (turns : List Turn) (s : Session σ) : Session σ :=
  turns.foldl (turn device) s

theorem turn_frame (device : Device σ) (s : Session σ) (now : Moment) (renderSize : Size) :
    turn device s (.frame now renderSize) =
      ⟨(Rendered.ofFrame device now renderSize s.studio).after,
        s.frames ++ [Rendered.ofFrame device now renderSize s.studio]⟩ :=
  rfl

theorem after_concat (device : Device σ) (turns : List Turn) (a : Turn) (s : Session σ) :
    after device (turns ++ [a]) s = turn device (after device turns s) a := by
  simp [after]

/-- The complete frames of a session. -/
def completed (frames : List (Rendered σ)) : List (Rendered σ) := frames.filter Rendered.isComplete

/-! ### What turns leave behind -/

/-- What happens between frames: persistent targets hold what they held, and it is known as
before. -/
structure Keeps (s s' : Studio (Observed σ)) : Prop where
  blank : s'.document.blank = s.document.blank
  passes : s'.document.passes = s.document.passes
  imported : s'.document.imported = s.document.imported
  trades : ∃ before after, Trades s.supply.pool before s'.supply.pool after ∧
    before + s.document.held ≤ s.supply.pool.used

namespace Keeps

variable {s s' : Studio (Observed σ)}

theorem of_pool_eq (hs : s.Sound) (hblank : s'.document.blank = s.document.blank)
    (hpasses : s'.document.passes = s.document.passes)
    (himported : s'.document.imported = s.document.imported)
    (hpool : s'.supply.pool = s.supply.pool) : Keeps s s' := by
  refine ⟨hblank, hpasses, himported, 0, 0, ?_, ?_⟩
  · rw [hpool]
    exact Trades.refl hs.consistent 0
  · rw [zero_add]
    exact hs.held

/-- The studio is as it should be. -/
theorem sound (h : Keeps s s') (hs : s.Sound) : s'.Sound := by
  obtain ⟨before, after, htrades, hle⟩ := h.trades
  refine ⟨htrades.consistent, hs.wellFormed.of_blank_eq h.blank, ?_, ?_⟩
  · unfold Document.Rests
    rw [h.passes]
    exact hs.rests
  · have hheld : s'.document.held = s.document.held := by
      rw [Document.held, Document.kept, Document.lent, h.imported, h.passes]
      rfl
    rw [hheld]
    exact (Multiset.le_add_left _ _).trans ((htrades.add_right _).used_le hle)

theorem stored (h : Keeps s s') (name : String) :
    s'.document.stored name = s.document.stored name := by
  rw [Document.stored, h.passes]
  rfl

/-- A persistent target holds the same two buffers. -/
theorem holds (h : Keeps s s') (hs : s.Sound) {name : String} {d : Descriptor}
    {buffers : Handle → Buffer} {c v : Handle} (hholds : Studio.Holds name d buffers c v s) :
    Studio.Holds name d buffers c v s' := by
  obtain ⟨before, after, htrades, hle⟩ := h.trades
  refine hholds.of_trades (h.stored name) htrades (le_trans (add_le_add_right ?_ _) hle)
  rw [hs.rests.held_eq]
  exact Multiset.le_add_right _ _

end Keeps

variable (device : Device σ) {s : Session σ}

/-- **What happens between frames leaves the document alone.** -/
theorem keeps_turn (hs : s.studio.Sound) {a : Turn} (ha : ∀ now size, a ≠ .frame now size) :
    Keeps s.studio (turn device s a).studio ∧ (turn device s a).frames = s.frames := by
  have hrefl : Keeps s.studio s.studio := .of_pool_eq hs rfl rfl rfl rfl
  cases a with
  | frame now size => exact absurd rfl (ha now size)
  | change name change =>
      refine ⟨.of_pool_eq hs ?_ ?_ ?_ rfl, rfl⟩
      · exact Document.blank_changeInput hs.wellFormed name change
      · exact Document.passes_changeInput _ name change
      · exact Document.imported_changeInput hs.wellFormed name change
  | configure settings => exact ⟨.of_pool_eq hs rfl rfl rfl rfl, rfl⟩
  | elsewhere op =>
      unfold turn
      dsimp only
      by_cases hspares : op.spares (Studio.heldBuffers s.studio.document) = true
      · rw [if_pos hspares]
        have hheld := hs.held
        rw [← Document.coe_heldBuffers] at hheld
        obtain ⟨before, after, htrades, hle⟩ :=
          op.exists_trades device.observed hs.consistent hheld hspares
        rw [Document.coe_heldBuffers] at hle
        exact ⟨⟨rfl, rfl, rfl, before, after, htrades, hle⟩, rfl⟩
      · rw [if_neg hspares]
        exact ⟨hrefl, rfl⟩

/-- A frame goes in one of two ways. -/
theorem ofFrame_cases (hs : s.studio.Sound) (now : Moment) (renderSize : Size) :
    (∃ report s', Studio.Completes device.observed now renderSize s.studio report s' ∧
      Rendered.ofFrame device now renderSize s.studio = ⟨s.studio, renderSize, .ok report, s'⟩) ∨
    ∃ failure s', Studio.Fails device.observed now renderSize s.studio failure s' ∧
      Rendered.ofFrame device now renderSize s.studio =
        ⟨s.studio, renderSize, .error failure, s'⟩ :=
  Rendered.goes device now renderSize hs.consistent hs.wellFormed hs.rests

/-- Turns add calls. -/
theorem adds_turn (s : Session σ) (a : Turn) :
    Adds (fun _ => True) s.studio.supply.device (turn device s a).studio.supply.device := by
  cases a with
  | frame now renderSize => exact Rendered.adds_ofFrame device now renderSize s.studio
  | change name change => exact .refl _
  | configure settings => exact .refl _
  | elsewhere op =>
      rw [turn]
      split
      · exact op.adds_perform device _
      · exact .refl _

/-- **Nothing is lost unless the device refuses a buffer**: the studio is as it should be after a
turn, and declares the same. -/
theorem sound_turn {device : Device σ} (hs : s.studio.Sound) {a : Turn}
    (hrefused : ¬ (turn device s a).studio.supply.device.HasRefused) :
    (turn device s a).studio.Sound ∧
      (turn device s a).studio.document.blank = s.studio.document.blank := by
  by_cases ha : ∃ now size, a = .frame now size
  · obtain ⟨now, size, rfl⟩ := ha
    rw [turn_frame] at hrefused ⊢
    rcases ofFrame_cases device hs now size with
      ⟨report, s', hcompletes, heq⟩ | ⟨failure, s', hfails, heq⟩
    · rw [heq]
      have hframes := hcompletes.frames hs.consistent hs.wellFormed hs.rests
      exact ⟨hs.frames hframes, hframes.blank⟩
    · rw [heq] at hrefused ⊢
      have hframes := hfails.frames hs.consistent hs.wellFormed hs.rests
      rw [hfails.stranded?_eq_none hs hrefused] at hframes
      exact ⟨hs.frames hframes, hframes.blank⟩
  · have hkeeps := (keeps_turn device hs fun now size h => ha ⟨now, size, h⟩).1
    exact ⟨hkeeps.sound hs, hkeeps.blank⟩

end Session

end ShaderEffect
