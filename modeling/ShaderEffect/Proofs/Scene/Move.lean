/-
**Everything that can happen to a scene and its document.**

A session in which the pool is left alone is one thing; in general hosts change imported images as
well as inputs, give all buffers back, go on with another pool, or let another scene render the same
document, and others use the pool as they like, even clear it.  Whatever happens, the pool stays
consistent, the document stays well formed, all values stay of their kinds, and no temporary target
holds a buffer between frames.

Main definitions:

* `ShaderEffect.Move` — **what can happen**;
* `ShaderEffect.Session.move`, `ShaderEffect.Session.moved` — what is left after it;
* `ShaderEffect.Studio.Steady` — what is true of a studio between any two moves.

Main results:

* `ShaderEffect.Studio.Steady.ofFrame` — a frame leaves it true, however it goes;
* `ShaderEffect.Session.steady_move`, `ShaderEffect.Session.steady_moved` — **so does every move,
  and all moves**.
-/

import ShaderEffect.Proofs.Scene.Loading
import ShaderEffect.Proofs.Scene.Session

set_option autoImplicit false

namespace ShaderEffect

open Supply

variable {σ : Type}

/-- Something that happens to a scene, its document or the pool. -/
inductive Move where
  /-- The scene renders a frame. -/
  | frame (now : Moment) (renderSize : Size)
  /-- Another scene renders a frame of the same document. -/
  | visit (other : Scene) (now : Moment) (renderSize : Size)
  /-- The host changes a parameter. -/
  | change (name : String) (change : InputChange)
  /-- The host changes the settings of the scene. -/
  | configure (settings : SceneSettings)
  /-- The host gives the targets sizes. -/
  | resize (renderSize : Size)
  /-- The scene gives all its buffers back. -/
  | releaseBuffers
  /-- Housekeeping, or something that anybody does with the pool. -/
  | elsewhere (op : Supply.Operation)
  /-- The scene goes on with another pool. -/
  | switch (pool : {p : Pool // p.Consistent})

namespace Session

/-- What is left after a move. -/
def move (device : Device σ) (s : Session σ) : Move → Session σ
  | .frame now renderSize =>
    let r := Rendered.ofFrame device now renderSize s.studio
    ⟨r.after, s.frames ++ [r]⟩
  | .visit other now renderSize =>
    let r := Rendered.ofFrame device now renderSize { s.studio with scene := other }
    { s with studio := { r.after with scene := s.studio.scene } }
  | .change name change =>
    { s with studio := { s.studio with document := s.studio.document.alter name change } }
  | .configure settings =>
    { s with studio := { s.studio with
        scene := { s.studio.scene with settings := settings } } }
  | .resize renderSize =>
    match s.studio.document.resize renderSize with
    | .error _ => s
    | .ok d => { s with studio := { s.studio with document := d } }
  | .releaseBuffers => { s with studio := remains (Studio.releaseBuffers s.studio) }
  | .elsewhere op =>
    { s with studio := { s.studio with
        supply := op.perform device.observed s.studio.supply } }
  | .switch pool =>
    { s with studio := { s.studio with supply := { s.studio.supply with pool := pool.1 } } }

/-- What is left after moves, one after the other. -/
def moved (device : Device σ) (moves : List Move) (s : Session σ) : Session σ :=
  moves.foldl (move device) s

theorem move_frame (device : Device σ) (s : Session σ) (now : Moment) (renderSize : Size) :
    move device s (.frame now renderSize) =
      ⟨(Rendered.ofFrame device now renderSize s.studio).after,
        s.frames ++ [Rendered.ofFrame device now renderSize s.studio]⟩ :=
  rfl

theorem moved_concat (device : Device σ) (moves : List Move) (m : Move) (s : Session σ) :
    moved device (moves ++ [m]) s = move device (moved device moves s) m := by
  simp [moved]

end Session

/-! ### What is always true -/

namespace Studio

/-- What is true of a studio between any two moves. -/
structure Steady (s : Studio σ) : Prop where
  consistent : s.supply.pool.Consistent
  wellFormed : s.document.WellFormed
  rests : s.document.Rests
  typed : s.document.Typed

/-- Giving everything back takes all buffers away from the document. -/
theorem document_releaseBuffers (s : Studio σ) :
    (remains (Studio.releaseBuffers s)).document = withoutBuffers s.document ∧
      (remains (Studio.releaseBuffers s)).scene = s.scene := by
  show (remains (onSupply (Supply.releaseAllHeld (heldBuffers s.document))
    { s with document := withoutBuffers s.document })).document = _ ∧
    (remains (onSupply (Supply.releaseAllHeld (heldBuffers s.document))
      { s with document := withoutBuffers s.document })).scene = _
  unfold onSupply
  dsimp only
  cases Supply.releaseAllHeld (heldBuffers s.document) s.supply <;> exact ⟨rfl, rfl⟩

namespace Steady

variable {s : Studio σ}

/-- What the scene is like does not matter, and neither does the device. -/
theorem congr {t : Studio σ} (hs : s.Steady) (hdocument : t.document = s.document)
    (hpool : t.supply.pool.Consistent) : t.Steady :=
  ⟨hpool, hdocument ▸ hs.wellFormed, hdocument ▸ hs.rests, hdocument ▸ hs.typed⟩

/-- **A frame leaves the studio steady, however it goes**, and the document declares the same. -/
theorem ofFrame {s : Studio (Observed σ)} (hs : s.Steady) (device : Device σ) (now : Moment)
    (renderSize : Size) :
    (Rendered.ofFrame device now renderSize s).after.Steady ∧
      (Rendered.ofFrame device now renderSize s).after.document.blank = s.document.blank := by
  have hframes := Rendered.ofFrame_of_ends (frames_renderFrame device.observed now renderSize
    hs.consistent hs.wellFormed hs.rests)
  have htyped := Rendered.ofFrame_of_ends (typed_renderFrame device.observed now renderSize
    hs.consistent hs.wellFormed hs.rests hs.typed)
  exact ⟨⟨hframes.trades.consistent, hs.wellFormed.of_blank_eq hframes.blank, hframes.rests,
      htyped⟩,
    hframes.blank⟩

/-- Giving everything back leaves the studio steady, and the document declares the same. -/
theorem releaseBuffers (hs : s.Steady) :
    (remains (Studio.releaseBuffers s)).Steady ∧
      (remains (Studio.releaseBuffers s)).document.blank = s.document.blank := by
  have hends := ends_releaseBuffers hs.consistent hs.wellFormed
  have hdocument := (document_releaseBuffers s).1
  rcases hr : Studio.releaseBuffers s with ⟨_, t⟩ | ⟨failure, t⟩
  · rw [hr] at hends hdocument
    obtain ⟨hframes, -, -⟩ := hends
    refine ⟨⟨hframes.trades.consistent, hs.wellFormed.of_blank_eq hframes.blank, hframes.rests, ?_⟩,
      hframes.blank⟩
    show t.document.Typed
    rw [show t.document = _ from hdocument]
    exact hs.typed.withoutBuffers
  · rw [hr] at hends
    exact hends.elim

end Steady

end Studio

namespace Session

variable (device : Device σ) {s : Session σ}

/-- **Every move leaves the studio steady**, and the document declares the same. -/
theorem steady_move (hs : s.studio.Steady) (m : Move) :
    (move device s m).studio.Steady ∧
      (move device s m).studio.document.blank = s.studio.document.blank := by
  cases m with
  | frame now renderSize => exact hs.ofFrame device now renderSize
  | visit other now renderSize =>
      have hother : Studio.Steady { s.studio with scene := other } := hs.congr rfl hs.consistent
      obtain ⟨hafter, hblank⟩ := hother.ofFrame device now renderSize
      exact ⟨hafter.congr rfl hafter.consistent, hblank⟩
  | change name change =>
      have hblank := Document.blank_alter s.studio.document name change
      refine ⟨⟨hs.consistent, hs.wellFormed.of_blank_eq hblank, ?_, hs.typed.alter name change⟩,
        hblank⟩
      show Document.Rests (s.studio.document.alter name change)
      unfold Document.Rests
      rw [Document.passes_alter]
      exact hs.rests
  | configure settings => exact ⟨hs.congr rfl hs.consistent, rfl⟩
  | resize renderSize =>
      rw [move]
      cases hresize : s.studio.document.resize renderSize with
      | error failure => exact ⟨hs, rfl⟩
      | ok d =>
          have hblank := Document.blank_resize hresize
          refine ⟨⟨hs.consistent, hs.wellFormed.of_blank_eq hblank,
            hs.rests.congr (Document.slots_resize hresize).2, ?_⟩, hblank⟩
          obtain ⟨_, _, -, -, rfl⟩ := Document.resize_eq_ok_iff.1 hresize
          exact hs.typed
  | releaseBuffers => exact hs.releaseBuffers
  | elsewhere op => exact ⟨hs.congr rfl (consistent_perform device.observed hs.consistent op), rfl⟩
  | switch pool => exact ⟨hs.congr rfl pool.2, rfl⟩

/-- A session starts with a steady studio. -/
theorem steady_start {d : Document} (hd : d.Opened) (settings : SceneSettings) (started : Nat)
    (pool : PoolSettings) (state : σ) : (start d settings started pool state).studio.Steady :=
  ⟨Pool.consistent_ofSettings pool, hd.spec.1, hd.spec.2.held_eq.1, hd.typed⟩

/-- **All moves leave the studio steady**, and the document declares the same. -/
theorem steady_moved (hs : s.studio.Steady) (moves : List Move) :
    (moved device moves s).studio.Steady ∧
      (moved device moves s).studio.document.blank = s.studio.document.blank := by
  -- the moves are taken off at the end, where the last one meets a steady studio
  induction moves using List.reverseRecOn with
  | nil => exact ⟨hs, rfl⟩
  | append_singleton moves m ih =>
      obtain ⟨hsteady, hblank⟩ := ih
      rw [moved_concat]
      obtain ⟨hsteady', hblank'⟩ := steady_move device hsteady m
      exact ⟨hsteady', hblank'.trans hblank⟩

/-- Moves add calls. -/
theorem adds_move (s : Session σ) (m : Move) :
    Observed.Adds (fun _ => True) s.studio.supply.device
      (move device s m).studio.supply.device := by
  have hframe := Rendered.adds_ofFrame device
  cases m with
  | frame now renderSize => exact hframe now renderSize s.studio
  | visit other now renderSize => exact hframe now renderSize { s.studio with scene := other }
  | change name change => exact .refl _
  | configure settings => exact .refl _
  | resize renderSize =>
      rw [move]
      cases s.studio.document.resize renderSize <;> exact .refl _
  | releaseBuffers =>
      rw [move, kept_device.releaseBuffers s.studio]
      exact .refl _
  | elsewhere op => exact op.adds_perform device _
  | switch pool => exact .refl _

end Session

end ShaderEffect
