/-
**Hosts.**

A host runs scenes on one device.  Scenes, documents and pools are numbered from zero in the order
in which they came.  Several scenes can render one document; the document remembers the scene that
took it last.

Main definitions:

* `ShaderEffect.Host` — a device with pools, documents and scenes;
* `ShaderEffect.Host.addScene`, `ShaderEffect.Host.shareScene` — new scenes;
* `ShaderEffect.Host.inStudio`, `ShaderEffect.Host.inSupply` — work on a scene, and on a pool.
-/

import ShaderEffect.Scene.Frame

set_option autoImplicit false

namespace ShaderEffect

/-- A scene of a host. -/
structure HostedScene where
  scene : Scene
  /-- The number of the document it renders. -/
  document : Nat

/-- A device with pools, documents and scenes. -/
structure Host (σ : Type) where
  device : σ
  pools : List Pool
  documents : List Document
  scenes : List HostedScene

namespace Host

variable {σ : Type}

/-- A host without scenes, with a pool for each of these settings. -/
def ofSettings (device : σ) (settings : List PoolSettings) : Host σ :=
  ⟨device, settings.map Pool.ofSettings, [], []⟩

/-! ### Documents -/

/-- The document that a scene renders. -/
def document? (h : Host σ) (scene : Nat) : Option Document :=
  (h.scenes[scene]?).bind fun s => h.documents[s.document]?

/-- Changes the document that a scene renders. -/
def setDocument (h : Host σ) (scene : Nat) (d : Document) : Host σ :=
  match h.scenes[scene]? with
  | some s => { h with documents := h.documents.set s.document d }
  | none => h

/-! ### New scenes -/

/-- A new scene that renders a new document. -/
def addScene (h : Host σ) (d : Document) (settings : SceneSettings) (started : Nat) : Host σ :=
  { h with
    documents := h.documents ++ [{ d with parent := some h.scenes.length }]
    scenes := h.scenes ++ [⟨.ofSettings settings started, h.documents.length⟩] }

/-- A new scene that renders the document of another scene, too. -/
def shareScene (h : Host σ) (other : Nat) (settings : SceneSettings) (started : Nat) :
    Option (Host σ) :=
  match h.scenes[other]?, h.document? other with
  | some s, some d =>
    let h := h.setDocument other { d with parent := some h.scenes.length }
    some { h with scenes := h.scenes ++ [⟨.ofSettings settings started, s.document⟩] }
  | _, _ => none

/-- Changes the settings of a scene; its program is compiled anew with the next frame. -/
def configure (h : Host σ) (scene : Nat) (f : SceneSettings → SceneSettings) : Host σ :=
  { h with scenes := h.scenes.modify scene fun s =>
      { s with scene := { s.scene with settings := f s.scene.settings } } }

/-! ### Work -/

/-- A pool with the device. -/
def supply? (h : Host σ) (pool : Nat) : Option (Supply σ) :=
  (h.pools[pool]?).map fun p => ⟨p, h.device⟩

/-- Puts a pool and the device back. -/
def setSupply (h : Host σ) (pool : Nat) (s : Supply σ) : Host σ :=
  { h with device := s.device, pools := h.pools.set pool s.pool }

/-- A scene with its document and a pool. -/
def studio? (h : Host σ) (scene pool : Nat) : Option (Studio σ) :=
  match h.scenes[scene]?, h.document? scene, h.supply? pool with
  | some s, some d, some supply => some ⟨s.scene, d, supply⟩
  | _, _, _ => none

/-- Puts a scene, its document and a pool back. -/
def setStudio (h : Host σ) (scene pool : Nat) (s : Studio σ) : Host σ :=
  let h := (h.setDocument scene s.document).setSupply pool s.supply
  { h with scenes := h.scenes.modify scene fun hosted => { hosted with scene := s.scene } }

/-- Works on a pool; `none` if there is no such pool. -/
def inSupply {α : Type} (h : Host σ) (pool : Nat) (work : EStateM Failure (Supply σ) α) :
    Option (Except Failure α × Host σ) :=
  match h.supply? pool with
  | none => none
  | some s =>
    match work s with
    | .ok a s => some (.ok a, h.setSupply pool s)
    | .error failure s => some (.error failure, h.setSupply pool s)

/-- Works on a scene with a pool; `none` if there is no such scene or no such pool. -/
def inStudio {α : Type} (h : Host σ) (scene pool : Nat) (work : Work σ α) :
    Option (Except Failure α × Host σ) :=
  match h.studio? scene pool with
  | none => none
  | some s =>
    match work s with
    | .ok a s => some (.ok a, h.setStudio scene pool s)
    | .error failure s => some (.error failure, h.setStudio scene pool s)

end Host

end ShaderEffect
