/-
**Rendering a frame.**

A frame gives the targets their sizes, loads imported images, compiles the program if what it
depends on has changed, sees to it that persistent targets have buffers of the right size, and draws
the passes.  Temporary targets have buffers only while passes are drawn, and give them back whatever
happens.  Only a complete frame exchanges the buffers of persistent targets, ends events, and
counts.

Main definitions:

* `ShaderEffect.eachOf` — work on the members of a list, in order, up to the first failure;
* `ShaderEffect.Studio.prepare` — everything before drawing;
* `ShaderEffect.Studio.drawPasses` — drawing the passes;
* `ShaderEffect.Studio.renderFrame` — a frame;
* `ShaderEffect.Studio.releaseBuffers` — giving back all buffers of a document.
-/

import ShaderEffect.Scene.Draw

set_option autoImplicit false

namespace ShaderEffect

variable {σ : Type}

/-! ### Work on lists -/

/-- Works on the members of a list in order.  After a failure the rest of them stays as it is. -/
def eachOf {ε α τ : Type} (work : EStateM ε (α × τ) Unit) : EStateM ε (List α × τ) Unit
  | ([], s) => .ok () ([], s)
  | (a :: as, s) =>
    match work (a, s) with
    | .error e (a, s) => .error e (a :: as, s)
    | .ok _ (a, s) =>
      match eachOf work (as, s) with
      | .error e (as, s) => .error e (a :: as, s)
      | .ok _ (as, s) => .ok () (a :: as, s)

/-! ### Single parameters and targets -/

/-- Loads an imported image that has no buffer yet. -/
def loadImport (device : Device σ) : EStateM Failure (Parameter × Supply σ) Unit
  | (p, s) =>
    match p.importPath, p.current.binding? with
    | some path, none =>
      match device.loadImage path s.device with
      | .error fault state => .error (.fileIo path fault) (p, { s with device := state })
      | .ok (b, d) state =>
        let (h, pool) := s.pool.adopt d b
        match p.bind (some ⟨h, d, false⟩) with
        | .error failure => .error failure (p, ⟨pool, state⟩)
        | .ok p => .ok () (p, ⟨pool, state⟩)
    | _, _ => .ok () (p, s)

/-- The buffer in a slot if it has the right descriptor, or else another one. -/
def refreshSlot (device : Device σ) (slot : Option Handle) (d : Descriptor) :
    EStateM Failure (Supply σ) Handle :=
  match slot with
  | none => Supply.acquire device d
  | some h => do
    if (← get).pool.descriptor? h = some d then return h
    Supply.releaseHeld h
    Supply.acquire device d

/-- Gives a persistent target two buffers of its size. -/
def ensureBuffers (device : Device σ) : EStateM Failure (Target × Supply σ) Unit
  | (t, s) =>
    match t.descriptor? with
    | none => .ok () (t, s)
    | some d =>
      match refreshSlot device t.current d s with
      | .error failure s => .error failure (t, s)
      | .ok current s =>
        let t := { t with current := some current }
        match refreshSlot device t.previous d s with
        | .error failure s => .error failure (t, s)
        | .ok previous s => .ok () ({ t with previous := some previous }, s)

/-- Takes the buffers of a target away and gives them back. -/
def releaseTarget : EStateM Failure (Target × Supply σ) Unit
  | (t, s) =>
    match Supply.releaseAll t.buffers s with
    | .error failure s => .error failure (t.withoutBuffers, s)
    | .ok _ s => .ok () (t.withoutBuffers, s)

/-- The parameter after a complete frame: an event is over. -/
def Parameter.settle (p : Parameter) : Parameter :=
  if p.current = .event true then { p with current := .event false } else p

namespace Document

/-- The document with the parameters changed. -/
def withParameters (d : Document) (ps : List Parameter) : Document := { d with parameters := ps }

/-- The document with the persistent targets changed. -/
def withPersistent (d : Document) (ts : List Target) : Document :=
  { d with passes := { d.passes with persistent := ts } }

/-- The document with the temporary targets changed. -/
def withTemporary (d : Document) (ts : List Target) : Document :=
  { d with passes := { d.passes with temporary := ts } }

/-- The document with the targets of a name changed. -/
def mapTarget (d : Document) (name : String) (f : Target → Target) : Document :=
  let change (t : Target) : Target := if t.name = name then f t else t
  { d with passes := { d.passes with
      persistent := d.passes.persistent.map change
      temporary := d.passes.temporary.map change } }

/-- The first pass from `index` on whose target is not declared. -/
def undeclaredPass? (d : Document) (index : Nat) : List String → Option (Nat × String)
  | [] => none
  | name :: rest =>
    if name ≠ "" ∧ (d.target? name).isNone then some (index, name)
    else d.undeclaredPass? (index + 1) rest

/-- The document after a complete frame. -/
def settle (d : Document) : Document :=
  (d.withPersistent (d.passes.persistent.map Target.swap)).withParameters
    (d.parameters.map Parameter.settle)

end Document

namespace Studio

/-! ### Parts of a studio -/

/-- Works on the buffers alone. -/
def onSupply {α : Type} (work : EStateM Failure (Supply σ) α) : Work σ α := fun s =>
  match work s.supply with
  | .error failure supply => .error failure { s with supply := supply }
  | .ok a supply => .ok a { s with supply := supply }

/-- Works on the parameters one by one. -/
def onParameters (work : EStateM Failure (Parameter × Supply σ) Unit) : Work σ Unit := fun s =>
  match eachOf work (s.document.parameters, s.supply) with
  | .error failure (ps, supply) =>
    .error failure { s with document := s.document.withParameters ps, supply := supply }
  | .ok _ (ps, supply) =>
    .ok () { s with document := s.document.withParameters ps, supply := supply }

/-- Works on the persistent targets one by one. -/
def onPersistent (work : EStateM Failure (Target × Supply σ) Unit) : Work σ Unit := fun s =>
  match eachOf work (s.document.passes.persistent, s.supply) with
  | .error failure (ts, supply) =>
    .error failure { s with document := s.document.withPersistent ts, supply := supply }
  | .ok _ (ts, supply) =>
    .ok () { s with document := s.document.withPersistent ts, supply := supply }

/-- Works on the temporary targets one by one. -/
def onTemporary (work : EStateM Failure (Target × Supply σ) Unit) : Work σ Unit := fun s =>
  match eachOf work (s.document.passes.temporary, s.supply) with
  | .error failure (ts, supply) =>
    .error failure { s with document := s.document.withTemporary ts, supply := supply }
  | .ok _ (ts, supply) =>
    .ok () { s with document := s.document.withTemporary ts, supply := supply }

/-! ### Before drawing -/

/-- Refuses a document that could not be read. -/
def checkLoaded : Work σ Unit := fun s =>
  match s.document.failure with
  | some failure =>
    .error (.configuration (.notLoaded s.document.name failure.display)) s
  | none => .ok () s

/-- Gives the targets their sizes. -/
def resize (renderSize : Size) : Work σ Unit := fun s =>
  match s.document.resize renderSize with
  | .error failure => .error failure s
  | .ok d => .ok () { s with document := d }

/-- Refuses a pass whose target is not declared. -/
def checkPasses : Work σ Unit := fun s =>
  match s.document.undeclaredPass? 0 s.document.passes.order with
  | some (index, name) => .error (.configuration (.undeclaredTarget index name)) s
  | none => .ok () s

/-- What the program of the scene depends on. -/
def programKey (s : Studio σ) : ProgramKey := ⟨s.scene.settings, s.document.textureTypes⟩

/-- Whether the program of the scene is still the right one. -/
def hasProgram (s : Studio σ) : Bool :=
  match s.scene.compiled with
  | some c => c.key = s.programKey
  | none => false

/-- Compiles the program of the scene anew. -/
def compile (device : Device σ) : Work σ Unit := fun s =>
  match s.document.generate s.scene.settings with
  | .error failure => .error failure s
  | .ok source =>
    match device.compile source s.supply.device with
    | .error reason state =>
      .error (.device (.compile s.document.name reason))
        { s with supply := { s.supply with device := state } }
    | .ok program state =>
      .ok () { s with
        scene := { s.scene with compiled := some ⟨s.programKey, program, source⟩ }
        supply := { s.supply with device := state } }

/-- Compiles the program of the scene, unless it is still the right one. -/
def ensureProgram (device : Device σ) : Work σ Unit := fun s =>
  if s.hasProgram then .ok () s else compile device s

/-- Everything before drawing. -/
def prepare (device : Device σ) (renderSize : Size) : Work σ Unit := do
  checkLoaded
  resize renderSize
  checkPasses
  onParameters (loadImport device)
  ensureProgram device
  onPersistent (ensureBuffers device)

/-! ### Drawing -/

/-- Gives a temporary target that has no buffer one of a size. -/
def lendBuffer (device : Device σ) (t : Target) (size : Size) : Work σ (Option Handle) :=
  if !t.persistent && t.current.isNone then do
    let h ← onSupply (Supply.acquire device (.renderTarget size t.float))
    modify fun s =>
      { s with document := s.document.mapTarget t.name fun t => { t with current := some h } }
    return some h
  else return t.current

/-- The buffer and the size of the target of a pass. -/
def passTarget (device : Device σ) (renderSize : Size) (index : Nat) (name : String) :
    Work σ (Option Handle × Size) := do
  if name = "" then return (none, renderSize)
  match (← get).document.target? name with
  | none => throw (.configuration (.undeclaredTarget index name))
  | some t =>
    let size := t.size.getD renderSize
    let h ← lendBuffer device t size
    return (h, size)

/-- The buffer behind the handle of a pass. -/
def passBuffer (name : String) (handle : Option Handle) : Work σ (Option Buffer) := do
  match handle with
  | none => return none
  | some h =>
    match (← get).supply.pool.buffer? h with
    | none => throw (.configuration (.notPooled h name))
    | some b => return some b

/-- Tells the device what a pass does. -/
def perform (device : Device σ) (program : Program) (clock : Clock) (pass : Pass) : Work σ Unit :=
  modify fun s =>
    let commands := s.document.passCommands s.supply.pool program clock pass
    { s with supply := { s.supply with
        device := device.performAll commands s.supply.device } }

/-- Draws a pass after passes that drew into the targets in `written`. -/
def drawPass (device : Device σ) (program : Program) (clock : Clock) (renderSize : Size)
    (index : Nat) (name : String) (written : List String) : Work σ PassReport := do
  let (handle, size) ← passTarget device renderSize index name
  let buffer ← passBuffer name handle
  perform device program clock ⟨index, buffer, size, written⟩
  return ⟨index, name, size, handle⟩

/-- Draws passes, numbered from `index`, after passes that drew into the targets in `written`. -/
def drawFrom (device : Device σ) (program : Program) (clock : Clock) (renderSize : Size)
    (index : Nat) (written : List String) : List String → Work σ (List PassReport)
  | [] => return []
  | name :: rest => do
    let report ← drawPass device program clock renderSize index name written
    let written := if name = "" then written else name :: written
    let reports ← drawFrom device program clock renderSize (index + 1) written rest
    return report :: reports

/-- Draws the passes. -/
def drawPasses (device : Device σ) (clock : Clock) (renderSize : Size) :
    Work σ (List PassReport) := do
  let s ← get
  match s.scene.compiled with
  | none => throw (.configuration .noProgram)
  | some c => drawFrom device c.program clock renderSize 0 [] s.document.passes.order

/-- Gives back the buffers of temporary targets after some work, whatever comes of it.  A failure of
the work counts more than one of giving back. -/
def thenReleaseTemporary {α : Type} (work : Work σ α) : Work σ α := fun s =>
  match work s with
  | .error failure s =>
    match onTemporary releaseTarget s with
    | .error _ s => .error failure s
    | .ok _ s => .error failure s
  | .ok a s =>
    match onTemporary releaseTarget s with
    | .error failure s => .error failure s
    | .ok _ s => .ok a s

/-! ### Frames -/

/-- What a complete frame changes. -/
def settle (now : Moment) : Work σ Unit :=
  modify fun s => { s with scene := s.scene.advance now, document := s.document.settle }

/-- Renders a frame. -/
def renderFrame (device : Device σ) (now : Moment) (renderSize : Size) : Work σ FrameReport := do
  prepare device renderSize
  let clock := (← get).scene.clock now
  let passes ← thenReleaseTemporary (drawPasses device clock renderSize)
  settle now
  return ⟨clock.frameIndex, passes⟩

/-! ### Giving everything back -/

/-- The buffers that the targets and the imported images of a document hold. -/
def heldBuffers (d : Document) : List Handle :=
  d.passes.targets.flatMap Target.buffers ++
    d.imageImports.filterMap fun p => p.current.binding?.map Binding.handle

/-- The document without the buffers of its targets and of its imported images. -/
def withoutBuffers (d : Document) : Document :=
  let unbind (p : Parameter) : Parameter :=
    if p.isImport then { p with current := (Value.ofBinding? none p.kind).getD p.current } else p
  { d with
    parameters := d.parameters.map unbind
    passes := { d.passes with
      persistent := d.passes.persistent.map Target.withoutBuffers
      temporary := d.passes.temporary.map Target.withoutBuffers } }

/-- Takes all buffers away from the document and gives back those that are handed out. -/
def releaseBuffers : Work σ Unit := do
  let held := heldBuffers (← get).document
  modify fun s => { s with document := withoutBuffers s.document }
  onSupply (Supply.releaseAllHeld held)

end Studio

end ShaderEffect
