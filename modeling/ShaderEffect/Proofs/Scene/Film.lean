/-
**The passes of a frame, one by one.**

Whatever becomes of a frame, each draw that it performed can be repeated up to the moment before the
device was told: prepare the frame, draw the passes before, and look for the buffer of the pass.
What stands in the document and in the pool at that moment is what the commands of the draw were
made from.

Main definitions:

* `ShaderEffect.Studio.shotAt` — **a frame up to a pass**, and the pass as it is about to be drawn;
* `ShaderEffect.Studio.Films` — the passes that a frame has drawn.

Main results:

* `ShaderEffect.Rendered.exists_films` — **every draw of a frame is one of its passes**, whether the
  frame was completed or not;
* `ShaderEffect.Studio.Films.shotAt_eq` — which is what it is up to that pass;
* `ShaderEffect.Studio.Films.onlyLends`, `ShaderEffect.Studio.Films.document` — what a pass finds.
-/

import ShaderEffect.Proofs.Scene.Move
import ShaderEffect.Proofs.Scene.PingPong

set_option autoImplicit false

namespace ShaderEffect

open Pool Observed

variable {σ : Type}

namespace Studio

/-! ### Repeating passes -/

section

variable {device : Device σ} {program : Program} {clock : Clock} {renderSize : Size}
  {s s' : Studio σ}

/-- A pass finds its buffer again. -/
theorem Lending.passTarget_eq {name : String} {r : Option Handle × Size}
    (h : Lending device renderSize name s r s') (index : Nat) :
    passTarget device renderSize index name s = .ok r s' := by
  unfold passTarget
  cases h with
  | output hname =>
      rw [if_pos hname]
      rfl
  | found t hname ht hbuffer =>
      have hlend : ¬ (!t.persistent && t.current.isNone) = true := by
        rcases hbuffer with h | h <;> simp [h]
      rw [if_neg hname]
      refine (bind_of_ok (x := get) rfl).trans ?_
      rw [ht]
      dsimp only
      unfold lendBuffer
      rw [if_neg hlend]
      rfl
  | lent t k supply hname ht hp hc hacquire =>
      rw [if_neg hname]
      refine (bind_of_ok (x := get) rfl).trans ?_
      rw [ht]
      dsimp only
      unfold lendBuffer
      rw [if_pos (by simp [hp, hc])]
      have hsupply :
          onSupply (Supply.acquire device (.renderTarget (t.size.getD renderSize) t.float))
          s = .ok k { s with supply := supply } := by
        unfold onSupply
        rw [hacquire]
      rw [bind_assoc, bind_of_ok hsupply]
      rfl

/-- The buffer behind a handle is looked up again. -/
theorem passBuffer_eq {handle : Option Handle} {buffer : Option Buffer} (name : String)
    (h : Option.Rel (fun h b => s.supply.pool.buffer? h = some b) handle buffer) :
    passBuffer name handle s = .ok buffer s := by
  unfold passBuffer
  cases h with
  | none => rfl
  | some hb =>
      refine (bind_of_ok (x := get) rfl).trans ?_
      rw [hb]
      rfl

/-- Passes that were drawn are drawn again. -/
theorem Drawn.drawFrom_eq {index : Nat} {written names : List String} {shots : List Shot}
    (h : Drawn device program clock renderSize index written names s shots s') :
    drawFrom device program clock renderSize index written names s =
      .ok (shots.map Shot.report) s' := by
  induction h with
  | nil => rfl
  | @cons index written rest name s s₁ s₂ handle buffer size shot shots hlending hbuffer hshot _
      ih =>
      have hpass : drawPass device program clock renderSize index name written s =
          .ok shot.report (s₁.afterShot device program clock shot) := by
        refine (bind_of_ok (hlending.passTarget_eq index)).trans ?_
        refine (bind_of_ok (passBuffer_eq name hbuffer)).trans ?_
        rw [hshot]
        rfl
      refine (bind_of_ok hpass).trans ?_
      exact (bind_of_ok ih).trans rfl

end

/-! ### A frame up to a pass -/

/-- **A frame up to a pass**, and the pass as it is about to be drawn. -/
def shotAt (device : Device σ) (now : Moment) (renderSize : Size) (i : Nat) : Work σ Shot := do
  prepare device renderSize
  let ready ← get
  let order := ready.document.passes.order
  match ready.scene.compiled, order[i]? with
  | some c, some name =>
    let _ ← drawFrom device c.program (ready.scene.clock now) renderSize 0 [] (order.take i)
    let (handle, size) ← passTarget device renderSize i name
    let buffer ← passBuffer name handle
    let s ← get
    return ⟨s.document, s.supply.pool, ⟨i, buffer, size, (order.take i).foldl writtenAfter []⟩,
      ⟨i, name, size, handle⟩⟩
  | _, _ => throw (.configuration .noProgram)

/-- The passes that a frame has drawn, up to the last one or to one that could not be drawn. -/
structure Films (device : Device σ) (now : Moment) (renderSize : Size)
    (s begun ready : Studio σ) (c : CompiledProgram) (shots : List Shot) : Prop where
  begins : untilBuffers device renderSize s = .ok () begun
  readies : onPersistent (ensureBuffers device) begun = .ok () ready
  compiled : ready.scene.compiled = some c
  drawn : ∃ done drawn, done <+: ready.document.passes.order ∧
    Drawn device c.program (ready.scene.clock now) renderSize 0 [] done ready shots drawn

namespace Films

variable {device : Device σ} {now : Moment} {renderSize : Size} {s begun ready : Studio σ}
  {c : CompiledProgram} {shots : List Shot}

theorem prepare_eq (h : Films device now renderSize s begun ready c shots) :
    prepare device renderSize s = .ok () ready := by
  rw [Studio.prepare_eq]
  exact (bind_of_ok h.begins).trans h.readies

/-- How each pass was drawn. -/
theorem exists_before (h : Films device now renderSize s begun ready c shots) {i : Nat}
    {shot : Shot} (hi : shots[i]? = some shot) :
    ∃ s₀ s₁ name handle buffer size,
      Drawn device c.program (ready.scene.clock now) renderSize 0 []
        (ready.document.passes.order.take i) ready (shots.take i) s₀ ∧
      Lending device renderSize name s₀ (handle, size) s₁ ∧
      ready.document.passes.order[i]? = some name ∧
      Option.Rel (fun h b => s₁.supply.pool.buffer? h = some b) handle buffer ∧
      shot = ⟨s₁.document, s₁.supply.pool,
        ⟨i, buffer, size, (ready.document.passes.order.take i).foldl writtenAfter []⟩,
        ⟨i, name, size, handle⟩⟩ := by
  obtain ⟨done, drawn, hdone, hdrawn⟩ := h.drawn
  obtain ⟨s₀, s₁, name, handle, buffer, size, hbefore, hlending, hname, hbuffer, hshot⟩ :=
    hdrawn.exists_before hi
  -- the passes that were drawn are the first ones of all
  have hlt : i < done.length := (List.getElem?_eq_some_iff.1 hname).1
  have htake : done.take i = ready.document.passes.order.take i := by
    obtain ⟨rest, hrest⟩ := hdone
    rw [← hrest, List.take_append_of_le_length hlt.le]
  have hget : ready.document.passes.order[i]? = some name := by
    obtain ⟨rest, hrest⟩ := hdone
    rw [← hrest, List.getElem?_append_left hlt, hname]
  rw [htake] at hbefore hshot
  rw [Nat.zero_add] at hshot
  exact ⟨s₀, s₁, name, handle, buffer, size, hbefore, hlending, hget, hbuffer, hshot⟩

/-- **A pass that was drawn is what it is up to that pass.** -/
theorem shotAt_eq (h : Films device now renderSize s begun ready c shots) {i : Nat} {shot : Shot}
    (hi : shots[i]? = some shot) :
    ∃ s', shotAt device now renderSize i s = .ok shot s' := by
  obtain ⟨s₀, s₁, name, handle, buffer, size, hbefore, hlending, hname, hbuffer, rfl⟩ :=
    h.exists_before hi
  refine ⟨s₁, ?_⟩
  refine (bind_of_ok h.prepare_eq).trans ?_
  refine (bind_of_ok (x := get) rfl).trans ?_
  dsimp only
  rw [h.compiled, hname]
  dsimp only
  refine (bind_of_ok hbefore.drawFrom_eq).trans ?_
  refine (bind_of_ok (hlending.passTarget_eq i)).trans ?_
  exact (bind_of_ok (passBuffer_eq name hbuffer)).trans rfl

/-- What a frame has prepared. -/
theorem prepares (h : Films device now renderSize s begun ready c shots)
    (hs : s.supply.pool.Consistent) (hd : s.document.WellFormed) : Prepares none s ready :=
  (prepares_of_ok hs hd h.begins h.readies).1

/-- **A pass finds what was ready, but for what has been lent to temporary targets.** -/
theorem onlyLends (h : Films device now renderSize s begun ready c shots)
    (hs : s.supply.pool.Consistent) (hd : s.document.WellFormed) {i : Nat} {shot : Shot}
    (hi : shots[i]? = some shot) :
    ∃ t, OnlyLends ready t ∧ shot.document = t.document ∧ shot.pool = t.supply.pool := by
  have hprepares := h.prepares hs hd
  have hready := hd.of_blank_eq hprepares.blank
  obtain ⟨s₀, s₁, name, handle, buffer, size, hbefore, hlending, -, -, rfl⟩ := h.exists_before hi
  have hfirst := hbefore.onlyLends hprepares.trades.consistent hready
  have hthen := hlending.onlyLends hfirst.trades.consistent (hready.of_blank_eq hfirst.blank)
  exact ⟨s₁, hfirst.trans hthen, rfl, rfl⟩

/-- **The document that a pass finds** declares what it declared before the frame, and its inputs
have the values that they had then. -/
theorem document (h : Films device now renderSize s begun ready c shots)
    (hs : s.supply.pool.Consistent) (hd : s.document.WellFormed) {i : Nat} {shot : Shot}
    (hi : shots[i]? = some shot) :
    shot.document.blank = s.document.blank ∧ shot.document.inputs = s.document.inputs := by
  obtain ⟨t, hlends, hdocument, -⟩ := h.onlyLends hs hd hi
  obtain ⟨u, -, hloading, -, hparameters, -⟩ := exists_loading_of_ready hs hd h.begins h.readies
  rw [hdocument]
  refine ⟨hlends.blank.trans (h.prepares hs hd).blank, ?_⟩
  rw [Document.inputs, hlends.parameters, hparameters]
  exact hloading.inputs

/-- The targets that passes before a pass have drawn into. -/
theorem mem_written (h : Films device now renderSize s begun ready c shots)
    {i : Nat} {shot : Shot} (hi : shots[i]? = some shot) {name : String} (hname : name ≠ "") :
    name ∈ shot.pass.written ↔ name ∈ ready.document.passes.order.take i := by
  obtain ⟨s₀, s₁, n, handle, buffer, size, -, -, -, -, rfl⟩ := h.exists_before hi
  show name ∈ (ready.document.passes.order.take i).foldl writtenAfter [] ↔ _
  rw [mem_foldl_writtenAfter hname]
  simp

end Films

end Studio

namespace Rendered

variable {device : Device σ} {now : Moment} {renderSize : Size} {s : Studio (Observed σ)}

/-- **Every draw of a frame is one of its passes**, whether the frame was completed or not. -/
theorem exists_films (hs : s.Steady) {i : Nat} {draw : List Command}
    (hdraw : (ofFrame device now renderSize s).draws[i]? = some draw) :
    ∃ begun ready c shots,
      Studio.Films device.observed now renderSize s begun ready c shots ∧
      (ofFrame device now renderSize s).draws =
        shots.map (Shot.commands c.program (ready.scene.clock now)) := by
  rcases goes device now renderSize hs.consistent hs.wellFormed hs.rests with
    ⟨report, s', hcompletes, heq⟩ | ⟨failure, s', hfails, heq⟩
  · rw [heq]
    obtain @⟨begun, ready, drawn, rested, _, hbegun, hready, ⟨c, shots, hc, -, hdrawn⟩, -,
      hdevice⟩ := hcompletes
    refine ⟨begun, ready, c, shots, ⟨hbegun, hready, hc, _, drawn, List.prefix_rfl, hdrawn⟩, ?_⟩
    have htold := (Studio.told_of_ready hbegun hready).trans hdrawn.told
    rw [List.nil_append, ← hdevice] at htold
    exact (draws_eq htold).trans (draws_shots _ _ shots)
  · rw [heq] at hdraw ⊢
    -- a frame that fails before drawing has told the device nothing
    have hnone (h : Adds (fun call => call.command? = none) s.supply.device s'.supply.device) :
        False := by
      rw [draws_eq (Adds.told h)] at hdraw
      cases hdraw
    cases hfails with
    | early hbegun =>
        have hadds := Studio.adds_untilBuffers (P := fun call => call.command? = none) device
          (fun _ _ => rfl) (fun _ _ => rfl) renderSize s
        rw [hbegun] at hadds
        exact (hnone hadds).elim
    | @refused begun _ _ hbegun hready =>
        have hfirst := Studio.adds_untilBuffers (P := fun call => call.command? = none) device
          (fun _ _ => rfl) (fun _ _ => rfl) renderSize s
        have hthen := Studio.adds_onPersistent (P := fun call => call.command? = none) device
          (fun _ _ => rfl) begun
        rw [hbegun] at hfirst
        rw [hready] at hthen
        exact (hnone (hfirst.trans hthen)).elim
    | @late begun ready drawn _ _ hbegun hready hdraws hback hdevice =>
        rcases hdraws with ⟨-, rfl⟩ | ⟨c, done, shots, s₁, hc, hdone, hdrawn, habandoned⟩
        · have htold := Studio.told_of_ready hbegun hready
          rw [← hdevice] at htold
          rw [draws_eq htold] at hdraw
          cases hdraw
        · refine ⟨begun, ready, c, shots, ⟨hbegun, hready, hc, done, s₁, hdone, hdrawn⟩, ?_⟩
          have hrest : Told [] s₁.supply.device drawn.supply.device :=
            Adds.told (habandoned.adds fun _ _ => rfl)
          have htold := ((Studio.told_of_ready hbegun hready).trans hdrawn.told).trans hrest
          rw [List.nil_append, List.append_nil, ← hdevice] at htold
          exact (draws_eq htold).trans (draws_shots _ _ shots)

/-- The pass that a draw of a frame is. -/
theorem exists_shot (hs : s.Steady) {i : Nat} {draw : List Command}
    (hdraw : (ofFrame device now renderSize s).draws[i]? = some draw) :
    ∃ begun ready c shots shot s',
      Studio.Films device.observed now renderSize s begun ready c shots ∧
      shots[i]? = some shot ∧
      Studio.shotAt device.observed now renderSize i s = .ok shot s' ∧
      draw = shot.commands c.program (ready.scene.clock now) := by
  obtain ⟨begun, ready, c, shots, hfilms, hdraws⟩ := exists_films hs hdraw
  rw [hdraws, List.getElem?_map] at hdraw
  obtain ⟨shot, hi, rfl⟩ := Option.map_eq_some_iff.1 hdraw
  obtain ⟨s', hshot⟩ := hfilms.shotAt_eq hi
  exact ⟨begun, ready, c, shots, shot, s', hfilms, hi, hshot, rfl⟩

end Rendered

end ShaderEffect
