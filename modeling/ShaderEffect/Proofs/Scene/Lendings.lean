/-
**Buffers that are lent come back.**

A temporary target is lent a buffer by the first pass of a frame that draws into it, if the pool has
one or the device makes one.  What was lent is what temporary targets hold when the drawing is over,
be it because all passes were drawn or because one could not be.  They give it back then, which
cannot fail, since it was handed out to them and to nobody else.  So a frame leaves nothing marked
differently but what persistent targets and imported images hold before it or after it.

Main definitions:

* `ShaderEffect.Studio.lentFor?`, `ShaderEffect.Studio.borrowed` — what a pass and what a frame is
  lent;
* `ShaderEffect.Rendered.Returns` — **what was lent has come back**.

Main results:

* `ShaderEffect.Studio.lends_drawFrom` — temporary targets hold what they were lent;
* `ShaderEffect.Studio.exists_rested` — what becomes of a frame that was ready to draw;
* `ShaderEffect.Studio.marks_renderFrame` — **what is marked differently after a frame**;
* `ShaderEffect.Session.temporary_buffers_return` — **everything that was lent comes back**, in
  every frame, however it goes.
-/

import ShaderEffect.Device.Recorder
import ShaderEffect.Proofs.Scene.Handles
import ShaderEffect.Proofs.Scene.Move

set_option autoImplicit false

namespace ShaderEffect

open Pool Supply

variable {σ : Type}

/-- Making something of a value leaves what was left before. -/
theorem remains_bind_pure {ε τ α β : Type} (x : EStateM ε τ α) (g : α → β) (s : τ) :
    remains ((do let a ← x; return g a : EStateM ε τ β) s) = remains (x s) := by
  show remains (EStateM.bind x _ s) = _
  unfold EStateM.bind
  cases x s <;> rfl

namespace Studio

/-! ### What is lent -/

/-- The handle of the buffer that a pass into the target of a name is lent, if it is lent one. -/
def lentFor? (device : Device σ) (renderSize : Size) (name : String) (s : Studio σ) :
    Option Handle :=
  if name = "" then none
  else
    match s.document.target? name with
    | none => none
    | some t =>
      if !t.persistent && t.current.isNone then
        match Supply.acquire device (.renderTarget (t.size.getD renderSize) t.float) s.supply with
        | .ok h _ => some h
        | .error _ _ => none
      else none

/-- The handles of the buffers that passes are lent, up to the last one or to one that cannot be
drawn. -/
def lendings (device : Device σ) (program : Program) (clock : Clock) (renderSize : Size)
    (index : Nat) (written : List String) : List String → Studio σ → List Handle
  | [], _ => []
  | name :: rest, s =>
    (lentFor? device renderSize name s).toList ++
      match drawPass device program clock renderSize index name written s with
      | .ok _ s =>
        lendings device program clock renderSize (index + 1) (writtenAfter written name) rest s
      | .error _ _ => []

/-- **The handles of the buffers that a frame is lent.** -/
def borrowed (device : Device σ) (now : Moment) (renderSize : Size) (s : Studio σ) : List Handle :=
  match prepare device renderSize s with
  | .error _ _ => []
  | .ok _ ready =>
    match ready.scene.compiled with
    | none => []
    | some c =>
      lendings device c.program (ready.scene.clock now) renderSize 0 []
        ready.document.passes.order ready

/-- Temporary targets have been lent these buffers, and the document declares the same. -/
structure Lends (lent : List Handle) (s s' : Studio σ) : Prop where
  lent : s'.document.lent = lent + s.document.lent
  blank : s'.document.blank = s.document.blank

namespace Lends

variable {lent lent' : List Handle} {s s' s'' : Studio σ}

theorem of_document_eq (h : s'.document = s.document) : Lends [] s s' :=
  ⟨by rw [h, Multiset.coe_nil, zero_add], by rw [h]⟩

theorem trans (h : Lends lent s s') (h' : Lends lent' s' s'') : Lends (lent ++ lent') s s'' where
  lent := by
    rw [h'.lent, h.lent, ← Multiset.coe_add, add_left_comm, add_assoc]
  blank := h'.blank.trans h.blank

end Lends

/-- A pass that looks for its buffer leaves a temporary target with what it is lent. -/
theorem lends_passTarget (device : Device σ) (renderSize : Size) (index : Nat) (name : String)
    {s : Studio σ} (hd : s.document.WellFormed) :
    Lends (lentFor? device renderSize name s).toList s
      (remains (passTarget device renderSize index name s)) := by
  unfold passTarget lentFor?
  by_cases hname : name = ""
  · rw [if_pos hname, if_pos hname]
    exact .of_document_eq rfl
  · rw [if_neg hname, if_neg hname]
    rw [show (get >>= _ : Work σ (Option Handle × Size)) s = _ from bind_of_ok (x := get) rfl]
    cases ht : s.document.target? name with
    | none => exact .of_document_eq rfl
    | some t =>
      dsimp only
      unfold lendBuffer
      by_cases hlend : (!t.persistent && t.current.isNone) = true
      · rw [if_pos hlend, if_pos hlend]
        obtain ⟨hp, hc⟩ : t.persistent = false ∧ t.current = none := by simp_all
        show Lends _ s (remains (EStateM.bind (EStateM.bind (onSupply _) _) _ s))
        simp only [EStateM.bind, onSupply]
        cases hr : Supply.acquire device (.renderTarget (t.size.getD renderSize) t.float)
            s.supply with
        | error failure supply => exact .of_document_eq rfl
        | ok h supply =>
          have hmem : t ∈ s.document.passes.temporary := by
            rcases (Document.target?_eq_some hd ht).2 with ⟨h, -⟩ | ⟨-, h⟩
            · rw [hp] at h
              cases h
            · exact h
          obtain ⟨hlent, hblank, -⟩ := Document.lend_mapTarget hd hmem hc h
          exact ⟨hlent, hblank⟩
      · rw [if_neg hlend, if_neg hlend]
        exact .of_document_eq rfl

/-- Drawing the pass lends it nothing more. -/
theorem document_drawPass (device : Device σ) (program : Program) (clock : Clock)
    (renderSize : Size) (index : Nat) (name : String) (written : List String) (s : Studio σ) :
    (remains (drawPass device program clock renderSize index name written s)).document =
      (remains (passTarget device renderSize index name s)).document := by
  have hrest (r : Option Handle × Size) (t : Studio σ) :
      (remains ((do
        let buffer ← passBuffer name r.1
        perform device program clock ⟨index, buffer, r.2, written⟩
        return ⟨index, name, r.2, r.1⟩ : Work σ PassReport) t)).document = t.document := by
    refine remains_bind (R := fun s t : Studio σ => t.document = s.document)
      (fun _ _ _ h h' => h'.trans h) ?_ fun buffer u => ?_
    · have hends := ends_passBuffer name r.1 t
      rcases hr : passBuffer name r.1 t with ⟨b, u⟩ | ⟨e, u⟩
      · rw [hr] at hends
        rw [remains, hends.1]
      · rw [hr] at hends
        rw [remains, hends]
    · exact rfl
  show (remains (EStateM.bind (passTarget device renderSize index name) _ s)).document = _
  simp only [EStateM.bind]
  rcases passTarget device renderSize index name s with ⟨r, t⟩ | ⟨e, t⟩
  · exact hrest r t
  · rfl

/-- **Temporary targets hold what they were lent** when drawing is over. -/
theorem lends_drawFrom (device : Device σ) (program : Program) (clock : Clock) (renderSize : Size)
    (names : List String) (index : Nat) (written : List String) {s : Studio σ}
    (hd : s.document.WellFormed) :
    Lends (lendings device program clock renderSize index written names s) s
      (remains (drawFrom device program clock renderSize index written names s)) := by
  induction names generalizing index written s with
  | nil => exact .of_document_eq rfl
  | cons name rest ih =>
    have hfirst : Lends (lentFor? device renderSize name s).toList s
        (remains (drawPass device program clock renderSize index name written s)) := by
      have hpass := lends_passTarget device renderSize index name hd
      exact ⟨by rw [document_drawPass, hpass.lent], by rw [document_drawPass, hpass.blank]⟩
    rw [lendings]
    show Lends _ s (remains (EStateM.bind _ _ s))
    simp only [EStateM.bind]
    rcases hr : drawPass device program clock renderSize index name written s with
      ⟨report, t⟩ | ⟨e, t⟩
    · rw [hr] at hfirst
      -- the reports are put together after the last pass
      have hthen : Lends (lendings device program clock renderSize (index + 1)
          (writtenAfter written name) rest t) t
          (remains ((do
            let reports ← drawFrom device program clock renderSize (index + 1)
              (writtenAfter written name) rest
            return report :: reports : Work σ (List PassReport)) t)) := by
        rw [remains_bind_pure]
        exact ih (index + 1) (writtenAfter written name) (hd.of_blank_eq hfirst.blank)
      exact hfirst.trans hthen
    · rw [hr] at hfirst
      dsimp only
      rw [List.append_nil]
      exact hfirst

/-! ### What becomes of a frame -/

section

variable {device : Device σ} {now : Moment} {renderSize : Size} {s ready : Studio σ}

/-- A frame that is ready to draw has prepared. -/
theorem exists_begun (h : prepare device renderSize s = .ok () ready) :
    ∃ begun, untilBuffers device renderSize s = .ok () begun ∧
      onPersistent (ensureBuffers device) begun = .ok () ready := by
  rw [prepare_eq] at h
  obtain ⟨_, begun, hbegun, hready⟩ := bind_eq_ok h
  exact ⟨begun, hbegun, hready⟩

/-- A frame that does not get ready to draw fails. -/
theorem renderFrame_of_prepare_error (now : Moment) {failure : Failure} {t : Studio σ}
    (h : prepare device renderSize s = .error failure t) :
    renderFrame device now renderSize s = .error failure t :=
  bind_of_error h

/-- Whatever is left of drawing, only buffers were lent. -/
theorem onlyLends_remains (device : Device σ) (clock : Clock) (renderSize : Size)
    (hs : ready.supply.pool.Consistent)
    (hd : ready.document.WellFormed) :
    OnlyLends ready (remains (drawPasses device clock renderSize ready)) := by
  have hends := (ends_drawPasses device clock renderSize ready).mono
    (fun _ _ h => h.onlyLends hs hd) fun _ _ h => h.onlyLends hs hd
  rcases hr : drawPasses device clock renderSize ready with ⟨reports, t⟩ | ⟨e, t⟩
  all_goals
    rw [hr] at hends
    exact hends

/-- What comes of a frame when temporary targets have given back what they were lent: if all passes
were drawn, the document and the scene go on to the next frame. -/
def concluded (now : Moment) (rested : Studio σ) :
    EStateM.Result Failure (Studio σ) (List PassReport) →
      EStateM.Result Failure (Studio σ) FrameReport
  | .ok reports _ => .ok ⟨rested.scene.frameIndex, reports⟩
      { rested with scene := rested.scene.advance now, document := rested.document.settle }
  | .error failure _ => .error failure rested

/-- The buffers that persistent targets and imported images hold stay what they are in the end. -/
theorem remains_concluded (now : Moment) (rested : Studio σ)
    (r : EStateM.Result Failure (Studio σ) (List PassReport)) :
    (remains (concluded now rested r)).supply = rested.supply ∧
      (remains (concluded now rested r)).document.kept = rested.document.kept ∧
      (remains (concluded now rested r)).document.imported = rested.document.imported := by
  cases r with
  | ok reports t => exact ⟨rfl, rested.document.kept_settle, rested.document.imported_settle⟩
  | error failure t => exact ⟨rfl, rfl, rfl⟩

/-- **What becomes of a frame that was ready to draw**: temporary targets give back what they hold
when drawing is over, and then it ends as drawing has ended. -/
theorem exists_rested (now : Moment) (hs : s.supply.pool.Consistent) (hd : s.document.WellFormed)
    (hrests : s.document.Rests) (h : prepare device renderSize s = .ok () ready) :
    ∃ rested, onTemporary releaseTarget
        (remains (drawPasses device (ready.scene.clock now) renderSize ready)) = .ok () rested ∧
      GivesBack ready rested ∧
      renderFrame device now renderSize s =
        concluded now rested (drawPasses device (ready.scene.clock now) renderSize ready) := by
  obtain ⟨begun, hbegun, hready⟩ := exists_begun h
  have hprepares := (prepares_of_ok hs hd hbegun hready).1
  have hlends := onlyLends_remains device (ready.scene.clock now) renderSize
    hprepares.trades.consistent (hd.of_blank_eq hprepares.blank)
  have hback := ends_onTemporary hlends (hrests.congr hprepares.temporary)
  have hframe : renderFrame device now renderSize s = (do
      let passes ← thenReleaseTemporary (drawPasses device (ready.scene.clock now) renderSize)
      settle now
      return ⟨ready.scene.frameIndex, passes⟩ : Work σ FrameReport) ready := by
    refine (bind_of_ok h).trans ?_
    exact bind_of_ok (x := get) rfl
  rw [hframe]
  show ∃ rested, _ ∧ _ ∧ EStateM.bind _ _ ready = _
  simp only [EStateM.bind, thenReleaseTemporary]
  rcases hdraws : drawPasses device (ready.scene.clock now) renderSize ready with
    ⟨reports, t⟩ | ⟨e, t⟩
  all_goals
    rw [hdraws] at hback
    change Ends _ _ (onTemporary releaseTarget t) at hback
    show ∃ rested, onTemporary releaseTarget t = _ ∧ _
    dsimp only
    rcases hr : onTemporary releaseTarget t with ⟨_, rested⟩ | ⟨_, rested⟩
    all_goals rw [hr] at hback
  · refine ⟨rested, rfl, hback.1, ?_⟩
    rw [← show rested.scene = ready.scene from hback.1.scene]
    rfl
  · exact hback.elim
  · exact ⟨rested, rfl, hback.1, rfl⟩
  · exact hback.elim

/-- **Temporary targets hold what a frame has borrowed** when drawing is over. -/
theorem lent_eq_borrowed (now : Moment) (h : prepare device renderSize s = .ok () ready)
    (hd : ready.document.WellFormed) (hrests : ready.document.Rests) :
    (remains (drawPasses device (ready.scene.clock now) renderSize ready)).document.lent =
      borrowed device now renderSize s := by
  unfold borrowed drawPasses
  rw [h, show (get >>= _ : Work σ (List PassReport)) ready = _ from bind_of_ok (x := get) rfl]
  dsimp only
  cases ready.scene.compiled with
  | none => exact hrests.lent_eq
  | some c =>
    dsimp only
    rw [(lends_drawFrom device c.program _ renderSize _ 0 [] hd).lent, hrests.lent_eq, add_zero]

/-- **What a frame has borrowed is not handed out afterwards**, and the pool still knows it. -/
theorem exists_entry_of_mem_borrowed (hs : s.supply.pool.Consistent) (hd : s.document.WellFormed)
    (hrests : s.document.Rests) {k : Handle} (hk : k ∈ borrowed device now renderSize s) :
    ∃ e, (remains (renderFrame device now renderSize s)).supply.pool.find? k = some e ∧
      e.inUse = false := by
  rcases hprepare : prepare device renderSize s with ⟨_, ready⟩ | ⟨failure, ready⟩
  · obtain ⟨begun, hbegun, hready⟩ := exists_begun hprepare
    have hprepares := (prepares_of_ok hs hd hbegun hready).1
    have hwell := hd.of_blank_eq hprepares.blank
    have hrests' := hrests.congr hprepares.temporary
    obtain ⟨rested, hback, hgives, hframe⟩ := exists_rested now hs hd hrests hprepare
    have hsupply := (remains_concluded now rested
      (drawPasses device (ready.scene.clock now) renderSize ready)).1
    rw [← hframe] at hsupply
    have hlends := onlyLends_remains device (ready.scene.clock now) renderSize
      hprepares.trades.consistent hwell
    have hlent := lent_eq_borrowed now hprepare hwell hrests'
    set drawn := remains (drawPasses device (ready.scene.clock now) renderSize ready)
    -- what was lent came on top of what was handed out when the frame was ready to draw
    have hdrawn : drawn.supply.pool.used = drawn.document.lent + ready.supply.pool.used :=
      hlends.trades.used _ (by rw [hrests'.lent_eq, zero_add])
    have hrested : rested.supply.pool.used = ready.supply.pool.used := by
      rw [hgives.trades.used _ (zero_add _).symm, zero_add]
    have hmem : k ∈ drawn.document.lent := by
      rw [hlent]
      exact Multiset.mem_coe.2 hk
    have hnodup := nodup_used hlends.trades.consistent
    rw [hdrawn, Multiset.nodup_add] at hnodup
    have hfree : k ∉ rested.supply.pool.used := by
      rw [hrested]
      exact Multiset.disjoint_left.1 hnodup.2.2 hmem
    have huse : k ∈ drawn.supply.pool.used := by
      rw [hdrawn]
      exact Multiset.mem_add.2 (Or.inl hmem)
    obtain ⟨e, he, -⟩ := isInUse_iff.1 ((mem_used hlends.trades.consistent).1 huse)
    have hgrows := kept_grows.onTemporary drawn hlends.trades.consistent
    rw [hback] at hgrows
    obtain ⟨f, hf, -⟩ := hgrows.2 k e he
    refine ⟨f, by rw [hsupply]; exact hf, Bool.eq_false_iff.2 fun hu => hfree ?_⟩
    exact (mem_used hgives.trades.consistent).2 (isInUse_iff.2 ⟨f, hf, hu⟩)
  · rw [borrowed, hprepare] at hk
    exact absurd hk List.not_mem_nil

/-! ### What is marked differently -/

/-- What is marked differently when everything before drawing is over. -/
theorem marks_prepare (device : Device σ) (renderSize : Size) (hs : s.supply.pool.Consistent)
    (hd : s.document.WellFormed) :
    Ends
      (fun _ t => MarksOnly (s.document.kept + s.document.imported +
        (t.document.kept + t.document.imported)) s.supply.pool t.supply.pool)
      (fun _ t => MarksOnly (s.document.kept + s.document.imported +
        (t.document.kept + t.document.imported)) s.supply.pool t.supply.pool)
      (prepare device renderSize s) := by
  -- images are taken in first
  have hloaded {t begun : Studio σ} (hloading : Loading device s t)
      (hdocument : begun.document = t.document) (hpool : begun.supply.pool = t.supply.pool) :
      MarksOnly (s.document.imported + begun.document.imported) s.supply.pool
        begun.supply.pool := by
    rw [hdocument, hpool]
    rcases hloading.loads with hloads | hloads
    · rw [Prod.mk.injEq] at hloads
      rw [hloads.2]
      exact .refl _ _
    · have hmarks := marks_eachOf Parameter.held (fun p hp u =>
        marks_loadImport device (hd.parameters.imports p hp) u) s.supply
      rw [← hloads] at hmarks
      exact hmarks
  rw [prepare_eq]
  show Ends _ _ (EStateM.bind _ _ s)
  simp only [EStateM.bind]
  rcases hbegun : untilBuffers device renderSize s with ⟨_, begun⟩ | ⟨failure, begun⟩
  · obtain ⟨t, -, hloading, -, hdocument, hpool⟩ := exists_loading_of_ok hbegun
    have hfirst := hloaded hloading hdocument hpool
    have hbegins := (begins_of_ok hs hd hbegun).1
    have hkept : begun.document.kept = s.document.kept :=
      Document.allHeld_congr hbegins.slots.1
    -- then persistent targets exchange buffers
    have hmarks := marks_eachOf Target.buffers
      (fun t (_ : t ∈ begun.document.passes.persistent) u => marks_ensureBuffers device t u)
      begun.supply
    have hkeeps := ends_onPersistent device hbegins.trades.consistent
    dsimp only
    unfold onPersistent at hkeeps ⊢
    rcases hr : eachOf (ensureBuffers device) (begun.document.passes.persistent, begun.supply) with
      ⟨_, ts, supply⟩ | ⟨failure, ts, supply⟩
    all_goals
      rw [hr] at hmarks hkeeps
      refine (hfirst.trans hmarks).mono fun k hk => ?_
      change k ∈ _ + (begun.document.kept + Document.kept (begun.document.withPersistent ts)) at hk
      show k ∈ _ + (Document.kept (begun.document.withPersistent ts) + begun.document.imported)
      rw [hkept] at hk
      simp only [Multiset.mem_add] at hk ⊢
      tauto
  · obtain ⟨t, hloading, hdocument, hpool⟩ := exists_loading_of_error hbegun
    refine (hloaded hloading hdocument hpool).mono fun k hk => ?_
    simp only [Multiset.mem_add] at hk ⊢
    tauto

/-- **A frame marks nothing differently but what persistent targets and imported images hold**
before it or after it. -/
theorem marks_renderFrame (hs : s.supply.pool.Consistent) (hd : s.document.WellFormed)
    (hrests : s.document.Rests) :
    MarksOnly (s.document.kept + s.document.imported +
        ((remains (renderFrame device now renderSize s)).document.kept +
          (remains (renderFrame device now renderSize s)).document.imported))
      s.supply.pool (remains (renderFrame device now renderSize s)).supply.pool := by
  have hmarks := marks_prepare device renderSize hs hd
  rcases hprepare : prepare device renderSize s with ⟨_, ready⟩ | ⟨failure, t⟩
  · rw [hprepare] at hmarks
    obtain ⟨rested, -, hgives, hframe⟩ := exists_rested now hs hd hrests hprepare
    obtain ⟨hsupply, hkept, himported⟩ := remains_concluded now rested
      (drawPasses device (ready.scene.clock now) renderSize ready)
    rw [← hframe] at hsupply hkept himported
    rw [hkept, himported, hsupply,
      show rested.document.kept = _ from congrArg (allHeld Target.buffers) hgives.persistent,
      show rested.document.imported = _ from congrArg (allHeld Parameter.held) hgives.parameters]
    -- drawing and giving back mark the same handles in the end
    intro k hk
    obtain ⟨begun, hbegun, hready⟩ := exists_begun hprepare
    have hready' := (prepares_of_ok hs hd hbegun hready).1.trades.consistent
    have hused := hgives.trades.used _ (zero_add _).symm
    rw [zero_add] at hused
    rw [← hmarks k hk, Bool.eq_iff_iff, ← mem_used hgives.trades.consistent, hused,
      mem_used hready']
  · rw [hprepare] at hmarks
    rw [renderFrame_of_prepare_error now hprepare]
    exact hmarks

end

end Studio

/-! ### Sessions -/

namespace Pool

/-- A buffer is idle: it stands among the idle ones, under its descriptor, and only once. -/
structure IdleOnce (p : Pool) (h : Handle) : Prop where
  listed : ∃ e, p.find? h = some e ∧ e.inUse = false ∧ (e.descriptor, h) ∈ p.idle
  count : (p.idle.map Prod.snd).count h = 1

/-- What is known, and not handed out, is idle. -/
theorem Consistent.idleOnce {p : Pool} (hp : p.Consistent) {h : Handle} {e : PoolEntry}
    (he : p.find? h = some e) (hu : e.inUse = false) : p.IdleOnce h := by
  have hmem := hp.idle_mem h e he hu
  refine ⟨⟨e, he, hu, hmem⟩, ?_⟩
  exact List.count_eq_one_of_mem hp.idle_nodup (List.mem_map_of_mem hmem)

end Pool

namespace Rendered

/-- **What was lent in a frame has come back**, however the frame went. -/
structure Returns (device : Device σ) (now : Moment) (r : Rendered σ) : Prop where
  /-- No temporary target holds a buffer. -/
  rests : r.after.document.Rests
  /-- Every buffer that the frame has borrowed is idle. -/
  idle : ∀ h ∈ Studio.borrowed device.observed now r.renderSize r.before,
    r.after.supply.pool.IdleOnce h
  /-- Whatever came of drawing, giving back has not failed. -/
  gives : ∀ ready, Studio.prepare device.observed r.renderSize r.before = .ok () ready →
    ∃ rested, Studio.onTemporary releaseTarget (remains
      (Studio.drawPasses device.observed (ready.scene.clock now) r.renderSize ready)) =
        .ok () rested
  /-- Nothing is marked differently but what persistent targets and imported images held before or
  hold now. -/
  marks : MarksOnly
    (r.before.document.kept + r.before.document.imported +
      (r.after.document.kept + r.after.document.imported))
    r.before.supply.pool r.after.supply.pool

/-- **In every frame of a steady studio, what was lent comes back.** -/
theorem returns (device : Device σ) (now : Moment) (renderSize : Size) {s : Studio (Observed σ)}
    (hs : s.Steady) : (ofFrame device now renderSize s).Returns device now where
  rests := (hs.ofFrame device now renderSize).1.rests
  idle := by
    rw [before_ofFrame, renderSize_ofFrame]
    intro h hh
    obtain ⟨e, he, hu⟩ :=
      Studio.exists_entry_of_mem_borrowed hs.consistent hs.wellFormed hs.rests hh
    rw [← after_ofFrame] at he
    exact (hs.ofFrame device now renderSize).1.consistent.idleOnce he hu
  gives := by
    rw [before_ofFrame, renderSize_ofFrame]
    intro ready hready
    obtain ⟨rested, hrested, -⟩ :=
      Studio.exists_rested now hs.consistent hs.wellFormed hs.rests hready
    exact ⟨rested, hrested⟩
  marks := by
    rw [before_ofFrame, after_ofFrame]
    exact Studio.marks_renderFrame hs.consistent hs.wellFormed hs.rests

end Rendered

namespace Session

/-- **Everything that is lent in a frame comes back**, whatever has happened to a scene, to its
document and to the pool before, whichever scene renders the document, and however the frame
goes. -/
theorem temporary_buffers_return (device : Device σ) (d : {d : Document // d.Opened})
    (settings : SceneSettings) (started : Nat) (pool : PoolSettings) (state : σ)
    (moves : List Move) (scene : Scene) (now : Moment) (renderSize : Size) :
    (Rendered.ofFrame device now renderSize
      { (moved device moves (start d.1 settings started pool state)).studio with
        scene := scene }).Returns device now := by
  have hs := (steady_moved device (steady_start d.2 settings started pool state) moves).1
  exact Rendered.returns device now renderSize (hs.congr rfl hs.consistent)

/-- An effect that draws into a temporary target twice. -/
def twiceText : String :=
  "/*\x7b\"PASSES\":[\x7b\"TARGET\":\"b\"\x7d,\x7b\"TARGET\":\"b\"\x7d,\x7b\x7d]\x7d*/"

-- the second pass finds the buffer that the first one was lent
example : Studio.borrowed Recorder.device.observed (.ofNanoseconds 0) ⟨8, 8⟩
    (start (Document.ofTextsLenient twiceText none "/").2 .standard 0 .standard
      Recorder.fresh).studio = [⟨1⟩] := by
  decide +kernel

end Session

end ShaderEffect
