/-
**What a frame draws into, and what it reports.**

A complete frame has drawn its passes in their order, each of them once.  A pass without a target
draws into the final output; any other draws into a buffer that the pool knows, whose descriptor is
that of the target with the size that was evaluated for this very frame, and all passes into a
target draw into one buffer.  The report lists these passes and nothing else.  A frame that is ready
to draw can only fail because the device refuses a buffer to a temporary target.

Main definitions:

* `ShaderEffect.Rendered.DrawsNamed`, `ShaderEffect.Rendered.Accounted` — a pass that is drawn and
  reported as it should be;
* `ShaderEffect.Rendered.Accounts` — **what a frame draws into and reports**.

Main results:

* `ShaderEffect.Studio.Films.exists_named` — what a pass of a named target draws into;
* `ShaderEffect.Session.frames_account` — **every frame draws and reports what it should**.
-/

import ShaderEffect.Proofs.Scene.Compiling
import ShaderEffect.Proofs.Scene.Equipped
import ShaderEffect.Proofs.Scene.Lendings

set_option autoImplicit false

namespace ShaderEffect

open Pool Supply Observed

variable {σ : Type}

namespace Studio

/-! ### Passes of named targets -/

section

variable {device : Device σ} {now : Moment} {renderSize : Size} {s begun ready t : Studio σ}
  {c : CompiledProgram} {shots : List Shot}

/-- **A buffer that is drawn into is handed out**: that of a temporary target was lent to it, and
that of a persistent one was handed out when the passes were to be drawn. -/
theorem OnlyLends.isInUse (h : OnlyLends ready t) (hrests : ready.document.Rests)
    (hd : t.document.WellFormed) {name : String} {u : Target}
    (hu : t.document.target? name = some u) {k : Handle} (hk : u.current = some k)
    (hheld : u.persistent = false ∨ ready.document.kept ≤ ready.supply.pool.used) :
    t.supply.pool.isInUse k = true := by
  have hused : t.supply.pool.used = t.document.lent + ready.supply.pool.used :=
    h.trades.used _ (by rw [hrests.lent_eq, zero_add])
  have hmem {us : List Target} (hus : u ∈ us) : k ∈ allHeld Target.buffers us :=
    mem_allHeld.2 ⟨u, hus, by simp [Target.buffers, hk]⟩
  rw [← mem_used h.trades.consistent, hused, Multiset.mem_add]
  rcases (Document.target?_eq_some hd hu).2 with ⟨hp, hus⟩ | ⟨-, hus⟩
  · rcases hheld with hp' | hle
    · rw [hp] at hp'
      cases hp'
    · rw [h.persistent] at hus
      exact Or.inr (Multiset.mem_of_le hle (hmem hus))
  · exact Or.inl (hmem hus)

/-- **What a pass of a named target draws into**: a buffer that is known under the descriptor of the
target, with the size that was evaluated for the frame. -/
theorem Films.exists_named (h : Films device now renderSize s begun ready c shots)
    (hs : s.supply.pool.Consistent) (hd : s.document.WellFormed) (hrests : s.document.Rests)
    {i : Nat} {shot : Shot} (hi : shots[i]? = some shot) {name : String}
    (hname : ready.document.passes.order[i]? = some name) (hne : name ≠ "") :
    ∃ u k b, s.document.target? name = some u ∧ shot.document.currentOf? name = some k ∧
      shot.report = ⟨i, name, shot.pass.size, some k⟩ ∧ shot.pass.buffer = some b ∧
      s.document.sizeIn? name renderSize = some shot.pass.size ∧
      shot.pool.descriptor? k = some (.renderTarget shot.pass.size u.float) ∧
      shot.pool.buffer? k = some b ∧
      (u.persistent = false ∨ s.document.held ≤ s.supply.pool.used →
        shot.pool.isInUse k = true) := by
  have hprepares := h.prepares hs hd
  have hrests' := hrests.congr hprepares.temporary
  obtain ⟨hequipped, e, hresize, houtlines⟩ := equipped_of_ready hs hd hrests h.begins h.readies
  obtain ⟨s₀, s₁, n, handle, buffer, size, hbefore, hlending, hn, hbuffer, rfl⟩ :=
    h.exists_before hi
  cases hname.symm.trans hn
  obtain ⟨hs₀, houtlines₀⟩ := hbefore.equipped hequipped
  obtain ⟨hs₁, houtlines₁⟩ := hlending.equipped hs₀
  obtain ⟨v, k, hv, hk, rfl, hsize, hknown⟩ := hlending.exists_handle hs₀ hne
  -- the target is the one that was declared before the frame, with its size in this frame
  have hmap := Document.map_target?_congr (f := Target.withoutBuffers) (fun _ => rfl)
    ((houtlines₁.trans houtlines₀).trans houtlines) name
  rw [hv] at hmap
  obtain ⟨w, hw, heq⟩ := Option.map_eq_some_iff.1 hmap.symm
  obtain ⟨u, hu, hblank, hsizeIn⟩ := Document.exists_of_resize hresize hw
  have huv : u.blank = v.blank := hblank.trans (Target.blank_congr heq)
  have hfloat : u.float = v.float := by rw [← u.float_blank, huv, v.float_blank]
  have hpersistent : u.persistent = v.persistent := by
    rw [← u.persistent_blank, huv, v.persistent_blank]
  cases hbuffer with
  | @some _ b hb =>
    refine ⟨u, k, b, hu, ?_, rfl, rfl, ?_, ?_, hb, fun hheld => ?_⟩
    · show s₁.document.currentOf? name = some k
      rw [Document.currentOf?, hv]
      exact hk
    · rw [hsizeIn, ← w.size_withoutBuffers, heq, v.size_withoutBuffers, hsize]
    · rw [hfloat]
      exact hknown
    · have hlends := (hbefore.onlyLends hequipped.consistent hequipped.wellFormed).trans
        (hlending.onlyLends hs₀.consistent hs₀.wellFormed)
      refine hlends.isInUse hrests' hs₁.wellFormed hv hk ?_
      rcases hheld with hp | hle
      · exact Or.inl (hpersistent.symm.trans hp)
      · rw [hrests.held_eq] at hle
        exact Or.inr ((Multiset.le_add_right _ _).trans (hprepares.trades.used_le hle))

end

end Studio

/-! ### Frames -/

namespace Rendered

/-- **A pass of a named target** finds a buffer that the pool knows under a handle, with the
descriptor of the target for its size in this frame.  The buffer is handed out, unless the document
held buffers before the frame that were not.  After the frame it is still known. -/
structure DrawsNamed (device : Device σ) (now : Moment) (r : Rendered σ) (i : Nat) (t : Target)
    (size : Size) (k : Handle) (b : Buffer) : Prop where
  sized : r.before.document.sizeIn? t.name r.renderSize = some size
  found : ∃ shot s', Studio.shotAt device.observed now r.renderSize i r.before = .ok shot s' ∧
    shot.pool.descriptor? k = some (.renderTarget size t.float) ∧
    shot.pool.buffer? k = some b ∧
    (t.persistent = false ∨ r.before.document.held ≤ r.before.supply.pool.used →
      shot.pool.isInUse k = true)
  kept : r.after.supply.pool.descriptor? k = some (.renderTarget size t.float) ∧
    r.after.supply.pool.buffer? k = some b

/-- **A pass that is drawn and reported as it should be**, if `held` tells for each target what all
passes of the frame draw into. -/
structure Accounted (device : Device σ) (now : Moment) (r : Rendered σ)
    (held : String → Option (Handle × Buffer)) (i : Nat) (name : String) (draw : List Command)
    (report : PassReport) : Prop where
  index : report.index = i
  target : report.target = name
  buffer : report.buffer = (held name).map Prod.fst
  draws : ∀ buffer size, Command.bindTarget buffer size ∈ draw ↔
    buffer = (held name).map Prod.snd ∧ size = report.size
  /-- The empty name is the final output. -/
  output : name = "" → held name = none ∧ report.size = r.renderSize
  named : name ≠ "" → ∃ t k b, r.before.document.target? name = some t ∧
    held name = some (k, b) ∧ r.DrawsNamed device now i t report.size k b

/-- **What a frame draws into and reports.** -/
structure Accounts (device : Device σ) (now : Moment) (r : Rendered σ) : Prop where
  /-- A complete frame has drawn and reported each of its passes, in their order. -/
  complete : ∀ report, r.outcome = .ok report →
    report.passes.length = r.before.document.passes.order.length ∧
    r.draws.length = r.before.document.passes.order.length ∧
    ∃ held, ∀ i name, r.before.document.passes.order[i]? = some name →
      ∃ draw pass, r.draws[i]? = some draw ∧ report.passes[i]? = some pass ∧
        r.Accounted device now held i name draw pass
  /-- A frame that was ready to draw has failed because the device has refused, at last, to make the
  buffer of a temporary target. -/
  fails : ∀ ready failure,
    Studio.prepare device.observed r.renderSize r.before = .ok () ready →
    r.outcome = .error failure →
    ∃ t ∈ r.before.document.passes.temporary, ∃ size reason,
      r.before.document.sizeIn? t.name r.renderSize = some size ∧
      failure = .device (.create size reason) ∧
      r.after.supply.device.calls.getLast? = some (.create (.renderTarget size t.float) none)

variable {device : Device σ} {now : Moment} {renderSize : Size} {s ready : Studio (Observed σ)}

/-- A frame that did not get ready to draw has failed. -/
theorem ofFrame_of_prepare_error (now : Moment) {failure : Failure} {t : Studio (Observed σ)}
    (h : Studio.prepare device.observed renderSize s = .error failure t) :
    ofFrame device now renderSize s = ⟨s, renderSize, .error failure, t⟩ := by
  rw [ofFrame, Studio.renderFrame_of_prepare_error now h]

/-- **A frame that was ready to draw ends as drawing ends**, and after that neither has the device
been told anything nor has the pool forgotten anything. -/
theorem ends_of_ready (now : Moment) (hs : s.Steady)
    (h : Studio.prepare device.observed renderSize s = .ok () ready) :
    ∃ drawn, (ofFrame device now renderSize s).after.supply.device = drawn.supply.device ∧
      drawn.supply.pool.Grows (ofFrame device now renderSize s).after.supply.pool ∧
      Ends
        (fun reports t => t = drawn ∧
          (ofFrame device now renderSize s).outcome = .ok ⟨ready.scene.frameIndex, reports⟩)
        (fun failure t => t = drawn ∧
          (ofFrame device now renderSize s).outcome = .error failure)
        (Studio.drawPasses device.observed (ready.scene.clock now) renderSize ready) := by
  obtain ⟨rested, hrested, hback, hframe⟩ :=
    Studio.exists_rested now hs.consistent hs.wellFormed hs.rests h
  have hdevice := kept_device.onTemporary (remains (Studio.drawPasses device.observed
    (ready.scene.clock now) renderSize ready))
  have hgrows := kept_grows.onTemporary (remains (Studio.drawPasses device.observed
    (ready.scene.clock now) renderSize ready))
  rw [hrested] at hdevice hgrows
  unfold ofFrame
  rw [hframe]
  rcases hd : Studio.drawPasses device.observed (ready.scene.clock now) renderSize ready with
    ⟨reports, drawn⟩ | ⟨failure, drawn⟩
  all_goals rw [hd] at hdevice hgrows
  · refine ⟨drawn, hdevice, hgrows, rfl, ?_⟩
    rw [← show rested.scene = ready.scene from hback.scene]
    rfl
  · exact ⟨drawn, hdevice, hgrows, rfl, rfl⟩

/-- A frame that is ready to draw has a program. -/
theorem exists_compiled (hs : s.Steady)
    (h : Studio.prepare device.observed renderSize s = .ok () ready) :
    ∃ begun c, Studio.untilBuffers device.observed renderSize s = .ok () begun ∧
      Studio.onPersistent (ensureBuffers device.observed) begun = .ok () ready ∧
      ready.scene.compiled = some c := by
  obtain ⟨begun, hbegun, hready⟩ := Studio.exists_begun h
  obtain ⟨t, calls, c, -, -, -, -, hc, -⟩ := Studio.programs_of_ok hbegun
  obtain ⟨-, -, -, -, -, hscene⟩ :=
    Studio.exists_loading_of_ready hs.consistent hs.wellFormed hbegun hready
  exact ⟨begun, c, hbegun, hready, by rw [hscene, hc]⟩

/-- What all passes into a target draw into, told from what is left when they are drawn. -/
def heldBy (drawn : Studio (Observed σ)) (name : String) : Option (Handle × Buffer) :=
  (drawn.document.currentOf? name).bind fun k =>
    (drawn.supply.pool.buffer? k).map fun b => (k, b)

/-- **A pass that was drawn is drawn and reported as it should be.** -/
theorem accounted {r : Rendered σ} {begun drawn : Studio (Observed σ)} {c : CompiledProgram}
    {shots : List Shot} (hs : s.Steady) (hbefore : r.before = s)
    (hfilms : Studio.Films device.observed now r.renderSize s begun ready c shots)
    (hdrawn : Studio.Drawn device.observed c.program (ready.scene.clock now) r.renderSize 0 []
      ready.document.passes.order ready shots drawn)
    (hgrows : drawn.supply.pool.Grows r.after.supply.pool) {i : Nat} {shot : Shot}
    (hi : shots[i]? = some shot) {name : String}
    (hname : s.document.passes.order[i]? = some name) :
    r.Accounted device now (heldBy drawn) i name
      (shot.commands c.program (ready.scene.clock now)) shot.report := by
  have hprepares := hfilms.prepares hs.consistent hs.wellFormed
  have hready := hs.wellFormed.of_blank_eq hprepares.blank
  rw [← Document.order_of_blank_eq hprepares.blank] at hname
  by_cases hne : name = ""
  · -- the final output has no buffer
    obtain ⟨s₀, s₁, n, handle, buffer, size, -, hlending, hn, hbuffer, rfl⟩ :=
      hfilms.exists_before hi
    cases hname.symm.trans hn
    have hnone : heldBy drawn name = none := by
      have hwell := hready.of_blank_eq
        (hdrawn.onlyLends hprepares.trades.consistent hready).blank
      have htarget : drawn.document.target? name = none :=
        List.find?_eq_none.2 fun t ht hname => (hwell.passes.drawn t ht).1
          ((of_decide_eq_true hname).trans hne)
      rw [heldBy, Document.currentOf?, htarget]
      rfl
    cases hlending with
    | output =>
      cases hbuffer
      refine ⟨rfl, rfl, by rw [hnone]; rfl, fun buffer size => ?_, fun _ => ⟨hnone, rfl⟩,
        fun h => absurd hne h⟩
      rw [hnone]
      exact Document.bindTarget_mem_iff
    | found _ h => exact absurd hne h
    | lent _ _ _ h => exact absurd hne h
  · obtain ⟨t, k, b, ht, hk, hreport, hpass, hsize, hdescriptor, hb, huse⟩ :=
      hfilms.exists_named hs.consistent hs.wellFormed hs.rests hi hname hne
    -- what the pass has found is there when all passes are drawn, and afterwards
    have hmem := List.mem_of_getElem? hi
    have hlater := (hdrawn.advances hprepares.trades.consistent hready).2 shot hmem
    have hheld : heldBy drawn name = some (k, b) := by
      rw [heldBy, hlater.current name k hk, Option.bind_some, hlater.buffers k b hb]
      rfl
    obtain ⟨u, hlends, -, hpool⟩ := hfilms.onlyLends hs.consistent hs.wellFormed hi
    have hconsistent : shot.pool.Consistent := hpool ▸ hlends.trades.consistent
    have hafter := (hdrawn.grows.2 shot hmem).trans hgrows
    obtain ⟨s', hshot⟩ := hfilms.shotAt_eq hi
    have htn : t.name = name := (Studio.Equipped.mem_targets ht).2
    refine ⟨by rw [hreport], by rw [hreport], by rw [hreport, hheld]; rfl, fun buffer size => ?_,
      fun h => absurd h hne, fun _ => ⟨t, k, b, by rw [hbefore]; exact ht, hheld, ?_⟩⟩
    · rw [Shot.commands, Document.bindTarget_mem_iff, hpass, hheld, hreport]
      rfl
    · rw [hreport]
      refine ⟨by rw [hbefore, htn]; exact hsize, ⟨shot, s', ?_, hdescriptor, hb, ?_⟩,
        hafter.descriptor? hconsistent hdescriptor, hafter.buffer? hconsistent hb⟩
      · rw [hbefore]
        exact hshot
      · rw [hbefore]
        exact huse

/-- **A complete frame draws and reports all of its passes as it should.** -/
theorem accounts_of_drawn {r : Rendered σ} {begun drawn : Studio (Observed σ)}
    {c : CompiledProgram} {shots : List Shot} (hs : s.Steady) (hbefore : r.before = s)
    (hfilms : Studio.Films device.observed now r.renderSize s begun ready c shots)
    (hdrawn : Studio.Drawn device.observed c.program (ready.scene.clock now) r.renderSize 0 []
      ready.document.passes.order ready shots drawn)
    (hdevice : r.after.supply.device = drawn.supply.device)
    (hgrows : drawn.supply.pool.Grows r.after.supply.pool) :
    r.draws.length = s.document.passes.order.length ∧
      (shots.map Shot.report).length = s.document.passes.order.length ∧
      ∀ i name, s.document.passes.order[i]? = some name →
        ∃ draw pass, r.draws[i]? = some draw ∧ (shots.map Shot.report)[i]? = some pass ∧
          r.Accounted device now (heldBy drawn) i name draw pass := by
  have hprepares := hfilms.prepares hs.consistent hs.wellFormed
  have htold := (Studio.told_of_ready hfilms.begins hfilms.readies).trans hdrawn.told
  rw [List.nil_append, ← hdevice, ← hbefore] at htold
  have hcut := (draws_eq htold).trans (draws_shots _ _ shots)
  have hlength : shots.length = s.document.passes.order.length := by
    rw [hdrawn.length_eq, Document.order_of_blank_eq hprepares.blank]
  refine ⟨by rw [hcut, List.length_map, hlength], by rw [List.length_map, hlength],
    fun i name hname => ?_⟩
  have hlt : i < shots.length := hlength ▸ (List.getElem?_eq_some_iff.1 hname).1
  have hi : shots[i]? = some shots[i] := List.getElem?_eq_getElem hlt
  refine ⟨_, _, ?_, ?_, accounted hs hbefore hfilms hdrawn hgrows hi hname⟩
  · rw [hcut, List.getElem?_map, hi]
    rfl
  · rw [List.getElem?_map, hi]
    rfl

/-- **A frame that was ready to draw fails because a temporary target is refused a buffer.** -/
theorem refused_of_drawPasses {drawn : Studio (Observed σ)} {failure : Failure} (hs : s.Steady)
    (h : Studio.prepare device.observed renderSize s = .ok () ready)
    (hdraws : Studio.drawPasses device.observed (ready.scene.clock now) renderSize ready =
      .error failure drawn) :
    ∃ t ∈ s.document.passes.temporary, ∃ size reason,
      s.document.sizeIn? t.name renderSize = some size ∧
      failure = .device (.create size reason) ∧
      drawn.supply.device.calls.getLast? = some (.create (.renderTarget size t.float) none) := by
  obtain ⟨begun, c, hbegun, hready, hc⟩ := exists_compiled hs h
  obtain ⟨hequipped, e, hresize, houtlines⟩ :=
    Studio.equipped_of_ready hs.consistent hs.wellFormed hs.rests hbegun hready
  -- every pass names a target that is declared
  have hnames : ∀ name ∈ ready.document.passes.order, name ≠ "" →
      ∃ u ∈ ready.document.outlines, u.name = name := by
    intro name hname hne
    obtain ⟨t, ht, heq⟩ := hequipped.wellFormed.passes.declared name hname hne
    exact ⟨t.withoutBuffers, List.mem_map_of_mem ht, heq⟩
  have hends := Studio.ends_drawFrom_of_equipped device.observed c.program
    (ready.scene.clock now) renderSize hequipped hnames 0 []
  have hfrom : Studio.drawPasses device.observed (ready.scene.clock now) renderSize ready =
      Studio.drawFrom device.observed c.program (ready.scene.clock now) renderSize 0 []
        ready.document.passes.order ready := by
    refine (bind_of_ok (x := get) rfl).trans ?_
    rw [hc]
  rw [← hfrom, hdraws] at hends
  obtain ⟨name, -, u, hu, -, hpersistent, z, supply, hz, hacquire⟩ := hends
  obtain ⟨⟨reason, rfl⟩, hcalls⟩ := refusal_of_acquire device hacquire
  rw [houtlines] at hu
  obtain ⟨v, hv, hvu⟩ := Document.target?_of_mem_outlines
    (hs.wellFormed.of_blank_eq (Document.blank_resize hresize)) hu
  obtain ⟨t, ht, hblank, hsize⟩ := Document.exists_of_resize hresize hv
  have htu : t.blank = u.blank := by
    rw [hblank, ← hvu]
    rfl
  have hfloat : t.float = u.float := by rw [← t.float_blank, htu, u.float_blank]
  have htemporary : t ∈ s.document.passes.temporary := by
    rcases (Document.target?_eq_some hs.wellFormed ht).2 with ⟨hp, -⟩ | ⟨-, hmem⟩
    · rw [← t.persistent_blank, htu, u.persistent_blank, hpersistent] at hp
      cases hp
    · exact hmem
  refine ⟨t, htemporary, z, reason, ?_, rfl, ?_⟩
  · rw [(Studio.Equipped.mem_targets ht).2, hsize, ← v.size_withoutBuffers, hvu, hz]
  · rw [hcalls, List.getLast?_concat, hfloat]

/-- **Every frame of a steady studio draws and reports what it should.** -/
theorem accounts (device : Device σ) (now : Moment) (renderSize : Size) (hs : s.Steady) :
    (ofFrame device now renderSize s).Accounts device now := by
  have hbefore := before_ofFrame device now renderSize s
  have hsize := renderSize_ofFrame device now renderSize s
  rcases hprepare : Studio.prepare device.observed renderSize s with ⟨_, ready⟩ | ⟨failure, t⟩
  · obtain ⟨drawn, hdevice, hgrows, hends⟩ := ends_of_ready now hs hprepare
    have hdraws := Studio.ends_drawPasses device.observed (ready.scene.clock now) renderSize ready
    rcases hd : Studio.drawPasses device.observed (ready.scene.clock now) renderSize ready with
      ⟨reports, t⟩ | ⟨failure, t⟩
    · rw [hd] at hends hdraws
      obtain ⟨rfl, houtcome⟩ := hends
      obtain ⟨begun, c, hbegun, hready, hc⟩ := exists_compiled hs hprepare
      obtain ⟨c', shots, hc', rfl, hdrawn⟩ := hdraws
      cases hc.symm.trans hc'
      rw [← hsize] at hbegun hdrawn
      obtain ⟨hlength, hlength', hpasses⟩ := accounts_of_drawn hs hbefore
        ⟨hbegun, hready, hc, _, t, List.prefix_rfl, hdrawn⟩ hdrawn hdevice hgrows
      refine ⟨fun report h => ?_, fun _ failure _ h => ?_⟩
      · rw [houtcome] at h
        cases h
        rw [hbefore]
        exact ⟨hlength', hlength, heldBy t, hpasses⟩
      · rw [houtcome] at h
        cases h
    · rw [hd] at hends
      obtain ⟨rfl, houtcome⟩ := hends
      refine ⟨fun report h => ?_, fun ready' failure' h h' => ?_⟩
      · rw [houtcome] at h
        cases h
      · rw [houtcome] at h'
        cases h'
        rw [hbefore, hsize, hdevice]
        exact refused_of_drawPasses hs hprepare hd
  · refine ⟨fun report h => ?_, fun ready failure h _ => ?_⟩
    · rw [ofFrame_of_prepare_error now hprepare] at h
      cases h
    · rw [hbefore, hsize, hprepare] at h
      cases h

end Rendered

namespace Session

/-- **Every frame draws and reports what it should**, whatever has happened to a scene, to its
document and to the pool before, and whichever scene renders the document. -/
theorem frames_account (device : Device σ) (d : {d : Document // d.Opened})
    (settings : SceneSettings) (started : Nat) (pool : PoolSettings) (state : σ)
    (moves : List Move) (scene : Scene) (now : Moment) (renderSize : Size) :
    (Rendered.ofFrame device now renderSize
      { (moved device moves (start d.1 settings started pool state)).studio with
        scene := scene }).Accounts device now := by
  have hs := (steady_moved device (steady_start d.2 settings started pool state) moves).1
  exact Rendered.accounts device now renderSize (hs.congr rfl hs.consistent)

end Session

end ShaderEffect
