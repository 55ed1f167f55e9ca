/-
**What imported images are bound to.**

An imported image is loaded by the first frame that comes to it, and stays bound to the buffer that
it got: the pool owns it, hands it to nobody else, and does not let it expire.  But the binding is
all that a scene remembers.  When the pool is cleared, an image goes on being bound to a handle that
means nothing any more.  So between any two moves an image is not bound yet, or it is bound to a
buffer that was loaded for it, or it was bound when the pool was cleared and has lost its buffer.

Main definitions:

* `ShaderEffect.Supply.Elapses` — what happens while handles are exchanged for others;
* `ShaderEffect.Parameter.Stands`, `ShaderEffect.Studio.Minds` — **what is true of imported images
  between moves**;
* `ShaderEffect.Session.Bereft` — the pool was cleared when an image had been loaded.

Main results:

* `ShaderEffect.loadImport_cases` — what loading an image does;
* `ShaderEffect.Studio.Minds.ofFrame`, `ShaderEffect.Session.minds_move` — **every move leaves
  images bound to what was loaded for them**, unless it clears the pool;
* `ShaderEffect.Session.minds_moved` — what is true of images after all moves.
-/

import ShaderEffect.Proofs.Scene.Apart
import ShaderEffect.Proofs.Scene.Bystanders

set_option autoImplicit false

namespace ShaderEffect

open Pool Supply Observed

variable {σ : Type}

/-! ### Loading -/

/-- **What loading an image does**: nothing if it is bound already; otherwise its file is loaded, or
cannot be. -/
theorem loadImport_cases (device : Device σ) {p : Parameter}
    (hp : p.isImport = true → p.kind = .image) (s : Supply σ) :
    ((p.isImport = true → p.current.binding? ≠ none) ∧ loadImport device (p, s) = .ok () (p, s)) ∨
    ∃ path, p.importPath = some path ∧ p.current.binding? = none ∧
      ((∃ fault state, device.loadImage path s.device = .error fault state ∧
          loadImport device (p, s) = .error (.fileIo path fault) (p, ⟨s.pool, state⟩)) ∨
        ∃ b d state, device.loadImage path s.device = .ok (b, d) state ∧
          loadImport device (p, s) =
            .ok () ({ p with current := .image (some ⟨(s.pool.adopt d b).1, d, false⟩) },
              ⟨(s.pool.adopt d b).2, state⟩)) := by
  unfold loadImport
  dsimp only
  split
  · rename_i path hpath hnone
    refine Or.inr ⟨path, hpath, hnone, ?_⟩
    rcases device.loadImage path s.device with ⟨⟨b, d⟩, state⟩ | ⟨fault, state⟩
    · have himport : p.isImport = true := by simp [Parameter.isImport, hpath]
      have hbind : p.bind (some ⟨(s.pool.adopt d b).1, d, false⟩) =
          .ok { p with current := .image (some ⟨(s.pool.adopt d b).1, d, false⟩) } := by
        simp [Parameter.bind, Value.ofBinding?, hp himport]
      refine Or.inr ⟨b, d, state, rfl, ?_⟩
      dsimp only
      rw [hbind]
    · exact Or.inl ⟨fault, state, rfl, rfl⟩
  · rename_i hnot
    refine Or.inl ⟨fun himport hnone => ?_, rfl⟩
    obtain ⟨path, hpath⟩ := Option.isSome_iff_exists.1 himport
    exact hnot path hpath hnone

/-! ### Between frames -/

namespace Supply

/-- A buffer is handed out under a handle that was loaded from a file. -/
def Backs (s : Supply (Observed σ)) (path : Option String) (h : Handle) : Prop :=
  ∃ file e, path = some file ∧ s.pool.find? h = some e ∧ e.inUse = true ∧
    DeviceCall.load file (some (e.buffer, e.descriptor)) ∈ s.device.calls

/-- What happens while handles are exchanged for others: others stand by, numbers are not used
again, and calls are added. -/
structure Elapses (kept : Multiset Handle) (s : Supply (Observed σ)) (kept' : Multiset Handle)
    (t : Supply (Observed σ)) : Prop where
  bypasses : Bypasses s.pool kept t.pool kept'
  issues : s.pool.Issues t.pool
  adds : Adds (fun _ => True) s.device t.device

namespace Elapses

variable {s t u : Supply (Observed σ)} {kept kept' kept'' : Multiset Handle}

theorem refl (hs : s.pool.Consistent) (kept : Multiset Handle) : Elapses kept s kept s :=
  ⟨.refl hs kept, .refl _, .refl _⟩

theorem trans (h : Elapses kept s kept' t) (h' : Elapses kept' t kept'' u) :
    Elapses kept s kept'' u :=
  ⟨h.bypasses.trans h'.bypasses, h.issues.trans h'.issues, h.adds.trans h'.adds⟩

/-- Taking more buffers in. -/
theorem of_taken {new : Multiset Handle} (hs : s.pool.Consistent)
    (htrades : Trades s.pool 0 t.pool new) (hissues : s.pool.Issues t.pool)
    (hadds : Adds (fun _ => True) s.device t.device) (kept : Multiset Handle) :
    Elapses kept s kept t :=
  ⟨.of_taken hs htrades kept, hissues, hadds⟩

/-- A buffer that was loaded stays what it is. -/
theorem backs (h : Elapses kept s kept' t) {path : Option String} {k : Handle}
    (hk : s.Backs path k) (hnot : k ∉ kept) : t.Backs path k ∧ k ∉ kept' := by
  obtain ⟨file, e, hpath, he, hu, hcall⟩ := hk
  obtain ⟨calls, hcalls, -⟩ := h.adds
  obtain ⟨he', hnot'⟩ := h.bypasses.standsBy k e he hu hnot
  refine ⟨⟨file, e, hpath, he', hu, ?_⟩, hnot'⟩
  rw [hcalls]
  exact List.mem_append_left _ hcall

end Elapses

end Supply

/-- **What is true of an imported image between frames**: it is not bound yet; or it is bound to a
buffer that was loaded for it, and that stands in no slot; or it has lost its buffer. -/
inductive Parameter.Stands (bereft : Prop) (kept : Multiset Handle) (s : Supply (Observed σ))
    (p : Parameter) : Prop where
  | missing : p.current.binding? = none → ¬ bereft → Stands bereft kept s p
  | backed {b : Binding} : p.current.binding? = some b → ¬ bereft →
      s.Backs p.importPath b.handle → b.handle ∉ kept → Stands bereft kept s p
  | lost {b : Binding} : p.current.binding? = some b → bereft →
      b.handle.number < s.pool.nextNumber → s.pool.find? b.handle = none →
      Stands bereft kept s p

namespace Parameter.Stands

variable {bereft : Prop} {kept kept' : Multiset Handle} {s t : Supply (Observed σ)}
  {p q : Parameter}

/-- What is true of an image stays true as long as it stays bound to what it is bound to. -/
theorem elapse (h : p.Stands bereft kept s) (hs : s.pool.Consistent)
    (helapses : Elapses kept s kept' t) (himage : q.image = p.image) :
    q.Stands bereft kept' t := by
  obtain ⟨-, hpath, hbinding⟩ := (by simpa [Parameter.image] using himage :
    q.name = p.name ∧ q.importPath = p.importPath ∧ q.current.binding? = p.current.binding?)
  cases h with
  | missing hnone hnot => exact .missing (hbinding.trans hnone) hnot
  | backed hb hnot hbacks hkept =>
    obtain ⟨hbacks', hkept'⟩ := helapses.backs hbacks hkept
    exact .backed (hbinding.trans hb) hnot (hpath ▸ hbacks') hkept'
  | lost hb hbereft hlt hnone =>
    obtain ⟨-, hle, hgone⟩ := helapses.issues hs
    exact .lost (hbinding.trans hb) hbereft (hlt.trans_le hle) (hgone _ hlt hnone)

/-- The number of the handle that an image is bound to was issued. -/
theorem issued (h : p.Stands bereft kept s) (hs : s.pool.Consistent) {b : Binding}
    (hb : p.current.binding? = some b) : b.handle.number < s.pool.nextNumber := by
  cases h with
  | missing hnone =>
    rw [hb] at hnone
    cases hnone
  | backed hb' _ hbacks =>
    cases hb.symm.trans hb'
    obtain ⟨_, e, -, he, -⟩ := hbacks
    exact hs.number_lt _ e he
  | lost hb' _ hlt =>
    cases hb.symm.trans hb'
    exact hlt

end Parameter.Stands

/-- An image that is loaded. -/
theorem elapses_loadImport (device : Device σ) {s : Supply (Observed σ)} (hs : s.pool.Consistent)
    (kept : Multiset Handle) (p : Parameter) :
    Ends (fun _ r => Elapses kept s kept r.2) (fun _ r => Elapses kept s kept r.2)
      (loadImport device.observed (p, s)) := by
  have hcalls := ends_same_iff (p := fun r : Parameter × Supply (Observed σ) =>
    s.pool.Issues r.2.pool ∧ Adds (fun _ => True) s.device r.2.device).2
      ⟨issues_loadImport device.observed p s, adds_loadImport device (fun _ _ => trivial) p s⟩
  refine ((Takes.loadImport device.observed hs p).and hcalls).mono ?_ ?_
  all_goals
    rintro _ r ⟨⟨new, htrades, -⟩, hissues, hadds⟩
    exact .of_taken hs htrades hissues hadds kept

/-- Images that are loaded one after the other. -/
theorem elapses_eachOf_loadImport (device : Device σ) {s : Supply (Observed σ)}
    (hs : s.pool.Consistent) (kept : Multiset Handle) (ps : List Parameter) :
    Elapses kept s kept (remains (eachOf (loadImport device.observed) (ps, s))).2 := by
  refine ends_same_iff.1 (ends_eachOf_induct_same (loadImport device.observed)
    (I := fun _ s => s.pool.Consistent) (R := fun _ s _ t => Elapses kept s kept t)
    (fun s hs => .refl hs kept) (fun p ps s hs => ?_) hs)
  exact (elapses_loadImport device hs kept p).mono
    (fun _ _ h => ⟨h.bypasses.consistent, fun _ _ hrest => h.trans hrest⟩) fun _ _ h => h

/-- An image that is loaded is bound to a buffer that was loaded for it. -/
theorem stands_loadImport (device : Device σ) {bereft : String → Prop} {kept : Multiset Handle}
    {p : Parameter} (hp : p.isImport = true → p.kind = .image) {s : Supply (Observed σ)}
    (hs : s.pool.Consistent) (hkept : ∀ h ∈ kept, h.number < s.pool.nextNumber)
    (hstands : p.isImport = true → p.Stands (bereft p.name) kept s) :
    Ends (fun _ r => r.1.isImport = true → r.1.Stands (bereft r.1.name) kept r.2)
      (fun _ r => r.1.isImport = true → r.1.Stands (bereft r.1.name) kept r.2)
      (loadImport device.observed (p, s)) := by
  have helapses := elapses_loadImport device hs kept p
  rcases loadImport_cases device.observed hp s with
    ⟨-, heq⟩ | ⟨path, hpath, hnone, ⟨fault, state, hload, heq⟩ | ⟨b, d, state, hload, heq⟩⟩
  · rw [heq]
    exact hstands
  · rw [heq] at helapses ⊢
    exact fun himport => (hstands himport).elapse hs helapses rfl
  · rw [heq]
    intro himport
    have hnot : ¬ bereft p.name := by
      cases hstands himport with
      | missing _ hnot => exact hnot
      | backed hb =>
        rw [hnone] at hb
        cases hb
      | lost hb =>
        rw [hnone] at hb
        cases hb
    refine .backed rfl hnot ⟨path, ⟨d, b, true, s.pool.round⟩, hpath, ?_, rfl, ?_⟩ fun hmem => ?_
    · exact (find?_adopt s.pool d b _).trans (if_pos rfl)
    · show _ ∈ state.calls
      rw [show state.calls = _ from Device.calls_of_noted_ok hload]
      exact List.mem_append_right _ (List.mem_singleton_self _)
    · exact absurd (hkept _ hmem) (Nat.lt_irrefl _)

/-- **Images that are loaded are bound to buffers that were loaded for them.** -/
theorem stands_eachOf_loadImport (device : Device σ) {bereft : String → Prop}
    {kept : Multiset Handle} {ps : List Parameter}
    (hps : ∀ p ∈ ps, p.isImport = true → p.kind = .image) {s : Supply (Observed σ)}
    (hs : s.pool.Consistent) (hkept : ∀ h ∈ kept, h.number < s.pool.nextNumber)
    (hstands : ∀ p ∈ ps, p.isImport = true → p.Stands (bereft p.name) kept s) :
    ∀ q ∈ (remains (eachOf (loadImport device.observed) (ps, s))).1, q.isImport = true →
      q.Stands (bereft q.name) kept
        (remains (eachOf (loadImport device.observed) (ps, s))).2 := by
  refine (ends_same_iff.1 (ends_eachOf_induct_same (loadImport device.observed)
    (I := fun ps s => (s.pool.Consistent ∧ ∀ h ∈ kept, h.number < s.pool.nextNumber) ∧
      ∀ p ∈ ps, (p.isImport = true → p.kind = .image) ∧
        (p.isImport = true → p.Stands (bereft p.name) kept s))
    (R := fun _ s qs t => Elapses kept s kept t ∧
      ∀ q ∈ qs, q.isImport = true → q.Stands (bereft q.name) kept t)
    (fun s h => ⟨.refl h.1.1 kept, fun _ hq => absurd hq List.not_mem_nil⟩)
    (fun p ps s h => ?_) ⟨⟨hs, hkept⟩, fun p hp => ⟨hps p hp, hstands p hp⟩⟩)).2
  obtain ⟨⟨hs, hkept⟩, hall⟩ := h
  obtain ⟨⟨hp, hfirst⟩, hothers⟩ := List.forall_mem_cons.1 hall
  -- the rest of the images finds the first one as it stands, and leaves it so
  refine ((elapses_loadImport device hs kept p).and
    (stands_loadImport device hp hs hkept hfirst)).mono ?_ ?_
  · rintro _ r ⟨helapses, hq⟩
    refine ⟨⟨⟨helapses.bypasses.consistent, fun h hh => ?_⟩, fun q hmem => ⟨?_, ?_⟩⟩, ?_⟩
    · exact (hkept h hh).trans_le (helapses.issues hs).2.1
    · exact (hothers q hmem).1
    · exact fun himport => ((hothers q hmem).2 himport).elapse hs helapses rfl
    · rintro qs u ⟨hlater, hrest⟩
      refine ⟨helapses.trans hlater, List.forall_mem_cons.2 ⟨fun himport => ?_, hrest⟩⟩
      exact (hq himport).elapse helapses.bypasses.consistent hlater rfl
  · rintro _ r ⟨helapses, hq⟩
    refine ⟨helapses, List.forall_mem_cons.2 ⟨hq, fun q hmem himport => ?_⟩⟩
    exact ((hothers q hmem).2 himport).elapse hs helapses rfl

namespace Studio

/-! ### Frames -/

/-- **What is true of all imported images between frames.** -/
structure Minds (bereft : String → Prop) (s : Studio (Observed σ)) : Prop where
  /-- What stands in slots was issued by the pool. -/
  issued : ∀ h ∈ s.document.kept, h.number < s.supply.pool.nextNumber
  images : ∀ p ∈ s.document.parameters, p.isImport = true →
    p.Stands (bereft p.name) s.document.kept s.supply

section

variable {bereft bereft' : String → Prop} {s t : Studio (Observed σ)}

theorem Minds.congr (h : s.Minds bereft) (hiff : ∀ name, bereft' name ↔ bereft name) :
    s.Minds bereft' := by
  have heq : bereft' = bereft := funext fun name => propext (hiff name)
  rw [heq]
  exact h

/-- What is true of images stays true as long as they stay bound to what they are bound to. -/
theorem Minds.elapse (h : s.Minds bereft) (hs : s.supply.pool.Consistent)
    (himages : t.document.parameters.map Parameter.image =
      s.document.parameters.map Parameter.image)
    (helapses : Elapses s.document.kept s.supply t.document.kept t.supply)
    (hissued : ∀ k ∈ t.document.kept,
      k ∈ s.document.kept ∨ k.number < t.supply.pool.nextNumber) : t.Minds bereft := by
  refine ⟨fun k hk => ?_, fun q hq himport => ?_⟩
  · rcases hissued k hk with hk | hk
    · exact (h.issued k hk).trans_le (helapses.issues hs).2.1
    · exact hk
  · obtain ⟨p, hp, hpq⟩ := List.mem_map.1 (himages ▸ List.mem_map_of_mem hq)
    have hname : p.name = q.name := congrArg Prod.fst hpq
    have hpath : p.importPath = q.importPath := congrArg (fun x => x.2.1) hpq
    have hstands := h.images p hp (by rw [Parameter.isImport, hpath]; exact himport)
    rw [hname] at hstands
    exact hstands.elapse hs helapses hpq.symm

/-- A frame that has loaded its images. -/
theorem Minds.loading (h : s.Minds bereft) (hs : s.supply.pool.Consistent)
    (hd : s.document.WellFormed) {device : Device σ} (hloading : Loading device.observed s t)
    (hkept : t.document.kept = s.document.kept) :
    t.Minds bereft ∧ Elapses s.document.kept s.supply t.document.kept t.supply := by
  have helapses := elapses_eachOf_loadImport device hs s.document.kept s.document.parameters
  have hstands := stands_eachOf_loadImport device hd.parameters.imports hs h.issued h.images
  obtain ⟨hpairs, hafter⟩ : (∀ q ∈ t.document.parameters, q.isImport = true →
      q.Stands (bereft q.name) s.document.kept t.supply) ∧
        Elapses s.document.kept s.supply s.document.kept t.supply := by
    rcases hloading.loads with hloads | hloads
    · rw [Prod.mk.injEq] at hloads
      rw [hloads.1, hloads.2]
      exact ⟨h.images, .refl hs _⟩
    · rw [← hloads] at helapses hstands
      exact ⟨hstands, helapses⟩
  rw [hkept]
  refine ⟨⟨fun k hk => ?_, ?_⟩, hafter⟩
  · exact (h.issued k (hkept ▸ hk)).trans_le (hafter.issues hs).2.1
  · rw [hkept]
    exact hpairs

/-- The program is no business of images. -/
theorem elapses_ensureProgram (device : Device σ) (ht : t.supply.pool.Consistent) :
    (remains (ensureProgram device.observed t)).document = t.document ∧
      Elapses t.document.kept t.supply t.document.kept
        (remains (ensureProgram device.observed t)).supply := by
  have hprogram := ends_ensureProgram device.observed t
  have hadds := (kept_adds fun _ => True).ensureProgram (adds_compile device fun _ _ => trivial) t
  rcases hr : ensureProgram device.observed t with ⟨_, u⟩ | ⟨e, u⟩
  all_goals
    rw [hr] at hprogram hadds
    refine ⟨hprogram.1, ?_, ?_, hadds⟩
    · show Bypasses _ _ u.supply.pool _
      rw [hprogram.2]
      exact .refl ht _
    · show Issues _ u.supply.pool
      rw [hprogram.2]
      exact .refl _

/-- A frame that has got as far as the buffers of targets, or failed before. -/
theorem Minds.untilBuffers (h : s.Minds bereft) (hs : s.Steady) (device : Device σ)
    (renderSize : Size) :
    (remains (untilBuffers device.observed renderSize s)).Minds bereft ∧
      Elapses s.document.kept s.supply s.document.kept
        (remains (Studio.untilBuffers device.observed renderSize s)).supply := by
  have hkept : (remains (Studio.untilBuffers device.observed renderSize s)).document.kept =
      s.document.kept := by
    rcases hr : Studio.untilBuffers device.observed renderSize s with ⟨_, begun⟩ | ⟨e, begun⟩
    · exact Document.allHeld_congr (begins_of_ok hs.consistent hs.wellFormed hr).1.slots.1
    · exact Document.allHeld_congr (begins_of_error hs.consistent hs.wellFormed hr).slots.1
  have hloading := ends_untilLoaded device.observed renderSize s
  rcases ht : untilLoaded device.observed renderSize s with ⟨_, t⟩ | ⟨e, t⟩
  · have hbegun : Studio.untilBuffers device.observed renderSize s =
        ensureProgram device.observed t := by
      rw [untilBuffers_eq]
      exact bind_of_ok ht
    rw [ht] at hloading
    rw [hbegun] at hkept ⊢
    have hdocument := fun hpool => (elapses_ensureProgram (t := t) device hpool).1
    have hfirst := h.loading hs.consistent hs.wellFormed hloading
    have htkept : t.document.kept = s.document.kept := by
      rw [← hdocument (hloading.takes hs.consistent).consistent]
      exact hkept
    obtain ⟨hminds, helapses⟩ := hfirst htkept
    have htpool := helapses.bypasses.consistent
    have hthen := (elapses_ensureProgram device htpool).2
    rw [htkept] at helapses hthen
    refine ⟨hminds.elapse htpool ?_ ?_ fun k hk => ?_, helapses.trans hthen⟩
    · rw [hdocument htpool]
    · rw [hdocument htpool, htkept]
      exact hthen
    · rw [hdocument htpool] at hk
      exact Or.inl hk
  · have hbegun : Studio.untilBuffers device.observed renderSize s = .error e t := by
      rw [untilBuffers_eq]
      exact bind_of_error ht
    rw [ht] at hloading
    rw [hbegun] at hkept ⊢
    obtain ⟨hminds, helapses⟩ := h.loading hs.consistent hs.wellFormed hloading hkept
    rw [show t.document.kept = _ from hkept] at helapses
    exact ⟨hminds, helapses⟩

/-- **A frame leaves images bound to what was loaded for them**, however it goes. -/
theorem Minds.ofFrame (h : s.Minds bereft) (hs : s.Steady) (device : Device σ) (now : Moment)
    (renderSize : Size) : (Rendered.ofFrame device now renderSize s).after.Minds bereft := by
  obtain ⟨hbegun, helapses⟩ := h.untilBuffers hs device renderSize
  have hfollows := follows_renderFrame device.observed now renderSize hs.consistent hs.wellFormed
    hs.rests
  rw [Rendered.after_ofFrame]
  refine hbegun.elapse helapses.bypasses.consistent hfollows.images ⟨hfollows.bypasses, ?_, ?_⟩
    hfollows.issued
  · exact kept_issues.renderFrame_behind (issues_acquire device.observed) (fun _ _ => .refl _) now
      renderSize s
  · exact (kept_adds _).renderFrame_behind (fun d => adds_acquire device d fun _ => trivial)
      (fun commands u => adds_performAll device (fun _ => trivial) commands u.device) now
      renderSize s

end

end Studio

/-! ### Moves -/

/-- Whether the document has loaded an image of a name. -/
def Document.HasLoaded (d : Document) (name : String) : Prop :=
  ∃ p ∈ d.imageImports, p.name = name ∧ p.current.binding? ≠ none

/-- Whether a move leaves it to frames to bind images, and gives nothing back that others hold. -/
def Move.leavesImages : Move → Bool
  | .frame _ _ | .visit _ _ _ | .configure _ | .resize _ => true
  | .elsewhere (.release _) => false
  | .elsewhere _ => true
  | _ => false

/-- What others do with a pool lets buffers that are held stand by, unless they give them back or
clear the pool. -/
theorem Supply.elapses_perform (device : Device σ) {s : Supply (Observed σ)}
    (hs : s.pool.Consistent) {op : Operation} (hrelease : ∀ h, op ≠ .release h)
    (hclear : op ≠ .clear) (kept : Multiset Handle) :
    Elapses kept s kept (op.perform device.observed s) := by
  have hissues := issues_perform device.observed s op
  have hadds := op.adds_perform device s
  have htrades : ∃ new, Trades s.pool 0 (op.perform device.observed s).pool new := by
    cases op with
    | acquire d =>
      have hacquire := ends_acquire device.observed hs d
      rw [Operation.perform]
      rcases hr : Supply.acquire device.observed d s with ⟨h, t⟩ | ⟨failure, t⟩
      · rw [hr] at hacquire
        exact ⟨_, hacquire.1⟩
      · rw [hr] at hacquire
        refine ⟨0, ?_⟩
        rw [remains, show t.pool = s.pool from hacquire]
        exact Trades.refl hs 0
    | adopt d b => exact ⟨_, trades_adopt hs d b⟩
    | release h => exact absurd rfl (hrelease h)
    | housekeep => exact ⟨0, trades_evict hs 0⟩
    | clear => exact absurd rfl hclear
  obtain ⟨new, htrades⟩ := htrades
  exact .of_taken hs htrades hissues hadds kept

namespace Studio.Minds

variable {bereft : String → Prop} {s : Studio (Observed σ)}

/-- **When the pool is cleared, every image that has been loaded loses its buffer**, and goes on
being bound to it. -/
theorem clear (h : s.Minds bereft) (hs : s.Steady) (device : Device σ) :
    Minds (fun name => bereft name ∨ s.document.HasLoaded name)
      { s with supply := s.supply.clear device.observed } := by
  refine ⟨h.issued, fun p hp himport => ?_⟩
  have hstands := h.images p hp himport
  have hmem : p ∈ s.document.imageImports := List.mem_filter.2 ⟨hp, himport⟩
  cases hb : p.current.binding? with
  | none =>
    refine .missing hb ?_
    rintro (hbereft | ⟨q, hq, hname, hloaded⟩)
    · cases hstands with
      | missing _ hnot => exact hnot hbereft
      | backed _ hnot => exact hnot hbereft
      | lost hb' =>
        rw [hb] at hb'
        cases hb'
    · -- no two parameters have the same name
      obtain rfl := List.inj_on_of_nodup_map hs.wellFormed.parameters.names
        (List.mem_filter.1 hq).1 hp hname
      exact hloaded hb
  | some b =>
    have hloaded : s.document.HasLoaded p.name :=
      ⟨p, hmem, rfl, by rw [hb]; exact Option.some_ne_none b⟩
    exact .lost hb (Or.inr hloaded) (hstands.issued hs.consistent hb) rfl

end Studio.Minds

namespace Session

/-- **The pool was cleared when an image had been loaded.** -/
def Bereft (device : Device σ) (s : Session σ) (moves : List Move) (name : String) : Prop :=
  ∃ before later, moves = before ++ .elsewhere .clear :: later ∧
    (moved device before s).studio.document.HasLoaded name

theorem bereft_concat (device : Device σ) (s : Session σ) (moves : List Move) (m : Move)
    (name : String) : Bereft device s (moves ++ [m]) name ↔
      Bereft device s moves name ∨
        m = .elsewhere .clear ∧ (moved device moves s).studio.document.HasLoaded name := by
  constructor
  · rintro ⟨before, later, heq, hloaded⟩
    rcases List.eq_nil_or_concat later with rfl | ⟨later, last, rfl⟩
    · obtain ⟨rfl, hm⟩ := List.append_inj' heq rfl
      exact Or.inr ⟨List.singleton_inj.1 hm, hloaded⟩
    · rw [List.concat_eq_append, ← List.cons_append, ← List.append_assoc] at heq
      exact Or.inl ⟨before, later, (List.append_inj' heq rfl).1, hloaded⟩
  · rintro (⟨before, later, rfl, hloaded⟩ | ⟨rfl, hloaded⟩)
    · exact ⟨before, later ++ [m], by simp, hloaded⟩
    · exact ⟨moves, [], rfl, hloaded⟩

variable {device : Device σ} {s : Session σ} {bereft : String → Prop}

/-- **Every move leaves images bound to what was loaded for them**, unless it clears the pool. -/
theorem minds_move (h : s.studio.Minds bereft) (hs : s.studio.Steady) {m : Move}
    (hm : m.leavesImages = true) :
    (move device s m).studio.Minds fun name =>
      bereft name ∨ m = .elsewhere .clear ∧ s.studio.document.HasLoaded name := by
  -- nothing is lost but by clearing
  have hkeeps {t : Studio (Observed σ)} (hne : m ≠ .elsewhere .clear) (ht : t.Minds bereft) :
      t.Minds fun name => bereft name ∨ m = .elsewhere .clear ∧ s.studio.document.HasLoaded name :=
    ht.congr fun name => or_iff_left fun hclear => hne hclear.1
  cases m with
  | frame now renderSize => exact hkeeps (by simp) (h.ofFrame hs device now renderSize)
  | visit other now renderSize =>
    have hother : Studio.Minds bereft { s.studio with scene := other } := ⟨h.issued, h.images⟩
    have hafter := hother.ofFrame (hs.congr rfl hs.consistent) device now renderSize
    exact hkeeps (by simp) ⟨hafter.issued, hafter.images⟩
  | configure settings => exact hkeeps (by simp) ⟨h.issued, h.images⟩
  | resize renderSize =>
    refine hkeeps (by simp) ?_
    rw [move]
    cases hresize : s.studio.document.resize renderSize with
    | error failure => exact h
    | ok d =>
      have hkept : d.kept = s.studio.document.kept :=
        Document.allHeld_congr (Document.slots_resize hresize).1
      obtain ⟨_, _, -, -, rfl⟩ := Document.resize_eq_ok_iff.1 hresize
      refine h.elapse (t := { s.studio with document := _ }) hs.consistent rfl ?_
        fun k hk => Or.inl (hkept ▸ hk)
      dsimp only
      rw [hkept]
      exact .refl hs.consistent _
  | elsewhere op =>
    by_cases hclear : op = .clear
    · subst hclear
      exact (h.clear hs device).congr fun name => by simp
    · refine hkeeps (by simpa using hclear) ?_
      have helapses := Supply.elapses_perform device hs.consistent
        (fun k hk => by subst hk; cases hm) hclear s.studio.document.kept
      exact h.elapse hs.consistent rfl helapses fun _ hk => Or.inl hk
  | change name change => cases hm
  | releaseBuffers => cases hm
  | switch pool => cases hm

/-- At first nothing is loaded, and nothing has been lost. -/
theorem minds_start {d : Document} (hd : d.Opened) (settings : SceneSettings) (started : Nat)
    (pool : PoolSettings) (state : σ) :
    (start d settings started pool state).studio.Minds fun _ => False := by
  refine ⟨fun k hk => ?_, fun p hp _ => .missing (hd.begun p hp).unbound not_false⟩
  change k ∈ d.kept at hk
  rw [hd.spec.2.kept_eq] at hk
  exact absurd hk (Multiset.notMem_zero k)

/-- **Images are bound to what was loaded for them until the pool is cleared.** -/
theorem minds_moved (h : s.studio.Minds fun _ => False) (hs : s.studio.Steady) {moves : List Move}
    (hmoves : ∀ m ∈ moves, m.leavesImages = true) :
    (moved device moves s).studio.Minds (Bereft device s moves) := by
  -- the moves are taken off at the end, where the last one finds images as they stand
  induction moves using List.reverseRecOn with
  | nil =>
    refine h.congr fun name => iff_false_intro ?_
    rintro ⟨before, later, heq, -⟩
    exact absurd heq.symm (by simp)
  | append_singleton moves m ih =>
    have hm := hmoves m (List.mem_append_right _ (List.mem_singleton_self m))
    have hbefore := ih fun n hn => hmoves n (List.mem_append_left _ hn)
    rw [moved_concat]
    exact (minds_move hbefore (steady_moved device hs moves).1 hm).congr
      (bereft_concat device s moves m)

end Session

end ShaderEffect
