/-
**Giving all buffers back.**

When a scene gives everything back, the handles that its document holds are first taken out of the
slots and the bindings, and only then given back one by one.  So a handle that could not be given
back would be lost.  But none is refused: a handle goes back if the pool has it handed out, and is
skipped otherwise, be it one that the pool has forgotten, one that somebody else has given back, or
one that has stood in a slot before.  What the document does not hold stays as it is.

From then on the document holds nothing until a frame is rendered or an image is bound.  The first
frame that is completed has loaded all imported images anew, and all persistent targets hold buffers
again that nobody had before it.

Main definitions:

* `ShaderEffect.Pool.Returns` — **what giving handles back leaves behind in a pool**;
* `ShaderEffect.Document.Bare` — a document that holds nothing;
* `ShaderEffect.Move.isIdle` — a move that gives the document no buffers;
* `ShaderEffect.Studio.GivesAllBack` — **what giving all buffers back leaves behind**;
* `ShaderEffect.Rendered.Refills` — **what a frame does with a document that holds nothing**.

Main results:

* `ShaderEffect.Supply.returns_releaseAllHeld` — any handles can be given back;
* `ShaderEffect.Session.bare_moved` — a document that holds nothing goes on holding nothing;
* `ShaderEffect.Rendered.refills` — a complete frame fills it;
* `ShaderEffect.Session.releaseBuffers_gives_all_back` — **giving all buffers back**, whatever has
  happened before, and the first frame after it.
-/

import ShaderEffect.Proofs.Scene.Equipped
import ShaderEffect.Proofs.Scene.Imports

set_option autoImplicit false

namespace ShaderEffect

open Pool Supply Observed

variable {σ : Type}

/-! ### Handles that are given back -/

namespace Pool

/-- **What giving handles back leaves behind in a pool**, if those are skipped that are not handed
out. -/
structure Returns (held : List Handle) (p q : Pool) : Prop where
  consistent : q.Consistent
  /-- None of them is handed out any more. -/
  free : ∀ h ∈ held, q.isInUse h = false
  /-- What is known about another handle, or about one that was not handed out, is as it was. -/
  others : ∀ h, h ∉ held ∨ p.isInUse h = false → q.find? h = p.find? h
  /-- The pool owns what it has owned. -/
  owned : q.entries.map Prod.fst = p.entries.map Prod.fst
  /-- What has become idle is some of them that were handed out. -/
  idle : ∃ back, q.idle = back ++ p.idle ∧ ∀ x ∈ back, x.2 ∈ held ∧ p.isInUse x.2 = true

/-- What the pool owns and has not handed out is idle exactly once. -/
theorem Consistent.count_idle {p : Pool} (hp : p.Consistent) {h : Handle}
    (hknown : (p.find? h).isSome) (hfree : p.isInUse h = false) :
    (p.idle.map Prod.snd).count h = 1 := by
  obtain ⟨e, he⟩ := Option.isSome_iff_exists.1 hknown
  have hu : e.inUse = false := by simpa [isInUse, he] using hfree
  have hmem := hp.idle_mem h e he hu
  exact List.count_eq_one_of_mem hp.idle_nodup (List.mem_map_of_mem hmem)

namespace Returns

variable {p q r : Pool} {held held' : List Handle}

theorem nil (hp : p.Consistent) : Returns [] p p :=
  ⟨hp, fun _ hh => absurd hh List.not_mem_nil, fun _ _ => rfl, rfl, [], rfl,
    fun _ hx => absurd hx List.not_mem_nil⟩

/-- A handle that was not handed out is not handed out afterwards. -/
theorem isInUse_eq_false (h : Returns held p q) {k : Handle} (hk : p.isInUse k = false) :
    q.isInUse k = false := by
  rw [isInUse, h.others k (Or.inr hk)]
  exact hk

/-- Giving back some handles and then others. -/
theorem append (h : Returns held p q) (h' : Returns held' q r) : Returns (held ++ held') p r where
  consistent := h'.consistent
  free k hk := by
    rcases List.mem_append.1 hk with hk | hk
    · exact h'.isInUse_eq_false (h.free k hk)
    · exact h'.free k hk
  others k hk := by
    rw [List.mem_append, not_or] at hk
    have hfirst := h.others k (hk.imp_left And.left)
    refine (h'.others k (hk.imp And.right fun hfree => ?_)).trans hfirst
    exact h.isInUse_eq_false hfree
  owned := h'.owned.trans h.owned
  idle := by
    obtain ⟨back, hidle, hback⟩ := h.idle
    obtain ⟨back', hidle', hback'⟩ := h'.idle
    refine ⟨back' ++ back, by rw [hidle', hidle, List.append_assoc], fun x hx => ?_⟩
    rcases List.mem_append.1 hx with hx | hx
    · -- what goes back second was handed out all along
      obtain ⟨hmem, hu⟩ := hback' x hx
      refine ⟨List.mem_append_right _ hmem, ?_⟩
      by_contra hfree
      rw [h.isInUse_eq_false (by simpa using hfree)] at hu
      cases hu
    · exact ⟨List.mem_append_left _ (hback x hx).1, (hback x hx).2⟩

end Returns

/-- A handle that the pool takes back. -/
theorem returns_release {p q : Pool} (hp : p.Consistent) {h : Handle} (hr : p.release h = .ok q) :
    Returns [h] p q := by
  have hfind := find?_release hr
  have hfree := isInUse_release hr
  have hq := hp.release hr
  obtain ⟨e, he, hu, rfl⟩ := release_eq_ok_iff.1 hr
  have huse : p.isInUse h = true := isInUse_iff.2 ⟨e, he, hu⟩
  refine ⟨hq, ?_, fun k hk => ?_, ?_, [(e.descriptor, h)], rfl, ?_⟩
  · simpa using hfree
  · rw [hfind, if_neg]
    rintro rfl
    rcases hk with hk | hk
    · exact hk (List.mem_singleton_self k)
    · rw [hk] at huse
      cases huse
  · simp
  · simpa using huse

end Pool

namespace Supply

/-- A handle that goes back if it is handed out. -/
theorem returns_releaseHeld {s : Supply σ} (hs : s.pool.Consistent) (h : Handle) :
    Ends (fun _ t => Returns [h] s.pool t.pool ∧ t.device = s.device) (fun _ _ => False)
      (releaseHeld h s) := by
  unfold releaseHeld
  by_cases hu : s.pool.isInUse h = true
  · obtain ⟨e, he, heu⟩ := isInUse_iff.1 hu
    have hr := release_eq_ok_iff.2 ⟨e, he, heu, rfl⟩
    rw [if_pos hu, Supply.release, hr]
    exact ⟨returns_release hs hr, rfl⟩
  · rw [if_neg hu]
    refine ⟨⟨hs, ?_, fun _ _ => rfl, rfl, [], rfl, fun _ hx => absurd hx List.not_mem_nil⟩, rfl⟩
    simpa using hu

/-- **Any handles can be given back**, known or not, and however often each is named. -/
theorem returns_releaseAllHeld (held : List Handle) {s : Supply σ} (hs : s.pool.Consistent) :
    Ends (fun _ t => Returns held s.pool t.pool ∧ t.device = s.device) (fun _ _ => False)
      (releaseAllHeld held s) := by
  induction held generalizing s with
  | nil => exact ⟨.nil hs, rfl⟩
  | cons h held ih =>
    refine Ends.bind (returns_releaseHeld hs h) fun _ t hfirst => ?_
    refine (ih hfirst.1.consistent).mono (fun _ u hrest => ?_) fun _ _ h => h
    exact ⟨hfirst.1.append hrest.1, hrest.2.trans hfirst.2⟩

end Supply

/-! ### Documents that hold nothing -/

/-- The buffer that a change gives a parameter. -/
def InputChange.given? : InputChange → Option Binding
  | .set v => v.binding?
  | .bind binding => binding
  | .reset => none

/-- After a change a parameter is bound to what the change has given it. -/
theorem Parameter.Typed.binding?_apply {p q : Parameter} (hp : p.Typed) {change : InputChange}
    (h : change.apply p = .ok q) : q.current.binding? = change.given? := by
  cases change with
  | set v =>
    obtain ⟨-, rfl⟩ := Parameter.set_eq_ok_iff.1 h
    rfl
  | bind binding =>
    unfold InputChange.apply at h
    dsimp only at h
    unfold Parameter.bind at h
    split at h
    · rename_i v hv
      cases h
      exact Value.binding?_ofBinding? hv
    · cases h
  | reset =>
    cases h
    show (p.default.getD (Value.zero p.kind)).binding? = none
    cases hd : p.default with
    | none => exact Value.binding?_zero p.kind
    | some v => exact (hp.default v hd).2

/-- An imported image that is bound lets go of its buffer, if it accepts that. -/
def Parameter.unbind (p : Parameter) : Except Failure Parameter :=
  if p.isImport && p.current.binding?.isSome then p.bind none else .ok p

namespace Document

/-- **A document that holds nothing**: no target has a buffer, and no imported image is bound. -/
structure Bare (d : Document) : Prop where
  targets : ∀ t ∈ d.passes.targets, t.slots = (none, none)
  imports : ∀ p ∈ d.imageImports, p.current.binding? = none

variable {d d' : Document}

namespace Bare

theorem heldBuffers_eq (hd : d.Bare) : Studio.heldBuffers d = [] := by
  have htargets : d.passes.targets.flatMap Target.buffers = [] := by
    refine List.flatMap_eq_nil_iff.2 fun t ht => ?_
    obtain ⟨hcurrent, hprevious⟩ := Prod.mk.inj (hd.targets t ht)
    rw [Target.buffers, hcurrent, hprevious]
    rfl
  have himports : (d.imageImports.filterMap fun p =>
      p.current.binding?.map Binding.handle) = [] := by
    refine List.filterMap_eq_nil_iff.2 fun p hp => ?_
    rw [hd.imports p hp]
    rfl
  rw [Studio.heldBuffers, htargets, himports]
  rfl

theorem held_eq (hd : d.Bare) : d.held = 0 := by
  rw [← coe_heldBuffers, hd.heldBuffers_eq]
  rfl

/-- Sizes do not matter. -/
theorem resize (hd : d.Bare) {renderSize : Size} (h : d.resize renderSize = .ok d') : d'.Bare := by
  obtain ⟨hpersistent, htemporary⟩ := slots_resize h
  have hslots : d'.passes.targets.map Target.slots = d.passes.targets.map Target.slots := by
    rw [Passes.targets, Passes.targets, List.map_append, List.map_append, hpersistent, htemporary]
  obtain ⟨_, _, -, -, rfl⟩ := resize_eq_ok_iff.1 h
  refine ⟨fun t ht => ?_, hd.imports⟩
  obtain ⟨u, hu, heq⟩ := List.mem_map.1 (hslots ▸ List.mem_map_of_mem ht)
  exact heq ▸ hd.targets u hu

/-- A change of a parameter does not matter, unless it binds an imported image. -/
theorem alter (hd : d.Bare) (htyped : d.Typed) {name : String} {change : InputChange}
    (hchange : change.given? = none ∨ ∀ p ∈ d.imageImports, p.name ≠ name) :
    (d.alter name change).Bare := by
  refine ⟨by rw [passes_alter]; exact hd.targets, fun q hq => ?_⟩
  obtain ⟨hmem, himport⟩ := List.mem_filter.1 hq
  rcases mem_alter hmem with hmem | ⟨p, hp, hname, happly⟩
  · exact hd.imports q (List.mem_filter.2 ⟨hmem, himport⟩)
  · rcases hchange with hgiven | hnames
    · exact ((htyped p hp).binding?_apply happly).trans hgiven
    · -- only a parameter of that name is changed, and it stays what it is
      obtain ⟨v, rfl⟩ := InputChange.exists_of_apply happly
      exact absurd hname (hnames p (List.mem_filter.2 ⟨hp, himport⟩))

end Bare

/-- A document from which everything was taken holds nothing. -/
theorem WellFormed.bare_withoutBuffers (hd : d.WellFormed) : (Studio.withoutBuffers d).Bare := by
  refine ⟨fun t ht => ?_, fun q hq => ?_⟩
  · have htargets : (Studio.withoutBuffers d).passes.targets =
        d.passes.targets.map Target.withoutBuffers := List.map_append.symm
    rw [htargets] at ht
    obtain ⟨u, -, rfl⟩ := List.mem_map.1 ht
    rfl
  · obtain ⟨hmem, himport⟩ := List.mem_filter.1 hq
    obtain ⟨p, hp, rfl⟩ := List.mem_map.1 hmem
    by_cases hi : p.isImport = true
    · rw [if_pos hi, hd.parameters.imports p hp hi]
      rfl
    · rw [if_neg hi] at himport
      exact absurd himport hi

/-- **All imported images let go of their buffers**: none of them refuses. -/
theorem WellFormed.mapM_unbind (hd : d.WellFormed) (htyped : d.Typed) :
    d.parameters.mapM Parameter.unbind = .ok (Studio.withoutBuffers d).parameters := by
  refine mapM_eq_ok fun p hp => ?_
  unfold Parameter.unbind
  by_cases hi : p.isImport = true
  · have hkind := hd.parameters.imports p hp hi
    rw [if_pos hi]
    split
    · rw [Parameter.bind, hkind]
      rfl
    · -- an image that is not bound stays as it is
      rename_i hunbound
      have hnone : p.current.binding? = none := by simpa [hi] using hunbound
      have hcurrent : (Value.ofBinding? none p.kind).getD p.current = p.current := by
        have himage := (htyped p hp).current
        rw [hkind] at himage ⊢
        cases hc : p.current with
        | image b =>
          rw [hc] at hnone
          cases hnone
          rfl
        | _ =>
          rw [hc] at himage
          cases himage
      rw [hcurrent]
  · simp [hi]

/-- Nothing can be taken from a document twice. -/
theorem withoutBuffers_withoutBuffers (d : Document) :
    Studio.withoutBuffers (Studio.withoutBuffers d) = Studio.withoutBuffers d := by
  have hparameter (p : Parameter) (v : Value) :
      (Value.ofBinding? none p.kind).getD ((Value.ofBinding? none p.kind).getD v) =
        (Value.ofBinding? none p.kind).getD v := by
    cases Value.ofBinding? none p.kind <;> rfl
  unfold Studio.withoutBuffers
  simp only [List.map_map]
  congr 2
  · refine List.map_congr_left fun p _ => ?_
    by_cases hi : p.isImport = true
    · have hi' : Parameter.isImport
          { p with current := (Value.ofBinding? none p.kind).getD p.current } = true := hi
      simp only [Function.comp_apply, if_pos hi, if_pos hi', hparameter]
    · simp only [Function.comp_apply, if_neg hi]

end Document

/-! ### Giving everything back -/

namespace Studio

/-- **What giving all buffers back leaves behind.** -/
structure GivesAllBack (s t : Studio σ) : Prop where
  /-- The document has lost its buffers and nothing else, and holds nothing. -/
  document : t.document = withoutBuffers s.document
  bare : t.document.Bare
  /-- No imported image has refused to let go of its buffer. -/
  unbinds : s.document.parameters.mapM Parameter.unbind = .ok t.document.parameters
  /-- What it held has gone back to the pool, and nothing else has. -/
  returns : Pool.Returns (heldBuffers s.document) s.supply.pool t.supply.pool
  /-- What it held is idle exactly once, unless the pool has forgotten it. -/
  idle : ∀ h ∈ heldBuffers s.document, (t.supply.pool.find? h).isSome →
    (t.supply.pool.idle.map Prod.snd).count h = 1
  scene : t.scene = s.scene
  device : t.supply.device = s.supply.device
  /-- Doing so again changes nothing. -/
  again : releaseBuffers t = .ok () t

/-- Everything can be given back, and then nothing is left to give back. -/
theorem exists_releaseBuffers {s : Studio σ} (hs : s.Steady) :
    ∃ t, releaseBuffers s = .ok () t ∧ s.GivesAllBack t := by
  have hbare := hs.wellFormed.bare_withoutBuffers
  have hunbinds := hs.wellFormed.mapM_unbind hs.typed
  have hrelease (u : Studio σ) : releaseBuffers u =
      onSupply (releaseAllHeld (heldBuffers u.document))
        { u with document := withoutBuffers u.document } := rfl
  have hends := returns_releaseAllHeld (heldBuffers s.document) hs.consistent
  rcases hr : releaseAllHeld (heldBuffers s.document) s.supply with
    ⟨_, supply⟩ | ⟨failure, supply⟩
  · rw [hr] at hends
    obtain ⟨hreturns, hdevice⟩ := hends
    refine ⟨⟨s.scene, withoutBuffers s.document, supply⟩, ?_, rfl, hbare, hunbinds,
      hreturns, fun h hh hknown => ?_, rfl, hdevice, ?_⟩
    · rw [hrelease, onSupply]
      dsimp only
      rw [hr]
    · exact hreturns.consistent.count_idle hknown (hreturns.free h hh)
    · rw [hrelease]
      dsimp only
      rw [hbare.heldBuffers_eq, Document.withoutBuffers_withoutBuffers]
      rfl
  · rw [hr] at hends
    exact hends.elim

end Studio

/-! ### Until the next frame -/

/-- Whether a move gives no buffers to a document that declares the same as a given one: it renders
nothing, and binds no imported image. -/
def Move.isIdle (d : Document) : Move → Bool
  | .frame _ _ | .visit _ _ _ => false
  | .change name c => c.given?.isNone || d.imageImports.all fun p => p.name ≠ name
  | _ => true

namespace Session

variable (device : Device σ) {s : Session σ} {d : Document}

/-- An idle move leaves a document without buffers. -/
theorem bare_move (hs : s.studio.Steady) (hbare : s.studio.document.Bare)
    (hd : s.studio.document.blank = d.blank) {m : Move} (hm : m.isIdle d = true) :
    (move device s m).studio.document.Bare := by
  cases m with
  | frame now renderSize => cases hm
  | visit other now renderSize => cases hm
  | change name change =>
    refine hbare.alter hs.typed ?_
    rw [Move.isIdle, Bool.or_eq_true, Option.isNone_iff_eq_none] at hm
    refine hm.imp_right fun hall p hp => ?_
    -- the document declares the same images
    obtain ⟨hmem, himport⟩ := List.mem_filter.1 hp
    have hblank : s.studio.document.parameters.map Parameter.blank =
        d.parameters.map Parameter.blank := congrArg (fun e : Document => e.parameters) hd
    obtain ⟨q, hq, hqp⟩ := List.mem_map.1 (hblank ▸ List.mem_map_of_mem hmem)
    have hpath : q.importPath = p.importPath := (congrArg Parameter.importPath hqp :)
    have hname : q.name = p.name := (congrArg Parameter.name hqp :)
    rw [← hname]
    refine of_decide_eq_true (List.all_eq_true.1 hall q (List.mem_filter.2 ⟨hq, ?_⟩))
    rw [Parameter.isImport, hpath]
    exact himport
  | configure settings => exact hbare
  | resize renderSize =>
    rw [move]
    cases hresize : s.studio.document.resize renderSize with
    | error failure => exact hbare
    | ok e => exact hbare.resize hresize
  | releaseBuffers =>
    rw [move, (Studio.document_releaseBuffers s.studio).1]
    exact hs.wellFormed.bare_withoutBuffers
  | elsewhere op => exact hbare
  | switch pool => exact hbare

/-- **A document that holds nothing goes on holding nothing** until a frame is rendered or an
imported image is bound. -/
theorem bare_moved (hs : s.studio.Steady) (hbare : s.studio.document.Bare)
    (hd : s.studio.document.blank = d.blank) {moves : List Move}
    (hmoves : ∀ m ∈ moves, m.isIdle d = true) :
    (moved device moves s).studio.document.Bare := by
  -- the moves are taken off at the end, where the last one meets a bare document
  induction moves using List.reverseRecOn with
  | nil => exact hbare
  | append_singleton moves m ih =>
    obtain ⟨hsteady, hblank⟩ := steady_moved device hs moves
    rw [moved_concat]
    exact bare_move device hsteady
      (ih fun n hn => hmoves n (List.mem_append_left _ hn)) (hblank.trans hd)
      (hmoves m (List.mem_append_right _ (List.mem_singleton_self m)))

end Session

/-! ### The next frame -/

namespace Document

/-- A target that is declared has a size in every frame in which the sizes can be evaluated. -/
theorem WellFormed.exists_sizeIn? {d e : Document} (hd : d.WellFormed) {renderSize : Size}
    (hresize : d.resize renderSize = .ok e) {name : String} {float : Bool}
    (hdeclares : d.Declares name float) : ∃ size, d.sizeIn? name renderSize = some size := by
  have hblank := blank_resize hresize
  obtain ⟨u, hu, rfl, -⟩ := hdeclares.of_blank_eq hblank
  have hfind := (hd.of_blank_eq hblank).target?_eq (List.mem_append_left _ hu)
  obtain ⟨size, hsize⟩ := Option.ne_none_iff_exists'.1
    (size_ne_none_of_resize hresize u.withoutBuffers
      (List.mem_map_of_mem (List.mem_append_left _ hu)))
  obtain ⟨-, -, -, heq⟩ := exists_of_resize hresize hfind
  exact ⟨size, heq.trans hsize⟩

end Document

namespace Rendered

/-- **What a frame does with a document that holds nothing.** -/
structure Refills (d : Document) (r : Rendered σ) : Prop where
  /-- What the document holds in the end was not handed out before, and stands in one place only. -/
  fresh : ∀ h ∈ Studio.heldBuffers r.after.document, r.before.supply.pool.isInUse h = false ∧
    r.after.supply.pool.isInUse h = true
  nodup : (Studio.heldBuffers r.after.document).Nodup
  /-- Each persistent target holds two buffers of its size. -/
  persistent : ∀ t ∈ d.passes.persistent, ∃ size c v,
    r.before.document.sizeIn? t.name r.renderSize = some size ∧
      r.after.document.stored t.name = [c, v] ∧
      ∀ h ∈ [c, v], r.after.supply.pool.descriptor? h = some (.renderTarget size t.float)
  /-- All imported images are loaded, each once and in order. -/
  loads : r.loads = d.imageImports.filterMap Parameter.importPath
  /-- Each of them is bound to a buffer that was loaded from its file. -/
  imports : ∀ p ∈ d.imageImports, ∃ q ∈ r.after.document.imageImports, q.name = p.name ∧
    ∃ b, q.current.binding? = some b ∧ r.after.supply.Backs p.importPath b.handle

variable {device : Device σ} {now : Moment} {renderSize : Size} {s s' : Studio (Observed σ)}
  {report : FrameReport}

/-- A complete frame fills the persistent targets. -/
theorem holds_of_completes (h : Studio.Completes device.observed now renderSize s report s')
    (hs : s.Sound) {name : String} {float : Bool} (hdeclares : s.document.Declares name float) :
    ∃ size c v, s.document.sizeIn? name renderSize = some size ∧
      s'.document.stored name = [c, v] ∧
      ∀ h ∈ [c, v], s'.supply.pool.descriptor? h = some (.renderTarget size float) := by
  obtain @⟨begun, ready, drawn, rested, reports, hbegun, hready, -, hback, -⟩ := h
  obtain ⟨-, e, hresize, -⟩ := Studio.begins_of_ok hs.consistent hs.wellFormed hbegun
  have hblank := (Studio.prepares_of_ok hs.consistent hs.wellFormed hbegun hready).1.blank
  obtain ⟨size, hsize⟩ := hs.wellFormed.exists_sizeIn? hresize hdeclares
  have hreadies : Studio.Readies name (.renderTarget size float) s ready :=
    Studio.readies_of_ok hs hdeclares (fun z hz => Option.some.inj (hz.symm.trans hsize)) hbegun
      hready
  obtain ⟨buffers, c, v, hholds⟩ := hreadies.holds
  have hafter : Studio.Holds name (.renderTarget size float) buffers v c
      { rested with scene := rested.scene.advance now, document := rested.document.settle } :=
    hholds.completes (hs.of_ready hbegun hready) (hdeclares.of_blank_eq hblank) hback
  exact ⟨size, v, c, hsize, hafter.stored, hafter.descriptor?⟩

/-- What a document holds that has held nothing was not handed out before. -/
theorem fresh_of_completes (h : Studio.Completes device.observed now renderSize s report s')
    (hs : s.Sound) (hbare : s.document.Bare) :
    (Studio.heldBuffers s'.document).Nodup ∧ ∀ k ∈ Studio.heldBuffers s'.document,
      s.supply.pool.isInUse k = false ∧ s'.supply.pool.isInUse k = true := by
  have hframes := h.frames hs.consistent hs.wellFormed hs.rests
  have htrades : Pool.Trades s.supply.pool s.document.held s'.supply.pool s'.document.held :=
    hframes.trades
  rw [hbare.held_eq] at htrades
  -- all that was handed out before still is, besides what the document holds now
  have hused := htrades.used s.supply.pool.used (zero_add _).symm
  have hnodup := Pool.nodup_used htrades.consistent
  rw [hused, ← Document.coe_heldBuffers] at hnodup
  obtain ⟨hheld, -, hdisjoint⟩ := Multiset.nodup_add.1 hnodup
  refine ⟨Multiset.coe_nodup.1 hheld, fun k hk => ⟨?_, ?_⟩⟩
  · by_contra hu
    have hmem := (Pool.mem_used hs.consistent).2 (by simpa using hu)
    exact Multiset.disjoint_left.1 hdisjoint (Multiset.mem_coe.2 hk) hmem
  · refine (Pool.mem_used htrades.consistent).1 ?_
    rw [hused, ← Document.coe_heldBuffers]
    exact Multiset.mem_add.2 (Or.inl (Multiset.mem_coe.2 hk))

/-- All imported images are bound to what was loaded from their files when a frame is over in which
they have all been loaded. -/
theorem backed_of_begun (now : Moment) (hs : s.Steady) (hbare : s.document.Bare)
    {begun : Studio (Observed σ)}
    (hbegun : Studio.untilBuffers device.observed renderSize s = .ok () begun) :
    ∀ q ∈ (ofFrame device now renderSize s).after.document.parameters, q.isImport = true →
      ∃ b, q.current.binding? = some b ∧
        (ofFrame device now renderSize s).after.supply.Backs q.importPath b.handle := by
  have hkept : s.document.kept = 0 := by
    refine Multiset.le_zero.1 ?_
    rw [← hbare.held_eq, hs.rests.held_eq]
    exact Multiset.le_add_right _ _
  have hminds : s.Minds fun _ => False := by
    refine ⟨fun k hk => ?_, fun p hp himport => ?_⟩
    · rw [hkept] at hk
      exact absurd hk (Multiset.notMem_zero k)
    · exact .missing (hbare.imports p (List.mem_filter.2 ⟨hp, himport⟩)) not_false
  have hasks := Studio.asks_untilBuffers device renderSize hs.wellFormed
  have hfollows := Studio.follows_renderFrame device.observed now renderSize hs.consistent
    hs.wellFormed hs.rests
  rw [hbegun] at hasks hfollows
  rw [← after_ofFrame] at hfollows
  intro q hq himport
  -- what an image is bound to when targets get their buffers, it stays bound to
  obtain ⟨p, hp, hpq⟩ := List.mem_map.1 (hfollows.images ▸ List.mem_map_of_mem hq)
  have hpath : p.importPath = q.importPath := congrArg (fun x => x.2.1) hpq
  have hbinding : p.current.binding? = q.current.binding? := congrArg (fun x => x.2.2) hpq
  have hbound := hasks.2 p hp (by rw [Parameter.isImport, hpath]; exact himport)
  rw [hbinding] at hbound
  cases (hminds.ofFrame hs device now renderSize).images q hq himport with
  | missing hnone => exact absurd hnone hbound
  | backed hb _ hbacks => exact ⟨_, hb, hbacks⟩
  | lost _ hbereft => exact hbereft.elim

/-- Of a document that holds nothing, all images are missing. -/
theorem missing_of_bare {d e : Document} (hbare : e.Bare) (hd : e.blank = d.blank) :
    Parameter.missing e.parameters = d.imageImports.filterMap Parameter.importPath := by
  have hpaths : e.parameters.map Parameter.importPath = d.parameters.map Parameter.importPath := by
    have h := congrArg (fun e : Document => e.parameters.map Parameter.importPath) hd
    simpa [Document.blank, Function.comp_def, Parameter.blank] using h
  calc Parameter.missing e.parameters
      = (e.parameters.map Parameter.importPath).filterMap id := by
        rw [List.filterMap_map]
        refine List.filterMap_congr fun p hp => ?_
        cases hpath : p.importPath with
        | none => simp [hpath]
        | some path =>
          have himport : p.isImport = true := by simp [Parameter.isImport, hpath]
          simp [hpath, hbare.imports p (List.mem_filter.2 ⟨hp, himport⟩)]
    _ = (d.parameters.map Parameter.importPath).filterMap id := by rw [hpaths]
    _ = d.imageImports.filterMap Parameter.importPath := by
        rw [Document.imageImports, List.filterMap_filter, List.filterMap_map]
        refine List.filterMap_congr fun p _ => ?_
        cases hpath : p.importPath <;> simp [Parameter.isImport, hpath]

/-- **A complete frame fills a document that holds nothing.** -/
theorem refills (hs : s.Steady) (hbare : s.document.Bare) {d : Document}
    (hd : s.document.blank = d.blank)
    (hcomplete : (ofFrame device now renderSize s).isComplete = true) :
    (ofFrame device now renderSize s).Refills d := by
  have hsound : s.Sound :=
    ⟨hs.consistent, hs.wellFormed, hs.rests, by rw [hbare.held_eq]; exact Multiset.zero_le _⟩
  rcases goes device now renderSize hs.consistent hs.wellFormed hs.rests with
    ⟨report, s', hcompletes, heq⟩ | ⟨failure, s', -, heq⟩
  · obtain ⟨begun, hbegun⟩ : ∃ begun,
        Studio.untilBuffers device.observed renderSize s = .ok () begun := by
      obtain ⟨hbegun, -⟩ := hcompletes
      exact ⟨_, hbegun⟩
    have hasks := Studio.asks_untilBuffers device renderSize hs.wellFormed
    have hlogs : (ofFrame device now renderSize s).loads =
        Parameter.missing s.document.parameters := by
      rw [hbegun] at hasks
      exact loads_eq (by rw [hbegun]; exact hasks.1)
    have hbacked := backed_of_begun now hs hbare hbegun
    obtain ⟨hnodup, hfresh⟩ := fresh_of_completes hcompletes hsound hbare
    have hblank := (hcompletes.frames hs.consistent hs.wellFormed hs.rests).blank.trans hd
    rw [missing_of_bare hbare hd] at hlogs
    rw [heq] at hbacked hlogs ⊢
    refine ⟨hfresh, hnodup, fun t ht => ?_, hlogs, fun p hp => ?_⟩
    · have hdeclares : d.Declares t.name t.float := ⟨t, ht, rfl, rfl⟩
      exact holds_of_completes hcompletes hsound (hdeclares.of_blank_eq hd)
    · -- the image stands in the document that is left, too
      obtain ⟨hmem, himport⟩ := List.mem_filter.1 hp
      have hparameters : s'.document.parameters.map Parameter.blank =
          d.parameters.map Parameter.blank := congrArg (fun e : Document => e.parameters) hblank
      obtain ⟨q, hq, hqp⟩ := List.mem_map.1 (hparameters ▸ List.mem_map_of_mem hmem)
      have hname : q.name = p.name := (congrArg Parameter.name hqp :)
      have hpath : q.importPath = p.importPath := (congrArg Parameter.importPath hqp :)
      have hqimport : q.isImport = true := by
        rw [Parameter.isImport, hpath]
        exact himport
      exact ⟨q, List.mem_filter.2 ⟨hq, hqimport⟩, hname, hpath ▸ hbacked q hq hqimport⟩
  · rw [heq] at hcomplete
    cases hcomplete

end Rendered

namespace Session

/-- **Giving all buffers back.**  Whatever has happened to the scene, the document and the pool, it
never fails; the document holds nothing afterwards; what it held is not handed out, and is idle once
if the pool still owns it; and nothing else is given back.  As long as nothing is rendered or bound
to imported images, the document holds nothing; the first frame that is completed then has loaded
all images, and has got persistent targets new buffers. -/
theorem releaseBuffers_gives_all_back (device : Device σ) (d : {d : Document // d.Opened})
    (settings : SceneSettings) (started : Nat) (pool : PoolSettings) (state : σ)
    (moves : List Move) :
    ∃ t, Studio.releaseBuffers
        (moved device moves (start d.1 settings started pool state)).studio = .ok () t ∧
      (moved device moves (start d.1 settings started pool state)).studio.GivesAllBack t ∧
      ∀ (idle : List Move) (now : Moment) (renderSize : Size), (∀ m ∈ idle, m.isIdle d.1 = true) →
        (moved device idle ⟨t, []⟩).studio.document.Bare ∧
          ((Rendered.ofFrame device now renderSize
              (moved device idle ⟨t, []⟩).studio).isComplete = true →
            (Rendered.ofFrame device now renderSize
              (moved device idle ⟨t, []⟩).studio).Refills d.1) := by
  have hstart := steady_start d.2 settings started pool state
  obtain ⟨hs, hblank⟩ := steady_moved device hstart moves
  obtain ⟨t, ht, hgives⟩ := Studio.exists_releaseBuffers hs
  refine ⟨t, ht, hgives, fun idle now renderSize hidle => ?_⟩
  obtain ⟨hsteady, hdeclares⟩ := hs.releaseBuffers
  rw [ht] at hsteady hdeclares
  replace hdeclares : t.document.blank = d.1.blank := Eq.trans hdeclares hblank
  have hbare := bare_moved device (s := ⟨t, []⟩) hsteady hgives.bare hdeclares hidle
  obtain ⟨hthen, hlater⟩ := steady_moved device (s := ⟨t, []⟩) hsteady idle
  exact ⟨hbare, Rendered.refills hthen hbare (hlater.trans hdeclares)⟩

/-- An effect with an imported image and a persistent target. -/
def trailText : String :=
  "/*\x7b\"IMPORTED\":\x7b\"paper\":\x7b\"PATH\":\"paper.png\"\x7d\x7d," ++
    "\"PASSES\":[\x7b\"TARGET\":\"trail\",\"PERSISTENT\":true\x7d,\x7b\x7d]\x7d*/"

/-- A session with this effect, where the device knows the file. -/
def trailStart : Session Recorder :=
  start (Document.ofTextsLenient trailText none "/").2 .standard 0 .standard
    (Recorder.fresh.setImage "/paper.png" (some ⟨⟨4, 4⟩, .rgba8, .flat⟩))

/-- **Three buffers are given back** after a frame, one of which is not handed out any more since
somebody else has given it back; and a frame behind a round of housekeeping is completed. -/
theorem releaseBuffers_gives_all_back_trail :
    let s := (moved Recorder.device [.frame (.ofNanoseconds 0) ⟨8, 8⟩, .elsewhere (.release ⟨2⟩)]
      trailStart).studio
    (Studio.heldBuffers s.document = [⟨3⟩, ⟨2⟩, ⟨1⟩] ∧ s.supply.pool.isInUse ⟨2⟩ = false) ∧
      ∃ t, Studio.releaseBuffers s = .ok () t ∧ s.GivesAllBack t ∧
        (Rendered.ofFrame Recorder.device (.ofNanoseconds 1) ⟨8, 8⟩
          (moved Recorder.device [.elsewhere .housekeep] ⟨t, []⟩).studio).Refills
            (Document.ofTextsLenient trailText none "/").2 := by
  obtain ⟨t, ht, hgives, hthen⟩ := releaseBuffers_gives_all_back Recorder.device
    ⟨_, .ofTextsLenient trailText none "/"⟩ .standard 0 .standard
    (Recorder.fresh.setImage "/paper.png" (some ⟨⟨4, 4⟩, .rgba8, .flat⟩))
    [.frame (.ofNanoseconds 0) ⟨8, 8⟩, .elsewhere (.release ⟨2⟩)]
  refine ⟨by decide +kernel, t, ht, hgives, ?_⟩
  have hremains : t = remains (Studio.releaseBuffers (moved Recorder.device
      [.frame (.ofNanoseconds 0) ⟨8, 8⟩, .elsewhere (.release ⟨2⟩)] trailStart).studio) := by
    rw [trailStart, ht]
    rfl
  refine (hthen [.elsewhere .housekeep] (.ofNanoseconds 1) ⟨8, 8⟩ (by decide)).2 ?_
  rw [hremains]
  decide +kernel

end Session

end ShaderEffect
