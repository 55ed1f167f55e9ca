/-
**A scene that has a pool to itself.**

A host may bind any buffer to an image, even one that a target holds or will be given.  If nobody
but the scene uses the pool, and the host binds only buffers that it has taken in itself, this
cannot happen: the buffers of images and those of targets stay apart, as long as the device refuses
no buffer.  For what a target gets was idle or is new, and a buffer that was taken in never becomes
idle.

Main definitions:

* `ShaderEffect.Document.bound` — the buffers that parameters are bound to;
* `ShaderEffect.Studio.Apart` — **they are handed out, but not to a persistent target**;
* `ShaderEffect.Session.alone` — moves of a host that leaves the pool to the scene.

Main results:

* `ShaderEffect.Studio.Loading.takes` — images that are loaded are bound to new buffers;
* `ShaderEffect.Studio.Apart.ofFrame` — **a frame that is refused nothing keeps buffers apart**;
* `ShaderEffect.Session.apart_moved` — so do all moves that leave the pool to the scene.
-/

import ShaderEffect.Proofs.Scene.Move

set_option autoImplicit false

namespace ShaderEffect

open Pool

variable {σ : Type}

/-! ### Bound buffers -/

/-- The buffer that a parameter is bound to. -/
def Parameter.bound (p : Parameter) : List Handle :=
  (p.current.binding?.map Binding.handle).toList

/-- The buffers that parameters are bound to. -/
def Document.bound (d : Document) : List Handle := d.parameters.flatMap Parameter.bound

theorem Document.mem_bound {d : Document} {h : Handle} :
    h ∈ d.bound ↔ ∃ p ∈ d.parameters, p.current.binding?.map Binding.handle = some h := by
  simp [bound, Parameter.bound]

/-- The buffers that a change binds. -/
def InputChange.handles : InputChange → List Handle
  | set v => (v.binding?.map Binding.handle).toList
  | bind binding => (binding.map Binding.handle).toList
  | reset => []

/-- **What a parameter is bound to after a change** is what the change binds. -/
theorem Parameter.Typed.bound_of_apply {p q : Parameter} (hp : p.Typed) {change : InputChange}
    (h : change.apply p = .ok q) : q.bound = change.handles := by
  cases change with
  | set v =>
      obtain ⟨-, rfl⟩ := set_eq_ok_iff.1 h
      rfl
  | bind binding =>
      unfold InputChange.apply at h
      dsimp only at h
      unfold Parameter.bind at h
      split at h
      · rename_i v hv
        cases h
        rw [Parameter.bound, Value.binding?_ofBinding? hv]
        rfl
      · cases h
  | reset =>
      cases h
      -- a default is no buffer
      have hnone : (p.default.getD (.zero p.kind)).binding? = none := by
        cases hd : p.default with
        | none => exact Value.binding?_zero p.kind
        | some v => exact (hp.default v hd).2
      show ((p.default.getD (.zero p.kind)).binding?.map Binding.handle).toList = []
      rw [hnone]
      rfl

/-- The end of an event concerns no buffer. -/
theorem Document.bound_settle (d : Document) : d.settle.bound = d.bound := by
  have hparameter (p : Parameter) : p.settle.bound = p.bound := by
    unfold Parameter.settle
    split
    · rename_i hevent
      rw [Parameter.bound, Parameter.bound, hevent]
      rfl
    · rfl
  show (d.parameters.map Parameter.settle).flatMap Parameter.bound = _
  rw [List.flatMap_map]
  simp only [hparameter]
  rfl

/-! ### Loading images -/

/-- Whatever parameters are bound to that they were not bound to before is newly handed out. -/
def Takes (ps : List Parameter) (s : Supply σ) (qs : List Parameter) (t : Supply σ) : Prop :=
  ∃ new, Trades s.pool 0 t.pool new ∧
    ∀ h ∈ qs.flatMap Parameter.bound, h ∈ ps.flatMap Parameter.bound ∨ h ∈ new

namespace Takes

variable {p q : Parameter} {ps qs : List Parameter} {s t u : Supply σ}

theorem refl (hs : s.pool.Consistent) (ps : List Parameter) : Takes ps s ps s :=
  ⟨0, Trades.refl hs 0, fun _ hh => Or.inl hh⟩

theorem consistent (h : Takes ps s qs t) : t.pool.Consistent := by
  obtain ⟨_, htrades, -⟩ := h
  exact htrades.consistent

/-- One parameter after another. -/
theorem cons (h : Takes [p] s [q] t) (h' : Takes ps t qs u) : Takes (p :: ps) s (q :: qs) u := by
  obtain ⟨new, htrades, hbound⟩ := h
  obtain ⟨new', htrades', hbound'⟩ := h'
  refine ⟨new + new', by simpa using htrades.beside htrades', fun k hk => ?_⟩
  rw [List.flatMap_cons, List.mem_append] at hk ⊢
  rw [Multiset.mem_add]
  rcases hk with hk | hk
  · exact (hbound k (by simpa using hk)).imp (fun h => Or.inl (by simpa using h)) Or.inl
  · exact (hbound' k hk).imp Or.inr Or.inr

/-- Loading an image binds a buffer that was just taken in. -/
theorem loadImport (device : Device σ) (hs : s.pool.Consistent) (p : Parameter) :
    Ends (fun _ r => Takes [p] s [r.1] r.2) (fun _ r => Takes [p] s [r.1] r.2)
      (loadImport device (p, s)) := by
  unfold ShaderEffect.loadImport
  dsimp only
  split
  · rcases device.loadImage _ s.device with ⟨⟨b, d⟩, state⟩ | ⟨fault, state⟩
    · dsimp only
      have htrades := trades_adopt hs d b
      cases hbind : p.bind (some ⟨(s.pool.adopt d b).1, d, false⟩) with
      | error failure => exact ⟨_, htrades, fun _ hk => Or.inl hk⟩
      | ok q =>
          refine ⟨_, htrades, fun k hk => Or.inr ?_⟩
          unfold Parameter.bind at hbind
          split at hbind
          · rename_i v hv
            cases hbind
            simpa [Parameter.bound, Value.binding?_ofBinding? hv, eq_comm] using hk
          · cases hbind
    · exact refl hs _
  · exact refl hs _

/-- So does loading all images. -/
theorem eachOf (device : Device σ) (hs : s.pool.Consistent) (ps : List Parameter) :
    Ends (fun _ r => Takes ps s r.1 r.2) (fun _ r => Takes ps s r.1 r.2)
      (eachOf (ShaderEffect.loadImport device) (ps, s)) := by
  refine ends_eachOf_induct_same (ShaderEffect.loadImport device) (R := Takes)
    (I := fun _ s => s.pool.Consistent) (fun s hs => refl hs []) (fun p ps s hs => ?_) hs
  exact (Takes.loadImport device hs p).mono
    (fun _ _ h => ⟨h.consistent, fun _ _ hrest => h.cons hrest⟩)
    fun _ _ h => h.cons (refl h.consistent ps)

end Takes

namespace Studio

/-- **Images that are loaded are bound to new buffers.** -/
theorem Loading.takes {device : Device σ} {s t : Studio σ} (h : Loading device s t)
    (hs : s.supply.pool.Consistent) :
    Takes s.document.parameters s.supply t.document.parameters t.supply := by
  rcases h.loads with hloads | hloads
  · rw [Prod.mk.injEq] at hloads
    rw [hloads.1, hloads.2]
    exact .refl hs _
  · have heach := Takes.eachOf device hs s.document.parameters
    rcases hr : ShaderEffect.eachOf (loadImport device) (s.document.parameters, s.supply) with
      ⟨_, ps, supply⟩ | ⟨failure, ps, supply⟩
    all_goals
      rw [hr] at heach hloads
      cases hloads
      exact heach

/-! ### Staying apart -/

/-- **The buffers of a host, and those that parameters are bound to, are handed out, but not to a
persistent target.** -/
def Apart (own : List Handle) (s : Studio σ) : Prop :=
  ∃ rest, s.supply.pool.used = s.document.kept + rest ∧
    ∀ h, h ∈ own ∨ h ∈ s.document.bound → h ∈ rest

namespace Apart

variable {own own' : List Handle} {s t : Studio σ}

/-- Buffers stay apart when more of them are handed out. -/
theorem of_taken (h : Apart own s) {new : Multiset Handle}
    (htrades : Trades s.supply.pool 0 t.supply.pool new)
    (hkept : t.document.kept = s.document.kept) (hown : ∀ k ∈ own', k ∈ own ∨ k ∈ new)
    (hbound : ∀ k ∈ t.document.bound, k ∈ s.document.bound ∨ k ∈ new) : Apart own' t := by
  obtain ⟨rest, hused, hrest⟩ := h
  refine ⟨new + rest, ?_, fun k hk => Multiset.mem_add.2 ?_⟩
  · rw [htrades.used (s.document.kept + rest) (by rw [zero_add, hused]), hkept, add_left_comm]
  · rcases hk with hk | hk
    · exact (hown k hk).symm.imp id fun hk => hrest k (Or.inl hk)
    · exact (hbound k hk).symm.imp id fun hk => hrest k (Or.inr hk)

/-- They stay apart when targets exchange theirs. -/
theorem of_kept (h : Apart own s)
    (htrades : Trades s.supply.pool s.document.kept t.supply.pool t.document.kept)
    (hbound : t.document.bound = s.document.bound) : Apart own t := by
  obtain ⟨rest, hused, hrest⟩ := h
  exact ⟨rest, htrades.used rest hused, fun k hk => hrest k (hbound ▸ hk)⟩

/-- They stay apart up to the buffers of targets. -/
theorem begins (h : Apart own s) {device : Device σ} {renderSize : Size} {begun : Studio σ}
    (hs : s.supply.pool.Consistent) (hbegins : Begins renderSize s begun)
    (hloading : Loading device s t) (hdocument : begun.document = t.document)
    (hpool : begun.supply.pool = t.supply.pool) : Apart own begun := by
  obtain ⟨new, htrades, hbound⟩ := hloading.takes hs
  rw [← hpool] at htrades
  have hkept : begun.document.kept = s.document.kept := Document.allHeld_congr hbegins.slots.1
  refine h.of_taken htrades hkept (fun _ hk => Or.inl hk) fun k hk => ?_
  rw [hdocument] at hk
  exact hbound k hk

section

variable {device : Device σ} {renderSize : Size} {begun ready : Studio σ}

/-- They are apart when the passes are drawn. -/
theorem readies (h : Apart own s) (hs : s.supply.pool.Consistent) (hd : s.document.WellFormed)
    (hbegun : untilBuffers device renderSize s = .ok () begun)
    (hready : onPersistent (ensureBuffers device) begun = .ok () ready) : Apart own ready := by
  have hbegins := (begins_of_ok hs hd hbegun).1
  obtain ⟨t, -, hloading, -, hdocument, hpool⟩ := exists_loading_of_ok hbegun
  have hkeeps := ends_onPersistent device hbegins.trades.consistent
  rw [hready] at hkeeps
  refine (h.begins hs hbegins hloading hdocument hpool).of_kept hkeeps.1.1 ?_
  rw [Document.bound, hkeeps.2.parameters]
  rfl

/-- They are apart when temporary targets have given back what they were lent. -/
theorem givesBack (h : Apart own s) (hback : GivesBack s t) : Apart own t := by
  refine h.of_taken hback.trades ?_ (fun _ hk => Or.inl hk) fun k hk => Or.inl ?_
  · rw [Document.kept, hback.persistent, Document.kept]
  · rw [Document.bound, hback.parameters] at hk
    exact hk

end

/-- **A frame that is refused nothing keeps buffers apart.** -/
theorem ofFrame {device : Device σ} {now : Moment} {renderSize : Size}
    {s : Studio (Observed σ)} (h : Apart own s) (hs : s.Steady)
    (hrefused : ¬ (Rendered.ofFrame device now renderSize s).after.supply.device.HasRefused) :
    Apart own (Rendered.ofFrame device now renderSize s).after := by
  rcases Rendered.goes device now renderSize hs.consistent hs.wellFormed hs.rests with
    ⟨report, s', hcompletes, heq⟩ | ⟨failure, s', hfails, heq⟩
  · rw [heq]
    obtain @⟨begun, ready, drawn, rested, _, hbegun, hready, -, hback, -⟩ := hcompletes
    have hrested := (h.readies hs.consistent hs.wellFormed hbegun hready).givesBack hback
    -- exchanging the two buffers of a target changes nothing about what is kept
    refine hrested.of_kept ?_ (Document.bound_settle _)
    show Trades _ _ rested.supply.pool (allHeld _ (rested.document.passes.persistent.map _))
    rw [Document.allHeld_swap]
    exact Trades.refl hback.trades.consistent _
  · rw [heq] at hrefused ⊢
    cases hfails with
    | early hbegun =>
        obtain ⟨t, hloading, hdocument, hpool⟩ := exists_loading_of_error hbegun
        exact h.begins hs.consistent (begins_of_error hs.consistent hs.wellFormed hbegun) hloading
          hdocument hpool
    | refused hbegun hready =>
        have hbegins := (begins_of_ok hs.consistent hs.wellFormed hbegun).1
        exact absurd (refusal_of_error hbegins.trades.consistent hready).hasRefused hrefused
    | late hbegun hready _ hback _ =>
        exact (h.readies hs.consistent hs.wellFormed hbegun hready).givesBack hback

end Apart

end Studio

/-! ### Moves -/

/-- Whether a move leaves the pool to the scene, and binds only buffers of the host's own. -/
def Move.keepsApart (own : List Handle) : Move → Bool
  | .frame _ _ | .configure _ | .resize _ => true
  | .elsewhere (.adopt _ _) | .elsewhere .housekeep => true
  | .change _ c => c.handles.all (· ∈ own)
  | _ => false

namespace Session

/-- The buffers that a host takes in with a move. -/
def takesIn (s : Session σ) : Move → List Handle
  | .elsewhere (.adopt d b) => [(s.studio.supply.pool.adopt d b).1]
  | _ => []

/-- **Whether moves leave the pool to the scene**, and bind only buffers that the host has taken in
before, besides those it had already. -/
def alone (device : Device σ) : List Handle → Session σ → List Move → Bool
  | _, _, [] => true
  | own, s, m :: moves =>
    m.keepsApart own && alone device (own ++ s.takesIn m) (move device s m) moves

variable {device : Device σ} {s : Session σ}

/-- **A move that leaves the pool to the scene keeps buffers apart.** -/
theorem apart_move {own : List Handle} (h : s.studio.Apart own) (hs : s.studio.Steady) {m : Move}
    (hm : m.keepsApart own = true)
    (hrefused : ¬ (move device s m).studio.supply.device.HasRefused) :
    (move device s m).studio.Apart (own ++ s.takesIn m) := by
  cases m with
  | frame now renderSize =>
      rw [show s.takesIn _ = [] from rfl, List.append_nil]
      exact h.ofFrame hs hrefused
  | change name change =>
      rw [show s.takesIn _ = [] from rfl, List.append_nil]
      obtain ⟨rest, hused, hrest⟩ := h
      refine ⟨rest, ?_, fun k hk => hrest k ?_⟩
      · show _ = Document.kept (s.studio.document.alter name change) + rest
        rw [Document.kept, Document.passes_alter]
        exact hused
      · rcases hk with hk | hk
        · exact Or.inl hk
        · -- a buffer that was not bound before is one of the host's own
          obtain ⟨q, hq, hqk⟩ := Document.mem_bound.1 hk
          rcases Document.mem_alter hq with hq | ⟨p, hp, -, happly⟩
          · exact Or.inr (Document.mem_bound.2 ⟨q, hq, hqk⟩)
          · have hbound : k ∈ q.bound := by simp [Parameter.bound, hqk]
            rw [(hs.typed p hp).bound_of_apply happly] at hbound
            exact Or.inl (of_decide_eq_true (List.all_eq_true.1 hm k hbound))
  | configure settings =>
      rw [show s.takesIn _ = [] from rfl, List.append_nil]
      exact h
  | resize renderSize =>
      rw [show s.takesIn _ = [] from rfl, List.append_nil, move]
      cases hresize : s.studio.document.resize renderSize with
      | error failure => exact h
      | ok d =>
          have hkept : d.kept = s.studio.document.kept :=
            Document.allHeld_congr (Document.slots_resize hresize).1
          obtain ⟨_, _, -, -, rfl⟩ := Document.resize_eq_ok_iff.1 hresize
          refine h.of_kept ?_ rfl
          dsimp only
          rw [hkept]
          exact Trades.refl hs.consistent _
  | elsewhere op =>
      cases op with
      | adopt d b =>
          have htrades := trades_adopt hs.consistent d b
          refine h.of_taken htrades rfl (fun k hk => ?_) fun _ hk => Or.inl hk
          simpa [takesIn] using hk
      | housekeep =>
          rw [show s.takesIn _ = [] from rfl, List.append_nil]
          exact h.of_kept (trades_evict hs.consistent _) rfl
      | acquire d => cases hm
      | release k => cases hm
      | clear => cases hm
  | visit other now renderSize => cases hm
  | releaseBuffers => cases hm
  | switch pool => cases hm

/-- Moves add calls. -/
theorem adds_moved (device : Device σ) (moves : List Move) (s : Session σ) :
    Observed.Adds (fun _ => True) s.studio.supply.device
      (moved device moves s).studio.supply.device := by
  induction moves generalizing s with
  | nil => exact .refl _
  | cons m moves ih => exact (adds_move device s m).trans (ih _)

/-- **All moves that leave the pool to the scene keep buffers apart**, as long as the device refuses
no buffer. -/
theorem apart_moved {own : List Handle} {moves : List Move} (h : s.studio.Apart own)
    (hs : s.studio.Steady) (halone : alone device own s moves = true)
    (hrefused : ¬ (moved device moves s).studio.supply.device.HasRefused) :
    ∃ own', (moved device moves s).studio.Apart own' := by
  induction moves generalizing s own with
  | nil => exact ⟨own, h⟩
  | cons m moves ih =>
      rw [alone, Bool.and_eq_true] at halone
      refine ih ?_ (steady_move device hs m).1 halone.2 hrefused
      exact apart_move h hs halone.1 fun hm => hrefused ((adds_moved device moves _).hasRefused hm)

/-- At first nothing is handed out, and nothing is bound. -/
theorem apart_start {d : Document} (hd : d.Opened) (settings : SceneSettings) (started : Nat)
    (pool : PoolSettings) (state : σ) :
    (start d settings started pool state).studio.Apart [] := by
  refine ⟨0, ?_, fun k hk => ?_⟩
  · show (Pool.ofSettings pool).used = d.kept + 0
    rw [hd.spec.2.kept_eq]
    rfl
  · rcases hk with hk | hk
    · cases hk
    · obtain ⟨p, hp, hpk⟩ := Document.mem_bound.1 hk
      rw [(hd.begun p hp).unbound] at hpk
      cases hpk

end Session

end ShaderEffect
