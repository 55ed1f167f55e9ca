/-
**The two buffers of a persistent target through a frame.**

A persistent target that holds two buffers of its size keeps both until the passes are drawn: one is
drawn into, and the other one is sampled.  A complete frame exchanges the two; a frame that fails
does not.

Main definitions:

* `ShaderEffect.Document.stored` — the buffers that the persistent target of a name holds;
* `ShaderEffect.Supply.Acquires` — buffers are acquired, and nothing else is done with the supply;
* `ShaderEffect.Studio.Visits` — the turn of a target while persistent targets get their buffers;
* `ShaderEffect.Studio.Holds` — **it holds two buffers of its size**;
* `ShaderEffect.Studio.Readies` — what becomes of them before the passes are drawn.

Main results:

* `ShaderEffect.slots_ensureBuffers`, `ShaderEffect.Studio.exists_of_onPersistent` — what getting
  buffers does to the slots of a target;
* `ShaderEffect.Studio.exists_visit` — **what is acquired for a target**;
* `ShaderEffect.Studio.readies_of_ok` — what it holds when the passes are drawn;
* `ShaderEffect.Studio.Holds.of_trades` — it holds the same while others exchange their buffers;
* `ShaderEffect.Studio.Holds.settle` — the two buffers change places in the end.
-/

import Mathlib.Data.List.Flatten
import ShaderEffect.Proofs.Scene.Calls

set_option autoImplicit false

namespace ShaderEffect

open Pool

variable {σ : Type}

/-! ### What a target holds -/

theorem Target.buffers_eq_pair_iff {t : Target} {c v : Handle} :
    t.buffers = [c, v] ↔ t.current = some c ∧ t.previous = some v := by
  unfold Target.buffers
  cases t.current <;> cases t.previous <;> simp

theorem Target.buffers_eq_nil_iff {t : Target} :
    t.buffers = [] ↔ t.current = none ∧ t.previous = none := by
  unfold Target.buffers
  cases t.current <;> cases t.previous <;> simp

namespace Document

variable {d d' : Document} {name : String}

/-- The buffers that the persistent target of a name holds, the one that is drawn into first. -/
def stored (d : Document) (name : String) : List Handle :=
  (d.passes.persistent.filter fun t => t.name = name).flatMap Target.buffers

/-- No two persistent targets have the same name. -/
theorem WellFormed.stored_eq (hd : d.WellFormed) {t : Target} (ht : t ∈ d.passes.persistent) :
    d.stored t.name = t.buffers := by
  have hnames := hd.passes.names
  rw [Passes.targets, List.map_append] at hnames
  have hpersistent := hnames.of_append_left
  obtain ⟨before, after, hsplit⟩ := List.append_of_mem ht
  rw [hsplit, List.map_append, List.map_cons, List.nodup_append, List.nodup_cons] at hpersistent
  obtain ⟨-, ⟨hafter, -⟩, hbefore⟩ := hpersistent
  -- no other persistent target passes the filter
  have hnone {us : List Target} (hus : t.name ∉ us.map Target.name) :
      us.filter (fun u => u.name = t.name) = [] := by
    refine List.filter_eq_nil_iff.2 fun u hu heq => hus ?_
    exact List.mem_map.2 ⟨u, hu, by simpa using heq⟩
  have hbefore' : t.name ∉ before.map Target.name := fun hmem =>
    hbefore t.name hmem t.name List.mem_cons_self rfl
  rw [stored, hsplit, List.filter_append, List.filter_cons_of_pos (by simp), hnone hbefore',
    hnone hafter]
  simp

/-- What one target holds is among all that is kept. -/
theorem stored_le_kept (d : Document) (name : String) :
    (d.stored name : Multiset Handle) ≤ d.kept :=
  Multiset.coe_le.2 (List.filter_sublist.flatMap Target.buffers).subperm

/-- What is stored depends on names and slots alone. -/
theorem stored_congr
    (hnames : d'.passes.persistent.map Target.name = d.passes.persistent.map Target.name)
    (hslots : d'.passes.persistent.map Target.slots = d.passes.persistent.map Target.slots) :
    d'.stored name = d.stored name := by
  have hpairs (e : Document) : e.stored name =
      ((((e.passes.persistent.map Target.name).zip (e.passes.persistent.map Target.slots)).filter
        fun x => x.1 = name).flatMap fun x => x.2.1.toList ++ x.2.2.toList : List Handle) := by
    rw [List.zip_map', List.filter_map, List.flatMap_map]
    rfl
  rw [hpairs, hpairs, hnames, hslots]

/-- A target is found under its name. -/
theorem WellFormed.target?_eq (hd : d.WellFormed) {t : Target} (ht : t ∈ d.passes.targets) :
    d.target? t.name = some t := by
  cases hfind : d.target? t.name with
  | none => simpa using List.find?_eq_none.1 hfind t ht
  | some u =>
      have hname : u.name = t.name := by simpa using List.find?_some hfind
      rw [List.inj_on_of_nodup_map hd.passes.names (List.mem_of_find?_eq_some hfind) ht hname]

/-- Blank documents tell the names of targets. -/
theorem names_of_blank_eq (h : d'.blank = d.blank) :
    d'.passes.persistent.map Target.name = d.passes.persistent.map Target.name := by
  have hpersistent := congrArg (fun e : Document => e.passes.persistent.map Target.name) h
  simpa [blank, Function.comp_def] using hpersistent

/-- A persistent target of a name is declared, and its pixels are of this sort. -/
def Declares (d : Document) (name : String) (float : Bool) : Prop :=
  ∃ t ∈ d.passes.persistent, t.name = name ∧ t.float = float

/-- What is declared does not change. -/
theorem Declares.of_blank_eq {float : Bool} (hd : d.Declares name float)
    (h : d'.blank = d.blank) : d'.Declares name float := by
  obtain ⟨t, ht, hname, hfloat⟩ := hd
  have hpersistent : d'.passes.persistent.map Target.blank =
      d.passes.persistent.map Target.blank :=
    congrArg (fun e : Document => e.passes.persistent) h
  obtain ⟨u, hu, heq⟩ := List.mem_map.1 (hpersistent ▸ List.mem_map_of_mem ht :
    t.blank ∈ d'.passes.persistent.map Target.blank)
  exact ⟨u, hu, (congrArg Target.name heq).trans hname, (congrArg Target.float heq).trans hfloat⟩

/-- The size that the target of a name has in a frame, if all targets have sizes. -/
def sizeIn? (d : Document) (name : String) (renderSize : Size) : Option Size :=
  match d.resize renderSize with
  | .error _ => none
  | .ok d => (d.target? name).bind Target.size

end Document

/-! ### Getting buffers -/

/-- **Buffers of one sort are acquired**, one after the other, and nothing else is done with the
supply. -/
inductive Supply.Acquires (device : Device σ) (d : Descriptor) :
    Supply σ → List Handle → Supply σ → Prop where
  | none (s : Supply σ) : Acquires device d s [] s
  | one {s t u : Supply σ} {h : Handle} {hs : List Handle} (first : acquire device d s = .ok h t)
      (others : Acquires device d t hs u) : Acquires device d s (h :: hs) u

/-- What is known about the descriptor and the buffer of a handle is what is known about it. -/
theorem Pool.descriptor?_congr {p q : Pool} {h : Handle} (heq : q.find? h = p.find? h) :
    q.descriptor? h = p.descriptor? h ∧ q.buffer? h = p.buffer? h := by
  rw [descriptor?, buffer?, heq]
  exact ⟨rfl, rfl⟩

/-- **A persistent target that gets its buffers** holds two that have its descriptor.  If it held
none before, the two are acquired; if it held two such, it keeps them, and nothing happens. -/
theorem slots_ensureBuffers (device : Device σ) {s s' : Supply σ} {t t' : Target}
    {d : Descriptor} (hs : s.pool.Consistent) (hle : (t.buffers : Multiset Handle) ≤ s.pool.used)
    (hd : t.descriptor? = some d) (hok : ensureBuffers device (t, s) = .ok () (t', s')) :
    ∃ c v, t' = { t with current := some c, previous := some v } ∧
      s'.pool.descriptor? c = some d ∧ s'.pool.descriptor? v = some d ∧
      (t.buffers = [] → Supply.Acquires device d s [c, v] s') ∧
      ∀ a b, t.buffers = [a, b] → s.pool.descriptor? a = some d →
        s.pool.descriptor? b = some d → c = a ∧ v = b ∧ s' = s := by
  have hcurrent := ends_refreshSlot device hs t.current d
  unfold ensureBuffers at hok
  dsimp only at hok
  rw [hd] at hok
  dsimp only at hok
  rcases hc : refreshSlot device t.current d s with ⟨c, s₁⟩ | ⟨e, s₁⟩
  · rw [hc] at hok hcurrent
    dsimp only at hok
    obtain ⟨htrades, hcd, hckeep⟩ := hcurrent
    have hprevious := ends_refreshSlot device htrades.consistent t.previous d
    rcases hv : refreshSlot device t.previous d s₁ with ⟨v, s₂⟩ | ⟨e, s₂⟩
    · rw [hv] at hok hprevious
      cases hok
      obtain ⟨htrades', hvd, hvkeep⟩ := hprevious
      refine ⟨c, v, rfl, ?_, hvd, fun hnone => ?_, ?_⟩
      · -- the other slot is refreshed while this one holds its buffer
        rw [coe_buffers] at hle
        have hle₁ := (htrades.add_right (slotHeld t.previous)).used_le hle
        rw [add_comm] at hle₁
        rw [(descriptor?_congr (htrades'.find?_of_mem hle₁ (Multiset.mem_singleton_self c))).1]
        exact hcd
      · obtain ⟨hcurrent, hprevious⟩ := Target.buffers_eq_nil_iff.1 hnone
        rw [hcurrent] at hc
        rw [hprevious] at hv
        exact .one hc (.one hv (.none _))
      · intro a b hslots ha hb
        obtain ⟨hta, htb⟩ := Target.buffers_eq_pair_iff.1 hslots
        obtain ⟨rfl, rfl⟩ := hckeep a hta ha
        obtain ⟨rfl, rfl⟩ := hvkeep b htb hb
        exact ⟨rfl, rfl, rfl⟩
    · rw [hv] at hok
      cases hok
  · rw [hc] at hok
    cases hok

/-- Persistent targets that all get their buffers exchange what they hold. -/
theorem trades_of_eachOf_ensureBuffers (device : Device σ) {ts us : List Target}
    {s s' : Supply σ} (hs : s.pool.Consistent)
    (h : eachOf (ensureBuffers device) (ts, s) = .ok () (us, s')) :
    Trades s.pool (allHeld Target.buffers ts) s'.pool (allHeld Target.buffers us) := by
  have hends := ends_eachOf (refusedFor? device)
    (fun t (_ : t ∈ ts) u hu =>
      (ends_ensureBuffers device hu t).mono (fun _ _ h => h.1) fun _ _ h => h) hs
  rw [h] at hends
  exact hends

namespace Studio

/-- What is true of a studio between frames. -/
structure Sound (s : Studio σ) : Prop where
  consistent : s.supply.pool.Consistent
  wellFormed : s.document.WellFormed
  rests : s.document.Rests
  held : s.document.held ≤ s.supply.pool.used

namespace Sound

variable {s s' : Studio σ}

/-- The buffers of persistent targets and of imported images are handed out. -/
theorem kept_add_imported_le (hs : s.Sound) :
    s.document.kept + s.document.imported ≤ s.supply.pool.used :=
  hs.rests.held_eq ▸ hs.held

theorem kept_le (hs : s.Sound) : s.document.kept ≤ s.supply.pool.used :=
  (Multiset.le_add_right _ _).trans hs.kept_add_imported_le

/-- A frame that loses no buffer leaves all as it should be. -/
theorem frames (hs : s.Sound) (h : Frames none s s') : s'.Sound :=
  ⟨h.trades.consistent, hs.wellFormed.of_blank_eq h.blank, h.rests, h.trades.used_le hs.held⟩

end Sound

/-- Of the persistent targets that get their buffers one after the other, it is the turn of `t`: it
finds the supply `u`, and leaves the supply `u'`. -/
structure Visits (device : Device σ) (s : Studio σ) (t : Target) (u : Supply σ) (t' : Target)
    (u' : Supply σ) : Prop where
  /-- Those in front of it have got theirs. -/
  reached : ∃ before after before', s.document.passes.persistent = before ++ t :: after ∧
    eachOf (ensureBuffers device) (before, s.supply) = .ok () (before', u)
  ensured : ensureBuffers device (t, u) = .ok () (t', u')

/-- Of the persistent targets that get their buffers, one is looked at: those before and behind it
leave its buffers alone. -/
theorem exists_of_onPersistent (device : Device σ) {s s' : Studio σ}
    (hs : s.supply.pool.Consistent) (hle : s.document.kept ≤ s.supply.pool.used)
    (h : onPersistent (ensureBuffers device) s = .ok () s') {t : Target}
    (ht : t ∈ s.document.passes.persistent) :
    ∃ t' u u', Visits device s t u t' u' ∧ u.pool.Consistent ∧
      (t.buffers : Multiset Handle) ≤ u.pool.used ∧
      (∀ k ∈ t.buffers, u.pool.find? k = s.supply.pool.find? k) ∧
      t' ∈ s'.document.passes.persistent ∧
      ∀ k ∈ t'.buffers, s'.supply.pool.find? k = u'.pool.find? k := by
  obtain ⟨before, after, hsplit⟩ := List.append_of_mem ht
  unfold onPersistent at h
  rcases hr : eachOf (ensureBuffers device) (s.document.passes.persistent, s.supply) with
    ⟨_, ts, supply⟩ | ⟨failure, ts, supply⟩
  · rw [hr] at h
    cases h
    rw [hsplit] at hr
    obtain ⟨before', u, t', u', after', hbefore, hmiddle, hafter, rfl⟩ :=
      eachOf_eq_ok_of_append _ hr
    have hfirst := trades_of_eachOf_ensureBuffers device hs hbefore
    have hthen := ends_ensureBuffers device hfirst.consistent t
    rw [hmiddle] at hthen
    have hlast := trades_of_eachOf_ensureBuffers device hthen.1.consistent hafter
    -- all three parts are handed out at once, so each of them leaves the other two alone
    rw [Document.kept, hsplit, allHeld_append, allHeld_cons, ← add_assoc] at hle
    have hle₁ := ((hfirst.add_right _).add_right _).used_le hle
    have hle₂ := ((hthen.1.add_left _).add_right _).used_le hle₁
    rw [add_assoc, add_comm (_ : Multiset Handle) (allHeld Target.buffers after)] at hle₂
    refine ⟨t', u, u', ⟨⟨before, after, before', hsplit, hbefore⟩, hmiddle⟩, hfirst.consistent, ?_,
      fun k hk => ?_, ?_, fun k hk => ?_⟩
    · exact le_trans (le_trans (Multiset.le_add_left _ _) (Multiset.le_add_right _ _)) hle₁
    · exact hfirst.find?_of_mem (le_trans (Multiset.le_add_right _ _) hle) (Multiset.mem_coe.2 hk)
    · exact List.mem_append_right _ List.mem_cons_self
    · exact hlast.find?_of_mem (le_trans (Multiset.le_add_left _ _) hle₂) (Multiset.mem_coe.2 hk)
  · rw [hr] at h
    cases h

/-! ### Two buffers of one size -/

/-- **A persistent target holds two buffers with a descriptor**, the one that is drawn into
first. -/
structure Holds (name : String) (d : Descriptor) (buffers : Handle → Buffer) (c v : Handle)
    (s : Studio σ) : Prop where
  stored : s.document.stored name = [c, v]
  descriptor? : ∀ h ∈ [c, v], s.supply.pool.descriptor? h = some d
  buffer? : ∀ h ∈ [c, v], s.supply.pool.buffer? h = some (buffers h)

variable {name : String} {d : Descriptor} {buffers : Handle → Buffer} {c v : Handle}
  {s s' : Studio σ}

/-- Handles with a descriptor have buffers. -/
theorem exists_holds (hstored : s.document.stored name = [c, v])
    (hd : ∀ h ∈ [c, v], s.supply.pool.descriptor? h = some d) :
    ∃ buffers, Holds name d buffers c v s := by
  refine ⟨fun h => (s.supply.pool.buffer? h).getD ⟨0⟩, hstored, hd, fun h hh => ?_⟩
  obtain ⟨e, he, -⟩ := Option.map_eq_some_iff.1 (hd h hh)
  simp [Pool.buffer?, he]

namespace Holds

/-- A target holds the same two buffers where they are known as before. -/
theorem congr (h : Holds name d buffers c v s)
    (hstored : s'.document.stored name = s.document.stored name)
    (hfind : ∀ k ∈ s.document.stored name, s'.supply.pool.find? k = s.supply.pool.find? k) :
    Holds name d buffers c v s' where
  stored := hstored.trans h.stored
  descriptor? k hk := (descriptor?_congr (hfind k (h.stored ▸ hk))).1.trans (h.descriptor? k hk)
  buffer? k hk := (descriptor?_congr (hfind k (h.stored ▸ hk))).2.trans (h.buffer? k hk)

/-- **A target holds the same two buffers while others exchange theirs.** -/
theorem of_trades (h : Holds name d buffers c v s) {before after : Multiset Handle}
    (hstored : s'.document.stored name = s.document.stored name)
    (htrades : Trades s.supply.pool before s'.supply.pool after)
    (hle : before + s.document.kept ≤ s.supply.pool.used) : Holds name d buffers c v s' := by
  refine h.congr hstored fun k hk => htrades.find?_of_mem hle ?_
  exact Multiset.mem_of_le (s.document.stored_le_kept name) (Multiset.mem_coe.2 hk)

/-- The two buffers are different, as nothing is handed out twice. -/
theorem ne (h : Holds name d buffers c v s) (hs : s.supply.pool.Consistent)
    (hle : s.document.kept ≤ s.supply.pool.used) : c ≠ v := by
  have hnodup := Multiset.nodup_of_le ((s.document.stored_le_kept name).trans hle) (nodup_used hs)
  rw [h.stored] at hnodup
  simpa using hnodup

/-- The target that holds them. -/
theorem exists_target (h : Holds name d buffers c v s) (hd : s.document.WellFormed)
    {float : Bool} (hdeclares : s.document.Declares name float) :
    ∃ t ∈ s.document.passes.persistent, t.name = name ∧ t.current = some c ∧
      t.previous = some v := by
  obtain ⟨t, ht, rfl, -⟩ := hdeclares
  refine ⟨t, ht, rfl, Target.buffers_eq_pair_iff.1 ?_⟩
  rw [← hd.stored_eq ht]
  exact h.stored

/-- **The two buffers change places** after a complete frame. -/
theorem settle (h : Holds name d buffers c v s) (hd : s.document.WellFormed) {float : Bool}
    (hdeclares : s.document.Declares name float) (scene : Scene) :
    Holds name d buffers v c { s with scene := scene, document := s.document.settle } := by
  obtain ⟨t, ht, rfl, hc, hv⟩ := h.exists_target hd hdeclares
  have hmem : t.swap ∈ s.document.settle.passes.persistent := List.mem_map_of_mem ht
  have hswap (k : Handle) : k ∈ [v, c] → k ∈ [c, v] := by
    simp only [List.mem_cons, List.not_mem_nil, or_false]
    exact Or.symm
  refine ⟨?_, fun k hk => h.descriptor? k (hswap k hk), fun k hk => h.buffer? k (hswap k hk)⟩
  have hstored := (hd.of_blank_eq (Document.blank_settle s.document)).stored_eq hmem
  exact hstored.trans (Target.buffers_eq_pair_iff.2 ⟨hv, hc⟩)

end Holds

/-! ### Before drawing -/

/-- What becomes of a persistent target before the passes are drawn: it gets two buffers, or keeps
the two that it has. -/
structure Readies (name : String) (d : Descriptor) (s ready : Studio σ) : Prop where
  holds : ∃ buffers c v, Holds name d buffers c v ready
  keeps : ∀ buffers c v, Holds name d buffers c v s → Holds name d buffers c v ready

variable {device : Device σ} {renderSize size : Size} {begun ready : Studio σ}

theorem Begins.stored (h : Begins renderSize s s') :
    s'.document.stored name = s.document.stored name :=
  Document.stored_congr (Document.names_of_blank_eq h.blank) h.slots.1

/-- Loading images and sizing targets leaves the buffers of targets alone. -/
theorem Begins.holds (h : Begins renderSize s s') (hholds : Holds name d buffers c v s)
    (hle : s.document.kept + s.document.imported ≤ s.supply.pool.used) :
    Holds name d buffers c v s' := by
  rw [add_comm] at hle
  exact hholds.of_trades h.stored h.trades hle

/-- A target that gets a size gets the one that is evaluated for it. -/
theorem size_of_begun {t : Target} (hd : s.document.WellFormed) {e : Document}
    (hresize : s.document.resize renderSize = .ok e)
    (hpasses : s'.document.passes = e.passes)
    (ht : t ∈ s'.document.passes.persistent)
    (hsize : ∀ z ∈ s.document.sizeIn? t.name renderSize, z = size) : t.size = some size := by
  have hfind : e.target? t.name = some t := by
    refine (hd.of_blank_eq (Document.blank_resize hresize)).target?_eq ?_
    rw [← hpasses]
    exact List.mem_append_left _ ht
  have hsome : t.size ≠ none := by
    obtain ⟨persistent, temporary, hpersistent, -, rfl⟩ := Document.resize_eq_ok_iff.1 hresize
    rw [hpasses] at ht
    exact Document.size_ne_none_of_mem_resizeAll hpersistent ht
  obtain ⟨z, hz⟩ := Option.ne_none_iff_exists'.1 hsome
  rw [hz]
  refine congrArg some (hsize z ?_)
  simp [Document.sizeIn?, hresize, hfind, hz]

/-- **The turn of a persistent target**: it holds two buffers of its size when the passes are drawn.
If it held none before the frame, these two are acquired; if it held two such, it keeps them, and
nothing is done with the supply. -/
theorem exists_visit {float : Bool} (hs : s.Sound) (hdeclares : s.document.Declares name float)
    (hsize : ∀ z ∈ s.document.sizeIn? name renderSize, z = size)
    (hbegun : untilBuffers device renderSize s = .ok () begun)
    (hready : onPersistent (ensureBuffers device) begun = .ok () ready) :
    ∃ t u t' u' c v, Visits device begun t u t' u' ∧ t.name = name ∧
      ready.document.stored name = [c, v] ∧
      (∀ k ∈ [c, v], ready.supply.pool.descriptor? k = some (.renderTarget size float)) ∧
      (s.document.stored name = [] →
        Supply.Acquires device (.renderTarget size float) u [c, v] u') ∧
      ∀ buffers a b, Holds name (.renderTarget size float) buffers a b s →
        u' = u ∧ Holds name (.renderTarget size float) buffers a b ready := by
  have hd := hs.wellFormed
  have hle := hs.kept_add_imported_le
  obtain ⟨hbegins, e, hresize, hpasses⟩ := begins_of_ok hs.consistent hd hbegun
  have hprepares := (prepares_of_ok hs.consistent hd hbegun hready).1
  have hwell := hd.of_blank_eq hbegins.blank
  have hwell' := hd.of_blank_eq hprepares.blank
  obtain ⟨t, ht, rfl, rfl⟩ := hdeclares.of_blank_eq hbegins.blank
  have hdescriptor : t.descriptor? = some (.renderTarget size t.float) := by
    rw [Target.descriptor?, size_of_begun hd hresize hpasses ht hsize]
    rfl
  have hkept : begun.document.kept ≤ begun.supply.pool.used :=
    (Multiset.le_add_right _ _).trans (hbegins.prepares.trades.used_le hle)
  obtain ⟨t', u, u', hvisit, hu, hused, hfind, ht', hfind'⟩ :=
    exists_of_onPersistent device hbegins.trades.consistent hkept hready ht
  obtain ⟨c, v, rfl, hc, hv, hacquires, hkeep⟩ :=
    slots_ensureBuffers device hu hused hdescriptor hvisit.ensured
  have hbuffers : t.buffers = s.document.stored t.name :=
    (hwell.stored_eq ht).symm.trans hbegins.stored
  have hstored : ready.document.stored t.name = [c, v] := hwell'.stored_eq ht'
  refine ⟨t, u, _, u', c, v, hvisit, rfl, hstored, fun k hk => ?_,
    fun hnone => hacquires (hbuffers.trans hnone), fun buffers a b hholds => ?_⟩
  · rw [(descriptor?_congr (hfind' k hk)).1]
    simp only [List.mem_cons, List.not_mem_nil, or_false] at hk
    rcases hk with rfl | rfl
    · exact hc
    · exact hv
  · -- the two buffers have the right descriptor already, so nothing is exchanged
    have hbegun := hbegins.holds hholds hle
    have hbuffers : t.buffers = [a, b] := hbuffers.trans hholds.stored
    have hknown (k : Handle) (hk : k ∈ [a, b]) :
        u.pool.descriptor? k = some (.renderTarget size t.float) := by
      rw [(descriptor?_congr (hfind k (hbuffers ▸ hk))).1]
      exact hbegun.descriptor? k hk
    obtain ⟨rfl, rfl, rfl⟩ := hkeep a b hbuffers (hknown a (by simp)) (hknown b (by simp))
    refine ⟨rfl, hbegun.congr (hstored.trans hbegun.stored.symm) fun k hk => ?_⟩
    rw [hbegun.stored] at hk
    exact (hfind' k hk).trans (hfind k (hbuffers ▸ hk))

/-- **What a persistent target holds when the passes are drawn**: two buffers of its size. -/
theorem readies_of_ok {float : Bool} (hs : s.Sound)
    (hdeclares : s.document.Declares name float)
    (hsize : ∀ z ∈ s.document.sizeIn? name renderSize, z = size)
    (hbegun : untilBuffers device renderSize s = .ok () begun)
    (hready : onPersistent (ensureBuffers device) begun = .ok () ready) :
    Readies name (.renderTarget size float) s ready := by
  obtain ⟨t, u, t', u', c, v, -, -, hstored, hknown, -, hkeeps⟩ :=
    exists_visit hs hdeclares hsize hbegun hready
  obtain ⟨buffers, hholds⟩ := exists_holds hstored hknown
  exact ⟨⟨buffers, c, v, hholds⟩, fun buffers a b hholds => (hkeeps buffers a b hholds).2⟩

/-- A studio that is ready for drawing is as it should be. -/
theorem Sound.of_ready (hs : s.Sound) (hbegun : untilBuffers device renderSize s = .ok () begun)
    (hready : onPersistent (ensureBuffers device) begun = .ok () ready) : ready.Sound :=
  hs.frames ((prepares_of_ok hs.consistent hs.wellFormed hbegun hready).1.frames hs.rests)

/-! ### Drawing, and after it -/

/-- Persistent targets keep their buffers while buffers are lent to others. -/
theorem Holds.onlyLends (h : Holds name d buffers c v s) (hs : s.Sound) (hlends : OnlyLends s s') :
    Holds name d buffers c v s' := by
  refine h.of_trades ?_ hlends.trades ?_
  · rw [Document.stored, hlends.persistent]
    rfl
  · rw [hs.rests.lent_eq, zero_add]
    exact hs.kept_le

/-- They keep them when those are given back. -/
theorem Holds.givesBack (h : Holds name d buffers c v s) (hs : s.Sound) (hback : GivesBack s s') :
    Holds name d buffers c v s' := by
  refine h.of_trades ?_ hback.trades ?_
  · rw [Document.stored, hback.persistent]
    rfl
  · rw [zero_add]
    exact hs.kept_le

/-- What a complete frame leaves behind of two buffers that it has drawn with: they have changed
places. -/
theorem Holds.completes {scene : Scene} {rested : Studio σ}
    (h : Holds name d buffers c v ready) (hs : ready.Sound) {float : Bool}
    (hdeclares : ready.document.Declares name float) (hback : GivesBack ready rested) :
    Holds name d buffers v c
      { rested with scene := scene, document := rested.document.settle } :=
  (h.givesBack hs hback).settle (hs.wellFormed.of_blank_eq hback.blank)
    (hdeclares.of_blank_eq hback.blank) scene

/-- A frame that is not refused a buffer loses none. -/
theorem Fails.stranded?_eq_none {device : Device σ} {s s' : Studio (Observed σ)} {now : Moment}
    {failure : Failure} (h : Fails device.observed now renderSize s failure s') (hs : s.Sound)
    (hrefused : ¬ s'.supply.device.HasRefused) :
    stranded? device.observed renderSize s = none := by
  cases h with
  | early hbegun => rw [stranded?, hbegun]
  | refused hbegun hready =>
      have hbegins := (begins_of_ok hs.consistent hs.wellFormed hbegun).1
      exact absurd (refusal_of_error hbegins.trades.consistent hready).hasRefused hrefused
  | late hbegun hready _ _ _ => exact stranded?_of_ready hs.consistent hs.wellFormed hbegun hready

/-- **A frame that fails without a refusal exchanges nothing**: a persistent target is as it was
before the frame, or as it was when the passes were to be drawn. -/
theorem Fails.holds {device : Device σ} {s s' : Studio (Observed σ)} {now : Moment}
    {failure : Failure} {float : Bool} (h : Fails device.observed now renderSize s failure s')
    (hs : s.Sound) (hdeclares : s.document.Declares name float)
    (hsize : ∀ z ∈ s.document.sizeIn? name renderSize, z = size)
    (hrefused : ¬ s'.supply.device.HasRefused) :
    (s'.document.stored name = s.document.stored name ∧ ∀ buffers c v,
      Holds name (.renderTarget size float) buffers c v s →
        Holds name (.renderTarget size float) buffers c v s') ∨
    Readies name (.renderTarget size float) s s' := by
  cases h with
  | early hbegun =>
      have hbegins := begins_of_error hs.consistent hs.wellFormed hbegun
      exact Or.inl ⟨hbegins.stored, fun _ _ _ hholds =>
        hbegins.holds hholds hs.kept_add_imported_le⟩
  | refused hbegun hready =>
      have hbegins := (begins_of_ok hs.consistent hs.wellFormed hbegun).1
      exact absurd (refusal_of_error hbegins.trades.consistent hready).hasRefused hrefused
  | late hbegun hready hdraws hback hdevice =>
      have hreadies := readies_of_ok hs hdeclares hsize hbegun hready
      have hs' := hs.of_ready hbegun hready
      obtain ⟨buffers, c, v, hholds⟩ := hreadies.holds
      exact Or.inr ⟨⟨buffers, c, v, hholds.givesBack hs' hback⟩, fun buffers c v hholds =>
        (hreadies.keeps buffers c v hholds).givesBack hs' hback⟩

end Studio

end ShaderEffect
