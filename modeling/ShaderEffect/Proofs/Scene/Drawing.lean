/-
**What drawing does.**

Before a pass is drawn, its target must hold a buffer; a temporary target that holds none is lent
one.  Then the device is told what the pass does.  This module says precisely what a pass finds and
what it leaves behind, and follows that through all passes of a frame: they lend buffers to
temporary targets, and change nothing else in the document.

Main definitions:

* `ShaderEffect.Studio.Lending` — what happens before a pass is drawn;
* `ShaderEffect.Shot`, `ShaderEffect.Studio.Drawn` — **passes as they were drawn**;
* `ShaderEffect.Studio.OnlyLends` — what drawing leaves alone.

Main results:

* `ShaderEffect.Studio.ends_passTarget`, `ShaderEffect.Studio.ends_drawFrom` — how drawing ends;
* `ShaderEffect.Studio.Lending.onlyLends`, `ShaderEffect.Studio.Drawn.onlyLends` — drawing only
  lends buffers to temporary targets.
-/

import ShaderEffect.Proofs.Scene.Buffers

set_option autoImplicit false

namespace ShaderEffect

open Pool

variable {σ : Type}

/-! ### Changing one target -/

namespace Document

variable {d : Document}

/-- A temporary target is the only one that is changed under its name. -/
theorem mapTarget_of_temporary (hd : d.WellFormed) {before after : List Target} {t : Target}
    (ht : d.passes.temporary = before ++ t :: after) (f : Target → Target) :
    d.mapTarget t.name f = d.withTemporary (before ++ f t :: after) := by
  have hnames := hd.passes.names
  rw [Passes.targets, ht, List.map_append, List.map_append, List.map_cons] at hnames
  -- no two targets have the same name, of whatever sort they are
  have hother {u : Target} (hu : u ∈ d.passes.persistent ∨ u ∈ before ∨ u ∈ after) :
      u.name ≠ t.name := by
    intro heq
    rw [List.nodup_append, List.nodup_append, List.nodup_cons] at hnames
    obtain ⟨-, ⟨-, ⟨hafter, -⟩, hbefore⟩, hpersistent⟩ := hnames
    rcases hu with hu | hu | hu
    · exact hpersistent u.name (List.mem_map_of_mem hu) t.name
        (List.mem_append_right _ List.mem_cons_self) heq
    · exact hbefore u.name (List.mem_map_of_mem hu) t.name List.mem_cons_self heq
    · exact hafter (heq ▸ List.mem_map_of_mem hu)
  have hkeep (us : List Target) (hus : ∀ u ∈ us, u.name ≠ t.name) :
      us.map (fun u => if u.name = t.name then f u else u) = us := by
    refine (List.map_congr_left fun u hu => ?_).trans (List.map_id us)
    exact if_neg (hus u hu)
  unfold mapTarget withTemporary
  dsimp only
  rw [ht, hkeep _ fun u hu => hother (Or.inl hu), List.map_append, List.map_cons, if_pos rfl,
    hkeep before fun u hu => hother (Or.inr (Or.inl hu)),
    hkeep after fun u hu => hother (Or.inr (Or.inr hu))]

/-- A temporary target that has no buffer is given one; all that is lent is what was lent before,
and this buffer. -/
theorem lend_mapTarget (hd : d.WellFormed) {t : Target} (ht : t ∈ d.passes.temporary)
    (hc : t.current = none) (h : Handle) :
    (d.mapTarget t.name fun t => { t with current := some h }).lent = {h} + d.lent ∧
      (d.mapTarget t.name fun t => { t with current := some h }).blank = d.blank ∧
      (d.mapTarget t.name fun t => { t with current := some h }).passes.persistent =
        d.passes.persistent := by
  obtain ⟨before, after, hsplit⟩ := List.append_of_mem ht
  rw [mapTarget_of_temporary hd hsplit]
  refine ⟨?_, by simp [blank, withTemporary, hsplit, Target.blank], rfl⟩
  show allHeld Target.buffers (before ++ { t with current := some h } :: after) = _
  rw [lent, hsplit, allHeld_append, allHeld_append, allHeld_cons, allHeld_cons, coe_buffers,
    coe_buffers, hc]
  simp only [slotHeld, Option.toList_some, Option.toList_none, Multiset.coe_singleton,
    Multiset.coe_nil, zero_add, add_assoc]
  rw [add_left_comm]

/-- The target of a name is one of the two sorts. -/
theorem target?_eq_some (hd : d.WellFormed) {name : String} {t : Target}
    (ht : d.target? name = some t) : t.name = name ∧
      (t.persistent = true ∧ t ∈ d.passes.persistent ∨
        t.persistent = false ∧ t ∈ d.passes.temporary) := by
  refine ⟨by simpa using List.find?_some ht, ?_⟩
  rcases List.mem_append.1 (List.mem_of_find?_eq_some ht) with h | h
  · exact Or.inl ⟨hd.passes.persistent t h, h⟩
  · exact Or.inr ⟨hd.passes.temporary t h, h⟩

end Document

namespace Studio

/-! ### Before a pass -/

/-- **What happens before a pass is drawn** into the target of a name: the buffer and the size are
found, and a temporary target without a buffer is lent one. -/
inductive Lending (device : Device σ) (renderSize : Size) (name : String) (s : Studio σ) :
    Option Handle × Size → Studio σ → Prop where
  /-- The final output has no buffer. -/
  | output : name = "" → Lending device renderSize name s (none, renderSize) s
  /-- The target has its buffer. -/
  | found (t : Target) : name ≠ "" → s.document.target? name = some t →
      (t.persistent = true ∨ t.current ≠ none) →
      Lending device renderSize name s (t.current, t.size.getD renderSize) s
  /-- A buffer is lent. -/
  | lent (t : Target) (h : Handle) (supply : Supply σ) : name ≠ "" →
      s.document.target? name = some t → t.persistent = false → t.current = none →
      Supply.acquire device (.renderTarget (t.size.getD renderSize) t.float) s.supply =
        .ok h supply →
      Lending device renderSize name s (some h, t.size.getD renderSize)
        { s with
          supply := supply
          document := s.document.mapTarget t.name fun t => { t with current := some h } }

/-- What is left when no buffer is lent: all is as before, or the device has refused one. -/
def Refused (device : Device σ) (s : Studio σ) (failure : Failure) (s' : Studio σ) : Prop :=
  s' = s ∨ ∃ d supply, Supply.acquire device d s.supply = .error failure supply ∧
    s' = { s with supply := supply }

/-- How it ends when a pass looks for its buffer. -/
theorem ends_passTarget (device : Device σ) (renderSize : Size) (index : Nat) (name : String)
    (s : Studio σ) :
    Ends (Lending device renderSize name s) (Refused device s)
      (passTarget device renderSize index name s) := by
  unfold passTarget
  by_cases hname : name = ""
  · rw [if_pos hname]
    exact .output hname
  · rw [if_neg hname]
    refine Ends.get_bind ?_
    cases ht : s.document.target? name with
    | none => exact Or.inl rfl
    | some t =>
        dsimp only
        unfold lendBuffer
        by_cases hlend : (!t.persistent && t.current.isNone) = true
        · rw [if_pos hlend]
          have hp : t.persistent = false := by simp_all
          have hc : t.current = none := by simp_all
          show Ends _ _ (EStateM.bind (EStateM.bind (onSupply _) _) _ s)
          simp only [EStateM.bind, onSupply]
          cases hr : Supply.acquire device (.renderTarget (t.size.getD renderSize) t.float)
              s.supply with
          | ok h supply => exact .lent t h supply hname ht hp hc hr
          | error failure supply => exact Or.inr ⟨_, supply, hr, rfl⟩
        · rw [if_neg hlend]
          refine .found t hname ht ?_
          cases hp : t.persistent with
          | true => exact Or.inl rfl
          | false =>
              refine Or.inr fun hc => hlend ?_
              simp [hp, hc]

/-! ### What drawing leaves alone -/

/-- Buffers are lent to temporary targets, and nothing else happens to the scene and its
document. -/
structure OnlyLends (s s' : Studio σ) : Prop where
  trades : Trades s.supply.pool s.document.lent s'.supply.pool s'.document.lent
  blank : s'.document.blank = s.document.blank
  persistent : s'.document.passes.persistent = s.document.passes.persistent
  parameters : s'.document.parameters = s.document.parameters
  scene : s'.scene = s.scene

namespace OnlyLends

variable {s s' s'' : Studio σ}

theorem refl (hs : s.supply.pool.Consistent) : OnlyLends s s :=
  ⟨Trades.refl hs _, rfl, rfl, rfl, rfl⟩

theorem trans (h : OnlyLends s s') (h' : OnlyLends s' s'') : OnlyLends s s'' where
  trades := h.trades.trans h'.trades
  blank := h'.blank.trans h.blank
  persistent := h'.persistent.trans h.persistent
  parameters := h'.parameters.trans h.parameters
  scene := h'.scene.trans h.scene

end OnlyLends

variable {device : Device σ} {renderSize : Size} {name : String} {s s' : Studio σ}

/-- **Finding a buffer only lends it.** -/
theorem Lending.onlyLends {r : Option Handle × Size} (h : Lending device renderSize name s r s')
    (hs : s.supply.pool.Consistent) (hd : s.document.WellFormed) : OnlyLends s s' := by
  cases h with
  | output => exact .refl hs
  | found => exact .refl hs
  | lent t k supply hname ht hp hc hacquire =>
      have hmem : t ∈ s.document.passes.temporary := by
        rcases (Document.target?_eq_some hd ht).2 with ⟨h, -⟩ | ⟨-, h⟩
        · rw [hp] at h
          cases h
        · exact h
      have htrades := Supply.ends_acquire device hs (.renderTarget (t.size.getD renderSize) t.float)
      rw [hacquire] at htrades
      obtain ⟨hlent, hblank, hpersistent⟩ := Document.lend_mapTarget hd hmem hc k
      refine ⟨?_, hblank, hpersistent, rfl, rfl⟩
      show Trades _ _ _ (Document.lent (s.document.mapTarget t.name _))
      rw [hlent]
      have hthen := htrades.1.add_right s.document.lent
      rw [zero_add] at hthen
      exact hthen

/-- Refusing a buffer changes nothing but the device. -/
theorem Refused.onlyLends {failure : Failure} (h : Refused device s failure s')
    (hs : s.supply.pool.Consistent) : OnlyLends s s' := by
  rcases h with rfl | ⟨d, supply, hacquire, rfl⟩
  · exact .refl hs
  · have hpool := Supply.ends_acquire device hs d
    rw [hacquire] at hpool
    refine ⟨?_, rfl, rfl, rfl, rfl⟩
    show Trades _ _ supply.pool _
    rw [show supply.pool = s.supply.pool from hpool]
    exact Trades.refl hs _

/-! ### Passes as they were drawn -/

end Studio

/-- A pass as it was drawn. -/
structure Shot where
  /-- The document and the pool that its commands were made from. -/
  document : Document
  pool : Pool
  pass : Pass
  report : PassReport

/-- The commands of a pass that was drawn. -/
def Shot.commands (program : Program) (clock : Clock) (shot : Shot) : List Command :=
  shot.document.passCommands shot.pool program clock shot.pass

namespace Studio

/-- The names of the targets that have been drawn into after one pass more. -/
def writtenAfter (written : List String) (name : String) : List String :=
  if name = "" then written else name :: written

/-- The studio after a pass was drawn. -/
def afterShot (device : Device σ) (program : Program) (clock : Clock) (s : Studio σ)
    (shot : Shot) : Studio σ :=
  { s with supply := { s.supply with
      device := device.performAll (shot.commands program clock) s.supply.device } }

/-- **Passes as they were drawn**, one after the other: the passes into the targets of some names,
numbered from `index`, after passes that drew into the targets in `written`. -/
inductive Drawn (device : Device σ) (program : Program) (clock : Clock) (renderSize : Size) :
    Nat → List String → List String → Studio σ → List Shot → Studio σ → Prop where
  | nil (index : Nat) (written : List String) (s : Studio σ) :
      Drawn device program clock renderSize index written [] s [] s
  | cons {index : Nat} {written rest : List String} {name : String} {s s₁ s₂ : Studio σ}
      {handle : Option Handle} {buffer : Option Buffer} {size : Size} {shot : Shot}
      {shots : List Shot} :
      Lending device renderSize name s (handle, size) s₁ →
      Option.Rel (fun h b => s₁.supply.pool.buffer? h = some b) handle buffer →
      shot = ⟨s₁.document, s₁.supply.pool, ⟨index, buffer, size, written⟩,
        ⟨index, name, size, handle⟩⟩ →
      Drawn device program clock renderSize (index + 1) (writtenAfter written name) rest
        (s₁.afterShot device program clock shot) shots s₂ →
      Drawn device program clock renderSize index written (name :: rest) s (shot :: shots) s₂

/-- Telling the device what a pass does changes nothing else. -/
theorem OnlyLends.afterShot {s s' : Studio σ} (h : OnlyLends s s') (device : Device σ)
    (program : Program) (clock : Clock) (shot : Shot) :
    OnlyLends s (s'.afterShot device program clock shot) :=
  ⟨h.trades, h.blank, h.persistent, h.parameters, h.scene⟩

variable {device : Device σ} {program : Program} {clock : Clock} {renderSize : Size}

/-- Drawing passes only lends buffers. -/
theorem Drawn.onlyLends {index : Nat} {written names : List String} {s s' : Studio σ}
    {shots : List Shot} (h : Drawn device program clock renderSize index written names s shots s')
    (hs : s.supply.pool.Consistent) (hd : s.document.WellFormed) : OnlyLends s s' := by
  induction h with
  | nil => exact .refl hs
  | cons hlending _ _ _ ih =>
      have hfirst := hlending.onlyLends hs hd
      exact (hfirst.afterShot _ _ _ _).trans
        (ih hfirst.trades.consistent (hd.of_blank_eq hfirst.blank))

/-- What is left when a pass cannot be drawn: perhaps it has found its buffer, but the device has
not been told anything. -/
def Abandoned (device : Device σ) (renderSize : Size) (s : Studio σ) (failure : Failure)
    (s' : Studio σ) : Prop :=
  Refused device s failure s' ∨ ∃ name r, Lending device renderSize name s r s'

theorem Abandoned.onlyLends {failure : Failure} {s s' : Studio σ}
    (h : Abandoned device renderSize s failure s') (hs : s.supply.pool.Consistent)
    (hd : s.document.WellFormed) : OnlyLends s s' := by
  rcases h with h | ⟨name, r, h⟩
  · exact h.onlyLends hs
  · exact h.onlyLends hs hd

/-- How it ends when a pass looks up the buffer behind its handle. -/
theorem ends_passBuffer (name : String) (handle : Option Handle) (s : Studio σ) :
    Ends
      (fun buffer s' => s' = s ∧
        Option.Rel (fun h b => s.supply.pool.buffer? h = some b) handle buffer)
      (fun _ s' => s' = s) (passBuffer name handle s) := by
  unfold passBuffer
  cases handle with
  | none => exact ⟨rfl, .none⟩
  | some h =>
      refine Ends.get_bind ?_
      cases hb : s.supply.pool.buffer? h with
      | none => exact rfl
      | some b => exact ⟨rfl, .some hb⟩

/-- How it ends when a pass is drawn. -/
theorem ends_drawPass (device : Device σ) (program : Program) (clock : Clock) (renderSize : Size)
    (index : Nat) (name : String) (written : List String) (s : Studio σ) :
    Ends
      (fun report s' => ∃ handle buffer size s₁ shot,
        Lending device renderSize name s (handle, size) s₁ ∧
        Option.Rel (fun h b => s₁.supply.pool.buffer? h = some b) handle buffer ∧
        shot = ⟨s₁.document, s₁.supply.pool, ⟨index, buffer, size, written⟩,
          ⟨index, name, size, handle⟩⟩ ∧
        report = shot.report ∧ s' = s₁.afterShot device program clock shot)
      (Abandoned device renderSize s)
      (drawPass device program clock renderSize index name written s) := by
  refine Ends.bind ((ends_passTarget device renderSize index name s).mono (fun _ _ h => h)
    fun _ _ h => Or.inl h) ?_
  rintro ⟨handle, size⟩ s₁ hlending
  refine Ends.bind ((ends_passBuffer name handle s₁).mono (fun _ _ h => h) ?_) ?_
  · rintro _ s' rfl
    exact Or.inr ⟨name, _, hlending⟩
  · rintro buffer s' ⟨rfl, hbuffer⟩
    exact ⟨handle, buffer, size, _, _, hlending, hbuffer, rfl, rfl, rfl⟩

/-- **How it ends when passes are drawn**: all of them were drawn, or those before one that cannot
be. -/
theorem ends_drawFrom (device : Device σ) (program : Program) (clock : Clock) (renderSize : Size)
    (names : List String) (index : Nat) (written : List String) (s : Studio σ) :
    Ends
      (fun reports s' => ∃ shots, reports = shots.map Shot.report ∧
        Drawn device program clock renderSize index written names s shots s')
      (fun failure s' => ∃ done shots s₁, done <+: names ∧
        Drawn device program clock renderSize index written done s shots s₁ ∧
        Abandoned device renderSize s₁ failure s')
      (drawFrom device program clock renderSize index written names s) := by
  induction names generalizing index written s with
  | nil => exact ⟨[], rfl, .nil index written s⟩
  | cons name rest ih =>
      refine Ends.bind ((ends_drawPass device program clock renderSize index name written s).mono
        (fun _ _ h => h) ?_) ?_
      · intro failure s' h
        exact ⟨[], [], s, List.nil_prefix, .nil index written s, h⟩
      · rintro report s' ⟨handle, buffer, size, s₁, shot, hlending, hbuffer, hshot, rfl, rfl⟩
        refine Ends.bind ((ih (index + 1) (writtenAfter written name)
          (s₁.afterShot device program clock shot)).mono (fun _ _ h => h) ?_) ?_
        · rintro failure s' ⟨done, shots, s₂, hdone, hdrawn, habandoned⟩
          exact ⟨name :: done, shot :: shots, s₂, List.cons_prefix_cons.2 ⟨rfl, hdone⟩,
            .cons hlending hbuffer hshot hdrawn, habandoned⟩
        · rintro reports s' ⟨shots, rfl, hdrawn⟩
          exact ⟨shot :: shots, rfl, .cons hlending hbuffer hshot hdrawn⟩

end Studio

end ShaderEffect
