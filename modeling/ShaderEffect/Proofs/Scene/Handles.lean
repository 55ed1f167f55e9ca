/-
**What a frame leaves of what a pool knows.**

A frame takes buffers from a pool, takes images in, and gives buffers back, but it destroys none.
So whatever happens in it, the descriptor and the buffer behind a handle that was known stay known,
and they stay the same.  And each part of a frame marks only handles as handed out, or as not handed
out, that what it works on holds before or afterwards.  Neither depends on what slots hold being
handed out, so that both are true of a scene that has lost buffers, too.

Main definitions:

* `ShaderEffect.Pool.Grows` — **what is known stays known**;
* `ShaderEffect.Pool.MarksOnly` — only some handles are marked differently.

Main results:

* `ShaderEffect.Supply.kept_grows`, `ShaderEffect.Supply.grows_acquire`,
  `ShaderEffect.Supply.grows_loadImport` — **what parts of a frame are made of forgets nothing**;
* `ShaderEffect.Studio.Drawn.grows` — what a pass has found in the pool is still there afterwards;
* `ShaderEffect.marks_ensureBuffers`, `ShaderEffect.marks_loadImport`,
  `ShaderEffect.marks_eachOf` — what is marked differently.
-/

import ShaderEffect.Proofs.Scene.Kept

set_option autoImplicit false

namespace ShaderEffect

open Supply

variable {σ : Type}

/-! ### What is known -/

namespace Pool

/-- The pool stays consistent, and goes on knowing the descriptors and the buffers of handles. -/
def Grows (p q : Pool) : Prop :=
  p.Consistent → q.Consistent ∧ ∀ h e, p.find? h = some e →
    ∃ f, q.find? h = some f ∧ f.descriptor = e.descriptor ∧ f.buffer = e.buffer

namespace Grows

variable {p q r : Pool}

theorem refl (p : Pool) : Grows p p := fun hp => ⟨hp, fun _ e he => ⟨e, he, rfl, rfl⟩⟩

theorem trans (h : Grows p q) (h' : Grows q r) : Grows p r := by
  intro hp
  obtain ⟨hq, hfind⟩ := h hp
  obtain ⟨hr, hfind'⟩ := h' hq
  refine ⟨hr, fun k e he => ?_⟩
  obtain ⟨f, hf, hdescriptor, hbuffer⟩ := hfind k e he
  obtain ⟨g, hg, hdescriptor', hbuffer'⟩ := hfind' k f hf
  exact ⟨g, hg, hdescriptor'.trans hdescriptor, hbuffer'.trans hbuffer⟩

theorem descriptor? (h : Grows p q) (hp : p.Consistent) {k : Handle} {d : Descriptor}
    (hd : p.descriptor? k = some d) : q.descriptor? k = some d := by
  obtain ⟨e, he, rfl⟩ := Option.map_eq_some_iff.1 hd
  obtain ⟨f, hf, hdescriptor, -⟩ := (h hp).2 k e he
  rw [Pool.descriptor?, hf, ← hdescriptor]
  rfl

theorem buffer? (h : Grows p q) (hp : p.Consistent) {k : Handle} {b : Buffer}
    (hb : p.buffer? k = some b) : q.buffer? k = some b := by
  obtain ⟨e, he, rfl⟩ := Option.map_eq_some_iff.1 hb
  obtain ⟨f, hf, -, hbuffer⟩ := (h hp).2 k e he
  rw [Pool.buffer?, hf, ← hbuffer]
  rfl

end Grows

variable {p q : Pool} {d : Descriptor} {h : Handle}

theorem grows_reuse (hr : p.reuse d = (some h, q)) : Grows p q := by
  refine fun hp => ⟨hp.reuse hr, fun k e he => ?_⟩
  rw [find?_reuse hr, he]
  split
  · exact ⟨_, rfl, rfl, rfl⟩
  · exact ⟨e, rfl, rfl, rfl⟩

theorem grows_adopt (p : Pool) (d : Descriptor) (b : Buffer) : Grows p (p.adopt d b).2 := by
  refine fun hp => ⟨hp.adopt d b, fun k e he => ⟨e, ?_, rfl, rfl⟩⟩
  -- the handle that is issued was not known
  have hne : k ≠ (p.adopt d b).1 := by
    rintro rfl
    rw [show p.find? (p.adopt d b).1 = none from hp.find?_next] at he
    cases he
  rw [find?_adopt, if_neg hne, he]

theorem grows_release (hr : p.release h = .ok q) : Grows p q := by
  refine fun hp => ⟨hp.release hr, fun k e he => ?_⟩
  rw [find?_release hr, he]
  split
  · exact ⟨_, rfl, rfl, rfl⟩
  · exact ⟨e, rfl, rfl, rfl⟩

end Pool

open Pool (Grows)

/-! ### Marks -/

namespace Pool

/-- Only handles among these are marked differently. -/
def MarksOnly (touched : Multiset Handle) (p q : Pool) : Prop :=
  ∀ h, h ∉ touched → q.isInUse h = p.isInUse h

namespace MarksOnly

variable {p q r : Pool} {touched touched' : Multiset Handle}

theorem refl (touched : Multiset Handle) (p : Pool) : MarksOnly touched p p := fun _ _ => rfl

theorem mono (h : MarksOnly touched p q) (hle : touched ⊆ touched') : MarksOnly touched' p q :=
  fun k hk => h k fun hmem => hk (hle hmem)

theorem trans (h : MarksOnly touched p q) (h' : MarksOnly touched' q r) :
    MarksOnly (touched + touched') p r := by
  intro k hk
  rw [Multiset.mem_add, not_or] at hk
  exact (h' k hk.2).trans (h k hk.1)

end MarksOnly

/-- Marks depend on what is known about handles. -/
theorem marksOnly_of_find?_eq {p q : Pool} {touched : Multiset Handle}
    (hfind : ∀ k, k ∉ touched → q.find? k = p.find? k) : MarksOnly touched p q := by
  intro k hk
  rw [isInUse, isInUse, hfind k hk]

variable {p q : Pool} {d : Descriptor} {h : Handle}

/-- If no idle buffer is handed out, nothing is known differently. -/
theorem find?_reuse_none (hr : p.reuse d = (none, q)) (k : Handle) : q.find? k = p.find? k := by
  unfold reuse at hr
  split at hr
  · cases hr
    rfl
  · split at hr
    · cases hr
    · cases hr
      rfl

theorem marks_adopt (p : Pool) (d : Descriptor) (b : Buffer) :
    MarksOnly {(p.adopt d b).1} p (p.adopt d b).2 :=
  marksOnly_of_find?_eq fun k hk => by
    rw [find?_adopt, if_neg fun heq => hk (Multiset.mem_singleton.2 heq)]

end Pool

open Pool (MarksOnly)

namespace Supply

theorem marks_acquire (device : Device σ) (d : Descriptor) (s : Supply σ) :
    Ends (fun h s' => MarksOnly {h} s.pool s'.pool) (fun _ s' => MarksOnly 0 s.pool s'.pool)
      (acquire device d s) := by
  unfold acquire
  rcases hr : s.pool.reuse d with ⟨_ | h, p⟩
  · have hsame := Pool.find?_reuse_none hr
    dsimp only
    cases device.createBuffer d s.device with
    | error reason state => exact Pool.marksOnly_of_find?_eq fun k _ => hsame k
    | ok b state =>
      have hfirst : MarksOnly 0 s.pool p := Pool.marksOnly_of_find?_eq fun k _ => hsame k
      have hthen := hfirst.trans (Pool.marks_adopt p d b)
      rw [zero_add] at hthen
      exact hthen
  · refine Pool.marksOnly_of_find?_eq fun k hk => ?_
    rw [Pool.find?_reuse hr, if_neg fun heq => hk (Multiset.mem_singleton.2 heq)]

theorem marks_releaseHeld (h : Handle) (s : Supply σ) :
    MarksOnly {h} s.pool (remains (releaseHeld h s)).pool := by
  unfold releaseHeld release
  split
  · cases hr : s.pool.release h with
    | error failure => exact .refl _ _
    | ok p =>
      refine Pool.marksOnly_of_find?_eq fun k hk => ?_
      show p.find? k = s.pool.find? k
      rw [Pool.find?_release hr, if_neg fun heq => hk (Multiset.mem_singleton.2 heq)]
  · exact .refl _ _

end Supply

/-- Refreshing a slot concerns what the slot held and what it is filled with. -/
theorem marks_refreshSlot (device : Device σ) (slot : Option Handle) (d : Descriptor)
    (s : Supply σ) :
    Ends (fun h s' => MarksOnly (slotHeld slot + {h}) s.pool s'.pool)
      (fun _ s' => MarksOnly (slotHeld slot) s.pool s'.pool) (refreshSlot device slot d s) := by
  cases slot with
  | none =>
    exact (marks_acquire device d s).mono
      (fun _ _ h => h.mono (Multiset.subset_of_le (Multiset.le_add_left _ _))) fun _ _ h => h
  | some k =>
    rw [refreshSlot_some]
    split
    · exact .refl _ _
    · have hfirst := marks_releaseHeld k s
      show Ends _ _ (EStateM.bind _ _ s)
      unfold EStateM.bind
      rcases hr : Supply.releaseHeld k s with ⟨_, t⟩ | ⟨e, t⟩
      · rw [hr] at hfirst
        refine (marks_acquire device d t).mono (fun _ _ h => hfirst.trans h) fun _ _ h => ?_
        have hboth := hfirst.trans h
        rw [add_zero] at hboth
        exact hboth
      · rw [hr] at hfirst
        exact hfirst

/-- **A persistent target that asks for its buffers** concerns what it held and what it holds. -/
theorem marks_ensureBuffers (device : Device σ) (t : Target) (s : Supply σ) :
    MarksOnly (t.buffers + (remains (ensureBuffers device (t, s))).1.buffers) s.pool
      (remains (ensureBuffers device (t, s))).2.pool := by
  unfold ensureBuffers
  dsimp only
  cases t.descriptor? with
  | none => exact .refl _ _
  | some d =>
    dsimp only
    have hcurrent := marks_refreshSlot device t.current d s
    rcases hc : refreshSlot device t.current d s with ⟨c, s₁⟩ | ⟨e, s₁⟩
    · rw [hc] at hcurrent
      have hprevious := marks_refreshSlot device t.previous d s₁
      dsimp only
      rcases hv : refreshSlot device t.previous d s₁ with ⟨v, s₂⟩ | ⟨e, s₂⟩
      all_goals
        rw [hv] at hprevious
        refine MarksOnly.mono (hcurrent.trans hprevious) fun k hk => ?_
        rw [coe_buffers, Multiset.mem_add, coe_buffers]
        simp only [Multiset.mem_add] at hk ⊢
        simp only [slotHeld, remains, Option.toList_some, Multiset.coe_singleton] at hk ⊢
        tauto
    · rw [hc] at hcurrent
      refine MarksOnly.mono hcurrent fun k hk => ?_
      rw [coe_buffers]
      simp only [Multiset.mem_add]
      exact Or.inl (Or.inl hk)

/-- **Loading an image** concerns what the parameter holds afterwards. -/
theorem marks_loadImport (device : Device σ) {p : Parameter}
    (hp : p.isImport = true → p.kind = .image) (s : Supply σ) :
    MarksOnly (p.held + (remains (loadImport device (p, s))).1.held) s.pool
      (remains (loadImport device (p, s))).2.pool := by
  unfold loadImport
  dsimp only
  split
  · rename_i path hpath _
    have himport : p.isImport = true := by simp [Parameter.isImport, hpath]
    rcases device.loadImage path s.device with ⟨⟨b, d⟩, state⟩ | ⟨fault, state⟩
    · have hbind : p.bind (some ⟨(s.pool.adopt d b).1, d, false⟩) =
          .ok { p with current := .image (some ⟨(s.pool.adopt d b).1, d, false⟩) } := by
        simp [Parameter.bind, Value.ofBinding?, hp himport]
      have himport' : Parameter.isImport
          { p with current := .image (some ⟨(s.pool.adopt d b).1, d, false⟩) } = true := himport
      dsimp only
      rw [hbind]
      refine (Pool.marks_adopt s.pool d b).mono fun k hk => Multiset.mem_add.2 (Or.inr ?_)
      simpa [remains, Parameter.held, himport', Value.binding?] using hk
    · exact .refl _ _
  · exact .refl _ _

/-- **Work on a list** concerns what its members held and what they hold. -/
theorem marks_eachOf {α : Type} {work : EStateM Failure (α × Supply σ) Unit}
    (held : α → List Handle) {as : List α}
    (hwork : ∀ a ∈ as, ∀ s : Supply σ, MarksOnly (held a + (held (remains (work (a, s))).1)) s.pool
      (remains (work (a, s))).2.pool) (s : Supply σ) :
    MarksOnly (allHeld held as + allHeld held (remains (eachOf work (as, s))).1) s.pool
      (remains (eachOf work (as, s))).2.pool := by
  refine ends_same_iff.1 (ends_eachOf_induct_same work
    (R := fun as s bs t => MarksOnly (allHeld held as + allHeld held bs) s.pool t.pool)
    (I := fun as _ => ∀ a ∈ as, ∀ s : Supply σ, MarksOnly
      (held a + held (remains (work (a, s))).1) s.pool (remains (work (a, s))).2.pool)
    (fun _ _ => .refl _ _) (fun a as s h => ?_) hwork)
  obtain ⟨ha, has⟩ := List.forall_mem_cons.1 h
  have hfirst := ends_same_iff
    (p := fun r : α × Supply σ => MarksOnly (held a + held r.1) s.pool r.2.pool).2 (ha s)
  refine hfirst.mono (fun _ r hr => ⟨has, fun bs t hrest => ?_⟩) fun _ r hr => ?_
  · refine (hr.trans hrest).mono fun k hk => ?_
    simp only [allHeld_cons, Multiset.mem_add] at hk ⊢
    tauto
  · refine hr.mono fun k hk => ?_
    simp only [allHeld_cons, Multiset.mem_add] at hk ⊢
    tauto

/-! ### Parts of a frame -/

namespace Supply

/-- Nothing that happens to a pool in a frame makes it forget anything. -/
theorem stable_grows : Pool.Stable Grows where
  of_consistent h := fun hp => h hp hp
  refl := .refl
  trans h h' := h.trans h'
  reuse := Pool.grows_reuse
  adopt := Pool.grows_adopt
  release := Pool.grows_release

/-- **Giving back forgets nothing.** -/
theorem kept_grows : Kept fun s t : Supply σ => s.pool.Grows t.pool := stable_grows.kept

/-- Acquiring forgets nothing. -/
theorem grows_acquire (device : Device σ) (d : Descriptor) (s : Supply σ) :
    s.pool.Grows (remains (Supply.acquire device d s)).pool :=
  stable_grows.acquire device d s

/-- Neither does loading an image. -/
theorem grows_loadImport (device : Device σ) (p : Parameter) (s : Supply σ) :
    s.pool.Grows (remains (loadImport device (p, s))).2.pool :=
  stable_grows.loadImport device p s

end Supply

namespace Studio

variable {device : Device σ} {program : Program} {clock : Clock} {renderSize : Size}
  {s s' : Studio σ}

/-- A pass that finds its buffer forgets nothing. -/
theorem Lending.grows {name : String} {r : Option Handle × Size}
    (h : Lending device renderSize name s r s') : s.supply.pool.Grows s'.supply.pool :=
  kept_grows.lending (grows_acquire device) h

/-- **What a pass has found in the pool is still there when the passes behind it are drawn.** -/
theorem Drawn.grows {index : Nat} {written names : List String} {shots : List Shot}
    (h : Drawn device program clock renderSize index written names s shots s') :
    s.supply.pool.Grows s'.supply.pool ∧ ∀ shot ∈ shots, shot.pool.Grows s'.supply.pool :=
  ⟨kept_grows.drawn (grows_acquire device) (fun _ _ => .refl _) h, stable_grows.shots h⟩

end Studio

end ShaderEffect
