/-
**What each draw of a frame samples.**

Passes are drawn one after the other, and some of them are given their buffers only then.  But a
target that has a buffer keeps it until the frame is over, and the pool does not forget buffers
while passes are drawn.  So all passes into a target draw into one buffer, and that is what every
later pass samples it as; a pass before them samples what the target held from the frame before, or
nothing.

Main definitions:

* `ShaderEffect.Studio.Advances` — what stays between two passes of a frame;
* `ShaderEffect.Rendered.SamplesAll` — **what a draw of a frame samples**.

Main results:

* `ShaderEffect.Studio.filled_of_ready` — persistent targets have both their buffers when passes are
  drawn;
* `ShaderEffect.Studio.Drawn.advances`, `ShaderEffect.Studio.Films.advances` — **buffers stay where
  they are from pass to pass**;
* `ShaderEffect.Studio.Films.buffer_eq` — all passes into a target draw into one buffer;
* `ShaderEffect.Session.draws_sample_all` — **what is sampled in every draw of every frame**.
-/

import ShaderEffect.Proofs.Scene.Commands
import ShaderEffect.Proofs.Scene.Film
import ShaderEffect.Proofs.Scene.Handles

set_option autoImplicit false

namespace ShaderEffect

open Pool

variable {σ : Type}

/-! ### Persistent targets -/

/-- A target of a size that gets its buffers has both. -/
theorem filled_ensureBuffers {device : Device σ} {t t' : Target} {s s' : Supply σ}
    (ht : t.size ≠ none) (h : ensureBuffers device (t, s) = .ok () (t', s')) :
    t'.current ≠ none ∧ t'.previous ≠ none := by
  obtain ⟨z, hz⟩ := Option.ne_none_iff_exists'.1 ht
  unfold ensureBuffers at h
  dsimp only at h
  rw [show t.descriptor? = some (.renderTarget z t.float) by rw [Target.descriptor?, hz]; rfl] at h
  dsimp only at h
  rcases hc : refreshSlot device t.current (.renderTarget z t.float) s with ⟨c, s₁⟩ | ⟨e, s₁⟩
  · rw [hc] at h
    dsimp only at h
    rcases hv : refreshSlot device t.previous (.renderTarget z t.float) s₁ with ⟨v, s₂⟩ | ⟨e, s₂⟩
    · rw [hv] at h
      cases h
      exact ⟨Option.some_ne_none c, Option.some_ne_none v⟩
    · rw [hv] at h
      cases h
  · rw [hc] at h
    cases h

/-- So have all targets of a list. -/
theorem filled_eachOf {device : Device σ} {ts us : List Target} {s s' : Supply σ}
    (hts : ∀ t ∈ ts, t.size ≠ none)
    (h : eachOf (ensureBuffers device) (ts, s) = .ok () (us, s')) :
    ∀ u ∈ us, u.current ≠ none ∧ u.previous ≠ none := by
  refine eachOf_eq_ok_induct (ensureBuffers device) (I := fun ts _ => ∀ t ∈ ts, t.size ≠ none)
    (P := fun _ _ us _ => ∀ u ∈ us, u.current ≠ none ∧ u.previous ≠ none)
    (fun _ _ _ hu => absurd hu List.not_mem_nil) (fun t ts s t' s₁ hts hfirst => ?_) hts h
  obtain ⟨ht, hts⟩ := List.forall_mem_cons.1 hts
  have hfilled := filled_ensureBuffers ht hfirst
  exact ⟨hts, fun _ _ hrest => List.forall_mem_cons.2 ⟨hfilled, hrest⟩⟩

namespace Studio

/-- **Persistent targets have both their buffers when passes are drawn.** -/
theorem filled_of_ready {device : Device σ} {renderSize : Size} {s begun ready : Studio σ}
    (hs : s.supply.pool.Consistent) (hd : s.document.WellFormed)
    (hbegun : untilBuffers device renderSize s = .ok () begun)
    (hready : onPersistent (ensureBuffers device) begun = .ok () ready) :
    ∀ t ∈ ready.document.passes.persistent, t.current ≠ none ∧ t.previous ≠ none := by
  obtain ⟨-, d, hresize, hpasses⟩ := begins_of_ok hs hd hbegun
  have hsizes : ∀ t ∈ begun.document.passes.persistent, t.size ≠ none := by
    obtain ⟨persistent, temporary, hpersistent, -, rfl⟩ := Document.resize_eq_ok_iff.1 hresize
    rw [hpasses]
    exact fun t ht => Document.size_ne_none_of_mem_resizeAll hpersistent ht
  unfold onPersistent at hready
  rcases hr : eachOf (ensureBuffers device) (begun.document.passes.persistent, begun.supply) with
    ⟨_, ts, supply⟩ | ⟨failure, ts, supply⟩
  · rw [hr] at hready
    cases hready
    exact filled_eachOf hsizes hr
  · rw [hr] at hready
    cases hready

end Studio

/-! ### From pass to pass -/

namespace Document

/-- The buffer that the target of a name draws into. -/
def currentOf? (d : Document) (name : String) : Option Handle :=
  (d.target? name).bind Target.current

/-- Changing targets of one name. -/
theorem target?_mapTarget (d : Document) {f : Target → Target} (hf : ∀ t, (f t).name = t.name)
    (n name : String) : (d.mapTarget n f).target? name =
      (d.target? name).map fun t => if t.name = n then f t else t := by
  rw [target?, Passes.target?, targets_mapTarget, List.find?_map]
  refine congrArg (Option.map _) ?_
  refine congrArg (fun p => List.find? p d.passes.targets) (funext fun t => ?_)
  dsimp only [Function.comp_apply]
  split
  · rw [hf]
  · rfl

end Document

namespace Studio

/-- What stays between two passes of a frame: known buffers, and the buffers that targets draw
into. -/
structure Advances (d : Document) (p : Pool) (d' : Document) (p' : Pool) : Prop where
  buffers : ∀ h b, p.buffer? h = some b → p'.buffer? h = some b
  current : ∀ name h, d.currentOf? name = some h → d'.currentOf? name = some h

theorem Advances.refl (d : Document) (p : Pool) : Advances d p d p :=
  ⟨fun _ _ h => h, fun _ _ h => h⟩

theorem Advances.trans {d d' d'' : Document} {p p' p'' : Pool} (h : Advances d p d' p')
    (h' : Advances d' p' d'' p'') : Advances d p d'' p'' :=
  ⟨fun k b hk => h'.buffers k b (h.buffers k b hk),
    fun name k hk => h'.current name k (h.current name k hk)⟩

section

variable {device : Device σ} {program : Program} {clock : Clock} {renderSize : Size}
  {name : String} {s s' : Studio σ}

/-- **Finding a buffer only adds to what there is.** -/
theorem Lending.advances {r : Option Handle × Size} (h : Lending device renderSize name s r s')
    (hs : s.supply.pool.Consistent) :
    Advances s.document s.supply.pool s'.document s'.supply.pool := by
  have hgrows := h.grows
  cases h with
  | output => exact .refl _ _
  | found => exact .refl _ _
  | lent t k supply hname ht hp hc hacquire =>
      refine ⟨fun k b hb => hgrows.buffer? hs hb, fun n h hn => ?_⟩
      -- the target that gets a buffer had none, so it is another one
      obtain ⟨u, hu, hcurrent⟩ := Option.bind_eq_some_iff.1 hn
      have hother : u.name ≠ t.name := by
        intro heq
        have hun : u.name = n := by simpa using List.find?_some hu
        have htn : t.name = name := by simpa using List.find?_some ht
        rw [← hun, heq, htn, ht] at hu
        cases hu
        rw [hc] at hcurrent
        cases hcurrent
      show Document.currentOf? (s.document.mapTarget t.name _) n = some h
      rw [Document.currentOf?, Document.target?_mapTarget, hu]
      · simp [hother, hcurrent]
      · exact fun _ => rfl

/-- A pass draws into the buffer of its target. -/
theorem Lending.currentOf?_eq {handle : Option Handle} {size : Size}
    (h : Lending device renderSize name s (handle, size) s') (hname : name ≠ "") :
    s'.document.currentOf? name = handle := by
  cases h with
  | output hempty => exact absurd hempty hname
  | found t _ ht _ => rw [Document.currentOf?, ht]; rfl
  | lent t k supply _ ht hp hc hacquire =>
      show Document.currentOf? (s.document.mapTarget t.name _) name = some k
      rw [Document.currentOf?, Document.target?_mapTarget, ht]
      · simp
      · exact fun _ => rfl

/-- **Buffers stay where they are from pass to pass.** -/
theorem Drawn.advances {index : Nat} {written names : List String} {shots : List Shot}
    (h : Drawn device program clock renderSize index written names s shots s')
    (hs : s.supply.pool.Consistent) (hd : s.document.WellFormed) :
    Advances s.document s.supply.pool s'.document s'.supply.pool ∧
      ∀ shot ∈ shots, Advances shot.document shot.pool s'.document s'.supply.pool := by
  induction h with
  | nil => exact ⟨.refl _ _, fun _ h => absurd h List.not_mem_nil⟩
  | cons hlending _ hshot _ ih =>
      have hlends := hlending.onlyLends hs hd
      obtain ⟨hrest, hshots⟩ := ih hlends.trades.consistent (hd.of_blank_eq hlends.blank)
      refine ⟨(hlending.advances hs).trans hrest, List.forall_mem_cons.2 ⟨?_, hshots⟩⟩
      rw [hshot]
      exact hrest

end

namespace Films

variable {device : Device σ} {now : Moment} {renderSize : Size} {s begun ready : Studio σ}
  {c : CompiledProgram} {shots : List Shot}

/-- **What a pass finds, the passes behind it find, too.** -/
theorem advances (h : Films device now renderSize s begun ready c shots)
    (hs : s.supply.pool.Consistent) (hd : s.document.WellFormed) {i j : Nat} (hij : i ≤ j)
    {a b : Shot} (ha : shots[i]? = some a) (hb : shots[j]? = some b) :
    Advances a.document a.pool b.document b.pool := by
  rcases hij.eq_or_lt with rfl | hlt
  · cases ha.symm.trans hb
    exact .refl _ _
  · have hprepares := h.prepares hs hd
    have hready := hd.of_blank_eq hprepares.blank
    obtain ⟨s₀, s₁, name, handle, buffer, size, hbefore, hlending, -, -, rfl⟩ := h.exists_before hb
    have hmem : a ∈ shots.take j := by
      refine List.mem_of_getElem? (i := i) ?_
      rw [List.getElem?_take_of_lt hlt, ha]
    have hlends := hbefore.onlyLends hprepares.trades.consistent hready
    exact ((hbefore.advances hprepares.trades.consistent hready).2 a hmem).trans
      (hlending.advances hlends.trades.consistent)

/-- A pass into a target draws into its buffer. -/
theorem exists_buffer (h : Films device now renderSize s begun ready c shots)
    (hs : s.supply.pool.Consistent) (hd : s.document.WellFormed) {i : Nat} {shot : Shot}
    (hi : shots[i]? = some shot) {name : String}
    (hname : ready.document.passes.order[i]? = some name) (hne : name ≠ "") :
    ∃ k b, shot.document.currentOf? name = some k ∧ shot.pool.buffer? k = some b ∧
      shot.report.buffer = some k ∧ shot.pass.buffer = some b := by
  have hprepares := h.prepares hs hd
  have hready := hd.of_blank_eq hprepares.blank
  have hfilled := filled_of_ready hs hd h.begins h.readies
  obtain ⟨s₀, s₁, n, handle, buffer, size, hbefore, hlending, hn, hbuffer, rfl⟩ :=
    h.exists_before hi
  cases hname.symm.trans hn
  have hlends := hbefore.onlyLends hprepares.trades.consistent hready
  have hcurrent := hlending.currentOf?_eq hne
  -- persistent targets have their buffers already, and the others get theirs
  have hsome : handle ≠ none := by
    cases hlending with
    | output hempty => exact absurd hempty hne
    | found t _ ht hheld =>
        rcases hheld with hp | hheld
        · rcases (Document.target?_eq_some (hready.of_blank_eq hlends.blank) ht).2 with
            ⟨-, hmem⟩ | ⟨hp', -⟩
          · rw [hlends.persistent] at hmem
            exact (hfilled t hmem).1
          · rw [hp] at hp'
            cases hp'
        · exact hheld
    | lent t k supply => exact Option.some_ne_none k
  cases hbuffer with
  | none => exact absurd rfl hsome
  | some hb => exact ⟨_, _, hcurrent, hb, rfl, rfl⟩

/-- **All passes into a target draw into one buffer**, which is the buffer of the target in every
later pass. -/
theorem buffer_eq (h : Films device now renderSize s begun ready c shots)
    (hs : s.supply.pool.Consistent) (hd : s.document.WellFormed) {i j : Nat} {a b : Shot}
    (hi : shots[i]? = some a) (hj : shots[j]? = some b) {name : String} (hne : name ≠ "")
    (hname : name ∈ ready.document.passes.order.take i)
    (hother : ready.document.passes.order[j]? = some name) :
    ∃ k c, a.document.currentOf? name = some k ∧ a.pool.buffer? k = some c ∧
      b.pass.buffer = some c := by
  -- some pass before `i` draws into the target, and all later ones find its buffer there
  obtain ⟨m, hm, heq⟩ := List.mem_take_iff_getElem.1 hname
  have hmi : m < i := (lt_min_iff.1 hm).1
  have hm' : ready.document.passes.order[m]? = some name := by
    rw [← heq]
    exact List.getElem?_eq_getElem _
  obtain ⟨f, hf⟩ : ∃ f, shots[m]? = some f := by
    have hlt := (List.getElem?_eq_some_iff.1 hi).1
    exact ⟨_, List.getElem?_eq_getElem (hmi.trans hlt)⟩
  obtain ⟨k, c, hk, hc, -, -⟩ := h.exists_buffer hs hd hf hm' hne
  have hfirst := h.advances hs hd hmi.le hf hi
  refine ⟨k, c, hfirst.current name k hk, hfirst.buffers k c hc, ?_⟩
  obtain ⟨k', c', hk', hc', -, hpass⟩ := h.exists_buffer hs hd hj hother hne
  rcases le_total m j with hmj | hjm
  · have hlater := h.advances hs hd hmj hf hj
    cases (hlater.current name k hk).symm.trans hk'
    rw [hpass, ← hc', hlater.buffers k c hc]
  · have hlater := h.advances hs hd hjm hj hf
    obtain rfl : k' = k := Option.some.inj ((hlater.current name k' hk').symm.trans hk)
    rw [hpass, ← hc, hlater.buffers k' c' hc']

end Films

end Studio

/-! ### Draws -/

/-- What the sampler of a parameter reads from is what the parameter is bound to. -/
theorem Parameter.sample_eq (p : Parameter) :
    p.sample = ⟨p.name, p.current.binding?.map Binding.handle,
      p.current.binding?.elim false Binding.flipped⟩ := by
  unfold Parameter.sample
  cases p.current.binding? <;> rfl

/-- Blank documents tell the order of drawing. -/
theorem Document.order_of_blank_eq {d d' : Document} (h : d'.blank = d.blank) :
    d'.passes.order = d.passes.order := by
  have horder := congrArg (fun e : Document => e.passes.order) h
  exact horder

namespace Rendered

/-- **What a draw of a frame samples**, told from the document and the pool that it finds. -/
structure SamplesAll (r : Rendered σ) (i : Nat) (draw : List Command) (shot : Shot) : Prop where
  /-- The document declares what it declared before the frame. -/
  blank : shot.document.blank = r.before.document.blank
  /-- Its inputs have the values that they had before the frame. -/
  inputs : shot.document.inputs = r.before.document.inputs
  /-- A target that a pass before has drawn into is sampled as the buffer that all passes of the
  frame draw into for this target. -/
  written : ∀ t ∈ shot.document.passes.targets, t.name ∈ r.before.document.passes.order.take i →
    ∃ h b, t.current = some h ∧ shot.pool.buffer? h = some b ∧
      Reads draw shot.pool t.name (some h) false ∧
      ∀ (j : Nat) (other : List Command), r.draws[j]? = some other →
        r.before.document.passes.order[j]? = some t.name →
        ∀ buffer, (∃ size, Command.bindTarget buffer size ∈ other) ↔ buffer = some b
  /-- Any other persistent target is sampled as the last frame left it. -/
  kept : ∀ t ∈ shot.document.passes.persistent,
    t.name ∉ r.before.document.passes.order.take i →
      Reads draw shot.pool t.name t.previous false
  /-- Any other temporary target is sampled as nothing. -/
  empty : ∀ t ∈ shot.document.passes.temporary,
    t.name ∉ r.before.document.passes.order.take i → Reads draw shot.pool t.name none false
  /-- An image or a sound is sampled as what its parameter is bound to. -/
  images : ∀ p ∈ shot.document.images,
    Reads draw shot.pool p.name (p.current.binding?.map Binding.handle)
      (p.current.binding?.elim false Binding.flipped)

/-- **Every draw of a frame samples what it should.** -/
theorem samplesAll (device : Device σ) (now : Moment) (renderSize : Size)
    {s : Studio (Observed σ)} (hs : s.Steady) {i : Nat} {draw : List Command}
    (hdraw : (ofFrame device now renderSize s).draws[i]? = some draw) :
    ∃ shot s', Studio.shotAt device.observed now renderSize i s = .ok shot s' ∧
      (ofFrame device now renderSize s).SamplesAll i draw shot := by
  obtain ⟨begun, ready, c, shots, hfilms, hdraws⟩ := exists_films hs hdraw
  have hcut {j : Nat} {other : List Command}
      (hj : (ofFrame device now renderSize s).draws[j]? = some other) :
      ∃ b, shots[j]? = some b ∧ other = b.commands c.program (ready.scene.clock now) := by
    rw [hdraws, List.getElem?_map] at hj
    obtain ⟨b, hb, heq⟩ := Option.map_eq_some_iff.1 hj
    exact ⟨b, hb, heq.symm⟩
  obtain ⟨shot, hi, rfl⟩ := hcut hdraw
  obtain ⟨s', hshot⟩ := hfilms.shotAt_eq hi
  obtain ⟨hblank, hinputs⟩ := hfilms.document hs.consistent hs.wellFormed hi
  have hwell := hs.wellFormed.of_blank_eq hblank
  have horder : ready.document.passes.order = s.document.passes.order :=
    Document.order_of_blank_eq (hfilms.prepares hs.consistent hs.wellFormed).blank
  -- each sampler is left with its own sample; what that is depends on the passes before
  have htarget {t : Target} (ht : t ∈ shot.document.passes.targets) :
      Reads (shot.commands c.program (ready.scene.clock now)) shot.pool t.name
        (t.sample shot.pass.written).handle false :=
    hwell.reads (x := t.sample shot.pass.written)
      (List.mem_append_right _ (List.mem_map_of_mem ht))
  have hwritten {t : Target} (ht : t ∈ shot.document.passes.targets) :
      t.name ∈ shot.pass.written ↔ t.name ∈ s.document.passes.order.take i := by
    rw [hfilms.mem_written hi (hwell.passes.drawn t ht).1, horder]
  have hother {t : Target} (ht : t ∈ shot.document.passes.targets)
      (hnot : t.name ∉ s.document.passes.order.take i) :
      (t.sample shot.pass.written).handle = if t.persistent then t.previous else none := by
    exact if_neg fun h => hnot ((hwritten ht).1 h)
  refine ⟨shot, s', hshot, ?_, ?_, ?_, ?_, ?_, ?_⟩
  · rw [before_ofFrame]
    exact hblank
  · rw [before_ofFrame]
    exact hinputs
  · rw [before_ofFrame]
    intro t ht hname
    have hne := (hwell.passes.drawn t ht).1
    have hcurrent (k : Handle) (hk : shot.document.currentOf? t.name = some k) :
        t.current = some k := by
      rw [Document.currentOf?, hwell.target?_eq ht] at hk
      exact hk
    have hreads := htarget ht
    rw [show (t.sample shot.pass.written).handle = t.current from if_pos ((hwritten ht).2 hname)]
      at hreads
    rw [← horder] at hname
    obtain ⟨m, hm, heq⟩ := List.mem_take_iff_getElem.1 hname
    obtain ⟨k, b, hk, hb, -⟩ := hfilms.buffer_eq hs.consistent hs.wellFormed hi
      (List.getElem?_eq_getElem
        ((lt_min_iff.1 hm).1.trans (List.getElem?_eq_some_iff.1 hi).1)) hne hname
      (by rw [← heq]; exact List.getElem?_eq_getElem _)
    refine ⟨k, b, hcurrent k hk, hb, hcurrent k hk ▸ hreads, fun j other hj hjname buffer => ?_⟩
    obtain ⟨shot', hj', rfl⟩ := hcut hj
    obtain ⟨k', b', hk', hb', hpass⟩ := hfilms.buffer_eq hs.consistent hs.wellFormed hi hj' hne
      hname (horder ▸ hjname)
    cases hk.symm.trans hk'
    cases hb.symm.trans hb'
    simp only [Shot.commands, Document.bindTarget_mem_iff, exists_and_left, exists_eq, and_true]
    rw [hpass]
  · rw [before_ofFrame]
    intro t ht hnot
    have hmem : t ∈ shot.document.passes.targets := List.mem_append_left _ ht
    have hreads := htarget hmem
    rw [hother hmem hnot, if_pos (hwell.passes.persistent t ht)] at hreads
    exact hreads
  · rw [before_ofFrame]
    intro t ht hnot
    have hmem : t ∈ shot.document.passes.targets := List.mem_append_right _ ht
    have hreads := htarget hmem
    rw [hother hmem hnot, hwell.passes.temporary t ht] at hreads
    exact hreads
  · intro p hp
    have hreads : Reads (shot.commands c.program (ready.scene.clock now)) shot.pool p.sample.name
        p.sample.handle p.sample.flipped :=
      hwell.reads (List.mem_append_left _ (List.mem_map_of_mem hp))
    rw [Parameter.sample_eq] at hreads
    exact hreads

end Rendered

namespace Session

/-- **Every draw of every frame samples what it should**, whatever has happened to the scene, to its
document and to the pool before the frame, and whether the frame is completed or not. -/
theorem draws_sample_all (device : Device σ) (d : {d : Document // d.Opened})
    (settings : SceneSettings) (started : Nat) (pool : PoolSettings) (state : σ)
    (moves : List Move) (now : Moment) (renderSize : Size) {i : Nat} {draw : List Command}
    (hdraw : (Rendered.ofFrame device now renderSize
      (moved device moves (start d.1 settings started pool state)).studio).draws[i]? =
        some draw) :
    ∃ shot s', Studio.shotAt device.observed now renderSize i
        (moved device moves (start d.1 settings started pool state)).studio = .ok shot s' ∧
      (Rendered.ofFrame device now renderSize
        (moved device moves (start d.1 settings started pool state)).studio).SamplesAll i draw
          shot :=
  Rendered.samplesAll device now renderSize
    (steady_moved device (steady_start d.2 settings started pool state) moves).1 hdraw

/-- An effect with an image and two targets, a persistent one and a temporary one. -/
def blendText : String :=
  "/*\x7b\"INPUTS\":[\x7b\"NAME\":\"i\",\"TYPE\":\"image\"\x7d],\"PASSES\":[" ++
    "\x7b\"TARGET\":\"a\",\"PERSISTENT\":true\x7d,\x7b\"TARGET\":\"b\"\x7d,\x7b\x7d]\x7d*/"

/-- A host takes a buffer in, binds it to the image, and renders a frame. -/
def blendMoves : List Move :=
  [.elsewhere (.adopt ⟨⟨4, 4⟩, .rgba8, .rectangle⟩ ⟨90⟩),
    .change "i" (.bind (some ⟨⟨1⟩, ⟨⟨4, 4⟩, .rgba8, .rectangle⟩, true⟩)),
    .frame (.ofNanoseconds 0) ⟨8, 8⟩]

/-- The session with these moves. -/
def blendSession : Session Recorder :=
  moved Recorder.device blendMoves
    (start (Document.ofTextsLenient blendText none "/").2 .standard 0 .standard Recorder.fresh)

/-- **The second pass of the second frame** is drawn, and samples what it should. -/
theorem draws_sample_all_blend :
    ∃ draw, (Rendered.ofFrame Recorder.device (.ofNanoseconds 1) ⟨8, 8⟩
        blendSession.studio).draws[1]? = some draw ∧
      ∃ shot s', Studio.shotAt Recorder.device.observed (.ofNanoseconds 1) ⟨8, 8⟩ 1
          blendSession.studio = .ok shot s' ∧
        (Rendered.ofFrame Recorder.device (.ofNanoseconds 1) ⟨8, 8⟩
          blendSession.studio).SamplesAll 1 draw shot := by
  obtain ⟨draw, hdraw⟩ : ∃ draw, (Rendered.ofFrame Recorder.device (.ofNanoseconds 1) ⟨8, 8⟩
      blendSession.studio).draws[1]? = some draw :=
    Option.isSome_iff_exists.1 (by decide +kernel)
  exact ⟨draw, hdraw, draws_sample_all Recorder.device
    ⟨_, .ofTextsLenient blendText none "/"⟩ .standard 0 .standard Recorder.fresh blendMoves
    (.ofNanoseconds 1) ⟨8, 8⟩ hdraw⟩

end Session

end ShaderEffect
