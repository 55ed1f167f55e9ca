/-
**Drawing into what is sampled.**

A program that samples the buffer it draws into has no defined result.  In a frame of a scene that
has the pool to itself this can only come from the document: where two passes of a frame have the
same target, the second one samples what the first one drew, and draws over it.  No other draw
samples its own target.

Main results:

* `ShaderEffect.Document.WellFormed.handle_eq_some_iff` — which sampler of a pass reads from a
  buffer that a target draws into;
* `ShaderEffect.Studio.Films.apart` — what a pass finds: no buffer stands in two slots, and none of
  them is bound;
* `ShaderEffect.Session.samples_own_target_iff` — **a draw samples its own target exactly if that
  was drawn into before**;
* `ShaderEffect.Session.samples_own_target_twice` — a document where this happens.
-/

import Mathlib.Data.List.Pairwise
import Mathlib.Data.Multiset.UnionInter
import ShaderEffect.Proofs.Scene.Apart
import ShaderEffect.Proofs.Scene.Sampling

set_option autoImplicit false

namespace ShaderEffect

open Pool

variable {σ : Type}

/-! ### One buffer, one slot -/

/-- The document holds no buffer twice, and no parameter is bound to a buffer of a target. -/
structure Document.Separate (d : Document) : Prop where
  nodup : (d.passes.targets.flatMap Target.buffers).Nodup
  bound : ∀ h ∈ d.bound, h ∉ d.passes.targets.flatMap Target.buffers

namespace Document

variable {d : Document} {written : List String}

/-- Targets that hold one buffer are the same. -/
theorem Separate.target_unique (hd : d.Separate) {t u : Target} (ht : t ∈ d.passes.targets)
    (hu : u ∈ d.passes.targets) {h : Handle} (hth : h ∈ t.buffers) (huh : h ∈ u.buffers) :
    u = t := by
  by_contra hne
  have hsymm : Std.Symm (Function.onFun List.Disjoint Target.buffers) := ⟨fun _ _ h => h.symm⟩
  exact (List.nodup_flatMap.1 hd.nodup).2.forall hu ht hne huh hth

/-- The two buffers of a target are different. -/
theorem Separate.previous_ne (hd : d.Separate) {t : Target} (ht : t ∈ d.passes.targets)
    {h : Handle} (hc : t.current = some h) : t.previous ≠ some h := by
  intro hv
  have hnodup := (List.nodup_flatMap.1 hd.nodup).1 t ht
  rw [Target.buffers_eq_pair_iff.2 ⟨hc, hv⟩] at hnodup
  simp at hnodup

/-- **Which sampler of a pass reads from a buffer that a target draws into**: that of the target, if
it was drawn into before. -/
theorem WellFormed.handle_eq_some_iff (hd : d.WellFormed) (hseparate : d.Separate) {t : Target}
    (ht : t ∈ d.passes.targets) {h : Handle} (hc : t.current = some h) {x : Sample}
    (hx : x ∈ d.samples written) :
    x.handle = some h ↔ x.name = t.name ∧ t.name ∈ written := by
  have hth : h ∈ t.buffers := by simp [Target.buffers, hc]
  constructor
  · intro hhandle
    rcases List.mem_append.1 hx with hx | hx
    · -- what an image is bound to is no buffer of a target
      obtain ⟨p, hp, rfl⟩ := List.mem_map.1 hx
      rw [Parameter.sample_eq] at hhandle
      have hbound : h ∈ d.bound :=
        mem_bound.2 ⟨p, mem_parameters_of_mem_images hp, hhandle⟩
      exact absurd (List.mem_flatMap.2 ⟨t, ht, hth⟩) (hseparate.bound h hbound)
    · obtain ⟨u, hu, rfl⟩ := List.mem_map.1 hx
      rw [Target.sample] at hhandle
      dsimp only at hhandle
      split at hhandle
      · rename_i hwritten
        obtain rfl := hseparate.target_unique ht hu hth (by simp [Target.buffers, hhandle])
        exact ⟨rfl, hwritten⟩
      · split at hhandle
        · obtain rfl := hseparate.target_unique ht hu hth (by simp [Target.buffers, hhandle])
          exact absurd hhandle (hseparate.previous_ne ht hc)
        · cases hhandle
  · rintro ⟨hname, hwritten⟩
    rw [hd.sample_eq ht hx hname, Target.sample, if_pos hwritten, hc]

end Document

namespace Studio.Films

variable {device : Device σ} {now : Moment} {renderSize : Size} {s begun ready : Studio σ}
  {c : CompiledProgram} {shots : List Shot}

/-- **What a pass finds**: no buffer stands in two slots, and none of them is bound. -/
theorem apart (h : Films device now renderSize s begun ready c shots) (hs : s.Steady)
    {own : List Handle} (hapart : s.Apart own) {i : Nat} {shot : Shot}
    (hi : shots[i]? = some shot) : shot.document.Separate := by
  obtain ⟨rest, hused, hrest⟩ :=
    hapart.readies hs.consistent hs.wellFormed h.begins h.readies
  obtain ⟨t, hlends, hdocument, -⟩ := h.onlyLends hs.consistent hs.wellFormed hi
  have hrests := hs.rests.congr (h.prepares hs.consistent hs.wellFormed).temporary
  have hheld : ((t.document.passes.targets.flatMap Target.buffers : List Handle) :
      Multiset Handle) = t.document.lent + ready.document.kept := by
    rw [Document.kept, ← hlends.persistent, add_comm]
    exact allHeld_append Target.buffers _ _
  -- nothing is handed out twice, and what is lent was not handed out before
  have htrades := hlends.trades
  rw [hrests.lent_eq] at htrades
  have hnodup := nodup_used htrades.consistent
  rw [htrades.used _ (by rw [zero_add, hused]), ← add_assoc, ← hheld, Multiset.nodup_add] at hnodup
  obtain ⟨htargets, -, hdisjoint⟩ := hnodup
  rw [hdocument]
  refine ⟨Multiset.coe_nodup.1 htargets, fun k hk hmem => ?_⟩
  rw [Document.bound, hlends.parameters] at hk
  exact Multiset.disjoint_left.1 hdisjoint (Multiset.mem_coe.2 hmem) (hrest k (Or.inr hk))

/-- **What a pass draws into**: the final output, or the buffer that its target has. -/
theorem target_cases (h : Films device now renderSize s begun ready c shots) (hs : s.Steady)
    {i : Nat} {shot : Shot} (hi : shots[i]? = some shot) :
    shot.report.buffer = none ∧ shot.pass.buffer = none ∨
    ∃ t ∈ shot.document.passes.targets, ∃ k b, s.document.passes.order[i]? = some t.name ∧
      (t.name ∈ shot.pass.written ↔ t.name ∈ s.document.passes.order.take i) ∧
      t.current = some k ∧ shot.pool.buffer? k = some b ∧ shot.report.buffer = some k ∧
      shot.pass.buffer = some b := by
  have horder : ready.document.passes.order = s.document.passes.order :=
    Document.order_of_blank_eq (h.prepares hs.consistent hs.wellFormed).blank
  have hwell := hs.wellFormed.of_blank_eq (h.document hs.consistent hs.wellFormed hi).1
  obtain ⟨s₀, s₁, name, handle, buffer, size, -, hlending, hname, hbuffer, hshot⟩ :=
    h.exists_before hi
  by_cases hne : name = ""
  · left
    rw [hshot]
    cases hlending with
    | output =>
        cases hbuffer
        exact ⟨rfl, rfl⟩
    | found t hnot => exact absurd hne hnot
    | lent t k supply hnot => exact absurd hne hnot
  · obtain ⟨k, b, hk, hb, hreport, hpass⟩ :=
      h.exists_buffer hs.consistent hs.wellFormed hi hname hne
    obtain ⟨t, ht, hc⟩ := Option.bind_eq_some_iff.1 hk
    obtain ⟨rfl, -⟩ := Document.target?_eq_some hwell ht
    have hwritten := h.mem_written hi hne
    rw [horder] at hname hwritten
    exact Or.inr ⟨t, List.mem_of_find?_eq_some ht, k, b, hname, hwritten, hc, hb, hreport, hpass⟩

end Studio.Films

/-! ### Draws -/

/-- Where no two entries of a pool have one buffer, a buffer tells its handle. -/
theorem Pool.handle_unique {p : Pool} (hp : p.Consistent)
    (hbuffers : (p.entries.map fun x => x.2.buffer).Nodup) {h k : Handle} {b : Buffer}
    (hh : p.buffer? h = some b) (hk : p.buffer? k = some b) : h = k := by
  obtain ⟨e, he, rfl⟩ := Option.map_eq_some_iff.1 hh
  obtain ⟨e', he', heq⟩ := Option.map_eq_some_iff.1 hk
  have hmem := (find?_eq_some_iff hp.keys).1 he
  have hmem' := (find?_eq_some_iff hp.keys).1 he'
  exact congrArg Prod.fst (List.inj_on_of_nodup_map hbuffers hmem hmem' heq.symm)

/-- What a pass samples, told by buffers. -/
theorem Document.bindSampler_some_mem_iff {d : Document} {pool : Pool} {program : Program}
    {clock : Clock} {pass : Pass} {name : String} {b : Buffer} :
    (∃ unit, Command.bindSampler name unit (some b) ∈ d.passCommands pool program clock pass) ↔
      ∃ x ∈ d.samples pass.written, x.name = name ∧
        ∃ h, x.handle = some h ∧ pool.buffer? h = some b := by
  have hmem {unit : Nat} :
      Command.bindSampler name unit (some b) ∈ d.passCommands pool program clock pass ↔
        Command.bindSampler name unit (some b) ∈
          Sample.allCommands pool 0 (d.samples pass.written) := by
    rw [mem_passCommands]
    simp [not_mem_inputCommands, not_mem_builtinCommands]
  simp only [hmem, Sample.bindSampler_mem_allCommands]
  constructor
  · rintro ⟨unit, i, x, hi, hname, -, hb⟩
    exact ⟨x, List.mem_of_getElem? hi, hname, Option.bind_eq_some_iff.1 hb.symm⟩
  · rintro ⟨x, hx, hname, hb⟩
    obtain ⟨i, hi⟩ := List.mem_iff_getElem?.1 hx
    exact ⟨0 + i, i, x, hi, hname, rfl, (Option.bind_eq_some_iff.2 hb).symm⟩

/-- **When a draw samples its own target**, told from the document and the pool that it finds: if
the pass is into a target that one of the passes before it has drawn into, and as that target. -/
structure Shot.Feedback (order : List String) (i : Nat) (draw : List Command) (shot : Shot) :
    Prop where
  commands : ∃ program clock, draw = shot.commands program clock
  target : shot.pass.buffer = shot.report.buffer.bind shot.pool.buffer?
  handles : ∀ h, shot.report.buffer = some h →
    ∀ x ∈ shot.document.samples shot.pass.written,
      x.handle = some h ↔ order[i]? = some x.name ∧ x.name ∈ order.take i
  /-- The same of the buffers themselves, if the pool has none of them twice. -/
  buffers : (shot.pool.entries.map fun x => x.2.buffer).Nodup →
    ∀ b size, Command.bindTarget (some b) size ∈ draw → ∀ name,
      (∃ unit, Command.bindSampler name unit (some b) ∈ draw) ↔
        order[i]? = some name ∧ name ∈ order.take i

/-- **When a pass samples its own target.** -/
theorem Studio.Films.feedback {device : Device σ} {now : Moment} {renderSize : Size}
    {s begun ready : Studio σ} {c : CompiledProgram} {shots : List Shot}
    (h : Films device now renderSize s begun ready c shots) (hs : s.Steady) {own : List Handle}
    (hapart : s.Apart own) {i : Nat} {shot : Shot} (hi : shots[i]? = some shot) (clock : Clock) :
    shot.Feedback s.document.passes.order i (shot.commands c.program clock) := by
  have hwell := hs.wellFormed.of_blank_eq (h.document hs.consistent hs.wellFormed hi).1
  have hseparate := h.apart hs hapart hi
  have hpool : shot.pool.Consistent := by
    obtain ⟨t, hlends, -, heq⟩ := h.onlyLends hs.consistent hs.wellFormed hi
    rw [heq]
    exact hlends.trades.consistent
  rcases h.target_cases hs hi with
    ⟨hreport, hpass⟩ | ⟨t, ht, k, b, hname, hwritten, hc, hb, hreport, hpass⟩
  · refine ⟨⟨_, _, rfl⟩, by rw [hreport, hpass]; rfl, ?_, ?_⟩
    · intro h hh
      rw [hreport] at hh
      cases hh
    · intro _ b size hb
      have hb := (Document.bindTarget_mem_iff.1 hb).1
      rw [hpass] at hb
      cases hb
  · have hiff {x : Sample} (hx : x ∈ shot.document.samples shot.pass.written) :
        x.handle = some k ↔ s.document.passes.order[i]? = some x.name ∧
          x.name ∈ s.document.passes.order.take i := by
      rw [hwell.handle_eq_some_iff hseparate ht hc hx, hwritten, hname, Option.some_inj]
      constructor
      · rintro ⟨hx, htake⟩
        exact ⟨hx.symm, hx ▸ htake⟩
      · rintro ⟨hx, htake⟩
        exact ⟨hx.symm, hx ▸ htake⟩
    refine ⟨⟨_, _, rfl⟩, by rw [hreport, hpass]; exact hb.symm, ?_, ?_⟩
    · intro h hh x hx
      rw [hreport] at hh
      cases hh
      exact hiff hx
    · intro hbuffers b' size hb' name
      have hb' := (Document.bindTarget_mem_iff.1 hb').1
      rw [hpass] at hb'
      cases hb'
      rw [Shot.commands, Document.bindSampler_some_mem_iff]
      constructor
      · rintro ⟨x, hx, rfl, h, hh, hhb⟩
        obtain rfl := handle_unique hpool hbuffers hhb hb
        exact (hiff hx).1 hh
      · rintro ⟨hi, htake⟩
        -- the sampler of the target is the one with its name
        obtain rfl : t.name = name := Option.some.inj (hname.symm.trans hi)
        have hx : t.sample shot.pass.written ∈ shot.document.samples shot.pass.written :=
          List.mem_append_right _ (List.mem_map_of_mem ht)
        exact ⟨_, hx, rfl, k, (hiff hx).2 ⟨hi, htake⟩, hb⟩

namespace Session

/-- **A draw samples its own target exactly if that was drawn into before** in the same frame: in
every frame of a scene that has the pool to itself, as long as the device refuses no buffer. -/
theorem samples_own_target_iff (device : Device σ) (d : {d : Document // d.Opened})
    (settings : SceneSettings) (started : Nat) (pool : PoolSettings) (state : σ)
    (moves : List Move)
    (halone : alone device [] (start d.1 settings started pool state) moves = true)
    (now : Moment) (renderSize : Size)
    (hrefused : ¬ (Rendered.ofFrame device now renderSize (moved device moves
      (start d.1 settings started pool state)).studio).after.supply.device.HasRefused)
    {i : Nat} {draw : List Command}
    (hdraw : (Rendered.ofFrame device now renderSize
      (moved device moves (start d.1 settings started pool state)).studio).draws[i]? =
        some draw) :
    ∃ shot s', Studio.shotAt device.observed now renderSize i
        (moved device moves (start d.1 settings started pool state)).studio = .ok shot s' ∧
      shot.Feedback d.1.passes.order i draw := by
  obtain ⟨hs, hblank⟩ :=
    steady_moved device (steady_start d.2 settings started pool state) moves
  have hnot : ¬ (moved device moves
      (start d.1 settings started pool state)).studio.supply.device.HasRefused := fun h =>
    hrefused ((adds_move device _ (.frame now renderSize)).hasRefused h)
  obtain ⟨own, hapart⟩ := apart_moved (apart_start d.2 settings started pool state)
    (steady_start d.2 settings started pool state) halone hnot
  obtain ⟨begun, ready, c, shots, shot, s', hfilms, hi, hshot, rfl⟩ :=
    Rendered.exists_shot hs hdraw
  have hfeedback := hfilms.feedback hs hapart hi (ready.scene.clock now)
  rw [Document.order_of_blank_eq hblank] at hfeedback
  exact ⟨shot, s', hshot, hfeedback⟩

/-- An effect with an image, two of whose passes have the same target. -/
def overdrawText : String :=
  "/*\x7b\"INPUTS\":[\x7b\"NAME\":\"i\",\"TYPE\":\"image\"\x7d],\"PASSES\":[" ++
    "\x7b\"TARGET\":\"a\",\"PERSISTENT\":true\x7d,\x7b\"TARGET\":\"a\"\x7d,\x7b\x7d]\x7d*/"

/-- A session with this effect. -/
def overdrawSession : Session Recorder :=
  start (Document.ofTextsLenient overdrawText none "/").2 .standard 0 .standard Recorder.fresh

/-- A host takes a buffer in, binds it to the image, and renders a frame. -/
def overdrawMoves : List Move :=
  [.elsewhere (.adopt ⟨⟨4, 4⟩, .rgba8, .flat⟩ ⟨90⟩),
    .change "i" (.bind (some ⟨⟨1⟩, ⟨⟨4, 4⟩, .rgba8, .flat⟩, false⟩)),
    .frame (.ofNanoseconds 0) ⟨8, 8⟩]

/-- **The second pass of the second frame** is drawn, and samples its own target as it should. -/
theorem samples_own_target_iff_overdraw :
    ∃ draw, (Rendered.ofFrame Recorder.device (.ofNanoseconds 1) ⟨8, 8⟩
        (moved Recorder.device overdrawMoves overdrawSession).studio).draws[1]? = some draw ∧
      ∃ shot s', Studio.shotAt Recorder.device.observed (.ofNanoseconds 1) ⟨8, 8⟩ 1
          (moved Recorder.device overdrawMoves overdrawSession).studio = .ok shot s' ∧
        shot.Feedback overdrawSession.studio.document.passes.order 1 draw := by
  obtain ⟨halone, hrefused, hsome⟩ :
      alone Recorder.device [] overdrawSession overdrawMoves = true ∧
        ¬ (Rendered.ofFrame Recorder.device (.ofNanoseconds 1) ⟨8, 8⟩ (moved Recorder.device
          overdrawMoves overdrawSession).studio).after.supply.device.HasRefused ∧
        ((Rendered.ofFrame Recorder.device (.ofNanoseconds 1) ⟨8, 8⟩
          (moved Recorder.device overdrawMoves overdrawSession).studio).draws[1]?).isSome := by
    decide +kernel
  obtain ⟨draw, hdraw⟩ := Option.isSome_iff_exists.1 hsome
  exact ⟨draw, hdraw, samples_own_target_iff Recorder.device
    ⟨_, .ofTextsLenient overdrawText none "/"⟩ .standard 0 .standard Recorder.fresh
    overdrawMoves halone (.ofNanoseconds 1) ⟨8, 8⟩ hrefused hdraw⟩

/-- **A draw that samples its own target**: the second pass into a target.  The effect is read
without objection, and the device refuses nothing. -/
theorem samples_own_target_twice :
    (Document.ofTexts overdrawText none "/").result.isOk = true ∧
      ¬ (Rendered.ofFrame Recorder.device (.ofNanoseconds 0) ⟨8, 8⟩
        overdrawSession.studio).after.supply.device.HasRefused ∧
      ∃ draw ∈ (Rendered.ofFrame Recorder.device (.ofNanoseconds 0) ⟨8, 8⟩
          overdrawSession.studio).draws,
        Command.bindTarget (some ⟨1⟩) ⟨8, 8⟩ ∈ draw ∧
          Command.bindSampler "a" 1 (some ⟨1⟩) ∈ draw := by
  decide +kernel

end Session

end ShaderEffect
