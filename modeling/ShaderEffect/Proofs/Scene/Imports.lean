/-
**What imported images are sampled as.**

A frame loads the imported images that are not bound yet, each of them once and in order, and then
every draw samples an image as what it is bound to.  So an image is sampled as the buffer that was
loaded from its file, in every frame from the first one on, and is not loaded again.  But if the
pool is cleared between two frames, the later ones still find it bound: they do not load it again
either, and sample it as nothing, while persistent targets get new buffers.

Main definitions:

* `ShaderEffect.Parameter.missing` — the files of the images that are not loaded yet;
* `ShaderEffect.Rendered.Imports` — **what a frame does with imported images**.

Main results:

* `ShaderEffect.logs_eachOf_loadImport`, `ShaderEffect.Studio.asks_untilBuffers` — which files a
  frame asks for;
* `ShaderEffect.Studio.Films.minds` — what a pass finds of images;
* `ShaderEffect.Session.imports_unless_cleared` — **what imported images are sampled as, and which
  of them are loaded**, in every frame;
* `ShaderEffect.Session.not_sampled_after_clear` — a frame in which one is not sampled.
-/

import ShaderEffect.Device.Recorder
import ShaderEffect.Proofs.Scene.Sampling
import ShaderEffect.Proofs.Scene.Standing

set_option autoImplicit false

namespace ShaderEffect

open Pool Supply Observed

variable {σ : Type}

/-! ### Loading -/

/-- The file that a call loads. -/
def DeviceCall.loads? : DeviceCall → Option String
  | .load path _ => some path
  | _ => none

/-- The files of the images that are not loaded yet. -/
def Parameter.missing (ps : List Parameter) : List String :=
  ps.filterMap fun p => if p.current.binding? = none then p.importPath else none

theorem Parameter.missing_cons (p : Parameter) (ps : List Parameter) :
    Parameter.missing (p :: ps) = Parameter.missing [p] ++ Parameter.missing ps := by
  rw [Parameter.missing, ← List.singleton_append, List.filterMap_append]
  rfl

/-- An image asks for its file if it is not loaded yet. -/
theorem logs_loadImport (device : Device σ) {p : Parameter}
    (hp : p.isImport = true → p.kind = .image) (s : Supply (Observed σ)) :
    Ends (fun _ r => Logs DeviceCall.loads? (Parameter.missing [p]) s.device r.2.device ∧
        (r.1.isImport = true → r.1.current.binding? ≠ none))
      (fun _ r => Logs DeviceCall.loads? (Parameter.missing [p]) s.device r.2.device)
      (loadImport device.observed (p, s)) := by
  rcases loadImport_cases device.observed hp s with
    ⟨hbound, heq⟩ | ⟨path, hpath, hnone, ⟨fault, state, hload, heq⟩ | ⟨b, d, state, hload, heq⟩⟩
  · have hmissing : Parameter.missing [p] = [] := by
      by_cases hnone : p.current.binding? = none
      · have hpath : p.importPath = none :=
          Option.not_isSome_iff_eq_none.1 fun himport => hbound himport hnone
        simp [Parameter.missing, hpath]
      · simp [Parameter.missing, hnone]
    rw [heq, hmissing]
    exact ⟨.refl _, hbound⟩
  · rw [heq, show Parameter.missing [p] = [path] by simp [Parameter.missing, hnone, hpath]]
    exact ⟨[.load path none], Device.calls_of_noted_error hload, rfl⟩
  · rw [heq, show Parameter.missing [p] = [path] by simp [Parameter.missing, hnone, hpath]]
    exact ⟨⟨[.load path (some (b, d))], Device.calls_of_noted_ok hload, rfl⟩,
      fun _ => Option.some_ne_none _⟩

/-- **Loading images asks for the files of those that are not loaded yet**, in order, up to one that
cannot be loaded. -/
theorem logs_eachOf_loadImport (device : Device σ) {ps : List Parameter}
    (hps : ∀ p ∈ ps, p.isImport = true → p.kind = .image) (s : Supply (Observed σ)) :
    Ends (fun _ r => Logs DeviceCall.loads? (Parameter.missing ps) s.device r.2.device ∧
        ∀ q ∈ r.1, q.isImport = true → q.current.binding? ≠ none)
      (fun _ r => ∃ files, files <+: Parameter.missing ps ∧
        Logs DeviceCall.loads? files s.device r.2.device)
      (eachOf (loadImport device.observed) (ps, s)) := by
  refine ends_eachOf_induct (loadImport device.observed)
    (I := fun ps _ => ∀ p ∈ ps, p.isImport = true → p.kind = .image)
    (P := fun ps s qs t => Logs DeviceCall.loads? (Parameter.missing ps) s.device t.device ∧
      ∀ q ∈ qs, q.isImport = true → q.current.binding? ≠ none)
    (Q := fun _ ps s _ t => ∃ files, files <+: Parameter.missing ps ∧
      Logs DeviceCall.loads? files s.device t.device)
    (fun s _ => ⟨.refl _, fun _ hq => absurd hq List.not_mem_nil⟩) (fun p ps s hps => ?_) hps
  obtain ⟨hp, hps⟩ := List.forall_mem_cons.1 hps
  simp only [Parameter.missing_cons p ps]
  refine (logs_loadImport device hp s).mono ?_ fun _ r hfirst => ?_
  · rintro _ r ⟨hfirst, hbound⟩
    refine ⟨hps, ?_, ?_⟩
    · rintro qs t ⟨hrest, hqs⟩
      exact ⟨hfirst.trans hrest, List.forall_mem_cons.2 ⟨hbound, hqs⟩⟩
    · rintro _ qs t ⟨files, hprefix, hrest⟩
      exact ⟨_, (List.prefix_append_right_inj _).2 hprefix, hfirst.trans hrest⟩
  · exact ⟨_, List.prefix_append _ _, hfirst⟩

/-! ### Draws -/

namespace Studio

/-- **A frame asks for the files of the images that are not loaded yet**, unless it fails before it
comes to them all; then all of them are loaded. -/
theorem asks_untilLoaded (device : Device σ) (renderSize : Size) {s : Studio (Observed σ)}
    (hd : s.document.WellFormed) :
    Ends
      (fun _ t => Logs DeviceCall.loads? (Parameter.missing s.document.parameters) s.supply.device
          t.supply.device ∧
        ∀ q ∈ t.document.parameters, q.isImport = true → q.current.binding? ≠ none)
      (fun _ t => ∃ files, files <+: Parameter.missing s.document.parameters ∧
        Logs DeviceCall.loads? files s.supply.device t.supply.device)
      (untilLoaded device.observed renderSize s) := by
  have hnone : ∃ files, files <+: Parameter.missing s.document.parameters ∧
      Logs DeviceCall.loads? files s.supply.device s.supply.device :=
    ⟨[], List.nil_prefix, .refl _⟩
  refine Ends.bind ((ends_checkLoaded s).mono (fun _ _ h => h) fun _ _ h => h ▸ hnone) ?_
  intro _ t ht
  rw [ht]
  refine Ends.bind ((ends_resize renderSize s).mono (fun _ _ h => h) fun _ _ h => h ▸ hnone) ?_
  rintro _ s₁ ⟨d, hresize, rfl⟩
  have hparameters : d.parameters = s.document.parameters := by
    obtain ⟨_, _, -, -, rfl⟩ := Document.resize_eq_ok_iff.1 hresize
    rfl
  refine Ends.bind ((ends_checkPasses _).mono (fun _ _ h => h) fun _ t h => h ▸ hnone) ?_
  intro _ t ht
  have hasks := logs_eachOf_loadImport device hd.parameters.imports s.supply
  rw [ht, onParameters]
  dsimp only
  rw [hparameters]
  rcases hr : eachOf (loadImport device.observed) (s.document.parameters, s.supply) with
    ⟨_, ps, u⟩ | ⟨e, ps, u⟩
  all_goals
    rw [hr] at hasks
    exact hasks

/-- So does a frame that has come as far as the buffers of targets. -/
theorem asks_untilBuffers (device : Device σ) (renderSize : Size) {s : Studio (Observed σ)}
    (hd : s.document.WellFormed) :
    Ends
      (fun _ t => Logs DeviceCall.loads? (Parameter.missing s.document.parameters) s.supply.device
          t.supply.device ∧
        ∀ q ∈ t.document.parameters, q.isImport = true → q.current.binding? ≠ none)
      (fun _ t => ∃ files, files <+: Parameter.missing s.document.parameters ∧
        Logs DeviceCall.loads? files s.supply.device t.supply.device)
      (untilBuffers device.observed renderSize s) := by
  rw [untilBuffers_eq]
  refine Ends.bind (asks_untilLoaded device renderSize hd) fun _ t ht => ?_
  have hprogram := ends_ensureProgram device.observed t
  have hadds := (kept_adds fun c => DeviceCall.loads? c = none).ensureProgram
    (adds_compile device fun _ _ => rfl) t
  rcases hr : ensureProgram device.observed t with ⟨_, u⟩ | ⟨e, u⟩
  all_goals
    rw [hr] at hprogram hadds
    have hlogs := ht.1.trans (Observed.Adds.logs hadds)
    rw [List.append_nil] at hlogs
  · refine ⟨hlogs, ?_⟩
    rw [show u.document = t.document from hprogram.1]
    exact ht.2
  · exact ⟨_, List.prefix_rfl, hlogs⟩

/-- **What a pass finds of images** is what is true of them when targets get their buffers, and all
of them are loaded. -/
theorem Films.minds {device : Device σ} {now : Moment} {renderSize : Size}
    {s begun ready : Studio (Observed σ)} {c : CompiledProgram} {shots : List Shot}
    {bereft : String → Prop} (h : Films device.observed now renderSize s begun ready c shots)
    (hs : s.Steady) (hminds : s.Minds bereft) {i : Nat} {shot : Shot}
    (hi : shots[i]? = some shot) :
    ∀ q ∈ shot.document.parameters, q.isImport = true → q.current.binding? ≠ none ∧
      ∃ kept, q.Stands (bereft q.name) kept ⟨shot.pool, begun.supply.device⟩ := by
  obtain ⟨hbegun, helapses⟩ := hminds.untilBuffers hs device renderSize
  have hasks := asks_untilBuffers device renderSize hs.wellFormed
  rw [h.begins] at hbegun helapses hasks
  have hpool : begun.supply.pool.Consistent := helapses.bypasses.consistent
  have hfollows := follows_onPersistent device.observed hpool
  have hissues := kept_issues.onPersistent (issues_acquire device.observed) begun
  have hkeeps := ends_onPersistent device.observed hpool
  rw [h.readies] at hfollows hissues hkeeps
  have hprepares := h.prepares hs.consistent hs.wellFormed
  have hready := hs.wellFormed.of_blank_eq hprepares.blank
  obtain ⟨t, hlends, hdocument, hshot⟩ := h.onlyLends hs.consistent hs.wellFormed hi
  have hparameters : shot.document.parameters = begun.document.parameters := by
    rw [hdocument, hlends.parameters, hkeeps.2.parameters]
  -- what temporary targets are lent is none of what is handed out
  have htrades := hlends.trades
  rw [(hs.rests.congr hprepares.temporary).lent_eq, ← hshot] at htrades
  have hbypasses := hfollows.bypasses.trans
    (.of_taken hfollows.bypasses.consistent htrades ready.document.kept)
  have hnumbers : begun.supply.pool.Issues shot.pool := by
    obtain ⟨s₀, s₁, name, handle, buffer, size, hbefore, hlending, -, -, rfl⟩ := h.exists_before hi
    have hdrawn := kept_issues.drawn (issues_acquire device.observed) (fun _ _ => .refl _) hbefore
    exact hissues.trans (hdrawn.trans (kept_issues.lending (issues_acquire _) hlending))
  rw [hparameters]
  intro q hq himport
  refine ⟨hasks.2 q hq himport, ready.document.kept, ?_⟩
  exact (hbegun.images q hq himport).elapse hpool ⟨hbypasses, hnumbers, .refl _⟩ rfl

/-- **What a pass samples an image as** is what the image is bound to, which is true of it as it was
before. -/
theorem Films.exists_import {device : Device σ} {now : Moment} {renderSize : Size}
    {s begun ready : Studio (Observed σ)} {c : CompiledProgram} {shots : List Shot}
    {bereft : String → Prop} (h : Films device.observed now renderSize s begun ready c shots)
    (hs : s.Steady) (hminds : s.Minds bereft) {d : Document} (hd : s.document.blank = d.blank)
    {i : Nat} {shot : Shot} (hi : shots[i]? = some shot) {p : Parameter}
    (hp : p ∈ d.imageImports) (program : Program) (clock : Clock) :
    ∃ (q : Parameter) (b : Binding) (kept : Multiset Handle),
      q.importPath = p.importPath ∧ q.current.binding? = some b ∧
      q.Stands (bereft p.name) kept ⟨shot.pool, begun.supply.device⟩ ∧
      boundTo? (shot.commands program clock) p.name = some (shot.pool.buffer? b.handle) := by
  have hblank := (h.document hs.consistent hs.wellFormed hi).1
  obtain ⟨hmem, himport⟩ := List.mem_filter.1 hp
  -- the pass finds the image under the same name, with the same file
  have hparameters : shot.document.parameters.map Parameter.blank =
      d.parameters.map Parameter.blank :=
    congrArg (fun e : Document => e.parameters) (hblank.trans hd)
  obtain ⟨q, hq, hqp⟩ := List.mem_map.1 (hparameters ▸ List.mem_map_of_mem hmem)
  have hname : q.name = p.name := (congrArg Parameter.name hqp :)
  have hpath : q.importPath = p.importPath := (congrArg Parameter.importPath hqp :)
  have hqimport : q.isImport = true := by
    rw [Parameter.isImport, hpath]
    exact himport
  obtain ⟨hbound, kept, hstands⟩ := h.minds hs hminds hi q hq hqimport
  obtain ⟨b, hb⟩ := Option.ne_none_iff_exists'.1 hbound
  have hsample : q.sample ∈ shot.document.samples shot.pass.written :=
    List.mem_append_left _ (List.mem_map_of_mem
      (List.mem_append_right _ (List.mem_filter.2 ⟨hq, hqimport⟩)))
  have hsampled : boundTo? (shot.commands program clock) q.sample.name =
      some (q.sample.handle.bind shot.pool.buffer?) :=
    (hs.wellFormed.of_blank_eq hblank).boundTo?_eq hsample
  rw [Parameter.sample_eq, hb] at hsampled
  exact ⟨q, b, kept, hpath, hb, hname ▸ hstands, hname ▸ hsampled⟩

end Studio

/-! ### Frames of a session -/

namespace Rendered

/-- The files that a frame asks for. -/
def loads (r : Rendered σ) : List String :=
  (r.after.supply.device.calls.drop r.before.supply.device.calls.length).filterMap
    DeviceCall.loads?

/-- **What a frame does with the imported images of a document.** -/
structure Imports (device : Device σ) (now : Moment) (d : Document) (bereft : String → Prop)
    (r : Rendered σ) : Prop where
  /-- Every draw samples an image as a buffer that was loaded from its file, and that the pool has
  handed out; or as nothing, exactly if the image has lost its buffer. -/
  sampled : ∀ (i : Nat) (draw : List Command), r.draws[i]? = some draw →
    ∃ shot s', Studio.shotAt device.observed now r.renderSize i r.before = .ok shot s' ∧
      ∀ p ∈ d.imageImports,
        (¬ bereft p.name ∧ ∃ path h e, p.importPath = some path ∧ shot.pool.find? h = some e ∧
          e.inUse = true ∧
          DeviceCall.load path (some (e.buffer, e.descriptor)) ∈ r.after.supply.device.calls ∧
          boundTo? draw p.name = some (some e.buffer)) ∨
        (bereft p.name ∧ boundTo? draw p.name = some none)
  /-- Only images that are not bound are loaded, each once and in order. -/
  loads : r.loads <+: Parameter.missing r.before.document.parameters
  /-- A complete frame has loaded all of them. -/
  complete : r.isComplete = true → r.loads = Parameter.missing r.before.document.parameters

section

variable {device : Device σ} {now : Moment} {renderSize : Size} {s : Studio (Observed σ)}

/-- From the moment when targets get their buffers, a frame only adds calls, and loads nothing. -/
theorem loads_behind (device : Device σ) (now : Moment) (renderSize : Size)
    (s : Studio (Observed σ)) :
    Adds (fun c => DeviceCall.loads? c = none)
      (remains (Studio.untilBuffers device.observed renderSize s)).supply.device
      (ofFrame device now renderSize s).after.supply.device := by
  rw [after_ofFrame]
  exact (kept_adds _).renderFrame_behind (fun d => adds_acquire device d fun _ => rfl)
    (fun commands u => adds_performAll device (fun _ => rfl) commands u.device) now renderSize s

/-- What a frame asks for is what it has asked for when targets get their buffers. -/
theorem loads_eq {files : List String} (h : Logs DeviceCall.loads? files s.supply.device
      (remains (Studio.untilBuffers device.observed renderSize s)).supply.device) :
    (ofFrame device now renderSize s).loads = files := by
  have hlogs := (h.trans (Observed.Adds.logs
    (loads_behind device now renderSize s))).filterMap_drop
  rw [List.append_nil] at hlogs
  rw [Rendered.loads, before_ofFrame]
  exact hlogs

/-- **What a frame does with imported images.** -/
theorem imports {bereft : String → Prop} (hs : s.Steady) (hminds : s.Minds bereft) {d : Document}
    (hd : s.document.blank = d.blank) :
    (ofFrame device now renderSize s).Imports device now d bereft := by
  refine ⟨?_, ?_, ?_⟩
  · rw [before_ofFrame, renderSize_ofFrame]
    intro i draw hdraw
    obtain ⟨begun, ready, c, shots, shot, s', hfilms, hi, hshot, rfl⟩ := exists_shot hs hdraw
    refine ⟨shot, s', hshot, fun p hp => ?_⟩
    obtain ⟨q, b, kept, hpath, hb, hstands, hsampled⟩ :=
      hfilms.exists_import hs hminds hd hi hp c.program (ready.scene.clock now)
    rw [hsampled]
    cases hstands with
    | missing hnone =>
      rw [hb] at hnone
      cases hnone
    | backed hb' hnot hbacks =>
      cases hb.symm.trans hb'
      obtain ⟨path, e, hfile, he, hu, hcall⟩ := hbacks
      refine Or.inl ⟨hnot, path, _, e, hpath ▸ hfile, he, hu, ?_, ?_⟩
      · have hadds := loads_behind device now renderSize s
        rw [hfilms.begins] at hadds
        obtain ⟨calls, hcalls, -⟩ := hadds
        rw [hcalls]
        exact List.mem_append_left _ hcall
      · rw [Pool.buffer?, he]
        rfl
    | lost hb' hbereft _ hnone =>
      cases hb.symm.trans hb'
      refine Or.inr ⟨hbereft, ?_⟩
      rw [Pool.buffer?, hnone]
      rfl
  · have hasks := Studio.asks_untilBuffers device renderSize hs.wellFormed
    rw [before_ofFrame]
    rcases hr : Studio.untilBuffers device.observed renderSize s with ⟨_, t⟩ | ⟨e, t⟩
    · rw [hr] at hasks
      exact loads_eq (by rw [hr]; exact hasks.1) ▸ List.prefix_rfl
    · rw [hr] at hasks
      obtain ⟨files, hprefix, hlogs⟩ := hasks
      rw [loads_eq (by rw [hr]; exact hlogs)]
      exact hprefix
  · rw [before_ofFrame]
    intro hcomplete
    rcases goes device now renderSize hs.consistent hs.wellFormed hs.rests with
      ⟨report, s', hcompletes, -⟩ | ⟨failure, s', -, heq⟩
    · obtain ⟨hbegun, -⟩ := hcompletes
      have hasks := Studio.asks_untilBuffers device renderSize hs.wellFormed
      rw [hbegun] at hasks
      exact loads_eq (by rw [hbegun]; exact hasks.1)
    · rw [heq] at hcomplete
      cases hcomplete

end

end Rendered

namespace Session

/-- **What imported images are sampled as, and which of them are loaded**, in every frame of a scene
whose pool is kept house and cleared as others like, and whether the frame is completed or not: an
image is sampled as what was loaded for it, exactly if the pool has not been cleared since. -/
theorem imports_unless_cleared (device : Device σ) (d : {d : Document // d.Opened})
    (settings : SceneSettings) (started : Nat) (pool : PoolSettings) (state : σ)
    (moves : List Move) (hmoves : ∀ m ∈ moves, m.leavesImages = true) (now : Moment)
    (renderSize : Size) :
    (Rendered.ofFrame device now renderSize
      (moved device moves (start d.1 settings started pool state)).studio).Imports device now d.1
        (Bereft device (start d.1 settings started pool state) moves) := by
  have hstart := steady_start d.2 settings started pool state
  obtain ⟨hs, hblank⟩ := steady_moved device hstart moves
  have hminds := minds_start d.2 settings started pool state
  exact Rendered.imports hs (minds_moved hminds hstart hmoves) hblank

/-- An effect with an imported image. -/
def paperText : String :=
  "/*\x7b\"IMPORTED\":\x7b\"paper\":\x7b\"PATH\":\"paper.png\"\x7d\x7d\x7d*/"

/-- A session with this effect, where the device knows the file. -/
def paperStart : Session Recorder :=
  start (Document.ofTextsLenient paperText none "/").2 .standard 0 .standard
    (Recorder.fresh.setImage "/paper.png" (some ⟨⟨4, 4⟩, .rgba8, .flat⟩))

/-- A frame, and a round of housekeeping. -/
def paperMoves : List Move := [.frame (.ofNanoseconds 0) ⟨8, 8⟩, .elsewhere .housekeep]

/-- **The frame behind them** draws, loads nothing, and samples what the first one has loaded. -/
theorem imports_unless_cleared_paper :
    (Rendered.ofFrame Recorder.device (.ofNanoseconds 1) ⟨8, 8⟩
        (moved Recorder.device paperMoves paperStart).studio).draws ≠ [] ∧
      (Rendered.ofFrame Recorder.device (.ofNanoseconds 1) ⟨8, 8⟩
        (moved Recorder.device paperMoves paperStart).studio).Imports Recorder.device
          (.ofNanoseconds 1) (Document.ofTextsLenient paperText none "/").2
          (Bereft Recorder.device paperStart paperMoves) :=
  ⟨by decide +kernel, imports_unless_cleared Recorder.device
    ⟨_, .ofTextsLenient paperText none "/"⟩ .standard 0 .standard
    (Recorder.fresh.setImage "/paper.png" (some ⟨⟨4, 4⟩, .rgba8, .flat⟩)) paperMoves
    (by decide) (.ofNanoseconds 1) ⟨8, 8⟩⟩

/-- **An image is not always sampled**: when the pool is cleared between two frames, both of which
are completed, the second one loads nothing, and its only draw samples the image as nothing. -/
theorem not_sampled_after_clear :
    let s := moved Recorder.device [.frame (.ofNanoseconds 0) ⟨8, 8⟩, .elsewhere .clear] paperStart
    let r := Rendered.ofFrame Recorder.device (.ofNanoseconds 1) ⟨8, 8⟩ s.studio
    (s.frames.map Rendered.isComplete = [true] ∧ s.frames.map Rendered.loads = [["/paper.png"]]) ∧
      r.isComplete = true ∧ r.loads = [] ∧ r.draws.map (boundTo? · "paper") = [some none] := by
  decide +kernel

end Session

end ShaderEffect
