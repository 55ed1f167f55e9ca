/-
**The program of a scene.**

A scene keeps the program that was compiled last, and goes on with it as long as its settings and
the shapes of the textures stay the same.  That is right, since nothing else that changes has a part
in the texts of a program: whatever has happened to the document since, the program in use is the
one that would be generated now.  What was compiled can be read off the calls that reached the
device, and a scene compiles neither more nor less than it should.

Main definitions:

* `ShaderEffect.Studio.Compiles` — what becomes of the program when images are loaded;
* `ShaderEffect.Rendered.compiles`, `ShaderEffect.Rendered.compiled?` — what a frame has compiled,
  told from the calls that reached the device;
* `ShaderEffect.lastCompiled` — **the program that was compiled last** in a number of frames;
* `ShaderEffect.CompiledProgram.Belongs` — the program is the one of a document, whenever its
  textures have the shapes that it was compiled for;
* `ShaderEffect.Rendered.Coherent` — **how a frame deals with the program**.

Main results:

* `ShaderEffect.Rendered.programs` — what becomes of the program in a frame;
* `ShaderEffect.Session.remembers_moved` — a scene holds the program that was compiled last, and it
  belongs to the document;
* `ShaderEffect.Session.program_coherent` — **every frame of a scene deals with the program as it
  should**.
-/

import ShaderEffect.Proofs.Document.Interface
import ShaderEffect.Proofs.Scene.Film

set_option autoImplicit false

namespace ShaderEffect

open Observed Supply

variable {σ : Type}

/-- What a call compiles, and the program that comes of it, if any does. -/
def DeviceCall.compiles? : DeviceCall → Option (ProgramSource × Option Program)
  | .compile source answer => some (source, answer)
  | _ => none

/-! ### Compiling -/

namespace Studio

/-- **What becomes of the program when images are loaded**: what is compiled, with the answer, and
the program that the scene has then. -/
inductive Compiles (t : Studio σ) :
    List (ProgramSource × Option Program) → Option CompiledProgram → Prop where
  /-- The program is still the right one. -/
  | kept : t.hasProgram = true → Compiles t [] t.scene.compiled
  /-- There is no source for another one. -/
  | ungenerated {failure : Failure} : t.hasProgram = false →
      t.document.generate t.scene.settings = .error failure → Compiles t [] t.scene.compiled
  /-- The device refuses the source. -/
  | refused {source : ProgramSource} : t.hasProgram = false →
      t.document.generate t.scene.settings = .ok source →
      Compiles t [(source, none)] t.scene.compiled
  | compiled {source : ProgramSource} {program : Program} : t.hasProgram = false →
      t.document.generate t.scene.settings = .ok source →
      Compiles t [(source, some program)] (some ⟨t.programKey, program, source⟩)

/-- The program is the right one if it was compiled for the same. -/
theorem hasProgram_iff {t : Studio σ} :
    t.hasProgram = true ↔ t.scene.compiled.map CompiledProgram.key = some t.programKey := by
  unfold hasProgram
  cases t.scene.compiled <;> simp

/-- **How compiling ends**: with a program that was compiled for what there is now, or without any
change of the scene. -/
theorem ends_compiles (device : Device σ) (t : Studio (Observed σ)) :
    Ends
      (fun _ t' => ∃ calls c, Compiles t calls (some c) ∧ c.key = t.programKey ∧
        t'.scene.compiled = some c ∧
        Logs DeviceCall.compiles? calls t.supply.device t'.supply.device)
      (fun _ t' => ∃ calls, Compiles t calls t.scene.compiled ∧
        t'.scene.compiled = t.scene.compiled ∧
        Logs DeviceCall.compiles? calls t.supply.device t'.supply.device)
      (ensureProgram device.observed t) := by
  unfold ensureProgram compile
  split
  · rename_i hkept
    obtain ⟨c, hc, hkey⟩ := Option.map_eq_some_iff.1 (hasProgram_iff.1 hkept)
    exact ⟨[], c, hc ▸ .kept hkept, hkey, hc, .refl _⟩
  · rename_i hnot
    rw [Bool.not_eq_true] at hnot
    cases hsource : t.document.generate t.scene.settings with
    | error failure => exact ⟨[], .ungenerated hnot hsource, rfl, .refl _⟩
    | ok source =>
        dsimp only
        cases hcompile : device.observed.compile source t.supply.device with
        | error reason state =>
            refine ⟨_, .refused hnot hsource, rfl, [.compile source none], ?_, rfl⟩
            exact Device.calls_of_noted_error hcompile
        | ok program state =>
            refine ⟨_, _, .compiled hnot hsource, rfl, rfl, [.compile source (some program)], ?_,
              rfl⟩
            exact Device.calls_of_noted_ok hcompile

/-- What becomes of the program in a frame: nothing, if the images are not loaded. -/
inductive Programs (device : Device (Observed σ)) (renderSize : Size) (s : Studio (Observed σ)) :
    List (ProgramSource × Option Program) → Option CompiledProgram → Prop where
  | early {failure : Failure} {t : Studio (Observed σ)} :
      untilLoaded device renderSize s = .error failure t →
      Programs device renderSize s [] s.scene.compiled
  | loaded {t : Studio (Observed σ)} {calls : List (ProgramSource × Option Program)}
      {compiled : Option CompiledProgram} :
      untilLoaded device renderSize s = .ok () t → Compiles t calls compiled →
      Programs device renderSize s calls compiled

section

variable {device : Device σ} {renderSize : Size} {s begun : Studio (Observed σ)}

/-- Nothing is compiled up to the images. -/
theorem logs_untilLoaded (device : Device σ) (renderSize : Size) (s : Studio (Observed σ)) :
    Logs DeviceCall.compiles? [] s.supply.device
      (remains (untilLoaded device.observed renderSize s)).supply.device :=
  Observed.Adds.logs (adds_untilLoaded device (fun _ _ => rfl) renderSize s)

/-- What has become of the program when targets get their buffers. -/
theorem programs_of_ok (hbegun : untilBuffers device.observed renderSize s = .ok () begun) :
    ∃ t calls c, untilLoaded device.observed renderSize s = .ok () t ∧
      Loading device.observed s t ∧ Compiles t calls (some c) ∧ c.key = t.programKey ∧
      begun.scene.compiled = some c ∧
      Logs DeviceCall.compiles? calls s.supply.device begun.supply.device := by
  obtain ⟨t, ht, hloading, hprogram, -⟩ := exists_loading_of_ok hbegun
  have hlogs := logs_untilLoaded device renderSize s
  have hends := ends_compiles device t
  rw [ht] at hlogs
  rw [hprogram] at hends
  obtain ⟨calls, c, hcompiles, hkey, hc, hthen⟩ := hends
  exact ⟨t, calls, c, ht, hloading, hcompiles, hkey, hc, hlogs.trans hthen⟩

/-- What has become of the program when a frame has failed before. -/
theorem programs_of_error {failure : Failure}
    (hbegun : untilBuffers device.observed renderSize s = .error failure begun) :
    ∃ calls, Programs device.observed renderSize s calls begun.scene.compiled ∧
      Logs DeviceCall.compiles? calls s.supply.device begun.supply.device := by
  have hlogs := logs_untilLoaded device renderSize s
  have hloading := ends_untilLoaded device.observed renderSize s
  rw [untilBuffers_eq] at hbegun
  rcases bind_eq_error hbegun with ht | ⟨_, t, ht, hprogram⟩
  · rw [ht] at hlogs hloading
    exact ⟨[], congrArg Scene.compiled hloading.scene ▸ .early ht, hlogs⟩
  · have hends := ends_compiles device t
    rw [ht] at hlogs
    rw [hprogram] at hends
    obtain ⟨calls, hcompiles, hc, hthen⟩ := hends
    exact ⟨calls, hc ▸ .loaded ht hcompiles, hlogs.trans hthen⟩

end

end Studio

/-! ### Frames -/

namespace Rendered

/-- What a frame compiles, with the answers. -/
def compiles (r : Rendered σ) : List (ProgramSource × Option Program) :=
  (r.after.supply.device.calls.drop r.before.supply.device.calls.length).filterMap
    DeviceCall.compiles?

/-- The program that a frame has compiled, with what there was when its images were loaded. -/
def compiled? (device : Device σ) (r : Rendered σ) : Option CompiledProgram :=
  match Studio.untilLoaded device.observed r.renderSize r.before with
  | .error _ _ => none
  | .ok _ t =>
    (r.compiles.filterMap fun x => x.2.map fun program => ⟨t.programKey, program, x.1⟩).getLast?

/-- From the moment when targets get their buffers, a frame asks for buffers and tells commands, and
leaves the program alone. -/
theorem keeps_program (device : Device σ) (now : Moment) (renderSize : Size)
    {s : Studio (Observed σ)} (hs : s.Steady) :
    Studio.Adds (fun call => call.compiles? = none)
        (remains (Studio.untilBuffers device.observed renderSize s))
        (ofFrame device now renderSize s).after ∧
      (ofFrame device now renderSize s).after.scene.compiled =
        (remains (Studio.untilBuffers device.observed renderSize s)).scene.compiled := by
  refine ⟨?_, ?_⟩
  · rw [Studio.Adds, after_ofFrame]
    exact (kept_adds _).renderFrame_behind (fun d => adds_acquire device d fun _ => rfl)
      (fun commands u => adds_performAll device (fun _ => rfl) commands u.device) now renderSize s
  have hbuffers {begun : Studio (Observed σ)}
      (hbegun : Studio.untilBuffers device.observed renderSize s = .ok () begun) :
      (remains (Studio.onPersistent (ensureBuffers device.observed) begun)).scene =
        begun.scene := by
    have hkeeps := Studio.ends_onPersistent device.observed
      (Studio.begins_of_ok hs.consistent hs.wellFormed hbegun).1.trades.consistent
    rcases hr : Studio.onPersistent (ensureBuffers device.observed) begun with
      ⟨_, s'⟩ | ⟨failure, s'⟩
    all_goals
      rw [hr] at hkeeps
      exact hkeeps.2.scene
  rcases goes device now renderSize hs.consistent hs.wellFormed hs.rests with
    ⟨report, s', hcompletes, heq⟩ | ⟨failure, s', hfails, heq⟩
  · rw [heq]
    obtain @⟨begun, ready, drawn, rested, _, hbegun, hready, -, hback, -⟩ := hcompletes
    have hscene := hready ▸ hbuffers hbegun
    rw [hbegun]
    show rested.scene.compiled = begun.scene.compiled
    rw [hback.scene, ← hscene]
    rfl
  · rw [heq]
    cases hfails with
    | early hbegun =>
        rw [hbegun]
        rfl
    | refused hbegun hready =>
        have hscene := hready ▸ hbuffers hbegun
        rw [hbegun]
        exact congrArg Scene.compiled hscene
    | @late begun ready drawn _ _ hbegun hready _ hback _ =>
        have hscene := hready ▸ hbuffers hbegun
        rw [hbegun]
        show s'.scene.compiled = begun.scene.compiled
        rw [hback.scene, ← hscene]
        rfl

/-- **What becomes of the program in a frame.** -/
theorem programs (device : Device σ) (now : Moment) (renderSize : Size)
    {s : Studio (Observed σ)} (hs : s.Steady) :
    Studio.Programs device.observed renderSize s (ofFrame device now renderSize s).compiles
      (ofFrame device now renderSize s).after.scene.compiled := by
  obtain ⟨hadds, hscene⟩ := keeps_program device now renderSize hs
  rw [hscene]
  have hcompiles {calls : List (ProgramSource × Option Program)}
      (h : Logs DeviceCall.compiles? calls s.supply.device
        (remains (Studio.untilBuffers device.observed renderSize s)).supply.device) :
      (ofFrame device now renderSize s).compiles = calls := by
    have hlogs := (h.trans (Observed.Adds.logs hadds)).filterMap_drop
    rw [List.append_nil] at hlogs
    rw [compiles, before_ofFrame]
    exact hlogs
  rcases hr : Studio.untilBuffers device.observed renderSize s with ⟨_, begun⟩ | ⟨failure, begun⟩
  · obtain ⟨t, calls, c, ht, -, hmade, -, hc, hlogs⟩ := Studio.programs_of_ok hr
    rw [hr] at hcompiles
    rw [hcompiles hlogs]
    exact hc ▸ .loaded ht hmade
  · obtain ⟨calls, hprograms, hlogs⟩ := Studio.programs_of_error hr
    rw [hr] at hcompiles
    rw [hcompiles hlogs]
    exact hprograms

/-- The program after a frame is the one that it has compiled, or else the one before it. -/
theorem compiled_ofFrame (device : Device σ) (now : Moment) (renderSize : Size)
    {s : Studio (Observed σ)} (hs : s.Steady) :
    (ofFrame device now renderSize s).after.scene.compiled =
      ((ofFrame device now renderSize s).compiled? device).or s.scene.compiled := by
  have hprograms := programs device now renderSize hs
  unfold compiled?
  rw [before_ofFrame, renderSize_ofFrame]
  generalize (ofFrame device now renderSize s).compiles = calls at hprograms ⊢
  generalize (ofFrame device now renderSize s).after.scene.compiled = compiled at hprograms ⊢
  cases hprograms with
  | early ht =>
      rw [ht]
      rfl
  | loaded ht hmade =>
      have hloading := Studio.ends_untilLoaded device.observed renderSize s
      rw [ht] at hloading ⊢
      cases hmade with
      | kept => exact congrArg Scene.compiled hloading.scene
      | ungenerated => exact congrArg Scene.compiled hloading.scene
      | refused => exact congrArg Scene.compiled hloading.scene
      | compiled => rfl

end Rendered

/-- **The program that was compiled last** in a number of frames. -/
def lastCompiled (device : Device σ) (frames : List (Rendered σ)) : Option CompiledProgram :=
  (frames.filterMap (Rendered.compiled? device)).getLast?

theorem lastCompiled_concat (device : Device σ) (frames : List (Rendered σ)) (r : Rendered σ) :
    lastCompiled device (frames ++ [r]) = (r.compiled? device).or (lastCompiled device frames) := by
  have hlast : ([r].filterMap (Rendered.compiled? device)).getLast? = r.compiled? device := by
    cases hr : r.compiled? device <;> simp [hr]
  rw [lastCompiled, List.filterMap_append, List.getLast?_append, hlast]
  rfl

/-! ### The document -/

/-- **The program is the one of a document**, whenever its textures have the shapes that it was
compiled for, whatever else has changed. -/
def CompiledProgram.Belongs (c : CompiledProgram) (d : Document) : Prop :=
  ∀ d' : Document, d'.blank = d.blank → d'.textureTypes = c.key.textureTypes →
    d'.generate c.key.settings = .ok c.source

/-- A program that was compiled in a frame belongs to the document, and so does one that was
kept. -/
theorem Studio.Programs.belongs {device : Device (Observed σ)} {renderSize : Size}
    {s : Studio (Observed σ)} {calls : List (ProgramSource × Option Program)}
    {compiled : Option CompiledProgram} (h : Programs device renderSize s calls compiled)
    (hs : ∀ c, s.scene.compiled = some c → c.Belongs s.document) {c : CompiledProgram}
    (hc : compiled = some c) : c.Belongs s.document := by
  cases h with
  | early => exact hs c hc
  | @loaded t _ _ ht hmade =>
      have hloading := ends_untilLoaded device renderSize s
      rw [ht] at hloading
      have hkept (h : t.scene.compiled = some c) : c.Belongs s.document :=
        hs c (hloading.scene ▸ h)
      cases hmade with
      | kept => exact hkept hc
      | ungenerated => exact hkept hc
      | refused => exact hkept hc
      | compiled _ hsource =>
          cases hc
          intro d hblank htypes
          exact (Document.generate_congr (hblank.trans hloading.blank.symm) htypes _).trans hsource

namespace Session

/-- **A scene holds the program that was compiled last**, and it belongs to the document. -/
structure Remembers (device : Device σ) (s : Session σ) : Prop where
  last : s.studio.scene.compiled = lastCompiled device s.frames
  belongs : ∀ c, s.studio.scene.compiled = some c → c.Belongs s.studio.document

/-- Only frames concern the program. -/
theorem compiled_move (device : Device σ) (s : Session σ) {m : Move}
    (hm : ∀ now renderSize, m ≠ .frame now renderSize) :
    (move device s m).studio.scene.compiled = s.studio.scene.compiled ∧
      (move device s m).frames = s.frames := by
  cases m with
  | frame now renderSize => exact absurd rfl (hm now renderSize)
  | visit other now renderSize => exact ⟨rfl, rfl⟩
  | change name change => exact ⟨rfl, rfl⟩
  | configure settings => exact ⟨rfl, rfl⟩
  | resize renderSize =>
      rw [move]
      cases s.studio.document.resize renderSize <;> exact ⟨rfl, rfl⟩
  | releaseBuffers =>
      exact ⟨congrArg Scene.compiled (Studio.document_releaseBuffers s.studio).2, rfl⟩
  | elsewhere op => exact ⟨rfl, rfl⟩
  | switch pool => exact ⟨rfl, rfl⟩

variable {device : Device σ} {s : Session σ}

/-- **Every move leaves the scene with the program that was compiled last.** -/
theorem remembers_move (h : s.Remembers device) (hs : s.studio.Steady) (m : Move) :
    (move device s m).Remembers device := by
  have hblank := (steady_move device hs m).2
  have hbelongs {c : CompiledProgram} (hc : c.Belongs s.studio.document) :
      c.Belongs (move device s m).studio.document :=
    fun d hd => hc d (hd.trans hblank)
  by_cases hm : ∃ now renderSize, m = .frame now renderSize
  · obtain ⟨now, renderSize, rfl⟩ := hm
    refine ⟨?_, fun c hc => hbelongs ?_⟩
    · rw [move_frame, lastCompiled_concat, ← h.last]
      exact Rendered.compiled_ofFrame device now renderSize hs
    · exact (Rendered.programs device now renderSize hs).belongs h.belongs hc
  · obtain ⟨hcompiled, hframes⟩ :=
      compiled_move device s fun now renderSize heq => hm ⟨now, renderSize, heq⟩
    refine ⟨?_, fun c hc => hbelongs (h.belongs c (hcompiled ▸ hc))⟩
    rw [hcompiled, hframes]
    exact h.last

/-- **So do all moves.** -/
theorem remembers_moved (h : s.Remembers device) (hs : s.studio.Steady) (moves : List Move) :
    (moved device moves s).Remembers device := by
  induction moves generalizing s with
  | nil => exact h
  | cons m moves ih => exact ih (remembers_move h hs m) (steady_move device hs m).1

end Session

/-! ### Coherence -/

/-- A pass uses its own program alone. -/
theorem Document.useProgram_mem_iff {d : Document} {pool : Pool} {program p : Program}
    {clock : Clock} {pass : Pass} :
    Command.useProgram p ∈ d.passCommands pool program clock pass ↔ p = program := by
  rw [mem_passCommands]
  simp [not_mem_inputCommands, not_mem_builtinCommands, Sample.not_mem_allCommands]

/-- **How a frame deals with the program**, after other frames of the same scene. -/
structure Rendered.Coherent (device : Device σ) (now : Moment) (frames : List (Rendered σ))
    (r : Rendered σ) : Prop where
  /-- The scene holds the program that was compiled last, before the frame and after it. -/
  before : r.before.scene.compiled = lastCompiled device frames
  after : r.after.scene.compiled = lastCompiled device (frames ++ [r])
  /-- When its images are loaded, a frame compiles a source exactly if that is generated now and the
  last program was compiled for something else. -/
  compiles : ∀ t, Studio.untilLoaded device.observed r.renderSize r.before = .ok () t →
    ∀ source, (∃ answer, (source, answer) ∈ r.compiles) ↔
      (lastCompiled device frames).map CompiledProgram.key ≠ some t.programKey ∧
        t.document.generate t.scene.settings = .ok source
  /-- Otherwise it compiles nothing. -/
  early : ∀ failure t,
    Studio.untilLoaded device.observed r.renderSize r.before = .error failure t → r.compiles = []
  /-- It never compiles twice. -/
  once : r.compiles.length ≤ 1
  /-- If nothing comes of it, all stays as it was. -/
  failed : (∀ x ∈ r.compiles, x.2 = none) → r.after.scene.compiled = r.before.scene.compiled
  /-- Each draw uses the program that was compiled last, and its source is what is generated from
  the document as the draw finds it. -/
  draws : ∀ (i : Nat) (draw : List Command), r.draws[i]? = some draw →
    ∃ shot s' c clock,
      Studio.shotAt device.observed now r.renderSize i r.before = .ok shot s' ∧
      lastCompiled device (frames ++ [r]) = some c ∧ draw = shot.commands c.program clock ∧
      (∀ p, Command.useProgram p ∈ draw ↔ p = c.program) ∧
      shot.document.generate r.before.scene.settings = .ok c.source

namespace Studio.Programs

variable {device : Device (Observed σ)} {renderSize : Size} {s t : Studio (Observed σ)}
  {calls : List (ProgramSource × Option Program)} {compiled : Option CompiledProgram}

/-- Nothing is compiled unless the images are loaded. -/
theorem eq_nil {failure : Failure} (h : Programs device renderSize s calls compiled)
    (ht : untilLoaded device renderSize s = .error failure t) : calls = [] := by
  cases h with
  | early => rfl
  | loaded hok _ =>
      rw [ht] at hok
      cases hok

theorem length_le (h : Programs device renderSize s calls compiled) : calls.length ≤ 1 := by
  cases h with
  | early => exact Nat.zero_le 1
  | loaded _ hmade => cases hmade <;> simp

/-- If nothing comes of compiling, the program stays. -/
theorem compiled_eq (h : Programs device renderSize s calls compiled)
    (hnone : ∀ x ∈ calls, x.2 = none) : compiled = s.scene.compiled := by
  cases h with
  | early => rfl
  | loaded ht hmade =>
      have hloading := ends_untilLoaded device renderSize s
      rw [ht] at hloading
      cases hmade with
      | kept => exact congrArg Scene.compiled hloading.scene
      | ungenerated => exact congrArg Scene.compiled hloading.scene
      | refused => exact congrArg Scene.compiled hloading.scene
      | compiled => cases hnone _ (List.mem_singleton_self _)

/-- What is compiled when the images are loaded. -/
theorem mem_iff (h : Programs device renderSize s calls compiled)
    (ht : untilLoaded device renderSize s = .ok () t) (source : ProgramSource) :
    (∃ answer, (source, answer) ∈ calls) ↔
      s.scene.compiled.map CompiledProgram.key ≠ some t.programKey ∧
        t.document.generate t.scene.settings = .ok source := by
  have hloading := ends_untilLoaded device renderSize s
  cases h with
  | early herror =>
      rw [ht] at herror
      cases herror
  | loaded hok hmade =>
      cases ht.symm.trans hok
      rw [ht] at hloading
      rw [← hloading.scene, Ne, ← hasProgram_iff, Bool.not_eq_true]
      cases hmade with
      | kept hkept => simp [hkept]
      | ungenerated hnot herror => simp [herror]
      | refused hnot hsource => simp [hnot, hsource, eq_comm]
      | compiled hnot hsource => simp [hnot, hsource, eq_comm]

end Studio.Programs

/-- **The program of a frame that draws** belongs to what each draw finds. -/
theorem Studio.Films.generate_eq {device : Device σ} {now : Moment} {renderSize : Size}
    {s begun ready : Studio (Observed σ)} {c : CompiledProgram} {shots : List Shot}
    (h : Films device.observed now renderSize s begun ready c shots) (hs : s.Steady)
    (hc : c.Belongs s.document) {i : Nat} {shot : Shot} (hi : shots[i]? = some shot) :
    shot.document.generate s.scene.settings = .ok c.source := by
  obtain ⟨t, _, c', ht, hloading, -, hkey, hcompiled, -⟩ := programs_of_ok h.begins
  obtain ⟨t', ht', -, -, hparameters, hscene⟩ :=
    exists_loading_of_ready hs.consistent hs.wellFormed h.begins h.readies
  cases ht.symm.trans ht'
  obtain ⟨u, hlends, hdocument, -⟩ := h.onlyLends hs.consistent hs.wellFormed hi
  have hblank := (h.document hs.consistent hs.wellFormed hi).1
  obtain rfl : c' = c := by
    have hready := h.compiled
    rw [hscene, hcompiled] at hready
    exact Option.some.inj hready
  -- neither the settings nor the parameters have changed since the images were loaded
  have hsettings : c'.key.settings = s.scene.settings := by
    rw [hkey, ← hloading.scene]
    rfl
  rw [← hsettings]
  refine hc shot.document hblank ?_
  rw [hkey]
  refine Document.textureTypes_congr (hblank.trans hloading.blank.symm) ?_
  rw [hdocument, hlends.parameters, hparameters]

namespace Session

/-- **Every frame of a scene deals with the program as it should**, whatever has happened to the
scene, to its document and to the pool before, and whether the frame is completed or not. -/
theorem program_coherent (device : Device σ) (d : {d : Document // d.Opened})
    (settings : SceneSettings) (started : Nat) (pool : PoolSettings) (state : σ)
    (moves : List Move) (now : Moment) (renderSize : Size) :
    (Rendered.ofFrame device now renderSize (moved device moves
      (start d.1 settings started pool state)).studio).Coherent device now
        (moved device moves (start d.1 settings started pool state)).frames := by
  have hstart := steady_start d.2 settings started pool state
  have hs := (steady_moved device hstart moves).1
  have hfirst : (start d.1 settings started pool state).Remembers device := by
    refine ⟨rfl, fun c hc => ?_⟩
    cases hc
  have hremembers := remembers_moved hfirst hstart moves
  generalize moved device moves (start d.1 settings started pool state) = s at hs hremembers ⊢
  have hprograms := Rendered.programs device now renderSize hs
  have hafter := (remembers_move hremembers hs (.frame now renderSize)).last
  rw [move_frame] at hafter
  refine ⟨?_, hafter, ?_, ?_, hprograms.length_le, ?_, ?_⟩
  · rw [Rendered.before_ofFrame]
    exact hremembers.last
  · rw [Rendered.before_ofFrame, Rendered.renderSize_ofFrame, ← hremembers.last]
    exact fun t ht => hprograms.mem_iff ht
  · rw [Rendered.before_ofFrame, Rendered.renderSize_ofFrame]
    exact fun failure t ht => hprograms.eq_nil ht
  · rw [Rendered.before_ofFrame]
    exact hprograms.compiled_eq
  · rw [Rendered.before_ofFrame, Rendered.renderSize_ofFrame, ← hafter]
    intro i draw hdraw
    obtain ⟨begun, ready, c, shots, shot, s', hfilms, hi, hshot, rfl⟩ :=
      Rendered.exists_shot hs hdraw
    have hc : (Rendered.ofFrame device now renderSize s.studio).after.scene.compiled = some c := by
      rw [(Rendered.keeps_program device now renderSize hs).2, hfilms.begins]
      obtain ⟨-, -, -, -, -, hscene⟩ :=
        Studio.exists_loading_of_ready hs.consistent hs.wellFormed hfilms.begins hfilms.readies
      exact congrArg Scene.compiled hscene.symm |>.trans hfilms.compiled
    exact ⟨shot, s', c, _, hshot, hc, rfl, fun p => Document.useProgram_mem_iff,
      hfilms.generate_eq hs (hprograms.belongs hremembers.belongs hc) hi⟩

end Session

end ShaderEffect
