/-
**What a program declares, and what it is given.**

A program declares variables and samplers, and before each draw its variables are given values and
its samplers are bound.  The two are listed in different places and in different orders, but they
agree: each variable is given one value, of its type, and the samplers are bound to the units in the
order of their declaration, with the shapes that they were declared for.

Main definitions:

* `ShaderEffect.Command.variable?`, `ShaderEffect.Command.unit?` — the variable and the sampler that
  a command is about;
* `ShaderEffect.Rendered.Agrees` — **a draw gives a program what it declares**.

Main results:

* `ShaderEffect.Document.Typed.variables_perm`, `ShaderEffect.Document.units_eq` — the variables and
  the units of a pass;
* `ShaderEffect.Session.draws_agree` — **every draw gives its program what it declares**.
-/

import ShaderEffect.Proofs.Document.Interface
import ShaderEffect.Proofs.Program.Generation
import ShaderEffect.Proofs.Program.Given
import ShaderEffect.Proofs.Scene.Commands
import ShaderEffect.Proofs.Scene.Film

set_option autoImplicit false

namespace ShaderEffect

variable {σ : Type}

/-! ### What is given -/

/-- The variable that a command gives a value, with the type of that value. -/
def Command.variable? : Command → Option Variable
  | .setUniform name value => some ⟨value.typeName, name⟩
  | _ => none

/-- The sampler that a command binds, and the unit. -/
def Command.unit? : Command → Option (String × Nat)
  | .bindSampler name unit _ => some (name, unit)
  | _ => none

/-- The variables that accompany a sampler are given values with it. -/
theorem Sample.variables_allCommands (pool : Pool) (unit : Nat) (samples : List Sample) :
    (allCommands pool unit samples).filterMap Command.variable? =
      (samples.map Sample.name).flatMap fun name => Sampler.companions ⟨name, .flat⟩ := by
  induction samples generalizing unit with
  | nil => rfl
  | cons s samples ih =>
      rw [allCommands, List.filterMap_append, ih]
      rfl

/-- Samplers are bound to one unit after the other. -/
theorem Sample.units_allCommands (pool : Pool) (unit : Nat) (samples : List Sample) :
    (allCommands pool unit samples).filterMap Command.unit? =
      (samples.map Sample.name).zipIdx unit := by
  induction samples generalizing unit with
  | nil => rfl
  | cons s samples ih =>
      rw [allCommands, List.filterMap_append, ih]
      rfl

/-- A letter of the texture types stands for a type of samplers. -/
theorem Shape.code_eq_iff (shape : Shape) {c : Char} : shape.code = c ↔ (c, shape.samplerType) ∈
    [('2', "sampler2D"), ('R', "sampler2DRect"), ('C', "samplerCube")] := by
  cases shape <;> simp [code, samplerType, eq_comm]

namespace Document

variable {d : Document} {pool : Pool} {program : Program} {clock : Clock} {pass : Pass}

/-- What is sampled is what is declared for sampling. -/
theorem map_name_samples_eq (d : Document) (written : List String) :
    (d.samples written).map Sample.name = d.programInterface.samplers.map Sampler.name :=
  (map_name_samples d written).trans (map_name_samplers d).symm

/-- **Inputs are given values of the types that are declared for them.** -/
theorem Typed.variables_inputCommands (hd : d.Typed) :
    d.inputCommands.filterMap Command.variable? = d.programInterface.inputs := by
  rw [inputCommands, List.filterMap_filterMap]
  refine List.filterMap_congr fun p hp => ?_
  have htype := Value.uniform?_type p.current
  rw [(hd p ((List.takeWhile_sublist _).mem hp)).current] at htype
  rw [← htype]
  cases p.current.uniform? <;> rfl

/-- **The variables of a pass** are those that are declared. -/
theorem Typed.variables_perm (hd : d.Typed) :
    ((d.passCommands pool program clock pass).filterMap Command.variable?).Perm
      d.programInterface.uniforms := by
  have hcompanions : (((d.samples pass.written).map Sample.name).flatMap fun name =>
      Sampler.companions ⟨name, .flat⟩) =
        d.programInterface.samplers.flatMap Sampler.companions := by
    rw [map_name_samples_eq, List.flatMap_map]
    rfl
  have hbuiltins : (pass.builtinCommands clock).filterMap Command.variable? = builtins := rfl
  have hvariables : (d.passCommands pool program clock pass).filterMap Command.variable? =
      d.programInterface.inputs ++ d.programInterface.samplers.flatMap Sampler.companions ++
        builtins := by
    unfold passCommands
    simp only [List.cons_append, List.filterMap_cons, List.filterMap_append, List.filterMap_nil,
      Command.variable?, hd.variables_inputCommands, Sample.variables_allCommands, hcompanions,
      hbuiltins, List.append_nil]
  -- the variables of all effects come last here, and are declared first
  rw [hvariables, Interface.uniforms, List.append_assoc builtins]
  exact List.perm_append_comm

/-- **The units of a pass** are those of the samplers in the order of their declaration. -/
theorem units_eq (d : Document) :
    (d.passCommands pool program clock pass).filterMap Command.unit? =
      (d.programInterface.samplers.map Sampler.name).zipIdx := by
  have hinputs : d.inputCommands.filterMap Command.unit? = [] := by
    refine List.filterMap_eq_nil_iff.2 fun c hc => ?_
    obtain ⟨p, -, hp⟩ := List.mem_filterMap.1 hc
    obtain ⟨v, -, rfl⟩ := Option.map_eq_some_iff.1 hp
    rfl
  have hbuiltins : (pass.builtinCommands clock).filterMap Command.unit? = [] := rfl
  unfold passCommands
  simp only [List.cons_append, List.filterMap_cons, List.filterMap_append, List.filterMap_nil,
    Command.unit?, hinputs, hbuiltins, Sample.units_allCommands, map_name_samples_eq,
    List.nil_append, List.append_nil]

/-- An input that is declared is given its value. -/
theorem Typed.exists_value (hd : d.Typed) {x : Variable} (hx : x ∈ d.programInterface.inputs) :
    ∃ p ∈ d.inputs, p.name = x.name ∧ p.kind.typeName? = some x.type ∧
      ∃ v, p.current.uniform? = some v ∧ v.typeName = x.type ∧
        Command.setUniform x.name v ∈ d.passCommands pool program clock pass := by
  obtain ⟨p, hp, hpx⟩ := List.mem_filterMap.1 hx
  obtain ⟨type, htype, rfl⟩ := Option.map_eq_some_iff.1 hpx
  have hvalue := Value.uniform?_type p.current
  rw [(hd p ((List.takeWhile_sublist _).mem hp)).current, htype] at hvalue
  obtain ⟨v, hv, hvtype⟩ := Option.map_eq_some_iff.1 hvalue
  refine ⟨p, hp, rfl, htype, v, hv, hvtype, mem_passCommands.2 (Or.inr (Or.inr (Or.inl ?_)))⟩
  exact List.mem_filterMap.2 ⟨p, hp, by rw [hv]; rfl⟩

end Document

/-! ### Draws -/

/-- **A draw gives a program what it declares**, told from the document that it finds. -/
structure Rendered.Agrees (r : Rendered σ) (draw : List Command) (shot : Shot) : Prop where
  /-- The document declares what it declared before the frame, and its inputs have the values that
  they had then. -/
  blank : shot.document.blank = r.before.document.blank
  inputs : shot.document.inputs = r.before.document.inputs
  /-- In front of the bodies of both programs, these variables and samplers are declared in their
  order, and besides them only what the stages hand to each other and compute. -/
  declared : ∀ settings source, shot.document.generate settings = .ok source → ∀ stage,
    ∃ out, source.program stage = shot.document.front settings stage ++ out ∧
      shot.document.programInterface.Declares settings.dialect settings.uniformBlock stage
        (shot.document.front settings stage)
  /-- The variables that are given values are those that are declared, with their types. -/
  uniforms : (draw.filterMap Command.variable?).Perm shot.document.programInterface.uniforms
  /-- An input that is declared is given its value. -/
  values : ∀ x ∈ shot.document.programInterface.inputs, ∃ p ∈ r.before.document.inputs,
    p.name = x.name ∧ p.kind.typeName? = some x.type ∧
      ∃ v, p.current.uniform? = some v ∧ v.typeName = x.type ∧
        Command.setUniform x.name v ∈ draw
  /-- Samplers are bound to the units in the order of their declaration. -/
  units : draw.filterMap Command.unit? =
    (shot.document.programInterface.samplers.map Sampler.name).zipIdx
  /-- The letters of the texture types stand for the types that the samplers are declared with, in
  the order of their declaration. -/
  shapes : ∀ (k : Nat) (c : Char), shot.document.textureTypes.toList[k]? = some c ↔
    ∃ s, shot.document.programInterface.samplers[k]? = some s ∧
      (c, s.toVariable.type) ∈ [('2', "sampler2D"), ('R', "sampler2DRect"), ('C', "samplerCube")]

/-- All values are of their kinds when a pass is drawn. -/
theorem Studio.Films.typed {device : Device σ} {now : Moment} {renderSize : Size}
    {s begun ready : Studio σ} {c : CompiledProgram} {shots : List Shot}
    (h : Films device now renderSize s begun ready c shots) (hs : s.Steady) {i : Nat} {shot : Shot}
    (hi : shots[i]? = some shot) : shot.document.Typed := by
  obtain ⟨t, hlends, hdocument, -⟩ := h.onlyLends hs.consistent hs.wellFormed hi
  obtain ⟨u, -, hloading, -, hparameters, -⟩ :=
    exists_loading_of_ready hs.consistent hs.wellFormed h.begins h.readies
  intro p hp
  rw [hdocument, hlends.parameters, hparameters] at hp
  exact hloading.typed hs.typed p hp

namespace Session

/-- **Every draw gives its program what it declares**, whatever has happened to the scene, to its
document and to the pool before the frame, and whether the frame is completed or not. -/
theorem draws_agree (device : Device σ) (d : {d : Document // d.Opened})
    (settings : SceneSettings) (started : Nat) (pool : PoolSettings) (state : σ)
    (moves : List Move) (now : Moment) (renderSize : Size) {i : Nat} {draw : List Command}
    (hdraw : (Rendered.ofFrame device now renderSize
      (moved device moves (start d.1 settings started pool state)).studio).draws[i]? =
        some draw) :
    ∃ shot s', Studio.shotAt device.observed now renderSize i
        (moved device moves (start d.1 settings started pool state)).studio = .ok shot s' ∧
      (Rendered.ofFrame device now renderSize
        (moved device moves (start d.1 settings started pool state)).studio).Agrees draw shot := by
  have hs := (steady_moved device (steady_start d.2 settings started pool state) moves).1
  obtain ⟨begun, ready, c, shots, shot, s', hfilms, hi, hshot, rfl⟩ :=
    Rendered.exists_shot hs hdraw
  obtain ⟨hblank, hinputs⟩ := hfilms.document hs.consistent hs.wellFormed hi
  have htyped := hfilms.typed hs hi
  refine ⟨shot, s', hshot, ?_, ?_, ?_, htyped.variables_perm, ?_, shot.document.units_eq, ?_⟩
  · rw [Rendered.before_ofFrame]
    exact hblank
  · rw [Rendered.before_ofFrame]
    exact hinputs
  · intro settings source hsource stage
    obtain ⟨out, -, hout⟩ := (Document.generate_eq_ok_iff_written.1 hsource).2 stage
    exact ⟨_, hout, Interface.declares_stageFront shot.document.type_mem_types⟩
  · rw [Rendered.before_ofFrame, ← hinputs]
    exact fun x hx => htyped.exists_value hx
  · intro k c
    rw [Document.textureTypes, String.toList_ofList, List.getElem?_map, Option.map_eq_some_iff]
    exact exists_congr fun s => and_congr_right fun _ => s.shape.code_eq_iff

/-- An effect with a number, a place and an image. -/
def panelText : String :=
  "/*\x7b\"INPUTS\":[\x7b\"NAME\":\"l\",\"TYPE\":\"long\"\x7d," ++
    "\x7b\"NAME\":\"p\",\"TYPE\":\"point2D\"\x7d,\x7b\"NAME\":\"i\",\"TYPE\":\"image\"\x7d]\x7d*/"

/-- A session with this effect. -/
def panelSession : Session Recorder :=
  start (Document.ofTextsLenient panelText none "/").2 .standard 0 .standard Recorder.fresh

/-- A host sets the number and binds a rectangle to the image. -/
def panelMoves : List Move :=
  [.change "l" (.set (.long 3)),
    .elsewhere (.adopt ⟨⟨4, 4⟩, .rgba8, .rectangle⟩ ⟨90⟩),
    .change "i" (.bind (some ⟨⟨1⟩, ⟨⟨4, 4⟩, .rgba8, .rectangle⟩, true⟩))]

/-- **The pass of a frame** is drawn, and gives its program what that declares. -/
theorem draws_agree_panel :
    ∃ draw, (Rendered.ofFrame Recorder.device (.ofNanoseconds 0) ⟨8, 8⟩
        (moved Recorder.device panelMoves panelSession).studio).draws[0]? = some draw ∧
      ∃ shot s', Studio.shotAt Recorder.device.observed (.ofNanoseconds 0) ⟨8, 8⟩ 0
          (moved Recorder.device panelMoves panelSession).studio = .ok shot s' ∧
        (Rendered.ofFrame Recorder.device (.ofNanoseconds 0) ⟨8, 8⟩
          (moved Recorder.device panelMoves panelSession).studio).Agrees draw shot := by
  obtain ⟨draw, hdraw⟩ : ∃ draw, (Rendered.ofFrame Recorder.device (.ofNanoseconds 0) ⟨8, 8⟩
      (moved Recorder.device panelMoves panelSession).studio).draws[0]? = some draw :=
    Option.isSome_iff_exists.1 (by decide +kernel)
  exact ⟨draw, hdraw, draws_agree Recorder.device ⟨_, .ofTextsLenient panelText none "/"⟩ .standard
    0 .standard Recorder.fresh panelMoves (.ofNanoseconds 0) ⟨8, 8⟩ hdraw⟩

end Session

end ShaderEffect
