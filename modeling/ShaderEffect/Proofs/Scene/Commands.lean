/-
**What the commands of a pass leave set.**

A program sees each of its variables as the commands before the draw left it: of several commands
for one name, the last one counts.  That matters, since an input may be called like a variable that
accompanies a sampler; then the sampler has the last word.  The samplers themselves have different
names, and so have the variables that accompany them.

Main definitions:

* `ShaderEffect.boundTo?`, `ShaderEffect.valueOf?` — what a sampler reads from, and the value of a
  variable, when commands are over;
* `ShaderEffect.Reads` — **what a sampler reads from, and what its variables say about it**.

Main results:

* `ShaderEffect.Document.WellFormed.nodup_samples` — samplers have different names;
* `ShaderEffect.Document.WellFormed.reads` — **a pass leaves each sampler with its own sample**.
-/

import Mathlib.Data.List.TakeWhile
import ShaderEffect.Proofs.Document.Views
import ShaderEffect.Proofs.Scene.Shots

set_option autoImplicit false

namespace ShaderEffect

/-! ### What is set last -/

/-- The buffer that a command binds to the sampler of a name. -/
def Command.binds? (name : String) : Command → Option (Option Buffer)
  | .bindSampler n _ buffer => if n = name then some buffer else none
  | _ => none

/-- The value that a command gives to the variable of a name. -/
def Command.sets? (name : String) : Command → Option Uniform
  | .setUniform n value => if n = name then some value else none
  | _ => none

/-- What the sampler of a name reads from when commands are over. -/
def boundTo? (commands : List Command) (name : String) : Option (Option Buffer) :=
  (commands.filterMap (Command.binds? name)).getLast?

/-- The value of the variable of a name when commands are over. -/
def valueOf? (commands : List Command) (name : String) : Option Uniform :=
  (commands.filterMap (Command.sets? name)).getLast?

/-- **What a sampler reads from, and what its variables say about it**: the buffer behind a handle;
the size of its descriptor; the part of the texture that is used, in pixels for rectangles and in
fractions for all else; and whether the first row is at the bottom. -/
structure Reads (commands : List Command) (pool : Pool) (name : String) (handle : Option Handle)
    (flipped : Bool) : Prop where
  buffer : boundTo? commands name = some (handle.bind pool.buffer?)
  size : valueOf? commands (Sampler.sizeName name) =
    some (.vec2 ((handle.bind pool.descriptor?).elim ⟨zero32, zero32⟩ fun d =>
      ⟨d.size.width.toFloat32, d.size.height.toFloat32⟩))
  rect : valueOf? commands (Sampler.rectName name) =
    some (.vec4 (((handle.bind pool.descriptor?).filter fun d => d.shape = .rectangle).elim
      ⟨zero32, zero32, Sample.one32, Sample.one32⟩ fun d =>
        ⟨zero32, zero32, d.size.width.toFloat32, d.size.height.toFloat32⟩))
  flip : valueOf? commands (Sampler.flipName name) = some (.bool flipped)

/-! ### Names -/

namespace Sampler

variable (m n : String)

@[simp] theorem rectName_inj : rectName m = rectName n ↔ m = n := by
  simp [rectName]

@[simp] theorem sizeName_inj : sizeName m = sizeName n ↔ m = n := by
  simp [sizeName]

@[simp] theorem flipName_inj : flipName m = flipName n ↔ m = n := by
  simp [flipName]

-- names of different sorts end in different letters

@[simp] theorem rectName_ne_sizeName : rectName m ≠ sizeName n := by
  intro h
  have hreverse := congrArg (fun s : String => s.toList.reverse) h
  simp [rectName, sizeName] at hreverse

@[simp] theorem rectName_ne_flipName : rectName m ≠ flipName n := by
  intro h
  have hreverse := congrArg (fun s : String => s.toList.reverse) h
  simp [rectName, flipName] at hreverse

@[simp] theorem sizeName_ne_flipName : sizeName m ≠ flipName n := by
  intro h
  have hreverse := congrArg (fun s : String => s.toList.reverse) h
  simp [sizeName, flipName] at hreverse

@[simp] theorem sizeName_ne_rectName : sizeName m ≠ rectName n := (rectName_ne_sizeName n m).symm

@[simp] theorem flipName_ne_rectName : flipName m ≠ rectName n := (rectName_ne_flipName n m).symm

@[simp] theorem flipName_ne_sizeName : flipName m ≠ sizeName n := (sizeName_ne_flipName n m).symm

end Sampler

/-- The variables of all effects do not begin with an underscore. -/
theorem Pass.sets?_builtinCommands {name : String} (h : name.toList.head? = some '_') (pass : Pass)
    (clock : Clock) : (pass.builtinCommands clock).filterMap (Command.sets? name) = [] := by
  refine List.filterMap_eq_nil_iff.2 fun c hc => ?_
  have hne (n : String) (hn : n.toList.head? ≠ some '_') (v : Uniform) :
      Command.sets? name (.setUniform n v) = none := by
    refine if_neg fun heq => hn ?_
    rw [heq, h]
  simp only [Pass.builtinCommands, List.mem_cons, List.not_mem_nil, or_false] at hc
  rcases hc with rfl | rfl | rfl | rfl | rfl | rfl <;> exact hne _ (by simp) _

@[simp] theorem Parameter.name_sample (p : Parameter) : p.sample.name = p.name := by
  unfold Parameter.sample
  split <;> rfl

@[simp] theorem Target.name_sample (written : List String) (t : Target) :
    (t.sample written).name = t.name :=
  rfl

namespace Document

variable {d : Document}

/-- No parameter is sampled twice. -/
theorem WellFormed.nodup_images (hd : d.WellFormed) : d.images.Nodup :=
  hd.images_perm.nodup_iff.2 (hd.parameters.names.of_map.filter _)

/-- The samplers of a pass are called like the parameters and the targets they read from. -/
theorem map_name_samples (d : Document) (written : List String) :
    (d.samples written).map Sample.name =
      d.images.map Parameter.name ++ d.passes.targets.map Target.name := by
  simp [samples, Function.comp_def]

/-- **The samplers of a pass have different names.** -/
theorem WellFormed.nodup_samples (hd : d.WellFormed) (written : List String) :
    ((d.samples written).map Sample.name).Nodup := by
  rw [map_name_samples]
  refine List.nodup_append.2 ⟨hd.nodup_images.map_on fun p hp q hq h => ?_, hd.passes.names, ?_⟩
  · exact List.inj_on_of_nodup_map hd.parameters.names (mem_parameters_of_mem_images hp)
      (mem_parameters_of_mem_images hq) h
  · rintro name hname _ htarget rfl
    obtain ⟨p, hp, rfl⟩ := List.mem_map.1 hname
    obtain ⟨t, ht, heq⟩ := List.mem_map.1 htarget
    refine hd.passes.apart t ht (heq ▸ List.mem_map_of_mem (mem_parameters_of_mem_images hp))

end Document

/-! ### The commands of a pass -/

/-- What is picked out of the commands of all samplers is what is picked out for each of them. -/
theorem Sample.filterMap_allCommands {α : Type} (pool : Pool) {f : Command → Option α}
    {g : Sample → Option α}
    (hfg : ∀ unit s, (Sample.commands pool unit s).filterMap f = (g s).toList) (unit : Nat)
    (samples : List Sample) :
    (allCommands pool unit samples).filterMap f = samples.filterMap g := by
  induction samples generalizing unit with
  | nil => rfl
  | cons s samples ih =>
      rw [allCommands, List.filterMap_append, hfg, ih, List.filterMap_cons]
      cases g s <;> rfl

/-- What is picked out for one name is picked out once, if names are different. -/
theorem Sample.filterMap_of_nodup {α : Type} {value : Sample → α} {samples : List Sample}
    (hnames : (samples.map Sample.name).Nodup) {x : Sample} (hx : x ∈ samples) :
    samples.filterMap (fun s => if s.name = x.name then some (value s) else none) = [value x] := by
  obtain ⟨before, after, rfl⟩ := List.append_of_mem hx
  rw [List.map_append, List.map_cons, List.nodup_append, List.nodup_cons] at hnames
  obtain ⟨-, ⟨hafter, -⟩, hbefore⟩ := hnames
  have hnone {ss : List Sample} (hss : ∀ s ∈ ss, s.name ≠ x.name) :
      ss.filterMap (fun s => if s.name = x.name then some (value s) else none) = [] :=
    List.filterMap_eq_nil_iff.2 fun s hs => if_neg (hss s hs)
  rw [List.filterMap_append, List.filterMap_cons, if_pos rfl, hnone, hnone]
  · rfl
  · exact fun s hs heq => hafter (heq ▸ List.mem_map_of_mem hs)
  · exact fun s hs heq => hbefore s.name (List.mem_map_of_mem hs) x.name List.mem_cons_self heq

namespace Document

variable {d : Document} {pool : Pool} {program : Program} {clock : Clock} {pass : Pass}

/-- What a pass binds to the sampler of a sample. -/
theorem WellFormed.boundTo?_eq (hd : d.WellFormed) {x : Sample}
    (hx : x ∈ d.samples pass.written) :
    boundTo? (d.passCommands pool program clock pass) x.name =
      some (x.handle.bind pool.buffer?) := by
  have hinputs : d.inputCommands.filterMap (Command.binds? x.name) = [] := by
    refine List.filterMap_eq_nil_iff.2 fun c hc => ?_
    obtain ⟨p, -, hp⟩ := List.mem_filterMap.1 hc
    obtain ⟨v, -, rfl⟩ := Option.map_eq_some_iff.1 hp
    rfl
  have hbuiltins : (pass.builtinCommands clock).filterMap (Command.binds? x.name) = [] := rfl
  have hsamples := (Sample.filterMap_allCommands pool (f := Command.binds? x.name)
    (g := fun s => if s.name = x.name then some (s.handle.bind pool.buffer?) else none)
    (fun unit s => by
      by_cases h : s.name = x.name <;>
        simp [Sample.commands, List.filterMap_cons, Command.binds?, h])
    0 (d.samples pass.written)).trans (Sample.filterMap_of_nodup (hd.nodup_samples _) hx)
  unfold boundTo? passCommands
  simp only [List.cons_append, List.filterMap_cons, List.filterMap_append, List.filterMap_nil,
    Command.binds?, hinputs, hsamples, hbuiltins, List.append_nil, List.nil_append]
  rfl

/-- What a pass leaves a variable with that accompanies samplers. -/
theorem WellFormed.valueOf?_eq (hd : d.WellFormed) {x : Sample} (hx : x ∈ d.samples pass.written)
    {name : String} (hname : name.toList.head? = some '_') {v : Sample → Uniform}
    (hvalue : ∀ unit s, (Sample.commands pool unit s).filterMap (Command.sets? name) =
      (if s.name = x.name then some (v s) else none).toList) :
    valueOf? (d.passCommands pool program clock pass) name = some (v x) := by
  have hsamples := (Sample.filterMap_allCommands pool hvalue 0 (d.samples pass.written)).trans
    (Sample.filterMap_of_nodup (hd.nodup_samples _) hx)
  unfold valueOf? passCommands
  -- whatever the inputs set comes before, and the variables of all effects are called otherwise
  simp only [List.cons_append, List.filterMap_cons, List.filterMap_append, List.filterMap_nil,
    Command.sets?, hsamples, Pass.sets?_builtinCommands hname, List.append_nil]
  exact List.getLast?_concat

/-- **A pass leaves each sampler with its own sample**, and its variables with what is known about
that. -/
theorem WellFormed.reads (hd : d.WellFormed) {x : Sample} (hx : x ∈ d.samples pass.written) :
    Reads (d.passCommands pool program clock pass) pool x.name x.handle x.flipped where
  buffer := hd.boundTo?_eq hx
  size := by
    refine (hd.valueOf?_eq hx (v := fun s =>
      .vec2 (Sample.extent (s.handle.bind pool.descriptor?))) (by simp [Sampler.sizeName]) ?_).trans
      ?_
    · intro unit s
      by_cases h : s.name = x.name <;> simp [Sample.commands, List.filterMap_cons, Command.sets?, h]
    · cases x.handle.bind pool.descriptor? <;> rfl
  rect := by
    refine (hd.valueOf?_eq hx (v := fun s =>
      .vec4 (Sample.rect (s.handle.bind pool.descriptor?)))
      (by simp [Sampler.rectName]) ?_).trans ?_
    · intro unit s
      by_cases h : s.name = x.name <;> simp [Sample.commands, List.filterMap_cons, Command.sets?, h]
    · cases x.handle.bind pool.descriptor? with
      | none => rfl
      | some e =>
          obtain ⟨size, format, shape⟩ := e
          cases shape <;> rfl
  flip := by
    refine hd.valueOf?_eq hx (v := fun s => .bool s.flipped) (by simp [Sampler.flipName]) ?_
    intro unit s
    by_cases h : s.name = x.name <;> simp [Sample.commands, List.filterMap_cons, Command.sets?, h]

end Document

end ShaderEffect
