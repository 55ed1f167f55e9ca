/-
**What passes draw into and sample.**

The commands of a pass end with the only draw among them, and name each sampler once: parameters and
targets have different names.  So the commands of a whole frame can be cut behind the draws, and
what a target is sampled as in one of them depends on the target alone, and on whether it was drawn
into before.

Main definitions:

* `ShaderEffect.draws` — commands, cut behind each draw.

Main results:

* `ShaderEffect.draws_shots` — **the draws of a frame are its passes**;
* `ShaderEffect.Document.bindSampler_mem_iff`, `ShaderEffect.Document.bindTarget_mem_iff` — what a
  pass samples and what it draws into;
* `ShaderEffect.Studio.Drawn.exists_before` — **how each pass of a frame was drawn**.
-/

import ShaderEffect.Proofs.Scene.Drawing

set_option autoImplicit false

namespace ShaderEffect

open Pool

variable {σ : Type}

/-! ### Draws -/

/-- Commands, cut behind each draw; what comes after the last draw is left out. -/
def draws : List Command → List (List Command)
  | [] => []
  | c :: cs =>
    if c = .draw then [c] :: draws cs
    else
      match draws cs with
      | [] => []
      | d :: ds => (c :: d) :: ds

/-- The first draw is where it is. -/
theorem draws_append_draw {cs : List Command} (hcs : Command.draw ∉ cs) (rest : List Command) :
    draws (cs ++ .draw :: rest) = (cs ++ [.draw]) :: draws rest := by
  induction cs with
  | nil => simp [draws]
  | cons c cs ih =>
      rw [List.mem_cons, not_or] at hcs
      rw [List.cons_append, draws, if_neg (Ne.symm hcs.1), ih hcs.2]
      rfl

namespace Sample

/-- Binding a sampler is the only thing that the commands of a sampler are looked at for. -/
theorem bindSampler_mem_allCommands {pool : Pool} {name : String} {unit : Nat}
    {buffer : Option Buffer} {samples : List Sample} {first : Nat} :
    Command.bindSampler name unit buffer ∈ allCommands pool first samples ↔
      ∃ i s, samples[i]? = some s ∧ s.name = name ∧ unit = first + i ∧
        buffer = s.handle.bind pool.buffer? := by
  induction samples generalizing first with
  | nil => simp [allCommands]
  | cons s samples ih =>
      rw [allCommands, List.mem_append, ih]
      constructor
      · rintro (h | ⟨i, s', hi, hname, hunit, hbuffer⟩)
        · simp only [commands, List.mem_cons, Command.bindSampler.injEq, reduceCtorEq,
            List.not_mem_nil, or_false] at h
          exact ⟨0, s, rfl, h.1.symm, h.2.1, h.2.2⟩
        · exact ⟨i + 1, s', hi, hname, by omega, hbuffer⟩
      · rintro ⟨i, s', hi, hname, hunit, hbuffer⟩
        cases i with
        | zero =>
            cases hi
            left
            simp [commands, hname, hunit, hbuffer]
        | succ i => exact Or.inr ⟨i, s', hi, hname, by omega, hbuffer⟩

theorem not_mem_allCommands {c : Command}
    (hc : ∀ name unit buffer, c ≠ .bindSampler name unit buffer)
    (hu : ∀ name value, c ≠ .setUniform name value) {pool : Pool} {samples : List Sample}
    {first : Nat} : c ∉ allCommands pool first samples := by
  induction samples generalizing first with
  | nil => simp [allCommands]
  | cons s samples ih =>
      rw [allCommands, List.mem_append]
      rintro (h | h)
      · simp [commands, hc, hu] at h
      · exact ih h

end Sample

namespace Document

variable {d : Document} {pool : Pool} {program : Program} {clock : Clock} {pass : Pass}

/-- What can be among the commands of a pass. -/
theorem mem_passCommands {c : Command} : c ∈ d.passCommands pool program clock pass ↔
    c = .useProgram program ∨ c = .bindTarget pass.buffer pass.size ∨ c ∈ d.inputCommands ∨
      c ∈ Sample.allCommands pool 0 (d.samples pass.written) ∨ c ∈ pass.builtinCommands clock ∨
      c = .draw := by
  simp [passCommands]

theorem not_mem_inputCommands {c : Command} (hc : ∀ name value, c ≠ .setUniform name value) :
    c ∉ d.inputCommands := by
  intro h
  obtain ⟨p, -, hp⟩ := List.mem_filterMap.1 h
  obtain ⟨v, -, rfl⟩ := Option.map_eq_some_iff.1 hp
  exact hc _ _ rfl

theorem not_mem_builtinCommands {c : Command} (hc : ∀ name value, c ≠ .setUniform name value) :
    c ∉ pass.builtinCommands clock := by
  simp [Pass.builtinCommands, hc]

/-- A pass draws into its own target alone. -/
theorem bindTarget_mem_iff {buffer : Option Buffer} {size : Size} :
    Command.bindTarget buffer size ∈ d.passCommands pool program clock pass ↔
      buffer = pass.buffer ∧ size = pass.size := by
  rw [mem_passCommands]
  simp [not_mem_inputCommands, not_mem_builtinCommands, Sample.not_mem_allCommands]

/-- The commands of a pass end with the only draw among them. -/
theorem passCommands_eq : ∃ cs, d.passCommands pool program clock pass = cs ++ [.draw] ∧
    Command.draw ∉ cs := by
  refine ⟨_, rfl, ?_⟩
  simp [not_mem_inputCommands, not_mem_builtinCommands, Sample.not_mem_allCommands]

/-! ### What a target is sampled as -/

/-- Images are parameters. -/
theorem mem_parameters_of_mem_images {p : Parameter} (hp : p ∈ d.images) : p ∈ d.parameters := by
  simp only [images, imageInputs, audioInputs, imageImports, inputsOfKind, List.mem_append,
    List.mem_filter] at hp
  rcases hp with (⟨hp, -⟩ | ⟨hp, -⟩) | ⟨hp, -⟩
  · exact (List.takeWhile_sublist _).mem hp
  · exact (List.takeWhile_sublist _).mem hp
  · exact hp

/-- Targets of one name are the same. -/
theorem WellFormed.target_unique (hd : d.WellFormed) {t u : Target} (ht : t ∈ d.passes.targets)
    (hu : u ∈ d.passes.targets) (h : u.name = t.name) : u = t :=
  List.inj_on_of_nodup_map hd.passes.names hu ht h

/-- Only a target is sampled under its name. -/
theorem WellFormed.sample_eq (hd : d.WellFormed) {written : List String} {t : Target}
    (ht : t ∈ d.passes.targets) {s : Sample} (hs : s ∈ d.samples written) (h : s.name = t.name) :
    s = t.sample written := by
  rcases List.mem_append.1 hs with hs | hs
  · -- an image is sampled under the name of a parameter, which no target has
    obtain ⟨p, hp, rfl⟩ := List.mem_map.1 hs
    have hname : p.sample.name = p.name := by
      unfold Parameter.sample
      split <;> rfl
    refine absurd ?_ (hd.passes.apart t ht)
    rw [← h, hname]
    exact List.mem_map_of_mem (mem_parameters_of_mem_images hp)
  · obtain ⟨u, hu, rfl⟩ := List.mem_map.1 hs
    rw [hd.target_unique ht hu h]

/-- **What a pass samples a target as**: the buffer of its sample. -/
theorem bindSampler_mem_iff (hd : d.WellFormed) {t : Target} (ht : t ∈ d.passes.targets)
    {buffer : Option Buffer} :
    (∃ unit, Command.bindSampler t.name unit buffer ∈ d.passCommands pool program clock pass) ↔
      buffer = (t.sample pass.written).handle.bind pool.buffer? := by
  have hmem {unit : Nat} :
      Command.bindSampler t.name unit buffer ∈ d.passCommands pool program clock pass ↔
        Command.bindSampler t.name unit buffer ∈
          Sample.allCommands pool 0 (d.samples pass.written) := by
    rw [mem_passCommands]
    simp [not_mem_inputCommands, not_mem_builtinCommands]
  simp only [hmem, Sample.bindSampler_mem_allCommands]
  constructor
  · rintro ⟨unit, i, s, hi, hname, -, rfl⟩
    rw [hd.sample_eq ht (List.mem_of_getElem? hi) hname]
  · intro h
    have hin : t.sample pass.written ∈ d.samples pass.written :=
      List.mem_append_right _ (List.mem_map_of_mem ht)
    obtain ⟨i, hi⟩ := List.mem_iff_getElem?.1 hin
    exact ⟨0 + i, i, _, hi, rfl, rfl, h⟩

end Document

/-- **The draws of a frame are its passes.** -/
theorem draws_shots (program : Program) (clock : Clock) (shots : List Shot) :
    draws (shots.flatMap (Shot.commands program clock)) =
      shots.map (Shot.commands program clock) := by
  induction shots with
  | nil => rfl
  | cons shot shots ih =>
      obtain ⟨cs, hcs, hdraw⟩ : ∃ cs, shot.commands program clock = cs ++ [.draw] ∧
          Command.draw ∉ cs := Document.passCommands_eq
      rw [List.flatMap_cons, List.map_cons, hcs, List.append_assoc, List.singleton_append,
        draws_append_draw hdraw, ih]

namespace Studio

variable {device : Device σ} {program : Program} {clock : Clock} {renderSize : Size}

/-- **How each pass of a frame was drawn**: after the passes before it were, it found its own
buffer. -/
theorem Drawn.exists_before {index : Nat} {written names : List String} {s s' : Studio σ}
    {shots : List Shot} (h : Drawn device program clock renderSize index written names s shots s')
    {i : Nat} {shot : Shot} (hi : shots[i]? = some shot) :
    ∃ s₀ s₁ name handle buffer size,
      Drawn device program clock renderSize index written (names.take i) s (shots.take i) s₀ ∧
      Lending device renderSize name s₀ (handle, size) s₁ ∧ names[i]? = some name ∧
      Option.Rel (fun h b => s₁.supply.pool.buffer? h = some b) handle buffer ∧
      shot = ⟨s₁.document, s₁.supply.pool,
        ⟨index + i, buffer, size, (names.take i).foldl writtenAfter written⟩,
        ⟨index + i, name, size, handle⟩⟩ := by
  induction h generalizing i with
  | nil => cases hi
  | cons hlending hbuffer hshot _ ih =>
      cases i with
      | zero =>
          cases hi
          exact ⟨_, _, _, _, _, _, .nil _ _ _, hlending, rfl, hbuffer, hshot⟩
      | succ i =>
          obtain ⟨s₀, s₁, name, handle, buffer, size, hdrawn, hlending', hname, hbuffer', rfl⟩ :=
            ih hi
          refine ⟨s₀, s₁, name, handle, buffer, size, .cons hlending hbuffer hshot hdrawn,
            hlending', hname, hbuffer', ?_⟩
          simp only [List.take_succ_cons, List.foldl_cons, Nat.add_assoc, Nat.add_comm 1]

/-- Every pass is drawn once. -/
theorem Drawn.length_eq {index : Nat} {written names : List String} {s s' : Studio σ}
    {shots : List Shot}
    (h : Drawn device program clock renderSize index written names s shots s') :
    shots.length = names.length := by
  induction h with
  | nil => rfl
  | cons _ _ _ _ ih => rw [List.length_cons, List.length_cons, ih]

/-- The passes before a pass have only lent buffers. -/
theorem Drawn.exists_of_getElem? {index : Nat} {written names : List String} {s s' : Studio σ}
    {shots : List Shot} (h : Drawn device program clock renderSize index written names s shots s')
    (hs : s.supply.pool.Consistent) (hd : s.document.WellFormed) {i : Nat} {shot : Shot}
    (hi : shots[i]? = some shot) :
    ∃ s₀ s₁ name handle buffer size, OnlyLends s s₀ ∧
      Lending device renderSize name s₀ (handle, size) s₁ ∧ names[i]? = some name ∧
      Option.Rel (fun h b => s₁.supply.pool.buffer? h = some b) handle buffer ∧
      shot = ⟨s₁.document, s₁.supply.pool,
        ⟨index + i, buffer, size, (names.take i).foldl writtenAfter written⟩,
        ⟨index + i, name, size, handle⟩⟩ := by
  obtain ⟨s₀, s₁, name, handle, buffer, size, hdrawn, hrest⟩ := h.exists_before hi
  exact ⟨s₀, s₁, name, handle, buffer, size, hdrawn.onlyLends hs hd, hrest⟩

/-- The targets that have been drawn into after some passes. -/
theorem mem_foldl_writtenAfter {name : String} (hname : name ≠ "") {names written : List String} :
    name ∈ names.foldl writtenAfter written ↔ name ∈ names ∨ name ∈ written := by
  induction names generalizing written with
  | nil => simp
  | cons n names ih =>
      rw [List.foldl_cons, ih, writtenAfter, List.mem_cons]
      split
      · rename_i hn
        have : name ≠ n := fun h => hname (h.trans hn)
        simp [this]
      · rw [List.mem_cons]
        tauto

end Studio

end ShaderEffect
