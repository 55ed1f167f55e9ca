/-
**What stands in front of the body of a program.**

In front of the body, in whole lines, stand the version, the declarations, the sampling functions of
the shapes that occur, and in vertex programs one more function.  What is read off the lines of it
is therefore read off these parts, of which only the declarations depend on names.

Main definitions:

* `ShaderEffect.Dialect.openings`, `ShaderEffect.Interface.closings` — what can stand in front of
  the declarations, and behind the sampling functions;
* `ShaderEffect.SamplingFunction.Neat` — the definition of a function is written in lines, and its
  first line differs from the others.

Main results:

* `ShaderEffect.Interface.exists_stageFront_eq` — the parts of what stands in front of a body;
* `ShaderEffect.Interface.readLines_functions` — what is read off the sampling functions;
* `ShaderEffect.Interface.readLines_stageFront` — **a front is read part by part**.
-/

import ShaderEffect.Program.Source
import ShaderEffect.Proofs.Text.Lines

set_option autoImplicit false

namespace ShaderEffect

/-! ### Sampling functions -/

/-- Behind a tab, the text goes on with a return, or with another tab. -/
def Text.IsIndented (text : String) : Prop := ∃ c ∈ ['r', '\t'], ['\t', c] <+: text.toList

theorem Text.isIndented_ofList {c : Char} {rest : List Char} (hc : c ∈ ['r', '\t']) :
    IsIndented (String.ofList ('\t' :: c :: rest)) := by
  refine ⟨c, hc, ?_⟩
  rw [String.toList_ofList]
  exact List.prefix_append ['\t', c] rest

theorem Text.IsIndented.append {a : String} (ha : IsIndented a) (b : String) :
    IsIndented (a ++ b) := by
  obtain ⟨c, hc, h⟩ := ha
  refine ⟨c, hc, ?_⟩
  rw [String.toList_append]
  exact h.trans (List.prefix_append _ _)

open Text (Lacks Unbroken Whole Silent IsIndented readLines lacks_ofList unbroken_ofList
  isIndented_ofList)

/-- The definition of the function is written in lines, of which the first one is its heading. -/
structure SamplingFunction.Neat (f : SamplingFunction) : Prop where
  name : Unbroken f.name
  parameters : ∀ v ∈ f.parameters, Lacks ['\n', '('] v.type ∧ Lacks ['\n', '('] v.name
  /-- The other lines are indented, and name no vector of four components. -/
  body : ∀ line ∈ f.body, Lacks ['\n', '4'] line ∧ IsIndented line

theorem Shape.lacks_samplerType (shape : Shape) : Lacks ['\n', '('] shape.samplerType := by
  cases shape <;> exact lacks_ofList (by decide)

theorem Shape.lacks_functionPart (shape : Shape) : Lacks ['\n', '4'] shape.functionPart := by
  cases shape <;> exact lacks_ofList (by decide)

theorem Dialect.lacks_sampleFunction (d : Dialect) (shape : Shape) :
    Lacks ['\n', '4'] (d.sampleFunction shape) := by
  unfold sampleFunction
  split
  · exact lacks_ofList (by decide)
  · cases shape <;> exact lacks_ofList (by decide)

theorem Shape.lacks_parameters {place : Variable} (shape : Shape)
    (hplace : Lacks ['\n', '('] place.type ∧ Lacks ['\n', '('] place.name) :
    ∀ v ∈ shape.imageParameters ++ [place],
      Lacks ['\n', '('] v.type ∧ Lacks ['\n', '('] v.name := by
  intro v hv
  simp only [imageParameters, List.cons_append, List.nil_append, List.mem_cons, List.not_mem_nil,
    or_false] at hv
  rcases hv with rfl | rfl | rfl | rfl | rfl
  · exact ⟨shape.lacks_samplerType, lacks_ofList (by decide)⟩
  · exact ⟨lacks_ofList (by decide), lacks_ofList (by decide)⟩
  · exact ⟨lacks_ofList (by decide), lacks_ofList (by decide)⟩
  · exact ⟨lacks_ofList (by decide), lacks_ofList (by decide)⟩
  · exact hplace

theorem Shape.neat_pixelFunction (d : Dialect) (shape : Shape) :
    (shape.pixelFunction d).Neat := by
  constructor
  · exact ((unbroken_ofList (by decide)).append
      (shape.lacks_functionPart.unbroken (by decide))).append (unbroken_ofList (by decide))
  · exact shape.lacks_parameters ⟨lacks_ofList (by decide), lacks_ofList (by decide)⟩
  · have hx : Lacks ['\n', '4'] "((loc.x/samplerImgSize.x*samplerImgRect.z)+samplerImgRect.x)" :=
      lacks_ofList (by decide)
    have hy : Lacks ['\n', '4'] "(loc.y/samplerImgSize.y*samplerImgRect.w)" :=
      lacks_ofList (by decide)
    have hline {start middle back line : String} (hindented : IsIndented start)
        (hstart : Lacks ['\n', '4'] start) (hmiddle : Lacks ['\n', '4'] middle)
        (hback : Lacks ['\n', '4'] back)
        (hline : line = start ++ d.sampleFunction shape ++ "(sampler, vec2(" ++
          "((loc.x/samplerImgSize.x*samplerImgRect.z)+samplerImgRect.x)" ++ middle ++
          "(loc.y/samplerImgSize.y*samplerImgRect.w)" ++ back) :
        Lacks ['\n', '4'] line ∧ IsIndented line := by
      subst hline
      exact ⟨(((((hstart.append (d.lacks_sampleFunction shape)).append
        (lacks_ofList (by decide))).append hx).append hmiddle).append hy).append hback,
        (((((hindented.append _).append _).append _).append _).append _).append _⟩
    intro line hmem
    simp only [pixelFunction, List.mem_cons, List.not_mem_nil, or_false] at hmem
    rcases hmem with rfl | rfl | rfl
    · exact ⟨lacks_ofList (by decide), isIndented_ofList (by decide)⟩
    · exact hline (isIndented_ofList (by decide)) (lacks_ofList (by decide))
        (lacks_ofList (by decide)) (lacks_ofList (by decide)) rfl
    · exact hline (isIndented_ofList (by decide)) (lacks_ofList (by decide))
        (lacks_ofList (by decide)) (lacks_ofList (by decide)) rfl

theorem Shape.neat_normFunction (d : Dialect) (shape : Shape) :
    (shape.normFunction d).Neat := by
  cases shape with
  | cube =>
    refine ⟨unbroken_ofList (by decide), lacks_parameters .cube
      ⟨lacks_ofList (by decide), lacks_ofList (by decide)⟩, fun line hline => ?_⟩
    obtain rfl := List.mem_singleton.1 hline
    exact ⟨((lacks_ofList (by decide)).append (d.lacks_sampleFunction .cube)).append
      (lacks_ofList (by decide)), ((isIndented_ofList (by decide)).append _).append _⟩
  | _ =>
    refine ⟨((unbroken_ofList (by decide)).append ((lacks_functionPart _).unbroken
      (by decide))).append (unbroken_ofList (by decide)), lacks_parameters _
      ⟨lacks_ofList (by decide), lacks_ofList (by decide)⟩, fun line hline => ?_⟩
    obtain rfl := List.mem_singleton.1 hline
    exact ⟨(((lacks_ofList (by decide)).append (lacks_functionPart _)).append
      (lacks_ofList (by decide))).append (lacks_ofList (by decide)),
      (((isIndented_ofList (by decide)).append _).append _).append _⟩

theorem Shape.neat_of_mem {d : Dialect} {shape : Shape} {f : SamplingFunction}
    (h : f ∈ shape.samplingFunctions d) : f.Neat := by
  have hmem : f = shape.pixelFunction d ∨ f = shape.normFunction d := by
    cases shape <;> simp_all [samplingFunctions]
  rcases hmem with rfl | rfl
  · exact shape.neat_pixelFunction d
  · exact shape.neat_normFunction d

namespace SamplingFunction

variable {f : SamplingFunction}

/-- The parameters of the function as they stand in its heading. -/
def parameterText (f : SamplingFunction) : String :=
  ", ".intercalate (f.parameters.map fun v => v.type ++ " " ++ v.name)

theorem Neat.lacks_parameterText (h : f.Neat) : Lacks ['\n', '('] f.parameterText := by
  have hcomma : Lacks ['\n', '('] ", " := lacks_ofList (by decide)
  refine hcomma.intercalate fun text htext => ?_
  obtain ⟨v, hv, rfl⟩ := List.mem_map.1 htext
  obtain ⟨htype, hname⟩ := h.parameters v hv
  exact (htype.append (lacks_ofList (by decide))).append hname

/-- The heading of a function stands in one line. -/
theorem Neat.unbroken_heading (h : f.Neat) : Unbroken f.heading :=
  ((((unbroken_ofList (by decide)).append h.name).append (unbroken_ofList (by decide))).append
    (h.lacks_parameterText.unbroken (by decide))).append (unbroken_ofList (by decide))

theorem Neat.unbroken_lines (h : f.Neat) : ∀ line ∈ f.lines, Unbroken line := by
  intro line hline
  simp only [lines, List.cons_append, List.mem_cons, List.mem_append, List.not_mem_nil,
    or_false] at hline
  rcases hline with rfl | hline | rfl
  · exact h.unbroken_heading
  · exact (h.body line hline).1.unbroken (by decide)
  · exact unbroken_ofList (by decide)

end SamplingFunction

/-! ### The parts of a front -/

/-- What can stand in front of the declarations: the version, and in one dialect an extension. -/
def Dialect.openings (d : Dialect) : List String :=
  [d.preamble ++ ("#extension GL_ARB_texture_rectangle : enable\n" ++ "\n"), d.preamble ++ "\n"]

namespace Interface

variable {i : Interface} {d : Dialect} {block : Bool} {stage : Stage}

/-- What can stand behind the sampling functions: the function that vertex programs call first. -/
def closings : List String := [vertexStart ++ "\n", "\n"]

/-- **The parts of what stands in front of a body.** -/
theorem exists_stageFront_eq (i : Interface) (d : Dialect) (block : Bool) (stage : Stage) :
    ∃ opening ∈ d.openings, ∃ closing ∈ closings, i.stageFront d block stage =
      opening ++ (i.declarations d stage block ++ (i.functions d ++ closing)) := by
  have hopening : d.preamble ++ ((if i.samples .rectangle && d == .gl2 then
      "#extension GL_ARB_texture_rectangle : enable\n" else "") ++ "\n") ∈ d.openings := by
    split
    · exact List.mem_cons_self
    · rw [String.empty_append]
      exact List.mem_cons_of_mem _ List.mem_cons_self
  refine ⟨_, hopening, ?_⟩
  cases stage with
  | vertex =>
    exact ⟨_, List.mem_cons_self, by simp only [stageFront, String.append_assoc]⟩
  | fragment =>
    refine ⟨_, List.mem_cons_of_mem _ List.mem_cons_self, ?_⟩
    simp only [stageFront, String.append_assoc, String.empty_append]

theorem whole_declarations (i : Interface) (d : Dialect) (stage : Stage) (block : Bool) :
    Whole (i.declarations d stage block) := by
  have hlines (start : String) (vs : List Variable) : Whole (String.join
      (vs.map fun v => start ++ v.type ++ " " ++ v.name ++ ";\n")) := by
    refine .join fun text htext => ?_
    obtain ⟨v, -, rfl⟩ := List.mem_map.1 htext
    exact .behind _ rfl
  refine .append (.append ?_ (.join fun text htext => ?_)) ?_
  · unfold uniformLines
    split
    · exact .behind _ rfl
    · exact hlines "uniform " i.uniforms
  · obtain ⟨s, -, rfl⟩ := List.mem_map.1 htext
    exact .behind _ rfl
  · refine .append (.behind _ rfl) ?_
    cases stage with
    | vertex => exact .behind _ rfl
    | fragment =>
      dsimp only
      split
      · exact Or.inr (by decide)
      · exact .empty

theorem whole_functions (i : Interface) (d : Dialect) : Whole (i.functions d) := by
  refine .join fun text htext => ?_
  obtain ⟨line, -, rfl⟩ := List.mem_map.1 htext
  exact .append_break line

section Reading

variable {α : Type} {read : List Char → Option α}

/-- What is read off the sampling functions is read off their lines. -/
theorem readLines_functions (hempty : read [] = none) (i : Interface) (d : Dialect) :
    readLines read (i.functions d) = (i.samplingFunctions d).flatMap fun f =>
      f.lines.filterMap fun line => read line.toList := by
  rw [functions, Text.readLines_lines hempty, samplingFunctions]
  · induction i.shapes with
    | nil => rfl
    | cons shape shapes ih =>
      rw [List.flatMap_cons, List.flatMap_cons, List.filterMap_append, ih, List.flatMap_append,
        List.filterMap_cons_none (f := fun line : String => read line.toList) (a := "") hempty,
        List.filterMap_flatMap]
  · intro line hline
    obtain ⟨shape, -, hline⟩ := List.mem_flatMap.1 hline
    rcases List.mem_cons.1 hline with rfl | hline
    · exact unbroken_ofList (by decide)
    · obtain ⟨f, hf, hline⟩ := List.mem_flatMap.1 hline
      exact (Shape.neat_of_mem hf).unbroken_lines line hline

/-- **A front is read part by part**, if nothing is read off the lines that stand in front of the
declarations and behind the sampling functions. -/
theorem readLines_stageFront (hempty : read [] = none) (hpreamble : Silent read d.preamble)
    (hextension : Silent read "#extension GL_ARB_texture_rectangle : enable\n")
    (hstart : Silent read vertexStart) :
    readLines read (i.stageFront d block stage) =
      readLines read (i.declarations d stage block) ++ readLines read (i.functions d) := by
  have hbreak : Silent read "\n" := Text.silent_break hempty
  have hopenings : ∀ text ∈ d.openings, Silent read text := by
    simp only [Dialect.openings, List.forall_mem_cons]
    exact ⟨hpreamble.append hempty (hextension.append hempty hbreak),
      hpreamble.append hempty hbreak, fun _ h => absurd h List.not_mem_nil⟩
  have hclosings : ∀ text ∈ closings, Silent read text := by
    simp only [closings, List.forall_mem_cons]
    exact ⟨hstart.append hempty hbreak, hbreak, fun _ h => absurd h List.not_mem_nil⟩
  obtain ⟨opening, hopening, closing, hclosing, hfront⟩ := i.exists_stageFront_eq d block stage
  have hopening := hopenings opening hopening
  rw [hfront, Text.readLines_append hempty hopening.whole, hopening.nothing, List.nil_append,
    Text.readLines_append hempty (i.whole_declarations d stage block),
    Text.readLines_append hempty (i.whole_functions d), (hclosings closing hclosing).nothing,
    List.append_nil]

end Reading

end Interface

end ShaderEffect
