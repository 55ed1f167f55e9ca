/-
**What calls stand for is there.**

A call of a macro is replaced by the variable that holds the size of an image, or by a call of a
sampling function.  The macros, the sampling functions and the declarations are listed in different
places, but they fit: in front of the body stands the definition of the function, with parameters of
the types that the sampler and its companions are declared with, and these declarations stand there
as well.

The names of the metadata stand among the declarations as they are.  So the function is defined
once if no name has a parenthesis in it, and the image is declared with one type if no name has a
semicolon or a line break in it and no name is declared twice.  Reading asks for neither.

Main definitions:

* `ShaderEffect.Text.Defines`, `ShaderEffect.Text.DefinesOnce` — a text defines a sampling function;
* `ShaderEffect.Sampler.Declared`, `ShaderEffect.Sampler.DeclaredOnce` — a text declares what stands
  for an image;
* `ShaderEffect.Sampler.Uses` — **what a call stands for uses** a sampling function, or none.

Main results:

* `ShaderEffect.Sampler.uses_of_standsFor` — what a call stands for uses what is defined;
* `ShaderEffect.Document.generate_closed` — **and so the programs of all documents are closed**;
* `ShaderEffect.Document.exists_generate_not_closed` — names can declare an image twice, and define
  a sampling function twice.
-/

import Mathlib.Data.List.Basic
import ShaderEffect.Proofs.Document.Interface
import ShaderEffect.Proofs.Program.Definitions
import ShaderEffect.Proofs.Program.Generation
import ShaderEffect.Proofs.Program.Given
import ShaderEffect.Proofs.Scene.Commands

set_option autoImplicit false

namespace ShaderEffect

open Text (Lacks)

/-! ### Parts of a text -/

namespace Text

/-- The text contains a part. -/
def Contains (text part : String) : Prop := ∃ before after, text = before ++ part ++ after

namespace Contains

variable {a b part : String}

theorem refl (a : String) : Contains a a :=
  ⟨"", "", by rw [String.append_empty, String.empty_append]⟩

theorem left (h : Contains a part) : Contains (a ++ b) part := by
  obtain ⟨before, after, rfl⟩ := h
  exact ⟨before, after ++ b, String.append_assoc⟩

theorem right (h : Contains b part) : Contains (a ++ b) part := by
  obtain ⟨before, after, rfl⟩ := h
  exact ⟨a ++ before, after, by simp only [String.append_assoc]⟩

/-- Lines that stand together stand in the text. -/
theorem of_lines {lines all : List String} (h : lines <:+: all) :
    Contains (String.join (all.map (· ++ "\n"))) (String.join (lines.map (· ++ "\n"))) := by
  obtain ⟨before, after, rfl⟩ := h
  refine ⟨String.join (before.map (· ++ "\n")), String.join (after.map (· ++ "\n")), ?_⟩
  rw [List.map_append, List.map_append, String.join_append, String.join_append]

theorem join {α : Type} {x : α} {xs : List α} {line : α → String} (hx : x ∈ xs) :
    Contains (String.join (xs.map line)) (line x) := by
  induction xs with
  | nil => cases hx
  | cons y xs ih =>
    rw [List.map_cons, String.join_cons]
    rcases List.mem_cons.1 hx with rfl | hx
    · exact (refl _).left
    · exact (ih hx).right

end Contains

end Text

open Text (Contains)

/-! ### Definitions and declarations -/

/-- Of declarations with different names, one declares a name. -/
theorem Declaration.filter_name_eq {xs : List Declaration} {x : Declaration}
    (hnodup : (xs.map Declaration.name).Nodup) (hx : x ∈ xs) :
    xs.filter (·.name = x.name) = [x] := by
  have heq : xs.filter (·.name = x.name) = xs.filter (· = x) :=
    List.filter_congr fun y hy => decide_eq_decide.2
      ⟨fun hname => List.inj_on_of_nodup_map hnodup hy hx hname, congrArg Declaration.name⟩
  rw [heq, List.filter_eq, List.count_eq_one_of_mem hnodup.of_map hx]
  rfl

/-- The text defines the sampling function `f`, for samplers of a type: the heading stands in it,
and behind it indented lines and a brace. -/
def Text.Defines (text f type parameter : String) : Prop :=
  ∃ body : List String, (∀ line ∈ body, Text.IsIndented line) ∧ Contains text
    (String.join ((headingText f type parameter :: body ++ ["\x7d"]).map (· ++ "\n")))

/-- The text defines the sampling function `f`, and no other line of it looks like a definition of
that name. -/
def Text.DefinesOnce (text f type parameter : String) : Prop :=
  Text.Defines text f type parameter ∧
    Text.linesWith ("vec4 " ++ f ++ "(") text = [(headingText f type parameter).toList]

namespace Sampler

/-- The declarations of what stands for an image: its sampler, and what accompanies that, in a block
or on its own. -/
def declarations (s : Sampler) (block : Bool) : List Declaration :=
  let word := if block then "\t" else "uniform "
  [⟨"uniform ", s.shape.samplerType, s.name⟩, ⟨word, "vec4", "_" ++ s.name ++ "_imgRect"⟩,
    ⟨word, "vec2", "_" ++ s.name ++ "_imgSize"⟩, ⟨word, "bool", "_" ++ s.name ++ "_flip"⟩]

/-- The text declares what stands for the image. -/
def Declared (s : Sampler) (block : Bool) (text : String) : Prop :=
  ∀ x ∈ s.declarations block, Contains text (x.line ++ "\n")

/-- The text declares what stands for the image, each name in one line only. -/
def DeclaredOnce (s : Sampler) (block : Bool) (text : String) : Prop :=
  ∀ x ∈ s.declarations block, (Text.declarations text).filter (·.name = x.name) = [x]

/-- What a call on the sampler stands for is the name of the size, or a call of a function that is
defined for samplers of this type. -/
def Uses (s : Sampler) (defines : String → String → String → Prop) (text : String) : Prop :=
  text = "_" ++ s.name ++ "_imgSize" ∨ ∃ f place parameter,
    text = sampledText f s.name place ∧ defines f s.shape.samplerType parameter

variable {s : Sampler} {m : ImageMacro} {places : List (List Char)} {text : List Char}

/-- **What a call stands for** is the name of the size, or a call of a function for the shape. -/
theorem uses_of_standsFor (h : m.StandsFor s places text)
    {defines : String → String → String → Prop}
    (hdefines : ∀ g ∈ s.shape.sampledBy, defines g.1 s.shape.samplerType g.2) :
    s.Uses defines (String.ofList text) := by
  -- pixels of a cube are sampled in a direction
  have hpixel : ∃ parameter, (s.shape.byPixel, parameter) ∈ s.shape.sampledBy := by
    cases s.shape <;> exact ⟨_, List.mem_cons_self⟩
  have hnorm : ∃ parameter, (s.shape.byNorm, parameter) ∈ s.shape.sampledBy := by
    cases s.shape with
    | cube => exact ⟨_, List.mem_cons_self⟩
    | _ => exact ⟨_, List.mem_cons_of_mem _ List.mem_cons_self⟩
  obtain ⟨pixelParameter, hpixel⟩ := hpixel
  obtain ⟨normParameter, hnorm⟩ := hnorm
  cases h with
  | size => exact Or.inl String.ofList_toList
  | pixel place => exact Or.inr ⟨_, _, _, String.ofList_toList, hdefines _ hpixel⟩
  | normPixel place => exact Or.inr ⟨_, _, _, String.ofList_toList, hdefines _ hnorm⟩
  | thisPixel => exact Or.inr ⟨_, _, _, String.ofList_toList, hdefines _ hpixel⟩
  | thisNormPixel => exact Or.inr ⟨_, _, _, String.ofList_toList, hdefines _ hnorm⟩

end Sampler

/-! ### What stands in front of a body -/

namespace Interface

variable {i : Interface} {d : Dialect} {block : Bool} {stage : Stage} {s : Sampler}

theorem shape_mem_shapes (hs : s ∈ i.samplers) : s.shape ∈ i.shapes := by
  rw [shapes, List.mem_filter, samples, List.any_eq_true]
  exact ⟨by cases s.shape <;> simp, s, hs, decide_eq_true rfl⟩

/-- What stands for an image is declared. -/
theorem mem_declarationList (hs : s ∈ i.samplers) {x : Declaration}
    (hx : x ∈ s.declarations block) : x ∈ i.declarationList d block stage := by
  have hcompanion {v : Variable} (hv : v ∈ s.companions) :
      .of (if block then "\t" else "uniform ") v ∈ i.declarationList d block stage :=
    List.mem_append_left _ (List.mem_append_left _ (List.mem_map_of_mem
      (List.mem_append_right _ (List.mem_flatMap.2 ⟨s, hs, hv⟩))))
  simp only [Sampler.declarations, List.mem_cons, List.not_mem_nil, or_false] at hx
  rcases hx with rfl | rfl | rfl | rfl
  · exact List.mem_append_left _ (List.mem_append_right _ (List.mem_map_of_mem hs))
  · exact hcompanion (v := ⟨"vec4", Sampler.rectName s.name⟩) (by simp [Sampler.companions])
  · exact hcompanion (v := ⟨"vec2", Sampler.sizeName s.name⟩) (by simp [Sampler.companions])
  · exact hcompanion (v := ⟨"bool", Sampler.flipName s.name⟩) (by simp [Sampler.companions])

/-- What is to be declared stands in front of the body, line by line. -/
theorem contains_of_mem_declarationList {x : Declaration}
    (hx : x ∈ i.declarationList d block stage) :
    Contains (i.stageFront d block stage) (x.line ++ "\n") := by
  have hlines {xs : List Declaration} (hx : x ∈ xs) :
      Contains (Declaration.linesText xs) (x.line ++ "\n") := .join hx
  have htext : Contains (i.declarations d stage block) (x.line ++ "\n") := by
    rw [declarations_eq]
    rcases List.mem_append.1 hx with hx | hx
    · rcases List.mem_append.1 hx with hx | hx
      · exact (hlines hx).right.left.left.left.left
      · exact (hlines hx).right.left.left
    · exact (hlines hx).right.left
  unfold stageFront
  exact htext.right.left.left.left

/-- The sampling functions of the shapes that occur are defined. -/
theorem defines_stageFront {shape : Shape} {g : String × String} (hshape : shape ∈ i.shapes)
    (hg : g ∈ shape.sampledBy) :
    Text.Defines (i.stageFront d block stage) g.1 shape.samplerType g.2 := by
  have hheading : headingText g.1 shape.samplerType g.2 ∈
      (shape.samplingFunctions d).map SamplingFunction.heading := by
    rw [shape.map_heading]
    exact List.mem_map_of_mem hg
  obtain ⟨f, hf, hheading⟩ := List.mem_map.1 hheading
  have hlines : f.lines <:+: i.shapes.flatMap fun shape =>
      "" :: (shape.samplingFunctions d).flatMap SamplingFunction.lines := by
    have hfunctions : f.lines <:+: (shape.samplingFunctions d).flatMap SamplingFunction.lines :=
      List.infix_of_mem_flatten (List.mem_map_of_mem hf)
    exact (hfunctions.trans (List.suffix_cons ..).isInfix).trans
      (List.infix_of_mem_flatten (List.mem_map_of_mem hshape))
  have htext : Contains (i.functions d) (String.join (f.lines.map (· ++ "\n"))) :=
    .of_lines hlines
  refine ⟨f.body, fun line hline => ((Shape.neat_of_mem hf).body line hline).2, ?_⟩
  rw [← hheading]
  unfold stageFront
  exact htext.right.left.left

end Interface

/-! ### Documents -/

namespace Document

variable {d : Document} {settings : SceneSettings} {source : ProgramSource} {stage : Stage}

/-- No two samplers of a document have one name. -/
theorem WellFormed.nodup_samplers (hd : d.WellFormed) : (d.samplers.map Sampler.name).Nodup := by
  rw [map_name_samplers, ← map_name_samples d []]
  exact hd.nodup_samples []

/-- Where no name of the metadata has a parenthesis, a sampling function is defined once. -/
theorem linesWith_front (hnames : ∀ name ∈ d.givenNames, Lacks ['('] name) {shape : Shape}
    {g : String × String} (hshape : shape ∈ d.programInterface.shapes) (hg : g ∈ shape.sampledBy) :
    Text.linesWith ("vec4 " ++ g.1 ++ "(") (d.front settings stage) =
      [(headingText g.1 shape.samplerType g.2).toList] := by
  have hline : ∀ x ∈ d.declared settings stage, Lacks ['('] (x.line ++ "\n") := by
    intro x hx
    have hname : Lacks ['('] x.name :=
      lacks_of_mem_declared (by decide) hnames x hx
    have hknown := Interface.isKnown_of_mem d.type_mem_types x hx
    have hwords : ∀ word ∈ "" :: Declaration.qualifiers, Lacks ['('] word := by decide
    have htypes : ∀ type ∈ Declaration.types, Lacks ['('] type := by decide
    exact (((((hwords _ hknown.word).append (htypes _ hknown.type)).append (by decide)).append
      hname).append (by decide)).append (by decide)
  rw [front, Interface.linesWith_stageFront hshape hg, List.flatMap_eq_nil_iff.2 fun x hx => ?_]
  · rfl
  · rw [Text.linesWith_eq, Text.readLines_eq_nil (c := '(')
      (fun line hline => Text.heading?_eq_none (Or.inl rfl) hline)
      (hline x hx '(' List.mem_cons_self)]
    rfl

/-- **The programs of all documents are closed.**  What a call stands for that is met in the body
stands in the program, and all it uses stands in front of the body: the image is declared there with
what accompanies it, and the sampling function is defined there for samplers of that type.  If no
name of the metadata has a parenthesis, nothing else there looks like a definition of the function.
If no name has a semicolon or a line break and no name is declared twice, nothing else declares the
image or what accompanies it.  And the first argument of a call names one sampler, unless the
document could not have been read. -/
theorem generate_closed (h : d.generate settings = .ok source) (stage : Stage) :
    ∃ out, source.program stage = d.front settings stage ++ String.ofList out ∧
      ∀ m opened, Met none (d.body stage) m opened → ∃ a s places text,
        m.Expands d.samplers opened a s places text ∧ text <:+: out ∧
        s.Declared settings.uniformBlock (d.front settings stage) ∧
        s.Uses (Text.Defines (d.front settings stage)) (String.ofList text) ∧
        ((∀ name ∈ d.givenNames, Lacks ['('] name) →
          s.Uses (Text.DefinesOnce (d.front settings stage)) (String.ofList text)) ∧
        ((∀ name ∈ d.givenNames, Lacks [';', '\n'] name) →
          ((d.declared settings stage).map Declaration.name).Nodup →
            s.DeclaredOnce settings.uniformBlock (d.front settings stage)) ∧
        (d.WellFormed → ∀ t ∈ d.samplers, t.name = s.name → t = s) := by
  obtain ⟨-, hwritten⟩ := generate_eq_ok_iff_written.1 h
  obtain ⟨out, hout, hsource⟩ := hwritten stage
  refine ⟨out, hsource, fun m opened hmet => ?_⟩
  obtain ⟨a, s, places, text, hexpands, -, htext⟩ := hout.exists_inserted hmet
  have hs : s ∈ d.samplers := List.mem_of_find?_eq_some hexpands.sampler
  have hshape : s.shape ∈ d.programInterface.shapes := Interface.shape_mem_shapes hs
  have hdefines (g : String × String) (hg : g ∈ s.shape.sampledBy) :
      Text.Defines (d.front settings stage) g.1 s.shape.samplerType g.2 :=
    Interface.defines_stageFront hshape hg
  refine ⟨a, s, places, text, hexpands, htext, fun x hx => ?_,
    Sampler.uses_of_standsFor hexpands.standsFor hdefines, fun hnames => ?_,
    fun hnames hnodup x hx => ?_, fun hd t ht hname =>
      List.inj_on_of_nodup_map hd.nodup_samplers ht hs hname⟩
  · exact Interface.contains_of_mem_declarationList (Interface.mem_declarationList hs hx)
  · exact Sampler.uses_of_standsFor hexpands.standsFor fun g hg =>
      ⟨hdefines g hg, linesWith_front hnames hshape hg⟩
  · have hlacks : ∀ x ∈ d.declared settings stage, Lacks [';', '\n'] x.name :=
      lacks_of_mem_declared (by decide) hnames
    have hdeclares := (Interface.declares_stageFront d.type_mem_types).each hlacks
    rw [front, hdeclares]
    exact Declaration.filter_name_eq hnodup (Interface.mem_declarationList hs hx)

/-- **Both programs of an effect with images of all shapes** are closed, and in both bodies calls
are met. -/
theorem generate_closed_mixed : ∃ source, mixedDocument.generate ⟨.gl33, true⟩ = .ok source ∧
    ∀ stage, (∃ m opened, Met none (mixedDocument.body stage) m opened) ∧
      ∃ out, source.program stage = mixedDocument.front ⟨.gl33, true⟩ stage ++ String.ofList out ∧
        ∀ m opened, Met none (mixedDocument.body stage) m opened → ∃ a s places text,
          m.Expands mixedDocument.samplers opened a s places text ∧ text <:+: out ∧
          s.Uses (Text.DefinesOnce (mixedDocument.front ⟨.gl33, true⟩ stage)) (String.ofList text) ∧
          s.DeclaredOnce true (mixedDocument.front ⟨.gl33, true⟩ stage) := by
  have hok : (mixedDocument.generate ⟨.gl33, true⟩).isOk = true := by decide +kernel
  have hnames : ∀ name ∈ mixedDocument.givenNames, Lacks ['('] name ∧ Lacks [';', '\n'] name := by
    decide +kernel
  have hnodup (stage : Stage) :
      ((mixedDocument.declared ⟨.gl33, true⟩ stage).map Declaration.name).Nodup := by
    cases stage <;> decide +kernel
  have hmet (stage : Stage) : ∃ m opened, Met none (mixedDocument.body stage) m opened := by
    rcases callFree_or_exists_first none (mixedDocument.body stage) with
      hfree | ⟨plain, m, opened, hfirst⟩
    · have hcopied : expandMacros mixedDocument.samplers (mixedDocument.body stage) =
          .ok (mixedDocument.body stage) := expandMacros_eq_ok_iff.2 (.rest hfree)
      have hchanged : expandMacros mixedDocument.samplers (mixedDocument.body stage) ≠
          .ok (mixedDocument.body stage) := by
        cases stage <;> decide +kernel
      exact absurd hcopied hchanged
    · exact ⟨m, opened, .first hfirst⟩
  cases h : mixedDocument.generate ⟨.gl33, true⟩ with
  | error failure =>
    rw [h] at hok
    cases hok
  | ok source =>
    refine ⟨source, rfl, fun stage => ⟨hmet stage, ?_⟩⟩
    obtain ⟨out, hout, hclosed⟩ := generate_closed h stage
    refine ⟨out, hout, fun m opened hmet => ?_⟩
    obtain ⟨a, s, places, text, hexpands, htext, -, -, huses, hdeclared, -⟩ :=
      hclosed m opened hmet
    exact ⟨a, s, places, text, hexpands, htext,
      huses fun name hname => (hnames name hname).1,
      hdeclared (fun name hname => (hnames name hname).2) (hnodup stage)⟩

/-- An effect with an image that is called like the time. -/
def clockImageText : String :=
  "/*\x7b\"INPUTS\":[\x7b\"NAME\":\"TIME\",\"TYPE\":\"image\"\x7d]\x7d*/IMG_THIS_PIXEL(TIME)"

/-- An effect with an input whose name defines a sampling function on its way. -/
def definingText : String :=
  "/*\x7b\"INPUTS\":[\x7b\"NAME\":\"y;vec4 VVSAMPLER_2DBYPIXEL(sampler2D a,vec4 b,vec2 c,bool d," ++
    "vec2 e)\x7breturn b;\x7dfloat x\",\"TYPE\":\"float\"\x7d," ++
    "\x7b\"NAME\":\"i\",\"TYPE\":\"image\"\x7d]\x7d*/IMG_THIS_PIXEL(i)"

/-- **An image can be declared twice, and a sampling function defined twice.**  An image that is
called like the time is declared as a number besides, and a name can hold the definition of the
function that a call stands for.  Reading accepts both effects. -/
theorem exists_generate_not_closed :
    (∃ d source, (ofTexts clockImageText none "/").result = .ok d ∧
      d.generate .standard = .ok source ∧
      source.fragment = d.front .standard .fragment ++
        "VVSAMPLER_2DBYPIXEL(TIME, _TIME_imgRect, _TIME_imgSize, _TIME_flip, gl_FragCoord.xy)" ∧
      (Text.declarations (d.front .standard .fragment)).filter (·.name = "TIME") =
        [⟨"uniform ", "float", "TIME"⟩, ⟨"uniform ", "sampler2D", "TIME"⟩]) ∧
    ∃ d source, (ofTexts definingText none "/").result = .ok d ∧
      d.generate .standard = .ok source ∧
      source.fragment = d.front .standard .fragment ++
        "VVSAMPLER_2DBYPIXEL(i, _i_imgRect, _i_imgSize, _i_flip, gl_FragCoord.xy)" ∧
      (Text.linesWith "vec4 VVSAMPLER_2DBYPIXEL(" (d.front .standard .fragment)).length = 2 := by
  constructor
  · obtain ⟨d, source, hd, hsource, hcomputed⟩ := exists_of_computed clockImageText .standard
      (fun d => decide ((∀ name ∈ d.givenNames, Lacks [';', '\n'] name) ∧
        expandMacros d.samplers (d.body .fragment) = .ok
          ("VVSAMPLER_2DBYPIXEL(TIME, _TIME_imgRect, _TIME_imgSize, _TIME_flip, " ++
            "gl_FragCoord.xy)").toList ∧
        (d.declared .standard .fragment).filter (·.name = "TIME") =
          [⟨"uniform ", "float", "TIME"⟩, ⟨"uniform ", "sampler2D", "TIME"⟩])) true
      (by decide +kernel)
    obtain ⟨hnames, hbody, hdeclared⟩ := of_decide_eq_true hcomputed
    refine ⟨d, source, hd, hsource, program_eq .fragment hsource hbody, ?_⟩
    rw [front, (Interface.declares_stageFront d.type_mem_types).each
      (lacks_of_mem_declared (by decide) hnames)]
    exact hdeclared
  · obtain ⟨d, source, hd, hsource, hcomputed⟩ := exists_of_computed definingText .standard
      (fun d => decide (.flat ∈ d.programInterface.shapes ∧
        expandMacros d.samplers (d.body .fragment) = .ok
          "VVSAMPLER_2DBYPIXEL(i, _i_imgRect, _i_imgSize, _i_flip, gl_FragCoord.xy)".toList ∧
        ((d.declared .standard .fragment).flatMap fun x =>
          Text.linesWith ("vec4 " ++ "VVSAMPLER_2DBYPIXEL" ++ "(") (x.line ++ "\n")).length = 1))
      true (by decide +kernel)
    obtain ⟨hshape, hbody, hlines⟩ := of_decide_eq_true hcomputed
    refine ⟨d, source, hd, hsource, program_eq .fragment hsource hbody, ?_⟩
    have hpixel : ("VVSAMPLER_2DBYPIXEL", "vec2 loc") ∈ Shape.flat.sampledBy := List.mem_cons_self
    have hfront := Interface.linesWith_stageFront hshape hpixel SceneSettings.standard.dialect
      SceneSettings.standard.uniformBlock .fragment
    refine (congrArg List.length hfront).trans ?_
    rw [List.length_append]
    exact congrArg (· + 1) hlines

end Document

end ShaderEffect
