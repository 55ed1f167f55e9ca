/-
**What is defined in front of the body of a program.**

In front of the body stand the definitions of the sampling functions, of the shapes that occur.  A
definition starts with the type of the results, a name and a parenthesis.  Where no name that is
declared has a parenthesis, no other line has these in it, so that each function is defined once.

Main definitions:

* `ShaderEffect.Text.linesWith` — the lines of a text in which a part stands;
* `ShaderEffect.Text.heading?` — the lines that can start the definition of a function;
* `ShaderEffect.headingText` — the first line of the definition of a sampling function.

Main results:

* `ShaderEffect.Interface.headings_stageFront` — the lines of a front that can start definitions;
* `ShaderEffect.Interface.linesWith_stageFront` — **a sampling function is defined once**.
-/

import Mathlib.Data.List.Flatten
import Mathlib.Data.List.Infix
import ShaderEffect.Proofs.Program.Declarations

set_option autoImplicit false

namespace ShaderEffect

open Text (Lacks Silent readLines)

/-! ### Lines that can start definitions -/

namespace Text

/-- The lines of a text in which a part stands. -/
def linesWith (part text : String) : List (List Char) :=
  (text.toList.splitOn '\n').filter fun line => part.toList <:+: line

/-- A line that can start the definition of a function: it has a parenthesis, and the type of the
results of sampling functions stands in it. -/
def heading? (line : List Char) : Option (List Char) :=
  if '(' ∈ line ∧ "vec4 ".toList <:+: line then some line else none

theorem heading?_nil : heading? [] = none := if_neg fun h => List.not_mem_nil h.1

theorem heading?_eq_none {line : List Char} {c : Char} (hc : c = '(' ∨ c ∈ "vec4 ".toList)
    (h : c ∉ line) : heading? line = none := by
  refine if_neg fun hline => h ?_
  rcases hc with rfl | hc
  · exact hline.1
  · exact hline.2.subset hc

/-- The lines with the beginning of a definition are among those that can start one. -/
theorem linesWith_eq (name text : String) : linesWith ("vec4 " ++ name ++ "(") text =
    (readLines heading? text).filter fun line => ("vec4 " ++ name ++ "(").toList <:+: line := by
  have hpart : ("vec4 " ++ name ++ "(").toList = "vec4 ".toList ++ (name.toList ++ ['(']) := by
    simp only [String.toList_append, List.append_assoc]
    rfl
  rw [linesWith, readLines]
  induction text.toList.splitOn '\n' with
  | nil => rfl
  | cons line lines ih =>
    by_cases hline : ("vec4 " ++ name ++ "(").toList <:+: line
    · have hheading : heading? line = some line := by
        rw [hpart] at hline
        refine if_pos ⟨hline.subset (by simp), List.IsInfix.trans ?_ hline⟩
        exact (List.prefix_append ..).isInfix
      rw [List.filter_cons_of_pos (by simpa using hline), ih, List.filterMap_cons_some hheading,
        List.filter_cons_of_pos (by simpa using hline)]
    · rw [List.filter_cons_of_neg (by simpa using hline), ih, List.filterMap_cons]
      unfold heading?
      split
      · rename_i h
        split at h
        · cases h
        · rfl
      · rename_i h
        split at h
        · cases h
          rw [List.filter_cons_of_neg (by simpa using hline)]
        · cases h

/-- A part that ends with a parenthesis stands in front of the last parenthesis of a line. -/
theorem infix_upto {part line rest : List Char} (hrest : '(' ∉ rest)
    (h : part ++ ['('] <:+: line ++ '(' :: rest) : part ++ ['('] <:+: line ++ ['('] := by
  obtain ⟨before, after, heq⟩ := h
  have heq : before ++ part ++ '(' :: after = line ++ '(' :: rest := by
    rw [← heq]
    simp only [List.append_assoc, List.singleton_append]
  obtain ⟨middle, hline, htail⟩ | ⟨middle, hpart, htail⟩ := List.append_eq_append_iff.1 heq
  · cases middle with
    | nil => exact ⟨before, [], by simp [hline]⟩
    | cons c middle =>
      obtain ⟨rfl, -⟩ := List.cons.inj htail
      exact ⟨before, middle ++ ['('], by simp [hline]⟩
  · cases middle with
    | nil =>
      rw [List.append_nil] at hpart
      exact ⟨before, [], by simp [← hpart]⟩
    | cons c middle =>
      obtain ⟨-, rfl⟩ := List.cons.inj htail
      exact absurd (by simp) hrest

end Text

/-! ### Headings -/

/-- The first line of the definition of a sampling function.  It takes a sampler of some type, what
accompanies the sampler, and a place. -/
def headingText (f type place : String) : String :=
  "vec4 " ++ f ++ "(" ++ type ++
    " sampler, vec4 samplerImgRect, vec2 samplerImgSize, bool samplerFlip, " ++ place ++ ") \x7b"

/-- The functions that sample images of a shape, each with the place that it takes. -/
def Shape.sampledBy : Shape → List (String × String)
  | flat => [("VVSAMPLER_2DBYPIXEL", "vec2 loc"), ("VVSAMPLER_2DBYNORM", "vec2 normLoc")]
  | rectangle =>
    [("VVSAMPLER_2DRECTBYPIXEL", "vec2 loc"), ("VVSAMPLER_2DRECTBYNORM", "vec2 normLoc")]
  | cube => [("VVSAMPLER_CUBEBYNORM", "vec3 normLoc")]

/-- The first lines of the definitions of the functions that sample images of a shape. -/
def Shape.headings (shape : Shape) : List String :=
  shape.sampledBy.map fun f => headingText f.1 shape.samplerType f.2

/-- The parameters of a sampling function as they stand in its heading. -/
theorem Shape.intercalate_parameters (shape : Shape) (v : Variable) :
    ", ".intercalate ((shape.imageParameters ++ [v]).map fun v => v.type ++ " " ++ v.name) =
      shape.samplerType ++
        " sampler, vec4 samplerImgRect, vec2 samplerImgSize, bool samplerFlip, " ++
        (v.type ++ " " ++ v.name) := by
  have hliteral : " sampler, vec4 samplerImgRect, vec2 samplerImgSize, bool samplerFlip, " =
      " " ++ "sampler" ++ ", " ++ ("vec4" ++ " " ++ "samplerImgRect") ++ ", " ++
        ("vec2" ++ " " ++ "samplerImgSize") ++ ", " ++ ("bool" ++ " " ++ "samplerFlip") ++
        ", " := by
    decide
  simp only [imageParameters, List.cons_append, List.nil_append, List.map_cons, List.map_nil,
    String.intercalate_cons_cons, String.intercalate_singleton, hliteral, String.append_assoc]

/-- **The definitions of sampling functions start with these lines.** -/
theorem Shape.map_heading (d : Dialect) (shape : Shape) :
    (shape.samplingFunctions d).map SamplingFunction.heading = shape.headings := by
  have hheading (f : String) (v : Variable) (body : List String) (name place : String)
      (hname : f = name) (hplace : v.type ++ " " ++ v.name = place) :
      (SamplingFunction.mk f (shape.imageParameters ++ [v]) body).heading =
        headingText name shape.samplerType place := by
    rw [SamplingFunction.heading, intercalate_parameters, hname, hplace, headingText]
    simp only [String.append_assoc]
  cases shape with
  | cube => exact congrArg (List.cons · []) (hheading _ _ _ _ _ rfl (by decide))
  | _ =>
    exact congrArg₂ List.cons (hheading _ _ _ _ _ (by decide) (by decide))
      (congrArg (List.cons · []) (hheading _ _ _ _ _ (by decide) (by decide)))

/-- A heading has no parenthesis besides the one behind the name of its function. -/
theorem exists_headingText_eq {f type place : String} (htype : Text.Lacks ['('] type)
    (hplace : Text.Lacks ['('] place) : ∃ rest, '(' ∉ rest ∧
      (headingText f type place).toList = "vec4 ".toList ++ f.toList ++ '(' :: rest := by
  refine ⟨(type ++ " sampler, vec4 samplerImgRect, vec2 samplerImgSize, bool samplerFlip, " ++
    place ++ ") \x7b").toList, ?_, ?_⟩
  · have hmiddle : Lacks ['(']
        " sampler, vec4 samplerImgRect, vec2 samplerImgSize, bool samplerFlip, " :=
      Text.lacks_ofList (by decide)
    exact (((htype.append hmiddle).append hplace).append (Text.lacks_ofList (by decide))) '('
      List.mem_cons_self
  · simp only [headingText, String.toList_append, List.append_assoc]
    rfl

/-- The functions that sample images. -/
def samplingNames : List String :=
  ["VVSAMPLER_2DBYPIXEL", "VVSAMPLER_2DBYNORM", "VVSAMPLER_2DRECTBYPIXEL",
    "VVSAMPLER_2DRECTBYNORM", "VVSAMPLER_CUBEBYNORM"]

theorem Shape.sampledBy_spec (shape : Shape) : ∀ g ∈ shape.sampledBy,
    g.1 ∈ samplingNames ∧ Lacks ['('] g.2 ∧ ∀ shape' : Shape,
      shape'.sampledBy.filter (·.1 = g.1) = if shape' = shape then [g] else [] := by
  intro g hg
  refine ⟨?_, ?_, fun shape' => ?_⟩
  · revert g
    cases shape <;> decide
  · revert g
    cases shape <;> decide
  · revert g
    cases shape <;> cases shape' <;> decide

/-- **The beginning of a definition stands in one heading only.** -/
theorem infix_headingText_iff {f g type place : String} (hf : f ∈ samplingNames)
    (hg : g ∈ samplingNames) (htype : Lacks ['('] type) (hplace : Lacks ['('] place) :
    ("vec4 " ++ f ++ "(").toList <:+: (headingText g type place).toList ↔ g = f := by
  have hstart (f : String) :
      ("vec4 " ++ f ++ "(").toList = "vec4 ".toList ++ f.toList ++ ['('] := by
    simp only [String.toList_append, List.append_assoc]
    rfl
  obtain ⟨rest, hrest, hheading⟩ := exists_headingText_eq (f := g) htype hplace
  rw [hstart, hheading]
  constructor
  · intro h
    have hnames : ∀ f ∈ samplingNames, ∀ g ∈ samplingNames,
        "vec4 ".toList ++ f.toList ++ ['('] <:+: "vec4 ".toList ++ g.toList ++ ['('] → g = f := by
      decide
    exact hnames f hf g hg (Text.infix_upto hrest h)
  · rintro rfl
    exact ⟨[], rest, by simp⟩

/-- Of the headings for a shape, those of the function are the one for its own shape. -/
theorem Shape.filter_headings {shape : Shape} {g : String × String} (hg : g ∈ shape.sampledBy)
    (shape' : Shape) :
    (shape'.headings.map String.toList).filter (fun line =>
        ("vec4 " ++ g.1 ++ "(").toList <:+: line) =
      if shape' = shape then [(headingText g.1 shape.samplerType g.2).toList] else [] := by
  obtain ⟨hname, -, hfilter⟩ := shape.sampledBy_spec g hg
  have htype (shape : Shape) : Lacks ['('] shape.samplerType := fun c hc =>
    shape.lacks_samplerType c (List.mem_cons_of_mem _ hc)
  have hpart : shape'.sampledBy.filter (fun g' => decide (("vec4 " ++ g.1 ++ "(").toList <:+:
      (headingText g'.1 shape'.samplerType g'.2).toList)) =
      shape'.sampledBy.filter (·.1 = g.1) := by
    refine List.filter_congr fun g' hg' => decide_eq_decide.2 ?_
    obtain ⟨hname', hplace, -⟩ := shape'.sampledBy_spec g' hg'
    exact infix_headingText_iff hname hname' (htype shape') hplace
  rw [headings, List.map_map, List.filter_map]
  refine (congrArg (List.map _) (hpart.trans (hfilter shape'))).trans ?_
  split
  · rename_i hshape
    rw [hshape]
    rfl
  · rfl

namespace Interface

variable {i : Interface} {d : Dialect} {block : Bool} {stage : Stage}

open Text (heading? heading?_nil heading?_eq_none)

/-- The lines in front of the declarations, and behind the sampling functions, start no
definitions. -/
theorem readLines_heading_stageFront (i : Interface) (d : Dialect) (block : Bool) (stage : Stage) :
    readLines heading? (i.stageFront d block stage) =
      readLines heading? (i.declarations d stage block) ++ readLines heading? (i.functions d) := by
  refine readLines_stageFront heading?_nil ?_ (Text.silent_ofList (by decide) (by decide))
    (.append heading?_nil (.append heading?_nil ?_ ?_) ?_)
  · cases d <;> exact Text.silent_ofList (by decide) (by decide)
  · exact Text.silent_ofList (by decide) (by decide)
  · exact Text.silent_ofList (by decide) (by decide)
  · exact Text.silent_ofList (by decide) (by decide +kernel)

/-- Of the lines of a sampling function, the first one starts its definition. -/
theorem filterMap_heading_lines {shape : Shape} {f : SamplingFunction}
    (hf : f ∈ shape.samplingFunctions d) :
    f.lines.filterMap (fun line => heading? line.toList) = [f.heading.toList] := by
  have hheading : heading? f.heading.toList = some f.heading.toList := by
    refine if_pos ⟨?_, ?_⟩
    · simp [SamplingFunction.heading]
    · simp only [SamplingFunction.heading, String.toList_append, List.append_assoc]
      exact (List.prefix_append ..).isInfix
  have hbody : ∀ line ∈ f.body ++ ["\x7d"], heading? line.toList = none := by
    intro line hline
    rcases List.mem_append.1 hline with hline | hline
    · exact heading?_eq_none (c := '4') (Or.inr (by decide))
        (((Shape.neat_of_mem hf).body line hline).1 '4' (by decide))
    · rw [List.mem_singleton.1 hline]
      decide
  rw [SamplingFunction.lines, List.cons_append, List.filterMap_cons_some
    (f := fun line : String => heading? line.toList) (a := f.heading) hheading,
    List.filterMap_eq_nil_iff.2 hbody]

/-- The first lines of the definitions of the functions for all shapes that occur. -/
def headings (i : Interface) : List String := i.shapes.flatMap Shape.headings

/-- Sampling functions start with their headings, and no other line of theirs starts a
definition. -/
theorem readLines_heading_functions (i : Interface) (d : Dialect) :
    readLines heading? (i.functions d) = i.headings.map String.toList := by
  rw [readLines_functions heading?_nil, headings, samplingFunctions, List.flatMap_assoc,
    List.map_flatMap]
  refine List.flatMap_congr fun shape _ => ?_
  rw [← Shape.map_heading d, List.map_map, List.map_eq_flatMap]
  exact List.flatMap_congr fun f hf => filterMap_heading_lines hf

/-- **The lines of a front that can start definitions** are the headings of the sampling functions
of the shapes that occur, and lines of declarations that look like one. -/
theorem headings_stageFront (i : Interface) (d : Dialect) (block : Bool) (stage : Stage) :
    readLines heading? (i.stageFront d block stage) =
      (i.declarationList d block stage).flatMap (fun x => readLines heading? (x.line ++ "\n")) ++
        i.headings.map String.toList := by
  rw [readLines_heading_stageFront, readLines_heading_functions, declarations_eq,
    readLines_declarationText heading?_nil]
  · exact Text.silent_ofList (by decide) (by decide)
  · exact Text.silent_ofList (by decide) (by decide)
  · exact Text.silent_ofList (by decide) (by decide)

/-- Of the headings for the shapes that occur, one is that of the function. -/
theorem filter_headings {shape : Shape} {g : String × String} (hshape : shape ∈ i.shapes)
    (hg : g ∈ shape.sampledBy) :
    (i.headings.map String.toList).filter (fun line =>
        ("vec4 " ++ g.1 ++ "(").toList <:+: line) =
      [(headingText g.1 shape.samplerType g.2).toList] := by
  have hall : [Shape.flat, .rectangle, .cube].Nodup := by decide
  have hnodup : i.shapes.Nodup := hall.sublist List.filter_sublist
  rw [headings, List.map_flatMap, List.filter_flatMap,
    List.flatMap_congr fun shape' _ => Shape.filter_headings hg shape']
  generalize i.shapes = shapes at hshape hnodup ⊢
  induction shapes with
  | nil => cases hshape
  | cons first others ih =>
    obtain ⟨hfirst, hothers⟩ := List.nodup_cons.1 hnodup
    have hne : ∀ other ∈ others, first ≠ other := fun other hother heq => hfirst (heq ▸ hother)
    rw [List.flatMap_cons]
    rcases List.mem_cons.1 hshape with rfl | hshape
    · rw [if_pos rfl, List.flatMap_eq_nil_iff.2 fun other hother => if_neg (hne other hother).symm]
      rfl
    · rw [if_neg (hne shape hshape), ih hshape hothers]
      rfl

/-- **A sampling function is defined once**: the lines with the beginning of its definition are its
heading, and lines of declarations that look like it. -/
theorem linesWith_stageFront {shape : Shape} {g : String × String} (hshape : shape ∈ i.shapes)
    (hg : g ∈ shape.sampledBy) (d : Dialect) (block : Bool) (stage : Stage) :
    Text.linesWith ("vec4 " ++ g.1 ++ "(") (i.stageFront d block stage) =
      (i.declarationList d block stage).flatMap
        (fun x => Text.linesWith ("vec4 " ++ g.1 ++ "(") (x.line ++ "\n")) ++
        [(headingText g.1 shape.samplerType g.2).toList] := by
  rw [Text.linesWith_eq, headings_stageFront, List.filter_append, filter_headings hshape hg,
    List.filter_flatMap]
  simp only [Text.linesWith_eq]

end Interface

end ShaderEffect
