/-
**What stands declared in front of the body of a program.**

A line declares a variable if it is a word, a type, a name and its only semicolon.  Read in this
way, a front declares the variables of the program, in a block or one by one, then its samplers,
then the place that the vertex program hands on, and what else belongs to the stage, each in a line
of its own; and no other line declares anything.

Main definitions:

* `ShaderEffect.Declaration`, `ShaderEffect.Declaration.read?` — declarations, and the lines that
  they are;
* `ShaderEffect.Text.declarations` — **what a text declares**;
* `ShaderEffect.Interface.declarationList`, `ShaderEffect.Interface.declarationText` — what a stage
  has to declare, and how it is written down;
* `ShaderEffect.Interface.Declares` — **a text declares what a stage has to declare**.

Main results:

* `ShaderEffect.Declaration.read?_eq_some_iff` — a line is read as the declaration that it is;
* `ShaderEffect.Interface.declares_stageFront` — **a front declares what the stage has to declare**.
-/

import Mathlib.Data.List.Basic
import ShaderEffect.Proofs.Program.Front

set_option autoImplicit false

namespace ShaderEffect

open Text (Whole Silent Unbroken Lacks readLines)

/-! ### Lines that declare -/

/-- A declaration in a line of its own: a word, a type and a name. -/
structure Declaration where
  word : String
  type : String
  name : String
  deriving DecidableEq

namespace Declaration

/-- The words that can stand in front of the type of a variable. -/
def qualifiers : List String := ["\t", "uniform ", "varying ", "in ", "out ", "attribute "]

/-- The types that variables can have. -/
def types : List String :=
  ["bool", "int", "float", "vec2", "vec3", "vec4", "sampler2D", "sampler2DRect", "samplerCube"]

/-- The line of a declaration. -/
def line (x : Declaration) : String := x.word ++ x.type ++ " " ++ x.name ++ ";"

/-- The declaration that a line is, if it is one. -/
def read? (line : List Char) : Option Declaration :=
  ("" :: qualifiers).findSome? fun word => types.findSome? fun type =>
    (Text.after? (word.toList ++ (type.toList ++ [' '])) line).bind fun rest =>
      if rest.getLast? = some ';' ∧ ';' ∉ rest.dropLast then
        some ⟨word, type, String.ofList rest.dropLast⟩ else none

/-- The word and the type of the declaration are those of lines that declare. -/
structure IsKnown (x : Declaration) : Prop where
  word : x.word ∈ "" :: qualifiers
  type : x.type ∈ types

variable {x y : Declaration}

theorem toList_line (x : Declaration) :
    x.line.toList = x.word.toList ++ (x.type.toList ++ [' '] ++ (x.name.toList ++ [';'])) := by
  simp only [line, String.toList_append, List.append_assoc]
  rfl

/-- What a line that declares can start with, or can go on with behind such a start. -/
def heads : List (List Char) :=
  qualifiers.map String.toList ++ types.map fun type => type.toList ++ [' ']

/-- No head goes on like another one. -/
theorem eq_of_isPrefix : ∀ a ∈ heads, ∀ b ∈ heads, a <+: b → a = b := by decide

theorem eq_of_heads {a b s t : List Char} (ha : a ∈ heads) (hb : b ∈ heads)
    (h : a ++ s = b ++ t) : a = b ∧ s = t := by
  have hab : a = b := by
    have hfirst : a <+: a ++ s := List.prefix_append a s
    have hsecond : b <+: a ++ s := h ▸ List.prefix_append b t
    rcases Nat.le_total a.length b.length with hle | hle
    · exact eq_of_isPrefix a ha b hb (List.prefix_of_prefix_length_le hfirst hsecond hle)
    · exact (eq_of_isPrefix b hb a ha (List.prefix_of_prefix_length_le hsecond hfirst hle)).symm
  subst hab
  exact ⟨rfl, List.append_cancel_left h⟩

theorem qualifier_mem_heads {word : String} (h : word ∈ qualifiers) : word.toList ∈ heads :=
  List.mem_append_left _ (List.mem_map_of_mem h)

theorem type_mem_heads {type : String} (h : type ∈ types) : type.toList ++ [' '] ∈ heads :=
  List.mem_append_right _ (List.mem_map.2 ⟨type, h, rfl⟩)

theorem type_ne_qualifier :
    ∀ type ∈ types, ∀ word ∈ qualifiers, type.toList ++ [' '] ≠ word.toList := by
  decide

/-- Behind the same word, a line tells the type and the name. -/
theorem eq_of_rest (hx : x.IsKnown) (hy : y.IsKnown) (hword : x.word = y.word)
    (h : x.type.toList ++ [' '] ++ (x.name.toList ++ [';']) =
      y.type.toList ++ [' '] ++ (y.name.toList ++ [';'])) : x = y := by
  obtain ⟨htype, hname⟩ := eq_of_heads (type_mem_heads hx.type) (type_mem_heads hy.type) h
  have htype := String.toList_injective (List.append_cancel_right htype)
  have hname := String.toList_injective (List.append_cancel_right hname)
  cases x
  cases y
  simp_all

/-- **A line is that of one declaration.** -/
theorem line_injective (hx : x.IsKnown) (hy : y.IsKnown) (h : x.line.toList = y.line.toList) :
    x = y := by
  rw [toList_line, toList_line] at h
  rcases List.mem_cons.1 hx.word with hxword | hxword <;>
    rcases List.mem_cons.1 hy.word with hyword | hyword
  · rw [hxword, hyword] at h
    exact eq_of_rest hx hy (hxword.trans hyword.symm) h
  · rw [hxword] at h
    obtain ⟨heq, -⟩ := eq_of_heads (type_mem_heads hx.type) (qualifier_mem_heads hyword) h
    exact absurd heq (type_ne_qualifier _ hx.type _ hyword)
  · rw [hyword] at h
    obtain ⟨heq, -⟩ := eq_of_heads (qualifier_mem_heads hxword) (type_mem_heads hy.type) h
    exact absurd heq.symm (type_ne_qualifier _ hy.type _ hxword)
  · obtain ⟨heq, hrest⟩ :=
      eq_of_heads (qualifier_mem_heads hxword) (qualifier_mem_heads hyword) h
    exact eq_of_rest hx hy (String.toList_injective heq) hrest

/-- **A line is read as the declaration that it is.** -/
theorem read?_eq_some_iff {cs : List Char} :
    read? cs = some x ↔ x.IsKnown ∧ ';' ∉ x.name.toList ∧ cs = x.line.toList := by
  have hsound {y : Declaration} (h : read? cs = some y) :
      y.IsKnown ∧ ';' ∉ y.name.toList ∧ cs = y.line.toList := by
    obtain ⟨word, hword, h⟩ := List.exists_of_findSome?_eq_some h
    obtain ⟨type, htype, h⟩ := List.exists_of_findSome?_eq_some h
    obtain ⟨rest, hrest, h⟩ := Option.bind_eq_some_iff.1 h
    split at h
    · rename_i hlast
      cases h
      obtain ⟨⟨name, rfl⟩, hname⟩ := hlast.imp_left List.getLast?_eq_some_iff.1
      rw [List.dropLast_concat] at hname
      rw [Text.after?_eq_some_iff.1 hrest, toList_line, List.dropLast_concat, String.toList_ofList]
      refine ⟨⟨hword, htype⟩, hname, ?_⟩
      simp only [List.append_assoc]
    · cases h
  constructor
  · exact hsound
  · rintro ⟨hknown, hname, rfl⟩
    have hread : (read? x.line.toList).isSome := by
      rw [read?, List.findSome?_isSome_iff]
      refine ⟨x.word, hknown.word, List.findSome?_isSome_iff.2 ⟨x.type, hknown.type, ?_⟩⟩
      have hrest : Text.after? (x.word.toList ++ (x.type.toList ++ [' '])) x.line.toList =
          some (x.name.toList ++ [';']) := by
        rw [Text.after?_eq_some_iff, toList_line]
        simp only [List.append_assoc]
      rw [hrest, Option.bind_some, if_pos ⟨by simp, by rwa [List.dropLast_concat]⟩]
      rfl
    obtain ⟨y, hy⟩ := Option.isSome_iff_exists.1 hread
    obtain ⟨hy', -, hline⟩ := hsound hy
    rw [hy, line_injective hknown hy' hline]

theorem read?_nil : read? [] = none := by decide

/-- A line that does not end with a semicolon declares nothing. -/
theorem read?_eq_none_of_last {cs : List Char} {c : Char} (hlast : cs.getLast? = some c)
    (hc : c ≠ ';') : read? cs = none := by
  cases h : read? cs with
  | none => rfl
  | some x =>
    obtain ⟨-, -, rfl⟩ := read?_eq_some_iff.1 h
    rw [line, String.toList_append, List.getLast?_append] at hlast
    exact absurd (Option.some.inj hlast).symm hc

/-- A line that goes on with a return behind a tab declares nothing, and neither does one that is
indented further. -/
theorem read?_eq_none_of_isIndented {text : String} (htext : Text.IsIndented text) :
    read? text.toList = none := by
  cases h : read? text.toList with
  | none => rfl
  | some x =>
    obtain ⟨hknown, -, hline⟩ := read?_eq_some_iff.1 h
    obtain ⟨c, hc, hprefix⟩ := htext
    have hall : ∀ word ∈ "" :: qualifiers, ∀ type ∈ types, ∀ c ∈ ['r', '\t'],
        2 ≤ (word.toList ++ (type.toList ++ [' '])).length ∧
          ¬['\t', c] <+: word.toList ++ (type.toList ++ [' ']) := by
      decide
    obtain ⟨hlength, hne⟩ := hall _ hknown.word _ hknown.type c hc
    rw [hline, toList_line, ← List.append_assoc] at hprefix
    exact absurd (List.prefix_of_prefix_length_le hprefix (List.prefix_append ..) hlength) hne

/-- The declaration of a variable behind a word. -/
def of (word : String) (v : Variable) : Declaration := ⟨word, v.type, v.name⟩

/-- Declarations, each in a line. -/
def linesText (xs : List Declaration) : String := String.join (xs.map fun x => x.line ++ "\n")

theorem whole_linesText (xs : List Declaration) : Whole (linesText xs) := by
  refine .join fun text htext => ?_
  obtain ⟨x, -, rfl⟩ := List.mem_map.1 htext
  exact .append_break _

end Declaration

open Declaration (linesText read?)

/-- What a text declares, line by line. -/
def Text.declarations (text : String) : List Declaration := readLines read? text

/-- A declaration with no semicolon and no line break in its name is what its line declares. -/
theorem Declaration.declarations_line {x : Declaration} (hx : x.IsKnown)
    (hname : Lacks [';', '\n'] x.name) :
    Text.declarations (x.line ++ "\n") = [x] := by
  have hword : ∀ word ∈ "" :: qualifiers, Unbroken word := by decide
  have htype : ∀ type ∈ types, Unbroken type := by decide
  have hline : Unbroken x.line :=
    ((((hword _ hx.word).append (htype _ hx.type)).append (by decide)).append
      (hname.unbroken (by simp))).append (by decide)
  rw [Text.declarations, Text.readLines_break Declaration.read?_nil hline,
    Declaration.read?_eq_some_iff.2 ⟨hx, hname ';' List.mem_cons_self, rfl⟩]
  rfl

/-- Declarations are read one after the other. -/
theorem Declaration.readLines_linesText {α : Type} {read : List Char → Option α}
    (hempty : read [] = none) (xs : List Declaration) :
    readLines read (linesText xs) = xs.flatMap fun x => readLines read (x.line ++ "\n") := by
  rw [linesText, Text.readLines_join hempty, List.flatMap_map]
  intro text htext
  obtain ⟨x, -, rfl⟩ := List.mem_map.1 htext
  exact .append_break _

/-! ### What a stage declares -/

/-- The place that the vertex program hands to the fragment program. -/
def normCoord : Variable := ⟨"vec2", "isf_FragNormCoord"⟩

/-- What belongs to a stage alone: what vertex programs receive, and what fragment programs of the
newer dialects compute. -/
def Dialect.stageVariables (d : Dialect) : Stage → List Variable
  | .vertex => [⟨"vec2", "VERTDATA"⟩]
  | .fragment => if d ∈ [.gl33, .gl4, .gles3] then [⟨"vec4", "isf_FragColor"⟩] else []

/-- The words for what is handed on and for what belongs to a stage alone. -/
def Dialect.stageWords (d : Dialect) : Stage → String × String
  | .vertex => if d ∈ [.gl33, .gl4, .gles3] then ("out ", "in ") else ("varying ", "attribute ")
  | .fragment => if d ∈ [.gl33, .gl4, .gles3] then ("in ", "out ") else ("varying ", "")

namespace Interface

/-- What a stage has to declare: the variables that are given values, in a block or one by one, the
samplers, the place that is handed on, and what belongs to the stage alone. -/
def declarationList (i : Interface) (d : Dialect) (block : Bool) (stage : Stage) :
    List Declaration :=
  i.uniforms.map (.of (if block then "\t" else "uniform ")) ++
    i.samplers.map (fun s => .of "uniform " s.toVariable) ++
    (.of (d.stageWords stage).1 normCoord ::
      (d.stageVariables stage).map (.of (d.stageWords stage).2))

/-- The variables that the stage declares: those that are given values, the samplers, and the place
that is handed on. -/
def handed (i : Interface) : List Variable :=
  i.uniforms ++ i.samplers.map Sampler.toVariable ++ [normCoord]

/-- What is declared is what is handed to the stage, and what belongs to it alone. -/
theorem map_name_declarationList (i : Interface) (d : Dialect) (block : Bool) (stage : Stage) :
    (i.declarationList d block stage).map Declaration.name =
      i.handed.map Variable.name ++ (d.stageVariables stage).map Variable.name := by
  simp [declarationList, handed, Declaration.of, Function.comp_def]

/-- How that is written down.  A block has a line in front of its variables and one behind them, and
where the color has a name of its own, the old name stands for it. -/
def declarationText (i : Interface) (d : Dialect) (block : Bool) (stage : Stage) : String :=
  (if block then "layout(std140) uniform ISF_UNIFORMS \x7b\n" else "") ++
    linesText (i.uniforms.map (.of (if block then "\t" else "uniform "))) ++
    (if block then "\x7d;\n" else "") ++
    linesText (i.samplers.map fun s => .of "uniform " s.toVariable) ++
    linesText (.of (d.stageWords stage).1 normCoord ::
      (d.stageVariables stage).map (.of (d.stageWords stage).2)) ++
    (if stage = .fragment ∧ d ∈ [.gl33, .gl4, .gles3] then "#define gl_FragColor isf_FragColor\n"
      else "")

/-- **The text declares what a stage has to declare**, and nothing else. -/
structure Declares (i : Interface) (d : Dialect) (block : Bool) (stage : Stage) (front : String) :
    Prop where
  /-- The declarations stand in the text, line by line. -/
  text : ∃ before after, front = before ++ i.declarationText d block stage ++ after
  /-- The lines of the text that declare something are lines of these declarations. -/
  lines : Text.declarations front = (i.declarationList d block stage).flatMap fun x =>
    Text.declarations (x.line ++ "\n")
  /-- If no name has a semicolon or a line break, each is declared by one line. -/
  each : (∀ x ∈ i.declarationList d block stage, Lacks [';', '\n'] x.name) →
    Text.declarations front = i.declarationList d block stage

variable {i : Interface} {d : Dialect} {block : Bool} {stage : Stage}

theorem stageLines_eq (d : Dialect) (stage : Stage) : stageLines d stage =
    linesText (.of (d.stageWords stage).1 normCoord ::
      (d.stageVariables stage).map (.of (d.stageWords stage).2)) ++
      (if stage = .fragment ∧ d ∈ [.gl33, .gl4, .gles3] then "#define gl_FragColor isf_FragColor\n"
        else "") := by
  cases d <;> cases stage <;> decide

/-- **The declarations are written down as they have to be.** -/
theorem declarations_eq (i : Interface) (d : Dialect) (block : Bool) (stage : Stage) :
    i.declarations d stage block = i.declarationText d block stage := by
  have hline (word : String) (v : Variable) :
      word ++ v.type ++ " " ++ v.name ++ ";\n" = (Declaration.of word v).line ++ "\n" := by
    simp only [Declaration.line, Declaration.of, String.append_assoc]
    rfl
  have huniforms : i.uniformLines block =
      (if block then "layout(std140) uniform ISF_UNIFORMS \x7b\n" else "") ++
        linesText (i.uniforms.map (.of (if block then "\t" else "uniform "))) ++
        (if block then "\x7d;\n" else "") := by
    cases block with
    | true =>
      have hmember : memberLine = fun v => (Declaration.of "\t" v).line ++ "\n" :=
        funext (hline "\t")
      have hblock : "layout(std140) uniform " ++ uniformBlockName ++ " \x7b\n" =
          "layout(std140) uniform ISF_UNIFORMS \x7b\n" := by decide
      rw [uniformLines, if_pos rfl, if_pos rfl, if_pos rfl, if_pos rfl, hblock, hmember, linesText,
        List.map_map]
      rfl
    | false =>
      have huniform : uniformLine = fun v => (Declaration.of "uniform " v).line ++ "\n" :=
        funext (hline "uniform ")
      rw [uniformLines, huniform]
      simp [linesText, Function.comp_def]
  have hsamplers : String.join (i.samplers.map fun s => uniformLine s.toVariable) =
      linesText (i.samplers.map fun s => .of "uniform " s.toVariable) := by
    rw [linesText, List.map_map]
    exact congrArg String.join (List.map_congr_left fun s _ => hline "uniform " s.toVariable)
  rw [declarations, huniforms, hsamplers, stageLines_eq, declarationText]
  simp only [String.append_assoc]

/-! ### Fronts -/

/-- The lines in front of the declarations, and behind the sampling functions, declare nothing. -/
theorem declarations_front (i : Interface) (d : Dialect) (block : Bool) (stage : Stage) :
    Text.declarations (i.stageFront d block stage) =
      Text.declarations (i.declarations d stage block) ++ Text.declarations (i.functions d) := by
  refine readLines_stageFront Declaration.read?_nil ?_ (Text.silent_ofList (by decide)
    (by decide)) (.append Declaration.read?_nil (.append Declaration.read?_nil ?_ ?_) ?_)
  · cases d <;> exact Text.silent_ofList (by decide) (by decide)
  · exact Text.silent_ofList (by decide) (by decide)
  · exact Text.silent_ofList (by decide) (by decide)
  · exact Text.silent_ofList (by decide) (by decide)

/-- Sampling functions declare no variables. -/
theorem declarations_functions (i : Interface) (d : Dialect) :
    Text.declarations (i.functions d) = [] := by
  rw [Text.declarations, readLines_functions Declaration.read?_nil]
  refine List.flatMap_eq_nil_iff.2 fun f hf => List.filterMap_eq_nil_iff.2 fun line hline => ?_
  obtain ⟨shape, -, hf⟩ := List.mem_flatMap.1 hf
  simp only [SamplingFunction.lines, List.cons_append, List.mem_cons, List.mem_append,
    List.not_mem_nil, or_false] at hline
  rcases hline with rfl | hline | rfl
  · refine Declaration.read?_eq_none_of_last (c := '\x7b') ?_ (by decide)
    rw [SamplingFunction.heading, String.toList_append, List.getLast?_append]
    rfl
  · exact Declaration.read?_eq_none_of_isIndented ((Shape.neat_of_mem hf).body line hline).2
  · decide

/-- What is written down is read declaration by declaration, if nothing is read off the lines around
them. -/
theorem readLines_declarationText {α : Type} {read : List Char → Option α} (hempty : read [] = none)
    (hopening : Silent read "layout(std140) uniform ISF_UNIFORMS \x7b\n")
    (hclosing : Silent read "\x7d;\n") (hcolor : Silent read "#define gl_FragColor isf_FragColor\n")
    (i : Interface) (d : Dialect) (block : Bool) (stage : Stage) :
    readLines read (i.declarationText d block stage) =
      (i.declarationList d block stage).flatMap fun x => readLines read (x.line ++ "\n") := by
  have hopening : Silent read (if block then "layout(std140) uniform ISF_UNIFORMS \x7b\n"
      else "") := by
    cases block with
    | true => exact hopening
    | false => exact Text.silent_empty hempty
  have hclosing : Silent read (if block then "\x7d;\n" else "") := by
    cases block with
    | true => exact hclosing
    | false => exact Text.silent_empty hempty
  have hcolor : Silent read (if stage = .fragment ∧ d ∈ [.gl33, .gl4, .gles3] then
      "#define gl_FragColor isf_FragColor\n" else "") := by
    split
    · exact hcolor
    · exact Text.silent_empty hempty
  have hwhole (xs : List Declaration) := Declaration.whole_linesText xs
  have huniforms := hopening.whole.append (hwhole (i.uniforms.map
    (.of (if block then "\t" else "uniform "))))
  have hsamplers := (huniforms.append hclosing.whole).append (hwhole (i.samplers.map
    fun s => .of "uniform " s.toVariable))
  have hread (xs : List Declaration) := Declaration.readLines_linesText hempty xs
  rw [declarationText, Text.readLines_append hempty (hsamplers.append (hwhole _)),
    Text.readLines_append hempty hsamplers, Text.readLines_append hempty
      (huniforms.append hclosing.whole), Text.readLines_append hempty huniforms,
    Text.readLines_append hempty hopening.whole, hopening.nothing, hclosing.nothing,
    hcolor.nothing, hread, hread, hread, declarationList, List.flatMap_append,
    List.flatMap_append]
  simp only [List.nil_append, List.append_nil]

/-- The lines of what is written down that declare something are those of what is to be declared. -/
theorem declarations_declarationText (i : Interface) (d : Dialect) (block : Bool) (stage : Stage) :
    Text.declarations (i.declarationText d block stage) =
      (i.declarationList d block stage).flatMap fun x => Text.declarations (x.line ++ "\n") :=
  readLines_declarationText Declaration.read?_nil
    (Text.silent_ofList (by decide) (by decide))
    (Text.silent_ofList (by decide) (by decide))
    (Text.silent_ofList (by decide) (by decide)) i d block stage

/-- What is to be declared has a word and a type of declarations, if the inputs have such a type. -/
theorem isKnown_of_mem (htypes : ∀ v ∈ i.inputs, v.type ∈ Declaration.types) :
    ∀ x ∈ i.declarationList d block stage, x.IsKnown := by
  have huniforms : ∀ v ∈ i.uniforms, v.type ∈ Declaration.types := by
    intro v hv
    rcases List.mem_append.1 hv with hv | hv
    · rcases List.mem_append.1 hv with hv | hv
      · have hbuiltins : ∀ v ∈ builtins, v.type ∈ Declaration.types := by decide
        exact hbuiltins v hv
      · exact htypes v hv
    · obtain ⟨s, -, hv⟩ := List.mem_flatMap.1 hv
      simp only [Sampler.companions, List.mem_cons, List.not_mem_nil, or_false] at hv
      rcases hv with rfl | rfl | rfl <;> simp [Declaration.types]
  intro x hx
  rcases List.mem_append.1 hx with hx | hx
  · rcases List.mem_append.1 hx with hx | hx
    · obtain ⟨v, hv, rfl⟩ := List.mem_map.1 hx
      refine ⟨?_, huniforms v hv⟩
      cases block <;> simp [Declaration.of, Declaration.qualifiers]
    · obtain ⟨s, -, rfl⟩ := List.mem_map.1 hx
      refine ⟨by simp [Declaration.of, Declaration.qualifiers], ?_⟩
      cases hshape : s.shape <;>
        simp [Declaration.of, Declaration.types, Sampler.toVariable, hshape, Shape.samplerType]
  · have hstage : ∀ x ∈ (Declaration.of (d.stageWords stage).1 normCoord ::
        (d.stageVariables stage).map (.of (d.stageWords stage).2)),
          x.word ∈ "" :: Declaration.qualifiers ∧ x.type ∈ Declaration.types := by
      cases d <;> cases stage <;> decide
    exact ⟨(hstage x hx).1, (hstage x hx).2⟩

/-- **A front declares what the stage has to declare**, and nothing else, if the inputs have types
of variables. -/
theorem declares_stageFront (htypes : ∀ v ∈ i.inputs, v.type ∈ Declaration.types) :
    i.Declares d block stage (i.stageFront d block stage) := by
  have hlines : Text.declarations (i.stageFront d block stage) =
      (i.declarationList d block stage).flatMap fun x => Text.declarations (x.line ++ "\n") := by
    rw [declarations_front, declarations_functions, List.append_nil, declarations_eq,
      declarations_declarationText]
  refine ⟨?_, hlines, fun hnames => ?_⟩
  · obtain ⟨opening, -, closing, -, hfront⟩ := i.exists_stageFront_eq d block stage
    exact ⟨opening, i.functions d ++ closing, by rw [hfront, declarations_eq, String.append_assoc]⟩
  · rw [hlines, List.flatMap_congr fun x hx =>
      Declaration.declarations_line (isKnown_of_mem htypes x hx) (hnames x hx)]
    exact List.flatMap_singleton' _

end Interface

end ShaderEffect
