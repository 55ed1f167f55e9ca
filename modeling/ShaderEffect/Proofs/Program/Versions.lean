/-
**The version of a program is stated once.**

The first line of a program states the version of its language.  Lines of the body that state one
are dropped, and the calls of macros are replaced after that.  Replacing them moves parts of the
body about: arguments lose their blanks and their line breaks, and what stands on several lines can
come to stand on others.  No such move brings the directive to the beginning of a line, since what
a call stands for begins with a character that no directive contains, and so does what follows each
argument that is moved.

Where a macro and its parenthesis are kept apart by nothing but blanks and lines that state a
version, the call comes into being when these lines are dropped, and it is replaced like any other.

Main definitions:

* `ShaderEffect.Versionless` — behind the first line, no line of a text states a version;
* `ShaderEffect.Dialect.versionLine` — the first line of a program.

Main results:

* `ShaderEffect.versionless_dropVersionLines` — no line is left in a body that states one;
* `ShaderEffect.Rewritten.versionless` — **replacing calls brings no version to a new line**;
* `ShaderEffect.Interface.exists_stageFront_eq_versionLine` — what stands in front of a body states
  a version in its first line only;
* `ShaderEffect.Document.states_version_once` — **every program states its version once**.
-/

import ShaderEffect.Proofs.Program.Generation
import ShaderEffect.Proofs.Program.Given
import ShaderEffect.Proofs.Text.Cutting

set_option autoImplicit false

namespace ShaderEffect

/-! ### Texts that state no version behind their first line -/

/-- Behind its first line, no line of the text states a version. -/
def Versionless : List Char → Prop
  | [] => True
  | c :: cs => (c = '\n' → ¬StatesVersion cs) ∧ Versionless cs

/-- It can be seen whether a text states a version behind its first line. -/
instance decidableVersionless : (cs : List Char) → Decidable (Versionless cs)
  | [] => isTrue trivial
  | c :: cs =>
    have := decidableVersionless cs
    inferInstanceAs (Decidable ((c = '\n' → ¬StatesVersion cs) ∧ Versionless cs))

namespace Versionless

variable {a b cs : List Char} {c : Char}

theorem right (a : List Char) (h : Versionless (a ++ b)) : Versionless b := by
  induction a with
  | nil => exact h
  | cons c a ih => exact ih h.2

theorem left (h : Versionless (a ++ b)) : Versionless a := by
  induction a with
  | nil => trivial
  | cons c a ih => exact ⟨fun hc hstates => h.1 hc (hstates.append b), ih h.2⟩

/-- **Two texts come together** at a character that stands in no directive. -/
theorem append (ha : Versionless a) (hb : Versionless (c :: b)) (hc : c ∉ directive) :
    Versionless (a ++ c :: b) := by
  induction a with
  | nil => exact hb
  | cons d a ih => exact ⟨fun hd hstates => ha.1 hd (.of_append_cons hc hstates), ih ha.2⟩

/-- A text without line breaks may stand in front. -/
theorem behind (hbreak : '\n' ∉ a) (hb : Versionless b) : Versionless (a ++ b) := by
  induction a with
  | nil => exact hb
  | cons c a ih =>
    rw [List.mem_cons, not_or] at hbreak
    exact ⟨fun hc => absurd hc.symm hbreak.1, ih hbreak.2⟩

theorem of_unbroken (hbreak : '\n' ∉ a) : Versionless a := by
  rw [← List.append_nil a]
  exact behind hbreak trivial

/-- What is left of a text without the blanks at its ends. -/
theorem trim (h : Versionless cs) : Versionless (Text.trim cs) := by
  obtain ⟨front, back, hcs, -⟩ := (Text.isTrimmed_trim cs).split
  rw [hcs] at h
  exact h.left.right front

/-- Behind the first line, no line states a version. -/
theorem not_statesVersion (h : Versionless cs) :
    ∀ line ∈ (cs.splitOn '\n').tail, ¬StatesVersion line := by
  -- a line is the beginning of the text that starts with it
  have hline (cs : List Char) : ∀ line ∈ (cs.splitOn '\n').head?, line <+: cs := by
    intro line hline
    induction cs using Text.line_induction with
    | last cs hbreak =>
      rw [List.splitOn_eq_singleton hbreak] at hline
      cases hline
      exact List.prefix_rfl
    | line first rest hbreak _ =>
      rw [List.splitOn_append_cons_self, List.splitOn_eq_singleton hbreak] at hline
      cases hline
      exact List.prefix_append ..
  induction cs using Text.line_induction with
  | last cs hbreak =>
    rw [List.splitOn_eq_singleton hbreak]
    simp
  | line first rest hbreak ih =>
    rw [List.splitOn_append_cons_self, List.splitOn_eq_singleton hbreak]
    have hrest : Versionless ('\n' :: rest) := h.right first
    intro line hmem
    cases hsplit : rest.splitOn '\n' with
    | nil =>
      rw [hsplit] at hmem
      cases hmem
    | cons second others =>
      rw [hsplit] at hmem
      rcases List.mem_cons.1 hmem with rfl | hmem
      · obtain ⟨behind, rfl⟩ := hline rest line (by rw [hsplit]; rfl)
        exact fun hstates => hrest.1 rfl (hstates.append behind)
      · exact ih hrest.2 line (by rwa [hsplit])

end Versionless

/-! ### What is left of a body -/

section Dropping

variable {line rest : List Char}

/-- No line is left that states a version. -/
theorem versionless_dropVersionLines (cs : List Char) :
    Versionless ('\n' :: dropVersionLines cs) := by
  induction cs using Text.line_induction with
  | last line hbreak =>
    rw [dropVersionLines_last hbreak]
    by_cases h : StatesVersion line
    · rw [if_pos h]
      decide
    · rw [if_neg h]
      exact ⟨fun _ => h, .of_unbroken hbreak⟩
  | line line rest hbreak ih =>
    rw [dropVersionLines_line hbreak]
    by_cases h : StatesVersion line
    · rw [if_pos h]
      exact ih
    · rw [if_neg h, List.append_assoc, List.singleton_append, ← List.cons_append]
      have hline : Versionless ('\n' :: line) := ⟨fun _ => h, .of_unbroken hbreak⟩
      exact hline.append ih (by decide)

end Dropping

/-! ### Replacing calls -/

section Replacing

variable {samplers : List Sampler} {s : Sampler} {front : Option Char} {m : ImageMacro}
  {opened text out u cs : List Char} {places : List (List Char)} {a : Arguments}

theorem unbroken_imageArguments (hname : Text.Unbroken s.name) :
    Text.Unbroken (ImageMacro.imageArguments s) := by
  have hcomma : Text.Unbroken ", " := by decide
  have hcompanion (b : String) (hb : Text.Unbroken b) : Text.Unbroken ("_" ++ s.name ++ b) :=
    ((by decide : Text.Unbroken "_").append hname).append hb
  exact (((((hname.append hcomma).append (hcompanion _ (by decide))).append hcomma).append
    (hcompanion _ (by decide))).append hcomma).append (hcompanion _ (by decide))

/-- What stands for a call that asks for a size begins with a low line, and has no line break. -/
theorem ImageMacro.exists_sizeName_eq (hname : Text.Unbroken s.name) :
    ∃ rest, (Sampler.sizeName s.name).toList = '_' :: rest ∧ '\n' ∉ '_' :: rest := by
  refine ⟨s.name.toList ++ "_imgSize".toList, ?_, ?_⟩
  · rw [Sampler.sizeName, String.toList_append, String.toList_append, List.append_assoc]
    rfl
  · rw [List.mem_cons, List.mem_append, not_or, not_or]
    exact ⟨by decide, hname, by decide⟩

/-- What stands for a call that samples begins with a letter of no directive, and has no line break
up to the place, which stands in front of a parenthesis. -/
theorem ImageMacro.exists_sampleCall_eq {mode : String} (hname : Text.Unbroken s.name)
    (hmode : Text.Unbroken mode) (place : String) : ∃ start : List Char, '\n' ∉ 'V' :: start ∧
      (sampleCall s mode place).toList = 'V' :: start ++ (place.toList ++ [')']) := by
  refine ⟨"VSAMPLER_".toList ++ s.shape.functionPart.toList ++ mode.toList ++ "(".toList ++
    (imageArguments s).toList ++ ", ".toList, ?_, ?_⟩
  · have hpart : '\n' ∉ s.shape.functionPart.toList :=
      s.shape.lacks_functionPart.unbroken (by decide)
    have harguments : '\n' ∉ (imageArguments s).toList := unbroken_imageArguments hname
    simp only [List.mem_cons, List.mem_append, not_or]
    exact ⟨by decide, ⟨⟨⟨⟨by decide, hpart⟩, hmode⟩, by decide⟩, harguments⟩, by decide⟩
  · unfold sampleCall
    simp only [String.toList_append, List.append_assoc, List.cons_append]
    rfl

/-- **What a call stands for** goes on from any line without stating a version there, and no line
that follows states one. -/
theorem ImageMacro.versionless_expand (hname : Text.Unbroken s.name)
    (hplaces : ∀ p ∈ places, Versionless p) (h : m.expand s places = .ok text)
    (hu : Versionless u) (hout : Versionless out) : Versionless (u ++ (text ++ out)) := by
  rcases ImageMacro.eq_of_expand h with rfl | ⟨mode, place, rfl, hmode, hplace⟩
  · obtain ⟨rest, hsize, hbreak⟩ := exists_sizeName_eq hname
    rw [hsize]
    exact hu.append (.behind hbreak hout) (by decide)
  · -- only the place can have line breaks, and it stands between a comma and a parenthesis
    have hmode : Text.Unbroken mode := by
      rcases hmode with rfl | ⟨rfl, -⟩ <;> decide
    obtain ⟨start, hstart, hcall⟩ := exists_sampleCall_eq hname hmode place
    have hplace : Versionless place.toList := by
      rcases hplace with hplace | hplace
      · exact hplaces _ hplace
      · simp only [List.mem_cons, List.not_mem_nil, or_false] at hplace
        rcases hplace with rfl | rfl <;> decide
    rw [hcall, List.append_assoc, List.append_assoc, List.singleton_append, List.cons_append]
    refine hu.append ?_ (by decide)
    rw [← List.cons_append]
    exact .behind hstart (hplace.append (.behind (by decide : '\n' ∉ [')']) hout) (by decide))

/-- The texts that a call is made of stand in the text in which it stands. -/
theorem Arguments.Splits.versionless (ha : a.Splits opened) (h : Versionless opened) :
    Versionless a.after ∧ ∀ t ∈ a.others, Versionless t := by
  have htext := ha.text
  rw [Arguments.text, List.append_assoc] at htext
  rw [← htext] at h
  refine ⟨((h.right _).right _).2, fun t ht => ?_⟩
  obtain ⟨before, after, hsplit⟩ := List.append_of_mem ht
  have hothers := (h.right a.first).left
  rw [hsplit, List.flatMap_append, List.flatMap_cons] at hothers
  exact ((hothers.right _).left).2

/-- **Replacing calls brings no version to a new line**, whatever stands in front of the text. -/
theorem Rewritten.versionless (hsamplers : ∀ s ∈ samplers, Text.Unbroken s.name)
    (h : Rewritten samplers front cs out) (hcs : Versionless (u ++ cs)) :
    Versionless (u ++ out) := by
  induction h generalizing u with
  | rest => exact hcs
  | @call front cs plain opened text out m a s places hfirst hexpands hplaces _ ihplaces ihafter =>
    obtain ⟨rest, rfl, -, hcall⟩ := hfirst.found
    obtain ⟨blanks, -, rfl⟩ := hcall.spelled
    rw [← List.append_assoc] at hcs ⊢
    have hopened : Versionless opened := (((hcs.right _).right _).right blanks).2
    obtain ⟨hafter, hothers⟩ := hexpands.splits.versionless hopened
    have hname : Text.Unbroken s.name :=
      hsamplers s (List.mem_of_find?_eq_some hexpands.sampler)
    refine ImageMacro.versionless_expand hname (fun p hp => ?_) hexpands.expand hcs.left
      (ihafter (u := []) hafter)
    rw [← List.map_snd_zip (Nat.le_of_eq hexpands.length)] at hp
    obtain ⟨⟨t, p⟩, hmem, rfl⟩ := List.mem_map.1 hp
    exact ihplaces t p hmem (u := []) (hothers t (List.of_mem_zip hmem).1).trim

/-- A text whose calls can be replaced although there is nothing to sample has none. -/
theorem callFree_of_expandMacros (h : expandMacros [] cs = .ok out) : CallFree none cs [] := by
  rcases callFree_or_exists_first none cs with hfree | ⟨plain, m, opened, hfirst⟩
  · exact hfree
  · have hadmitted : m.Admitted [] opened :=
      exists_rewritten_iff.1 ⟨out, expandMacros_eq_ok_iff.1 h⟩ m opened (.first hfirst)
    obtain ⟨a, ha⟩ := Arguments.exists_splits_iff.2 hadmitted.closed
    obtain ⟨s, hs, -⟩ := hadmitted.sampled a ha
    cases hs

end Replacing

/-! ### What stands in front of the body -/

/-- Where no version is stated behind the text, none is stated in it either. -/
def Quiet (text : String) : Prop :=
  ∀ rest, Versionless ('\n' :: rest) → Versionless ('\n' :: (text.toList ++ rest))

namespace Quiet

variable {a b : String}

theorem append (ha : Quiet a) (hb : Quiet b) : Quiet (a ++ b) := by
  intro rest hrest
  rw [String.toList_append, List.append_assoc]
  exact ha _ (hb rest hrest)

theorem join {texts : List String} (h : ∀ text ∈ texts, Quiet text) :
    Quiet (String.join texts) := by
  induction texts with
  | nil => exact fun _ hrest => hrest
  | cons text texts ih =>
    obtain ⟨htext, htexts⟩ := List.forall_mem_cons.1 h
    rw [String.join_cons]
    exact htext.append (ih htexts)

/-- A text without the sign of directives is quiet. -/
theorem of_not_mem (h : '#' ∉ a.toList) : Quiet a := by
  intro rest hrest
  generalize a.toList = cs at h
  have hstates (cs : List Char) (h : '#' ∉ cs) : ¬StatesVersion (cs ++ rest) :=
    fun hstates => hrest.1 rfl (.of_append h hstates)
  refine ⟨fun _ => hstates cs h, ?_⟩
  induction cs with
  | nil => exact hrest.2
  | cons c cs ih =>
    rw [List.mem_cons, not_or] at h
    exact ⟨fun _ => hstates cs h.2, ih h.2⟩

/-- A text that ends with a line break is quiet if none of its lines states a version. -/
theorem whole (ha : Text.Whole a) (h : Versionless ('\n' :: a.toList)) : Quiet a := by
  intro rest hrest
  rcases ha with rfl | ha
  · exact hrest
  · obtain ⟨cs, hcs⟩ := List.getLast?_eq_some_iff.1 ha
    rw [hcs] at h ⊢
    rw [List.append_assoc, List.singleton_append, ← List.cons_append]
    exact Versionless.append (Versionless.left (a := '\n' :: cs) h) hrest (by decide)

/-- A line that states no version is quiet, where `b` is the end of the line that starts with
`a`. -/
theorem line (hbreak : Text.Unbroken (a ++ b)) (h : ¬StatesVersion (a.toList ++ b.toList)) :
    Quiet (a ++ (b ++ "\n")) := by
  rw [← String.toList_append] at h
  rw [← String.append_assoc]
  refine .whole (.append_break _) ?_
  have hline : Versionless ('\n' :: (a ++ b).toList) := ⟨fun _ => h, .of_unbroken hbreak⟩
  rw [String.toList_append]
  exact hline.append (by decide : Versionless ['\n']) (by decide)

end Quiet

namespace Dialect

/-- The first line of the programs of a dialect. -/
def versionLine : Dialect → String
  | gl2 => "#version 110"
  | gles2 => "#version 100"
  | gl33 => "#version 330"
  | gl4 | unknown => "#version 410"
  | gles3 => "#version 300 es"

theorem unbroken_versionLine (d : Dialect) : Text.Unbroken d.versionLine := by
  cases d <;> exact Text.unbroken_ofList (by decide)

/-- The version is stated first. -/
theorem exists_preamble_eq (d : Dialect) :
    ∃ text, d.preamble = d.versionLine ++ ("\n" ++ text) ∧ Quiet text := by
  cases d with
  | gles2 | gles3 =>
    exact ⟨"precision highp float;\nprecision highp int;\n", by decide, .of_not_mem (by decide)⟩
  | _ => exact ⟨"", by decide, .of_not_mem (by decide)⟩

end Dialect

/-- The types of the variables of programs. -/
def variableTypes : List String := ["bool", "int", "float", "vec2", "vec4"]

/-- The variable has such a type, and no line break in its name. -/
structure Variable.Tidy (v : Variable) : Prop where
  type : v.type ∈ variableTypes
  name : Text.Unbroken v.name

theorem Variable.Tidy.unbroken_type {v : Variable} (hv : v.Tidy) : Text.Unbroken v.type := by
  have hall : ∀ type ∈ variableTypes, Text.Unbroken type := by decide
  exact hall _ hv.type

/-- Behind a tab, no type goes on like the directive. -/
theorem Variable.Tidy.not_statesVersion {v : Variable} (hv : v.Tidy) (rest : List Char) :
    ¬StatesVersion ('\t' :: (v.type.toList ++ rest)) := by
  have htype := hv.type
  simp only [variableTypes, List.mem_cons, List.not_mem_nil, or_false] at htype
  rcases htype with htype | htype | htype | htype | htype <;> rw [htype]
  · exact not_statesVersion_of_stop "\t".toList 'b' (by decide) (by decide) _
  · exact not_statesVersion_of_stop "\tin".toList 't' (by decide) (by decide) _
  · exact not_statesVersion_of_stop "\t".toList 'f' (by decide) (by decide) _
  · exact not_statesVersion_of_stop "\tve".toList 'c' (by decide) (by decide) _
  · exact not_statesVersion_of_stop "\tve".toList 'c' (by decide) (by decide) _

namespace Interface

variable {i : Interface} {d : Dialect} {block : Bool} {stage : Stage} {v : Variable}

/-- All that is declared has a type of the language, and no line break in its name. -/
structure Tidy (i : Interface) : Prop where
  inputs : ∀ v ∈ i.inputs, v.Tidy
  samplers : ∀ s ∈ i.samplers, Text.Unbroken s.name

theorem Tidy.uniforms (hi : i.Tidy) : ∀ v ∈ i.uniforms, v.Tidy := by
  intro v hv
  rcases List.mem_append.1 hv with hv | hv
  · rcases List.mem_append.1 hv with hv | hv
    · have htypes : ∀ v ∈ builtins, v.type ∈ variableTypes ∧ Text.Unbroken v.name := by decide
      exact ⟨(htypes v hv).1, (htypes v hv).2⟩
    · exact hi.inputs v hv
  · obtain ⟨s, hs, hv⟩ := List.mem_flatMap.1 hv
    have hname := (by decide : Text.Unbroken "_").append (hi.samplers s hs)
    simp only [Sampler.companions, List.mem_cons, List.not_mem_nil, or_false] at hv
    rcases hv with rfl | rfl | rfl
    · exact ⟨by simp [variableTypes], hname.append (by decide)⟩
    · exact ⟨by simp [variableTypes], hname.append (by decide)⟩
    · exact ⟨by simp [variableTypes], hname.append (by decide)⟩

/-- The declaration of a variable in a block states no version. -/
theorem quiet_memberLine (hv : v.Tidy) : Quiet (memberLine v) := by
  refine .line (b := ";") (((((by decide : Text.Unbroken "\t").append hv.unbroken_type).append
    (by decide)).append hv.name).append (by decide)) ?_
  simp only [String.toList_append, List.append_assoc]
  exact hv.not_statesVersion _

/-- The declaration of a variable of its own states no version. -/
theorem quiet_uniformLine (htype : Text.Unbroken v.type) (hname : Text.Unbroken v.name) :
    Quiet (uniformLine v) := by
  refine .line (b := ";") (((((by decide : Text.Unbroken "uniform ").append htype).append
    (by decide)).append hname).append (by decide)) ?_
  simp only [String.toList_append, List.append_assoc]
  exact not_statesVersion_of_stop [] 'u' (by decide) (by decide) _

theorem quiet_stageLines (d : Dialect) (stage : Stage) : Quiet (stageLines d stage) := by
  have hvarying : Quiet (d.varying stage) := by
    cases d <;> cases stage <;> exact .of_not_mem (by decide)
  have hinput : Quiet d.vertexInput := by
    cases d <;> exact .of_not_mem (by decide)
  refine .append (hvarying.append (.of_not_mem (by decide))) ?_
  cases stage with
  | vertex => exact hinput.append (.of_not_mem (by decide))
  | fragment =>
    dsimp only
    split
    · -- the other directive of the generator
      exact .whole (Or.inr (by decide)) (by decide)
    · exact .of_not_mem (by decide)

theorem quiet_declarations (hi : i.Tidy) : Quiet (i.declarations d stage block) := by
  refine .append (.append ?_ (.join fun text htext => ?_)) (quiet_stageLines d stage)
  · unfold uniformLines
    split
    · refine .append (.append (.of_not_mem (by decide)) (.join fun text htext => ?_))
        (.of_not_mem (by decide))
      obtain ⟨v, hv, rfl⟩ := List.mem_map.1 htext
      exact quiet_memberLine (hi.uniforms v hv)
    · refine .join fun text htext => ?_
      obtain ⟨v, hv, rfl⟩ := List.mem_map.1 htext
      exact quiet_uniformLine (hi.uniforms v hv).unbroken_type (hi.uniforms v hv).name
  · obtain ⟨s, hs, rfl⟩ := List.mem_map.1 htext
    exact quiet_uniformLine (s.shape.lacks_samplerType.unbroken (by decide)) (hi.samplers s hs)

/-- No line in the body of a sampling function states a version. -/
theorem not_statesVersion_of_mem_body {shape : Shape} {f : SamplingFunction}
    (hf : f ∈ shape.samplingFunctions d) : ∀ line ∈ f.body, ¬StatesVersion line.toList := by
  have hmem : f = shape.pixelFunction d ∨ f = shape.normFunction d := by
    cases shape <;> simp_all [Shape.samplingFunctions]
  rcases hmem with rfl | rfl
  · simp only [Shape.pixelFunction, List.forall_mem_cons, String.toList_append, List.append_assoc]
    exact ⟨not_statesVersion_of_stop "\tre".toList 't' (by decide) (by decide) _,
      not_statesVersion_of_stop "\t\t".toList '?' (by decide) (by decide) _,
      not_statesVersion_of_stop "\t\t".toList ':' (by decide) (by decide) _, by simp⟩
  · cases shape <;>
      simp only [Shape.normFunction, List.forall_mem_cons, String.toList_append,
        List.append_assoc] <;>
      exact ⟨not_statesVersion_of_stop "\tre".toList 't' (by decide) (by decide) _, by simp⟩

/-- The definitions of the sampling functions state no version. -/
theorem quiet_functions (i : Interface) (d : Dialect) : Quiet (i.functions d) := by
  have hline {line : String} (hbreak : Text.Unbroken line) (h : ¬StatesVersion line.toList) :
      Quiet (line ++ "\n") := by
    refine .line (b := "") (hbreak.append (by decide)) ?_
    rwa [String.toList_empty, List.append_nil]
  refine .join fun text htext => ?_
  obtain ⟨line, hmem, rfl⟩ := List.mem_map.1 htext
  obtain ⟨shape, -, hmem⟩ := List.mem_flatMap.1 hmem
  rcases List.mem_cons.1 hmem with rfl | hmem
  · exact .of_not_mem (by decide)
  · obtain ⟨f, hf, hmem⟩ := List.mem_flatMap.1 hmem
    refine hline ((Shape.neat_of_mem hf).unbroken_lines line hmem) ?_
    simp only [SamplingFunction.lines, List.cons_append, List.mem_cons, List.mem_append,
      List.not_mem_nil, or_false] at hmem
    rcases hmem with rfl | hmem | rfl
    · simp only [SamplingFunction.heading, String.toList_append, List.append_assoc]
      exact not_statesVersion_of_stop "ve".toList 'c' (by decide) (by decide) _
    · exact not_statesVersion_of_mem_body hf line hmem
    · decide

/-- **What stands in front of a body** states a version in its first line, and nowhere else. -/
theorem exists_stageFront_eq_versionLine (hi : i.Tidy) (d : Dialect) (block : Bool)
    (stage : Stage) : ∃ text, i.stageFront d block stage = d.versionLine ++ ("\n" ++ text) ∧
      Quiet text := by
  obtain ⟨text, hpreamble, htext⟩ := d.exists_preamble_eq
  have hbreak : Quiet "\n" := .of_not_mem (by decide)
  have hextension : Quiet (if i.samples .rectangle && d == .gl2 then
      "#extension GL_ARB_texture_rectangle : enable\n" else "") := by
    split
    · exact .whole (Or.inr (by decide)) (by decide)
    · exact .of_not_mem (by decide)
  have hdeclarations : Quiet (i.declarations d stage block) := quiet_declarations hi
  have hquiet {start : String} (hstart : Quiet start) :=
    (((((htext.append hextension).append hbreak).append hdeclarations).append
      (i.quiet_functions d)).append hstart).append hbreak
  unfold stageFront
  rw [hpreamble]
  cases stage with
  | vertex =>
    have hstart : Quiet vertexStart :=
      .append (.append (.of_not_mem (by decide)) (.of_not_mem (by decide)))
        (.of_not_mem (by decide))
    refine ⟨_, ?_, hquiet hstart⟩
    simp only [String.append_assoc]
  | fragment =>
    have hstart : Quiet "" := .of_not_mem (by decide)
    refine ⟨_, ?_, hquiet hstart⟩
    simp only [String.append_assoc]

end Interface

/-! ### Programs -/

namespace Document

variable {d : Document} {settings : SceneSettings} {source : ProgramSource}

/-- Programs declare what is tidy, if no name has a line break. -/
theorem tidy_programInterface (hnames : ∀ name ∈ d.givenNames, Text.Unbroken name) :
    d.programInterface.Tidy := by
  have htypes (kind : Kind) : ∀ type ∈ kind.typeName?, type ∈ variableTypes := by
    cases kind <;> decide
  constructor
  · intro v hv
    obtain ⟨hname, kind, hkind⟩ := exists_kind_of_mem_inputs hv
    exact ⟨htypes kind v.type hkind, hnames v.name hname⟩
  · exact fun s hs => hnames s.name (name_mem_givenNames hs)

/-- **The first line of a program states a version**, and no other line does. -/
theorem exists_splitOn_program (hnames : ∀ name ∈ d.givenNames, Text.Unbroken name)
    (h : d.generate settings = .ok source) (stage : Stage) :
    ∃ others, (source.program stage).toList.splitOn '\n' =
      settings.dialect.versionLine.toList :: others ∧ ∀ line ∈ others, ¬StatesVersion line := by
  obtain ⟨out, hout, hsource⟩ := (generate_eq_ok_iff_written.1 h).2 stage
  have htidy := tidy_programInterface hnames
  obtain ⟨text, hfront, hquiet⟩ :=
    Interface.exists_stageFront_eq_versionLine htidy settings.dialect settings.uniformBlock stage
  have hbody : Versionless ('\n' :: d.body stage) := by
    rw [body_eq]
    exact versionless_dropVersionLines _
  have hprogram : (source.program stage).toList =
      settings.dialect.versionLine.toList ++ '\n' :: (text.toList ++ out) := by
    rw [hsource, front, hfront]
    simp only [String.toList_append, String.toList_ofList, List.append_assoc]
    rfl
  have hbreak : '\n' ∉ settings.dialect.versionLine.toList :=
    settings.dialect.unbroken_versionLine
  have hversionless : Versionless (settings.dialect.versionLine.toList ++
      '\n' :: (text.toList ++ out)) :=
    .behind hbreak (hquiet out (hout.versionless (u := ['\n']) htidy.samplers hbody))
  have hlines := hversionless.not_statesVersion
  rw [List.splitOn_append_cons_self, List.splitOn_eq_singleton hbreak] at hlines
  rw [hprogram, List.splitOn_append_cons_self, List.splitOn_eq_singleton hbreak]
  exact ⟨_, rfl, hlines⟩

/-- **Every program states its version once.**  If no name of the metadata has a line break, both
programs start with the line that states the version of the dialect, and no other line of them
states one, whatever the bodies look like.  And where no macro is called in a body without the lines
that state a version, the program ends with these lines of the body, of which none is lost. -/
theorem states_version_once (hnames : ∀ name ∈ d.givenNames, Text.Unbroken name)
    (h : d.generate settings = .ok source) (stage : Stage) :
    (∃ others, (source.program stage).toList.splitOn '\n' =
        settings.dialect.versionLine.toList :: others ∧ ∀ line ∈ others, ¬StatesVersion line) ∧
      StatesVersion settings.dialect.versionLine.toList ∧
      (CallFree none (d.bodyLines stage).flatten [] → (source.program stage).toList =
        (d.front settings stage).toList ++ (d.bodyLines stage).flatten) := by
  refine ⟨exists_splitOn_program hnames h stage, ?_, ?_⟩
  · cases settings.dialect <;> decide
  · intro hfree
    obtain ⟨out, hout, hsource⟩ := (generate_eq_ok_iff_written.1 h).2 stage
    obtain rfl := (rewritten_iff_of_callFree hfree).1 hout
    rw [hsource, String.toList_append, String.toList_ofList]

/-- An effect with an image. -/
def imageDocument (fragment vertex : String) : Document :=
  { Metadata.empty with
    parameters := [Parameter.ofKind "i" .image]
    path := none
    source := ⟨"", "", fragment⟩
    vertex := vertex
    importsDirectory := ""
    failure := none
    parent := none }

/-- Lines that state versions are dropped from an effect, wherever they stand: at its beginning, one
behind the other, at its end, and in the argument of a call. -/
theorem states_version_once_scattered :
    let d := imageDocument "#version 120\r\n#version 130\nvoid main() \x7b\x7d\n\t#version 330 core"
      "IMG_PIXEL(i,\n#version 140\n p)"
    ∃ source, (∀ name ∈ d.givenNames, Text.Unbroken name) ∧ d.generate ⟨.gles3, true⟩ = .ok source ∧
      (∀ stage, ∃ others, (source.program stage).toList.splitOn '\n' =
        "#version 300 es".toList :: others ∧ ∀ line ∈ others, ¬StatesVersion line) ∧
      CallFree none (d.bodyLines .fragment).flatten [] ∧
      (source.program .fragment).toList =
        (d.front ⟨.gles3, true⟩ .fragment).toList ++ "void main() \x7b\x7d\n".toList := by
  intro d
  have hnames : ∀ name ∈ d.givenNames, Text.Unbroken name := by decide
  have hok : (d.generate ⟨.gles3, true⟩).isOk = true := by decide +kernel
  have hlines : (d.bodyLines .fragment).flatten = "void main() \x7b\x7d\n".toList := by
    decide +kernel
  have hfree : CallFree none (d.bodyLines .fragment).flatten [] := by
    have hexpand : expandMacros [] (d.bodyLines .fragment).flatten =
        .ok (d.bodyLines .fragment).flatten := by decide +kernel
    exact callFree_of_expandMacros hexpand
  cases h : d.generate ⟨.gles3, true⟩ with
  | error failure =>
    rw [h] at hok
    cases hok
  | ok source =>
    refine ⟨source, hnames, rfl, fun stage => (states_version_once hnames h stage).1, hfree, ?_⟩
    rw [← hlines]
    exact (states_version_once hnames h .fragment).2.2 hfree

/-- An effect with an image, in whose body a line that states a version stands in the middle of what
would be a call. -/
def dividedText : String :=
  "/*\x7b\"INPUTS\":[\x7b\"NAME\":\"i\",\"TYPE\":\"image\"\x7d]\x7d*/IMG_SIZE\n#version 120\n(i)\n"

/-- **A call can come into being when lines are dropped.**  No macro is called in the body, since a
line that states a version keeps a name from the parenthesis.  Still the program does not end with
the lines that are left. -/
theorem exists_call_across_version :
    ∃ d source, (ofTexts dividedText none "/").result = .ok d ∧
      d.generate ⟨.gl4, false⟩ = .ok source ∧ (∀ name ∈ d.givenNames, Text.Unbroken name) ∧
      CallFree none (d.rawBody .fragment).toList [] ∧
      ¬(d.bodyLines .fragment).flatten <:+ (source.program .fragment).toList := by
  obtain ⟨d, source, hd, hsource, hcomputed⟩ := exists_of_computed dividedText ⟨.gl4, false⟩
    (fun d => decide ((∀ name ∈ d.givenNames, Text.Unbroken name) ∧
      expandMacros [] (d.rawBody .fragment).toList = .ok (d.rawBody .fragment).toList ∧
      expandMacros d.samplers (d.body .fragment) = .ok "_i_imgSize\n".toList ∧
      (d.bodyLines .fragment).flatten = "IMG_SIZE\n(i)\n".toList)) true (by decide +kernel)
  obtain ⟨hnames, hfree, hsize, hlines⟩ := of_decide_eq_true hcomputed
  refine ⟨d, source, hd, hsource, hnames, callFree_of_expandMacros hfree, fun hsuffix => ?_⟩
  obtain ⟨out, hout, hprogram⟩ := (generate_eq_ok_iff_written.1 hsource).2 .fragment
  rw [← expandMacros_eq_ok_iff, hsize] at hout
  obtain rfl := Except.ok.inj hout
  rw [hprogram, String.toList_append, String.toList_ofList, hlines] at hsuffix
  have hshort : "_i_imgSize\n".toList <:+ "IMG_SIZE\n(i)\n".toList :=
    List.suffix_of_suffix_length_le (List.suffix_append _ _) hsuffix (by decide)
  revert hshort
  decide

end Document

end ShaderEffect
