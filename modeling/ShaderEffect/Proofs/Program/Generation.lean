/-
**When programs can be generated.**

A document has programs in a dialect if the dialect can express what it declares, and if each call
in its two bodies stands for something.  Only calls that are met count: those outside of other
calls, and, in the arguments of a call besides its first, those that are met there.

Main definitions:

* `ShaderEffect.ImageMacro.Admitted` — the calls that stand for something;
* `ShaderEffect.Document.Expressible` — **what a document needs to have programs**;
* `ShaderEffect.Document.Written` — its programs.

Main results:

* `ShaderEffect.exists_rewritten_iff` — the calls of a text can be replaced if each call that is met
  stands for something;
* `ShaderEffect.Document.generates_iff` — **a document has programs if it can be expressed**, and
  they are its bodies with their calls replaced.
-/

import ShaderEffect.Document.Open
import ShaderEffect.Proofs.Program.Rewriting
import ShaderEffect.Proofs.Program.VersionLines

set_option autoImplicit false

namespace ShaderEffect

/-! ### Calls that stand for something -/

/-- The call of `m` stands for something, where `opened` is the text behind its parenthesis. -/
structure ImageMacro.Admitted (samplers : List Sampler) (m : ImageMacro) (opened : List Char) :
    Prop where
  /-- The parenthesis is closed. -/
  closed : ∃ inner after, Text.Balanced inner ∧ opened = inner ++ ')' :: after
  /-- The first argument is the name of a sampler. -/
  sampled : ∀ a : Arguments, a.Splits opened →
    ∃ s ∈ samplers, s.name = String.ofList (Text.trim a.first)
  /-- There is one argument, or two for the macros that take a place. -/
  counted : ∀ a : Arguments, a.Splits opened →
    a.others.length + 1 = if m = .pixel ∨ m = .normPixel then 2 else 1
  /-- A cube has no place that belongs to the current pixel. -/
  placed : ∀ (a : Arguments) (s : Sampler), a.Splits opened →
    samplers.find? (·.name = String.ofList (Text.trim a.first)) = some s → s.shape = .cube →
      m ≠ .thisPixel ∧ m ≠ .thisNormPixel

section Meeting

variable {samplers : List Sampler} {front : Option Char} {m : ImageMacro} {s : Sampler}
  {a : Arguments} {cs plain opened out name text : List Char} {places : List (List Char)}

theorem exists_samplerOf?_iff : (∃ s, samplerOf? samplers name = some s) ↔
    ∃ s ∈ samplers, s.name = String.ofList name := by
  rw [← Option.isSome_iff_exists, samplerOf?, List.find?_isSome]
  simp

/-- A macro stands for something if it is given as many arguments as it takes, and on cubes if a
place is among them or none is needed. -/
theorem exists_expand_iff : (∃ text, m.expand s places = .ok text) ↔
    places.length + 1 = (if m = .pixel ∨ m = .normPixel then 2 else 1) ∧
      (s.shape = .cube → m ≠ .thisPixel ∧ m ≠ .thisNormPixel) := by
  unfold ImageMacro.expand
  by_cases hlength : places.length = m.places
  · rw [if_neg (not_not_intro hlength), hlength]
    cases m <;> by_cases hcube : s.shape = .cube <;> simp [ImageMacro.places, hcube]
  · rw [if_pos hlength]
    have hcount : places.length + 1 ≠ if m = .pixel ∨ m = .normPixel then 2 else 1 :=
      fun h => hlength (Nat.succ.inj (h.trans (by cases m <;> rfl)))
    simp [hcount]

/-- A call that stands for something is admitted. -/
theorem ImageMacro.Expands.admitted (h : m.Expands samplers opened a s places text) :
    m.Admitted samplers opened := by
  obtain ⟨hcount, hcube⟩ := exists_expand_iff.1 ⟨text, h.expand⟩
  rw [h.length] at hcount
  constructor
  · exact Arguments.exists_splits_iff.1 ⟨a, h.splits⟩
  · intro b hb
    obtain rfl := h.splits.unique hb
    exact exists_samplerOf?_iff.1 ⟨s, h.sampler⟩
  · intro b hb
    obtain rfl := h.splits.unique hb
    exact hcount
  · intro b s' hb hs'
    obtain rfl := h.splits.unique hb
    obtain rfl := Option.some.inj (h.sampler.symm.trans hs')
    exact hcube

/-- An admitted call stands for something, whatever stands in place of its further arguments. -/
theorem ImageMacro.Admitted.exists_expands (h : m.Admitted samplers opened) :
    ∃ a : Arguments, a.Splits opened ∧ ∀ places : List (List Char),
      places.length = a.others.length → ∃ s text, m.Expands samplers opened a s places text := by
  obtain ⟨a, ha⟩ := Arguments.exists_splits_iff.2 h.closed
  obtain ⟨s, hs⟩ := exists_samplerOf?_iff.2 (h.sampled a ha)
  refine ⟨a, ha, fun places hlength => ?_⟩
  obtain ⟨text, htext⟩ :=
    exists_expand_iff.2 ⟨hlength ▸ h.counted a ha, h.placed a s ha hs⟩
  exact ⟨s, text, ha, hs, hlength, ImageMacro.expand_eq_ok_iff.1 htext⟩

/-- Texts that are related to others one by one. -/
theorem exists_zip {R : List Char → List Char → Prop} {ts : List (List Char)}
    (h : ∀ t ∈ ts, ∃ p, R t p) :
    ∃ ps : List (List Char), ps.length = ts.length ∧ ∀ t p, (t, p) ∈ ts.zip ps → R t p := by
  induction ts with
  | nil => exact ⟨[], rfl, by simp⟩
  | cons t ts ih =>
    obtain ⟨⟨p, hp⟩, hts⟩ := List.forall_mem_cons.1 h
    obtain ⟨ps, hlength, hps⟩ := ih hts
    refine ⟨p :: ps, congrArg (· + 1) hlength, fun t' p' hmem => ?_⟩
    rw [List.zip_cons_cons, List.mem_cons] at hmem
    rcases hmem with heq | hmem
    · cases heq
      exact hp
    · exact hps t' p' hmem

/-- **The calls of a text can be replaced if each call that is met is admitted.** -/
theorem exists_rewritten_iff : (∃ out, Rewritten samplers front cs out) ↔
    ∀ m opened, Met front cs m opened → m.Admitted samplers opened := by
  constructor
  · rintro ⟨out, hout⟩ m opened hmet
    obtain ⟨a, s, places, text, hexpands, -⟩ := hout.exists_inserted hmet
    exact hexpands.admitted
  · intro h
    obtain ⟨n, hn⟩ : ∃ n, cs.length = n := ⟨_, rfl⟩
    induction n using Nat.strongRecOn generalizing front cs with
    | ind n ih =>
      subst hn
      rcases callFree_or_exists_first front cs with hfree | ⟨plain, m, opened, hfirst⟩
      · exact ⟨cs, .rest hfree⟩
      · obtain ⟨a, ha, hexpands⟩ := (h m opened (.first hfirst)).exists_expands
        obtain ⟨after, hafter⟩ : ∃ after, Rewritten samplers (some ')') a.after after :=
          ih _ (Nat.lt_trans ha.length_after_lt hfirst.length_lt)
            (fun m' opened' hmet => h m' opened' (.after hfirst ha hmet)) rfl
        obtain ⟨places, hlength, hplaces⟩ := exists_zip
          (R := fun t p => Rewritten samplers none (Text.trim t) p) fun t ht => by
            have hlt := Nat.lt_trans (ha.length_lt_of_mem ht) hfirst.length_lt
            exact ih _ (Nat.lt_of_le_of_lt (Text.length_trim_le t) hlt)
              (fun m' opened' hmet => h m' opened' (.inside hfirst ha ht hmet)) rfl
        obtain ⟨s, text, hexpands⟩ := hexpands places hlength
        exact ⟨_, .call hfirst hexpands hplaces hafter⟩

end Meeting

/-! ### Programs -/

/-- The program of a stage. -/
def ProgramSource.program (source : ProgramSource) : Stage → String
  | .fragment => source.fragment
  | .vertex => source.vertex

namespace Document

/-- The body of a stage as it stands in the document. -/
def rawBody (d : Document) : Stage → String
  | .fragment => d.source.body
  | .vertex => d.vertex

/-- The lines of a body that state no version. -/
def bodyLines (d : Document) (stage : Stage) : List (List Char) :=
  (Text.lines (d.rawBody stage).toList).filter fun line => ¬StatesVersion line

/-- The body of a stage, without lines that state a version. -/
def body (d : Document) (stage : Stage) : List Char := (d.bodyLines stage).flatten

theorem body_eq (d : Document) (stage : Stage) :
    d.body stage = dropVersionLines (d.rawBody stage).toList :=
  (dropVersionLines_eq _).symm

/-- The document has programs under these settings. -/
structure Expressible (d : Document) (settings : SceneSettings) : Prop where
  known : settings.dialect ≠ .unknown
  /-- Blocks of uniforms need a dialect that has them. -/
  block : settings.uniformBlock = true → settings.dialect ∈ [.gl33, .gl4, .gles3]
  /-- Rectangles are not for embedded systems. -/
  rectangles : (∃ s ∈ d.samplers, s.shape = .rectangle) → settings.dialect ∉ [.gles2, .gles3]
  /-- Each call that is met in a body stands for something. -/
  calls : ∀ stage m opened, Met none (d.body stage) m opened → m.Admitted d.samplers opened

/-- What is generated for a stage stands in front of its body. -/
def front (d : Document) (settings : SceneSettings) (stage : Stage) : String :=
  d.programInterface.stageFront settings.dialect settings.uniformBlock stage

/-- The programs are the two bodies with their calls replaced, each behind what is generated for its
stage. -/
def Written (d : Document) (settings : SceneSettings) (source : ProgramSource) : Prop :=
  ∀ stage, ∃ out, Rewritten d.samplers none (d.body stage) out ∧
    source.program stage = d.front settings stage ++ String.ofList out

end Document

namespace Interface

variable {i : Interface} {d : Dialect} {block : Bool} {stage : Stage} {body : String}

theorem stageSource_eq_ok_iff {text : String} : i.stageSource d block stage body = .ok text ↔
    ∃ out, Rewritten i.samplers none (dropVersionLines body.toList) out ∧
      text = i.stageFront d block stage ++ String.ofList out := by
  simp only [← expandMacros_eq_ok_iff]
  unfold stageSource stageBody
  cases expandMacros i.samplers (dropVersionLines body.toList) with
  | error fault => simp
  | ok out => simp [eq_comm]

/-- Programs of the interface are supported if the dialect has what they need. -/
theorem unsupported?_eq_none_iff : i.unsupported? d block = none ↔ d ≠ .unknown ∧
    (block = true → d ∈ [.gl33, .gl4, .gles3]) ∧
      ((∃ s ∈ i.samplers, s.shape = .rectangle) → d ∉ [.gles2, .gles3]) := by
  have hrectangles : (∃ s ∈ i.samplers, s.shape = .rectangle) ↔ i.samples .rectangle = true := by
    simp [samples]
  rw [hrectangles, unsupported?]
  cases d <;> cases block <;> cases i.samples .rectangle <;> decide

theorem generate_eq_ok_iff {fragment vertex : String} {source : ProgramSource} :
    i.generate d block fragment vertex = .ok source ↔ i.unsupported? d block = none ∧
      i.stageSource d block .fragment fragment = .ok source.fragment ∧
      i.stageSource d block .vertex vertex = .ok source.vertex := by
  unfold generate
  cases i.unsupported? d block with
  | some fault => simp
  | none =>
    cases i.stageSource d block .fragment fragment with
    | error fault => simp
    | ok f =>
      cases i.stageSource d block .vertex vertex with
      | error fault => simp
      | ok v =>
        obtain ⟨f', v'⟩ := source
        simp

end Interface

namespace Document

variable {d : Document} {settings : SceneSettings} {source : ProgramSource}

theorem generate_eq (d : Document) (settings : SceneSettings) : d.generate settings =
    (d.programInterface.generate settings.dialect settings.uniformBlock d.source.body
      d.vertex).mapError .generation := by
  unfold generate
  dsimp only
  generalize Interface.generate .. = result
  cases result <;> rfl

/-- What generating gives are the programs of a document that can be expressed. -/
theorem generate_eq_ok_iff_written :
    d.generate settings = .ok source ↔ d.Expressible settings ∧ d.Written settings source := by
  have hgenerate : d.generate settings = .ok source ↔
      d.programInterface.generate settings.dialect settings.uniformBlock d.source.body d.vertex =
        .ok source := by
    rw [generate_eq]
    cases Interface.generate .. with
    | error fault =>
      show (Except.error (.generation fault) : Except Failure ProgramSource) = _ ↔ _
      simp
    | ok written =>
      show (Except.ok written : Except Failure ProgramSource) = _ ↔ _
      simp
  rw [hgenerate, Interface.generate_eq_ok_iff, Interface.unsupported?_eq_none_iff,
    Interface.stageSource_eq_ok_iff, Interface.stageSource_eq_ok_iff]
  constructor
  · rintro ⟨⟨hknown, hblock, hrectangles⟩, hfragment, hvertex⟩
    have hwritten : d.Written settings source := by
      intro stage
      rw [body_eq]
      cases stage
      · exact hvertex
      · exact hfragment
    refine ⟨⟨hknown, hblock, hrectangles, fun stage => ?_⟩, hwritten⟩
    obtain ⟨out, hout, -⟩ := hwritten stage
    exact exists_rewritten_iff.1 ⟨out, hout⟩
  · rintro ⟨⟨hknown, hblock, hrectangles, -⟩, hwritten⟩
    have hfragment := hwritten .fragment
    have hvertex := hwritten .vertex
    rw [body_eq] at hfragment hvertex
    exact ⟨⟨hknown, hblock, hrectangles⟩, hfragment, hvertex⟩

/-- A document that can be expressed has programs. -/
theorem Expressible.exists_written (h : d.Expressible settings) :
    ∃ source, d.Written settings source := by
  have hout (stage : Stage) : ∃ out, Rewritten d.samplers none (d.body stage) out :=
    exists_rewritten_iff.2 (h.calls stage)
  obtain ⟨f, hf⟩ := hout .fragment
  obtain ⟨v, hv⟩ := hout .vertex
  refine ⟨⟨d.front settings .fragment ++ String.ofList f,
    d.front settings .vertex ++ String.ofList v⟩, fun stage => ?_⟩
  cases stage
  · exact ⟨v, hv, rfl⟩
  · exact ⟨f, hf, rfl⟩

/-- **A document has programs if it can be expressed**, and they are its bodies with their calls
replaced.  Generating them fails for no other reason. -/
theorem generates_iff (d : Document) (settings : SceneSettings) :
    ((∃ source, d.generate settings = .ok source) ↔ d.Expressible settings) ∧
      (∀ source, d.generate settings = .ok source ↔
        d.Expressible settings ∧ d.Written settings source) ∧
      ∀ failure, d.generate settings = .error failure → ∃ fault, failure = .generation fault := by
  refine ⟨⟨?_, ?_⟩, fun source => generate_eq_ok_iff_written, ?_⟩
  · rintro ⟨source, h⟩
    exact (generate_eq_ok_iff_written.1 h).1
  · intro h
    obtain ⟨source, hsource⟩ := h.exists_written
    exact ⟨source, generate_eq_ok_iff_written.2 ⟨h, hsource⟩⟩
  · intro failure h
    rw [generate_eq] at h
    generalize Interface.generate .. = result at h
    cases result with
    | error fault => exact ⟨fault, (Except.error.inj h).symm⟩
    | ok source => cases h

/-- The program of a stage, if it is computed what the calls in the body stand for. -/
theorem program_eq (stage : Stage) {text : String} (h : d.generate settings = .ok source)
    (htext : expandMacros d.samplers (d.body stage) = .ok text.toList) :
    source.program stage = d.front settings stage ++ text := by
  obtain ⟨out, hout, hprogram⟩ := (generate_eq_ok_iff_written.1 h).2 stage
  rw [← expandMacros_eq_ok_iff, htext] at hout
  obtain rfl := Except.ok.inj hout
  rw [hprogram, String.ofList_toList]

/-- What is computed about an effect that can be read and has programs. -/
theorem exists_of_computed (text : String) (settings : SceneSettings) (p : Document → Bool)
    (b : Bool) (h : ((ofTexts text none "/").result.toOption.map fun d =>
      ((d.generate settings).isOk, p d)) = some (true, b)) :
    ∃ d source, (ofTexts text none "/").result = .ok d ∧ d.generate settings = .ok source ∧
      p d = b := by
  cases hd : (ofTexts text none "/").result with
  | error failure =>
    rw [hd] at h
    cases h
  | ok d =>
    rw [hd] at h
    obtain ⟨hok, hp⟩ := Prod.mk.inj (Option.some.inj h)
    cases hsource : d.generate settings with
    | error failure =>
      rw [hsource] at hok
      cases hok
    | ok source => exact ⟨d, source, rfl, hsource, hp⟩

/-- An image that is bound to a texture of a shape. -/
def boundImage (name : String) (shape : Shape) : Parameter :=
  { Parameter.ofKind name .image with
    current := .image (some ⟨⟨1⟩, ⟨⟨4, 4⟩, .rgba8, shape⟩, false⟩) }

/-- An effect that samples images of all shapes, and one of them at a place that the size of another
one tells. -/
def mixedDocument : Document :=
  { Metadata.empty with
    parameters := [boundImage "a" .flat, boundImage "r" .rectangle, boundImage "c" .cube]
    path := none
    source := ⟨"", "", "IMG_PIXEL(r, IMG_SIZE (a)/2.) + IMG_THIS_PIXEL(a)"⟩
    vertex := "IMG_NORM_PIXEL(c, d)"
    importsDirectory := ""
    failure := none
    parent := none }

/-- **An effect with images of all shapes has programs**, and each call in its bodies has given way
to what it stands for. -/
theorem generates_mixed : mixedDocument.Expressible ⟨.gl33, true⟩ ∧
    ∃ source, mixedDocument.generate ⟨.gl33, true⟩ = .ok source ∧
      source.fragment = mixedDocument.front ⟨.gl33, true⟩ .fragment ++
        ("VVSAMPLER_2DRECTBYPIXEL(r, _r_imgRect, _r_imgSize, _r_flip, _a_imgSize/2.) + " ++
          "VVSAMPLER_2DBYPIXEL(a, _a_imgRect, _a_imgSize, _a_flip, gl_FragCoord.xy)") ∧
      source.vertex = mixedDocument.front ⟨.gl33, true⟩ .vertex ++
        "VVSAMPLER_CUBEBYNORM(c, _c_imgRect, _c_imgSize, _c_flip, d)" := by
  have hok : (mixedDocument.generate ⟨.gl33, true⟩).isOk = true := by decide +kernel
  obtain ⟨hexpressible, -, -⟩ := generates_iff mixedDocument ⟨.gl33, true⟩
  cases h : mixedDocument.generate ⟨.gl33, true⟩ with
  | error failure =>
    rw [h] at hok
    cases hok
  | ok source =>
    exact ⟨hexpressible.1 ⟨source, h⟩, source, rfl, program_eq .fragment h (by decide +kernel),
      program_eq .vertex h (by decide +kernel)⟩

end Document

end ShaderEffect
