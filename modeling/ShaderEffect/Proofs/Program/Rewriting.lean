/-
**Texts with their calls replaced.**

Replacing the calls of a text goes through it from left to right: what stands in front of the first
call is copied, the call gives way to what it stands for, with the calls in its arguments replaced
in the same way, and the text after its closing parenthesis is gone through as a text of its own.

Main definitions:

* `ShaderEffect.ImageMacro.StandsFor` — **what a call stands for**, spelled out;
* `ShaderEffect.ImageMacro.Expands` — a call that stands for a text;
* `ShaderEffect.Rewritten` — **a text with its calls replaced**;
* `ShaderEffect.ImageMacro.replaceBy` — what a call becomes, if it is known what the texts it leads
  to become;
* `ShaderEffect.Met` — the calls that are met on the way.

Main results:

* `ShaderEffect.ImageMacro.expand_eq_ok_iff` — a call is replaced by what it stands for;
* `ShaderEffect.expandFrom_of_called` — a call is refused or replaced;
* `ShaderEffect.expandFrom_eq_ok_iff` — **replacing calls gives the text with its calls replaced**;
* `ShaderEffect.Rewritten.exists_inserted` — what a call stands for that is met is inserted.
-/

import ShaderEffect.Proofs.Program.Arguments
import ShaderEffect.Proofs.Program.Calls

set_option autoImplicit false

namespace ShaderEffect

/-! ### What calls stand for -/

/-- A call of the function `f` on the image called `name`, at a place: the sampler, the variables
that accompany it, and the place. -/
def sampledText (f name place : String) : String :=
  f ++ "(" ++ name ++ ", _" ++ name ++ "_imgRect, _" ++ name ++ "_imgSize, _" ++ name ++
    "_flip, " ++ place ++ ")"

/-- The function that samples images of a shape at pixels.  A cube is sampled in a direction
instead. -/
def Shape.byPixel : Shape → String
  | flat => "VVSAMPLER_2DBYPIXEL"
  | rectangle => "VVSAMPLER_2DRECTBYPIXEL"
  | cube => "VVSAMPLER_CUBEBYNORM"

/-- The function that samples images of a shape at fractions of their size, or in a direction. -/
def Shape.byNorm : Shape → String
  | flat => "VVSAMPLER_2DBYNORM"
  | rectangle => "VVSAMPLER_2DRECTBYNORM"
  | cube => "VVSAMPLER_CUBEBYNORM"

/-- **What a call on the sampler `s` stands for**, with these texts for its arguments besides the
first. -/
inductive ImageMacro.StandsFor (s : Sampler) :
    ImageMacro → List (List Char) → List Char → Prop where
  | size : StandsFor s .size [] ("_" ++ s.name ++ "_imgSize").toList
  | pixel (place : List Char) : StandsFor s .pixel [place]
      (sampledText s.shape.byPixel s.name (String.ofList place)).toList
  | normPixel (place : List Char) : StandsFor s .normPixel [place]
      (sampledText s.shape.byNorm s.name (String.ofList place)).toList
  /-- A cube has no place that belongs to the current pixel. -/
  | thisPixel (h : s.shape ≠ .cube) : StandsFor s .thisPixel []
      (sampledText s.shape.byPixel s.name "gl_FragCoord.xy").toList
  | thisNormPixel (h : s.shape ≠ .cube) : StandsFor s .thisNormPixel []
      (sampledText s.shape.byNorm s.name "isf_FragNormCoord.xy").toList

section StandingFor

variable {m : ImageMacro} {s : Sampler} {places : List (List Char)} {text : List Char}

theorem ImageMacro.imageArguments_eq (s : Sampler) : imageArguments s =
    s.name ++ ", _" ++ s.name ++ "_imgRect, _" ++ s.name ++ "_imgSize, _" ++ s.name ++ "_flip" := by
  have hrect (text : String) : ", " ++ ("_" ++ text) = ", _" ++ text := by
    rw [← String.append_assoc]
    rfl
  have hsize (text : String) : "_imgRect" ++ (", _" ++ text) = "_imgRect, _" ++ text := by
    rw [← String.append_assoc]
    rfl
  have hflip (text : String) : "_imgSize" ++ (", _" ++ text) = "_imgSize, _" ++ text := by
    rw [← String.append_assoc]
    rfl
  simp only [imageArguments, Sampler.rectName, Sampler.sizeName, Sampler.flipName,
    String.append_assoc, hrect, hsize, hflip]

theorem ImageMacro.sampleCall_eq {mode f : String} (s : Sampler) (place : String)
    (hf : "VVSAMPLER_" ++ s.shape.functionPart ++ mode = f) :
    sampleCall s mode place = sampledText f s.name place := by
  have hflip (text : String) : "_flip" ++ (", " ++ text) = "_flip, " ++ text := by
    rw [← String.append_assoc]
    rfl
  rw [sampleCall, hf, imageArguments_eq, sampledText]
  simp only [String.append_assoc, hflip]

theorem ImageMacro.sampleCall_byPixel (s : Sampler) (place : String) :
    sampleCall s (if s.shape = .cube then "BYNORM" else "BYPIXEL") place =
      sampledText s.shape.byPixel s.name place :=
  sampleCall_eq s place (by cases s.shape <;> rfl)

theorem ImageMacro.sampleCall_byNorm (s : Sampler) (place : String) :
    sampleCall s "BYNORM" place = sampledText s.shape.byNorm s.name place :=
  sampleCall_eq s place (by cases s.shape <;> rfl)

theorem ImageMacro.sampleCall_of_ne_cube (h : s.shape ≠ .cube) (place : String) :
    sampleCall s "BYPIXEL" place = sampledText s.shape.byPixel s.name place := by
  rw [← sampleCall_byPixel, if_neg h]

/-- **What a call is replaced by is what it stands for.** -/
theorem ImageMacro.expand_eq_ok_iff : m.expand s places = .ok text ↔ StandsFor s m places text := by
  constructor
  · intro h
    unfold expand at h
    split at h
    · cases h
    · rename_i hlength
      have hlength := Decidable.not_not.1 hlength
      cases m with
      | size =>
        cases List.length_eq_zero_iff.1 hlength
        exact Except.ok.inj h ▸ .size
      | pixel =>
        obtain ⟨place, rfl⟩ := List.length_eq_one_iff.1 hlength
        obtain rfl := Except.ok.inj h
        rw [sampleCall_byPixel]
        exact .pixel place
      | normPixel =>
        obtain ⟨place, rfl⟩ := List.length_eq_one_iff.1 hlength
        obtain rfl := Except.ok.inj h
        rw [sampleCall_byNorm]
        exact .normPixel place
      | thisPixel =>
        cases List.length_eq_zero_iff.1 hlength
        dsimp only at h
        split at h
        · cases h
        · rename_i hcube
          obtain rfl := Except.ok.inj h
          rw [sampleCall_of_ne_cube hcube]
          exact .thisPixel hcube
      | thisNormPixel =>
        cases List.length_eq_zero_iff.1 hlength
        dsimp only at h
        split at h
        · cases h
        · rename_i hcube
          obtain rfl := Except.ok.inj h
          rw [sampleCall_byNorm]
          exact .thisNormPixel hcube
  · rintro (_ | place | place | hcube | hcube)
    · rfl
    · rw [← sampleCall_byPixel]
      rfl
    · rw [← sampleCall_byNorm]
      rfl
    · rw [← sampleCall_of_ne_cube hcube]
      exact if_neg hcube
    · rw [← sampleCall_byNorm]
      exact if_neg hcube

/-- What a call stands for is the variable that holds the size of the image, or a call of a sampling
function.  Cubes have none by pixels, and the place is a given one, or else a name of the language
with a component. -/
theorem ImageMacro.eq_of_expand (h : m.expand s places = .ok text) :
    text = (Sampler.sizeName s.name).toList ∨
      ∃ mode place, text = (sampleCall s mode place).toList ∧
        (mode = "BYNORM" ∨ mode = "BYPIXEL" ∧ s.shape ≠ .cube) ∧
          (place.toList ∈ places ∨ place ∈ ["gl_FragCoord.xy", "isf_FragNormCoord.xy"]) := by
  have hplace (place : List Char) : (String.ofList place).toList ∈ [place] := by
    rw [String.toList_ofList]
    exact List.mem_singleton_self place
  rcases expand_eq_ok_iff.1 h with _ | place | place | hcube | hcube
  · exact Or.inl rfl
  · rw [← sampleCall_byPixel]
    refine Or.inr ⟨_, _, rfl, ?_, Or.inl (hplace place)⟩
    by_cases hcube : s.shape = .cube
    · exact Or.inl (if_pos hcube)
    · exact Or.inr ⟨if_neg hcube, hcube⟩
  · rw [← sampleCall_byNorm]
    exact Or.inr ⟨_, _, rfl, Or.inl rfl, Or.inl (hplace place)⟩
  · rw [← sampleCall_of_ne_cube hcube]
    exact Or.inr ⟨_, _, rfl, Or.inr ⟨rfl, hcube⟩, Or.inr (by simp)⟩
  · rw [← sampleCall_byNorm]
    exact Or.inr ⟨_, _, rfl, Or.inl rfl, Or.inr (by simp)⟩

end StandingFor

/-! ### Replaced texts -/

/-- A call, behind whose parenthesis `opened` stands, has these arguments, its first one names the
sampler `s`, and with `places` in place of the others it stands for `text`. -/
structure ImageMacro.Expands (samplers : List Sampler) (m : ImageMacro) (opened : List Char)
    (a : Arguments) (s : Sampler) (places : List (List Char)) (text : List Char) : Prop where
  splits : a.Splits opened
  sampler : samplers.find? (·.name = String.ofList (Text.trim a.first)) = some s
  length : places.length = a.others.length
  standsFor : ImageMacro.StandsFor s m places text

theorem ImageMacro.Expands.expand {samplers : List Sampler} {m : ImageMacro} {opened : List Char}
    {a : Arguments} {s : Sampler} {places : List (List Char)} {text : List Char}
    (h : m.Expands samplers opened a s places text) : m.expand s places = .ok text :=
  expand_eq_ok_iff.2 h.standsFor

/-- `out` is the text `cs`, which stands behind the character `front`, with each call in it that
stands outside of others replaced by what it stands for.  The arguments besides the first have their
own calls replaced, and all other characters stay. -/
inductive Rewritten (samplers : List Sampler) : Option Char → List Char → List Char → Prop where
  /-- A text without calls. -/
  | rest {front : Option Char} {cs : List Char} (h : CallFree front cs []) :
      Rewritten samplers front cs cs
  /-- What stands in front of the first call, the call, and the text after it. -/
  | call {front : Option Char} {cs plain opened text out : List Char} {m : ImageMacro}
      {a : Arguments} {s : Sampler} {places : List (List Char)}
      (h : FirstCall front cs plain m opened)
      (hexpands : m.Expands samplers opened a s places text)
      (hplaces : ∀ t p, (t, p) ∈ a.others.zip places → Rewritten samplers none (Text.trim t) p)
      (hafter : Rewritten samplers (some ')') a.after out) :
      Rewritten samplers front cs (plain ++ (text ++ out))

section Replacing

theorem Text.isWord_close : Text.isWord ')' = false := by decide +kernel

variable {samplers : List Sampler} {front : Option Char} {c : Char} {m : ImageMacro}
  {cs plain opened out : List Char}

theorem rewritten_iff_of_callFree (h : CallFree front cs []) :
    Rewritten samplers front cs out ↔ out = cs := by
  constructor
  · rintro (_ | hfirst)
    · rfl
    · exact absurd h hfirst.not_callFree
  · rintro rfl
    exact .rest h

theorem rewritten_iff_of_first (h : FirstCall front cs plain m opened) :
    Rewritten samplers front cs out ↔ ∃ a s places text after,
      m.Expands samplers opened a s places text ∧
      (∀ t p, (t, p) ∈ a.others.zip places → Rewritten samplers none (Text.trim t) p) ∧
      Rewritten samplers (some ')') a.after after ∧ out = plain ++ (text ++ after) := by
  constructor
  · rintro (hfree | ⟨hfirst, hexpands, hplaces, hafter⟩)
    · exact absurd hfree h.not_callFree
    · obtain ⟨rfl, rfl, rfl⟩ := h.unique hfirst
      exact ⟨_, _, _, _, _, hexpands, hplaces, hafter, rfl⟩
  · rintro ⟨a, s, places, text, after, hexpands, hplaces, hafter, rfl⟩
    exact .call h hexpands hplaces hafter

/-! ### Replacing calls, step by step -/

/-- What a call with these arguments becomes together with the text behind it, where `go` tells what
a text behind a character becomes.  The first argument names a sampler, the others and the text
behind the call are texts of their own. -/
def ImageMacro.replaceBy (samplers : List Sampler) (m : ImageMacro) (a : Arguments)
    (go : Option Char → List Char → Except GenerationFault (List Char)) :
    Except GenerationFault (List Char) :=
  match samplerOf? samplers (Text.trim a.first) with
  | none => .error (.undeclaredSampler m.name (String.ofList (Text.trim a.first)))
  | some s => do
    let places ← a.others.mapM fun t => go none (Text.trim t)
    let text ← m.expand s places
    let after ← go (some ')') a.after
    return text ++ after

/-- A call and the text behind it become something if each part does. -/
theorem ImageMacro.replaceBy_eq_ok_iff {a : Arguments}
    {go : Option Char → List Char → Except GenerationFault (List Char)} :
    m.replaceBy samplers a go = .ok out ↔ ∃ s places text after,
      samplerOf? samplers (Text.trim a.first) = some s ∧
      (a.others.mapM fun t => go none (Text.trim t)) = .ok places ∧
      m.expand s places = .ok text ∧ go (some ')') a.after = .ok after ∧ out = text ++ after := by
  unfold replaceBy
  cases samplerOf? samplers (Text.trim a.first) with
  | none => simp
  | some s =>
    dsimp only
    cases a.others.mapM fun t => go none (Text.trim t) with
    | error fault => simp [bind, Except.bind]
    | ok places =>
      cases hexpand : m.expand s places with
      | error fault => simp [bind, Except.bind, hexpand]
      | ok text =>
        cases go (some ')') a.after with
        | error fault => simp [bind, Except.bind, hexpand]
        | ok after => simp [bind, Except.bind, pure, Except.pure, hexpand, eq_comm]

/-- A character that no call starts at stays. -/
theorem expandFrom_cons (h : ∀ m opened, ¬ImageMacro.Called front (c :: cs) m opened) :
    expandFrom samplers (front.any Text.isWord) (c :: cs) =
      (expandFrom samplers (Text.isWord c) cs).map (c :: ·) := by
  rw [expandFrom]
  split
  · cases expandFrom samplers (Text.isWord c) cs <;> rfl
  · rename_i m opened hcall
    exact absurd (ImageMacro.called_iff.1 hcall) (h m opened)

/-- A part of the text in which no call starts stays. -/
theorem expandFrom_plain (h : CallFree front plain cs) :
    expandFrom samplers (front.any Text.isWord) (plain ++ cs) =
      (expandFrom samplers ((plain.getLast?.or front).any Text.isWord) cs).map (plain ++ ·) := by
  induction plain generalizing front with
  | nil =>
    rw [List.nil_append, List.getLast?_nil, Option.none_or]
    cases expandFrom samplers (front.any Text.isWord) cs <;> rfl
  | cons c plain ih =>
    obtain ⟨hhead, htail⟩ := callFree_cons.1 h
    rw [List.cons_append, expandFrom_cons hhead, getLast?_cons_or,
      show Text.isWord c = (some c).any Text.isWord from rfl, ih htail]
    cases expandFrom samplers ((plain.getLast?.or (some c)).any Text.isWord) cs <;> rfl

/-- Texts are gone through one by one. -/
theorem expandEach_eq_ok_iff {ts ps : List (List Char)} : expandEach samplers ts = .ok ps ↔
    ps.length = ts.length ∧
      ∀ t p, (t, p) ∈ ts.zip ps → expandFrom samplers false (Text.trim t) = .ok p := by
  induction ts generalizing ps with
  | nil =>
    rw [expandEach]
    cases ps <;> simp
  | cons t ts ih =>
    rw [expandEach]
    constructor
    · intro h
      split at h
      · cases h
      · rename_i p hp
        split at h
        · cases h
        · rename_i ps hps
          cases h
          obtain ⟨hlength, hall⟩ := ih.1 hps
          refine ⟨congrArg (· + 1) hlength, fun t' p' hmem => ?_⟩
          rw [List.zip_cons_cons, List.mem_cons] at hmem
          rcases hmem with heq | hmem
          · cases heq
            exact hp
          · exact hall t' p' hmem
    · rintro ⟨hlength, hall⟩
      cases ps with
      | nil => cases hlength
      | cons p ps =>
        rw [List.zip_cons_cons] at hall
        rw [hall t p List.mem_cons_self, ih.2 ⟨Nat.succ.inj hlength, fun t' p' hmem =>
          hall t' p' (List.mem_cons_of_mem _ hmem)⟩]

theorem expandEach_eq_mapM (samplers : List Sampler) (ts : List (List Char)) :
    expandEach samplers ts = ts.mapM fun t => expandFrom samplers false (Text.trim t) := by
  induction ts with
  | nil =>
    rw [expandEach]
    rfl
  | cons t ts ih =>
    rw [expandEach, List.mapM_cons, ih]
    cases expandFrom samplers false (Text.trim t) with
    | error fault => rfl
    | ok p => cases ts.mapM fun t => expandFrom samplers false (Text.trim t) <;> rfl

/-- A call at the front of a text is refused, or it is replaced. -/
theorem expandFrom_of_called (h : ImageMacro.Called front cs m opened) :
    expandFrom samplers (front.any Text.isWord) cs =
      match splitArguments 0 opened with
      | none => .error (.unbalanced m.name)
      | some a => m.replaceBy samplers a fun front cs =>
          expandFrom samplers (front.any Text.isWord) cs := by
  obtain ⟨cs, rfl⟩ := h.exists_cons
  rw [expandFrom]
  split
  · rename_i hcall
    rw [ImageMacro.called_iff.2 h] at hcall
    cases hcall
  · rename_i m' opened' hcall
    rw [ImageMacro.called_iff.2 h] at hcall
    cases hcall
    split
    · rename_i hnone
      rw [hnone]
    · rename_i a ha
      rw [ha]
      simp only [ImageMacro.replaceBy, expandEach_eq_mapM, Option.any_none, Option.any_some,
        Text.isWord_close]
      cases samplerOf? samplers (Text.trim a.first) with
      | none => rfl
      | some s =>
        dsimp only
        cases a.others.mapM fun t => expandFrom samplers false (Text.trim t) with
        | error fault => rfl
        | ok places =>
          dsimp only
          cases hexpand : m.expand s places with
          | error fault =>
            simp only [bind, Except.bind, hexpand]
          | ok text =>
            simp only [bind, Except.bind, hexpand]
            cases expandFrom samplers false a.after <;> rfl

/-- A call is replaced by what it stands for, if its arguments and the text after it can be gone
through. -/
theorem expandFrom_eq_ok_iff_of_called (h : ImageMacro.Called front cs m opened) :
    expandFrom samplers (front.any Text.isWord) cs = .ok out ↔ ∃ a s places text after,
      m.Expands samplers opened a s places text ∧
      (∀ t p, (t, p) ∈ a.others.zip places → expandFrom samplers false (Text.trim t) = .ok p) ∧
      expandFrom samplers false a.after = .ok after ∧ out = text ++ after := by
  rw [expandFrom_of_called h]
  constructor
  · intro hout
    cases hsplits : splitArguments 0 opened with
    | none =>
      rw [hsplits] at hout
      cases hout
    | some a =>
      rw [hsplits] at hout
      obtain ⟨s, places, text, after, hsampler, hplaces, hexpand, hafter, rfl⟩ :=
        ImageMacro.replaceBy_eq_ok_iff.1 hout
      rw [Option.any_some, Text.isWord_close] at hafter
      obtain ⟨hlength, hplaces⟩ :=
        expandEach_eq_ok_iff.1 ((expandEach_eq_mapM samplers a.others).trans hplaces)
      exact ⟨a, s, places, text, after,
        ⟨splitArguments_eq_some_iff.1 hsplits, hsampler, hlength,
          ImageMacro.expand_eq_ok_iff.1 hexpand⟩, hplaces, hafter, rfl⟩
  · rintro ⟨a, s, places, text, after, hexpands, hplaces, hafter, rfl⟩
    have heach := expandEach_eq_ok_iff.2 ⟨hexpands.length, hplaces⟩
    rw [expandEach_eq_mapM] at heach
    rw [splitArguments_eq_some_iff.2 hexpands.splits]
    refine ImageMacro.replaceBy_eq_ok_iff.2 ⟨s, places, text, after, hexpands.sampler, heach,
      hexpands.expand, ?_, rfl⟩
    rw [Option.any_some, Text.isWord_close, hafter]

theorem expandFrom_eq_ok_iff_of_first (h : FirstCall front cs plain m opened) :
    expandFrom samplers (front.any Text.isWord) cs = .ok out ↔ ∃ a s places text after,
      m.Expands samplers opened a s places text ∧
      (∀ t p, (t, p) ∈ a.others.zip places → expandFrom samplers false (Text.trim t) = .ok p) ∧
      expandFrom samplers false a.after = .ok after ∧ out = plain ++ (text ++ after) := by
  obtain ⟨rest, rfl, hplain, hcall⟩ := h
  rw [expandFrom_plain hplain]
  constructor
  · intro hout
    cases hrest : expandFrom samplers ((plain.getLast?.or front).any Text.isWord) rest with
    | error fault =>
      rw [hrest] at hout
      cases hout
    | ok out' =>
      rw [hrest] at hout
      cases hout
      obtain ⟨a, s, places, text, after, hexpands, hplaces, hafter, rfl⟩ :=
        (expandFrom_eq_ok_iff_of_called hcall).1 hrest
      exact ⟨a, s, places, text, after, hexpands, hplaces, hafter, rfl⟩
  · rintro ⟨a, s, places, text, after, hexpands, hplaces, hafter, rfl⟩
    rw [(expandFrom_eq_ok_iff_of_called hcall).2
      ⟨a, s, places, text, after, hexpands, hplaces, hafter, rfl⟩]
    rfl

/-- **Replacing calls gives the text with its calls replaced.** -/
theorem expandFrom_eq_ok_iff :
    expandFrom samplers (front.any Text.isWord) cs = .ok out ↔ Rewritten samplers front cs out := by
  obtain ⟨n, hn⟩ : ∃ n, cs.length = n := ⟨_, rfl⟩
  induction n using Nat.strongRecOn generalizing front cs out with
  | ind n ih =>
    subst hn
    rcases callFree_or_exists_first front cs with hfree | ⟨plain, m, opened, hfirst⟩
    · have hcopied := @expandFrom_plain samplers front _ _ hfree
      rw [List.append_nil, expandFrom] at hcopied
      rw [rewritten_iff_of_callFree hfree, hcopied]
      simp [Except.map, eq_comm]
    · rw [expandFrom_eq_ok_iff_of_first hfirst, rewritten_iff_of_first hfirst]
      have hopened := hfirst.length_lt
      refine exists_congr fun a => exists_congr fun s => exists_congr fun places =>
        exists_congr fun text => exists_congr fun after => and_congr_right fun hexpands => ?_
      -- The arguments and the text after the call are shorter texts.
      have hplaces : (∀ t p, (t, p) ∈ a.others.zip places →
          expandFrom samplers false (Text.trim t) = .ok p) ↔
            ∀ t p, (t, p) ∈ a.others.zip places → Rewritten samplers none (Text.trim t) p := by
        refine forall_congr' fun t => forall_congr' fun p => imp_congr_right fun hmem => ?_
        have hlt := hexpands.splits.length_lt_of_mem (List.of_mem_zip hmem).1
        have hargument : expandFrom samplers ((none : Option Char).any Text.isWord) (Text.trim t) =
            .ok p ↔ Rewritten samplers none (Text.trim t) p :=
          ih _ (Nat.lt_of_le_of_lt (Text.length_trim_le t) (Nat.lt_trans hlt hopened)) rfl
        exact hargument
      have hafter : expandFrom samplers ((some ')').any Text.isWord) a.after = .ok after ↔
          Rewritten samplers (some ')') a.after after :=
        ih _ (Nat.lt_trans hexpands.splits.length_after_lt hopened) rfl
      rw [Option.any_some, Text.isWord_close] at hafter
      rw [hplaces, hafter]

theorem expandMacros_eq_ok_iff :
    expandMacros samplers cs = .ok out ↔ Rewritten samplers none cs out := by
  rw [← expandFrom_eq_ok_iff]
  rfl

end Replacing

/-! ### Calls that are met -/

/-- In the text `cs`, which stands behind the character `front`, this call is met: it is the first
one, or it is met in the text after the first one, or in one of its arguments besides its first. -/
inductive Met : Option Char → List Char → ImageMacro → List Char → Prop where
  | first {front : Option Char} {cs plain opened : List Char} {m : ImageMacro}
      (h : FirstCall front cs plain m opened) : Met front cs m opened
  | after {front : Option Char} {cs plain opened opened' : List Char} {m m' : ImageMacro}
      {a : Arguments} (h : FirstCall front cs plain m opened) (ha : a.Splits opened)
      (hmet : Met (some ')') a.after m' opened') : Met front cs m' opened'
  | inside {front : Option Char} {cs plain opened opened' t : List Char} {m m' : ImageMacro}
      {a : Arguments} (h : FirstCall front cs plain m opened) (ha : a.Splits opened)
      (ht : t ∈ a.others) (hmet : Met none (Text.trim t) m' opened') : Met front cs m' opened'

section Inserting

variable {samplers : List Sampler} {front : Option Char} {m : ImageMacro} {s : Sampler}
  {cs opened out text p : List Char} {places : List (List Char)}

theorem ImageMacro.infix_sampleCall (s : Sampler) (mode : String) (p : List Char) :
    p <:+: (sampleCall s mode (String.ofList p)).toList := by
  unfold sampleCall
  rw [String.toList_append, String.toList_append, String.toList_ofList]
  exact List.infix_append ..

/-- The place of a call stands in what the call stands for. -/
theorem ImageMacro.infix_of_expand (h : m.expand s places = .ok text) (hp : p ∈ places) :
    p <:+: text := by
  unfold expand at h
  split at h
  · cases h
  · rename_i hlength
    have hlength := Decidable.not_not.1 hlength
    obtain ⟨q, rfl⟩ | hm : (∃ q, places = [q]) ∨ m.places = 0 := by
      cases m
      case pixel => exact Or.inl (List.length_eq_one_iff.1 hlength)
      case normPixel => exact Or.inl (List.length_eq_one_iff.1 hlength)
      all_goals exact Or.inr rfl
    · obtain rfl := List.mem_singleton.1 hp
      cases m with
      | pixel => exact Except.ok.inj h ▸ infix_sampleCall s _ p
      | normPixel => exact Except.ok.inj h ▸ infix_sampleCall s _ p
      | _ => cases hlength
    · rw [hm] at hlength
      rw [List.length_eq_zero_iff.1 hlength] at hp
      cases hp

/-- **What a call that is met stands for is inserted** into the text. -/
theorem Rewritten.exists_inserted (h : Rewritten samplers front cs out)
    (hmet : Met front cs m opened) : ∃ a s places text, m.Expands samplers opened a s places text ∧
      (∀ t p, (t, p) ∈ a.others.zip places → Rewritten samplers none (Text.trim t) p) ∧
      text <:+: out := by
  induction h generalizing m opened with
  | rest hfree =>
    obtain hfirst | ⟨hfirst, -, -⟩ | ⟨hfirst, -, -, -⟩ := hmet <;>
      exact absurd hfree hfirst.not_callFree
  | @call front cs plain opened text out _ a s places hfirst hexpands hplaces hafter ihplaces
      ihafter =>
    have htext : text <:+: plain ++ (text ++ out) := ⟨plain, out, List.append_assoc ..⟩
    cases hmet with
    | first hfirst' =>
      obtain ⟨rfl, rfl, rfl⟩ := hfirst.unique hfirst'
      exact ⟨a, s, places, text, hexpands, hplaces, htext⟩
    | after hfirst' hsplits hmet =>
      obtain ⟨rfl, rfl, rfl⟩ := hfirst.unique hfirst'
      obtain rfl := hexpands.splits.unique hsplits
      obtain ⟨a', s', places', text', hexpands', hplaces', htext'⟩ := ihafter hmet
      refine ⟨a', s', places', text', hexpands', hplaces', htext'.trans ?_⟩
      exact ⟨plain ++ text, [], by simp⟩
    | inside hfirst' hsplits ht hmet =>
      obtain ⟨rfl, rfl, rfl⟩ := hfirst.unique hfirst'
      obtain rfl := hexpands.splits.unique hsplits
      rw [← List.map_fst_zip (Nat.le_of_eq hexpands.length.symm)] at ht
      obtain ⟨⟨t, p⟩, hmem, rfl⟩ := List.mem_map.1 ht
      obtain ⟨a', s', places', text', hexpands', hplaces', htext'⟩ := ihplaces t p hmem hmet
      have hp := ImageMacro.infix_of_expand hexpands.expand (List.of_mem_zip hmem).2
      exact ⟨a', s', places', text', hexpands', hplaces', (htext'.trans hp).trans htext⟩

end Inserting

end ShaderEffect
