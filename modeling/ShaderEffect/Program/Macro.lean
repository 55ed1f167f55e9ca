/-
**Calls of image macros.**

The body of an effect samples images by macros.  Each call is replaced by a call of a sampling
function, or by the variable that holds the size of the image.  A call starts where a word starts,
and blanks may stand before its parenthesis.

Main definitions:

* `ShaderEffect.ImageMacro` — the macros;
* `ShaderEffect.ImageMacro.call?` — the call at the front of a text;
* `ShaderEffect.ImageMacro.expand` — what a call stands for;
* `ShaderEffect.expandMacros` — a text with all calls replaced.
-/

import ShaderEffect.Failure
import ShaderEffect.Program.Arguments
import ShaderEffect.Program.Interface
import ShaderEffect.Text.Blank
import ShaderEffect.Text.Front
import ShaderEffect.Text.Word

set_option autoImplicit false

namespace ShaderEffect

/-- A macro that samples an image. -/
inductive ImageMacro where
  /-- The image at the place of the current pixel, by fractions of the size. -/
  | thisNormPixel
  /-- The image at the place of the current pixel. -/
  | thisPixel
  /-- The image at a place given by fractions of the size. -/
  | normPixel
  /-- The image at a place given by pixels. -/
  | pixel
  /-- The size of the image. -/
  | size
  deriving DecidableEq, Repr

namespace ImageMacro

/-- All macros. -/
def all : List ImageMacro := [thisNormPixel, thisPixel, normPixel, pixel, size]

/-- The name of a macro. -/
def name : ImageMacro → String
  | thisNormPixel => "IMG_THIS_NORM_PIXEL"
  | thisPixel => "IMG_THIS_PIXEL"
  | normPixel => "IMG_NORM_PIXEL"
  | pixel => "IMG_PIXEL"
  | size => "IMG_SIZE"

/-- How many arguments a macro takes besides the image. -/
def places : ImageMacro → Nat
  | normPixel | pixel => 1
  | _ => 0

/-! ### Finding calls -/

/-- What follows the opening parenthesis of a call of the macro at the front of a text. -/
def callOf? (m : ImageMacro) (cs : List Char) : Option (List Char) :=
  match Text.after? m.name.toList cs with
  | none => none
  | some rest => Text.after? ['('] (Text.trimLeft rest)

/-- The macro that is called at the front of a text, and what follows the opening parenthesis. -/
def call? (cs : List Char) : Option (ImageMacro × List Char) :=
  all.findSome? fun m => (m.callOf? cs).map fun rest => (m, rest)

theorem length_of_callOf? {m : ImageMacro} {cs rest : List Char} (h : m.callOf? cs = some rest) :
    rest.length < cs.length := by
  unfold callOf? at h
  split at h
  · cases h
  · rename_i r hr
    have h1 := Text.after?_eq_some_iff.1 h
    have h2 := Text.length_trimLeft_le r
    have h3 := Text.length_after?_le hr
    rw [h1, List.length_append, List.length_singleton] at h2
    omega

/-- A call takes at least its parenthesis. -/
theorem length_of_call? {m : ImageMacro} {cs rest : List Char} (h : call? cs = some (m, rest)) :
    rest.length < cs.length := by
  obtain ⟨m', -, h'⟩ := List.exists_of_findSome?_eq_some h
  obtain ⟨rest', hr, he⟩ := Option.map_eq_some_iff.1 h'
  simp only [Prod.mk.injEq] at he
  obtain ⟨-, rfl⟩ := he
  exact length_of_callOf? hr

/-! ### Replacing calls -/

/-- The arguments that stand for an image: the sampler and its companions. -/
def imageArguments (s : Sampler) : String :=
  s.name ++ ", " ++ Sampler.rectName s.name ++ ", " ++ Sampler.sizeName s.name ++ ", " ++
    Sampler.flipName s.name

/-- A call of a sampling function. -/
def sampleCall (s : Sampler) (mode place : String) : String :=
  "VVSAMPLER_" ++ s.shape.functionPart ++ mode ++ "(" ++ imageArguments s ++ ", " ++ place ++ ")"

/-- What a call stands for, where `places` are the arguments besides the image. -/
def expand (m : ImageMacro) (s : Sampler) (places : List (List Char)) :
    Except GenerationFault (List Char) :=
  if places.length ≠ m.places then
    .error (.argumentCount m.name s.name (m.places + 1) (places.length + 1))
  else
    let place := String.ofList (places.headD [])
    match m with
    | .size => .ok (Sampler.sizeName s.name).toList
    | .pixel =>
      .ok (sampleCall s (if s.shape = .cube then "BYNORM" else "BYPIXEL") place).toList
    | .normPixel => .ok (sampleCall s "BYNORM" place).toList
    | .thisPixel =>
      if s.shape = .cube then .error (.cubeSampling m.name s.name)
      else .ok (sampleCall s "BYPIXEL" "gl_FragCoord.xy").toList
    | .thisNormPixel =>
      if s.shape = .cube then .error (.cubeSampling m.name s.name)
      else .ok (sampleCall s "BYNORM" "isf_FragNormCoord.xy").toList

end ImageMacro

/-- The sampler of a name. -/
def samplerOf? (samplers : List Sampler) (name : List Char) : Option Sampler :=
  samplers.find? (·.name = String.ofList name)

mutual

/-- A text with all calls replaced, where `inWord` says whether it goes on inside a word.  The
arguments of a call besides the first are texts of their own. -/
def expandFrom (samplers : List Sampler) (inWord : Bool) (cs : List Char) :
    Except GenerationFault (List Char) :=
  match cs with
  | [] => .ok []
  | c :: rest =>
    match _hCall : if inWord then none else ImageMacro.call? (c :: rest) with
    | none =>
      match expandFrom samplers (Text.isWord c) rest with
      | .error fault => .error fault
      | .ok out => .ok (c :: out)
    | some (m, opened) =>
      match _hArgs : splitArguments 0 opened with
      | none => .error (.unbalanced m.name)
      | some args =>
        match samplerOf? samplers (Text.trim args.first) with
        | none => .error (.undeclaredSampler m.name (String.ofList (Text.trim args.first)))
        | some s =>
          match expandEach samplers args.others with
          | .error fault => .error fault
          | .ok places =>
            match m.expand s places with
            | .error fault => .error fault
            | .ok call =>
              match expandFrom samplers false args.after with
              | .error fault => .error fault
              | .ok out => .ok (call ++ out)
termination_by cs.length
decreasing_by
  · exact Nat.lt_succ_self _
  all_goals
    have h1 := length_of_splitArguments _hArgs
    have h2 : opened.length < (c :: rest).length := by
      split at _hCall
      · cases _hCall
      · exact ImageMacro.length_of_call? _hCall
    omega

/-- Texts with all calls replaced, each without the blanks at its ends. -/
def expandEach (samplers : List Sampler) (texts : List (List Char)) :
    Except GenerationFault (List (List Char)) :=
  match texts with
  | [] => .ok []
  | t :: ts =>
    match expandFrom samplers false (Text.trim t) with
    | .error fault => .error fault
    | .ok out =>
      match expandEach samplers ts with
      | .error fault => .error fault
      | .ok outs => .ok (out :: outs)
termination_by argumentsLength texts
decreasing_by
  · have := Text.length_trim_le t
    simp only [argumentsLength]
    omega
  · simp only [argumentsLength]
    omega

end

/-- A text with all calls of macros replaced. -/
def expandMacros (samplers : List Sampler) (cs : List Char) : Except GenerationFault (List Char) :=
  expandFrom samplers false cs

end ShaderEffect
