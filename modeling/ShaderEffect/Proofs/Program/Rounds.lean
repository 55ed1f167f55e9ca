/-
**Replacing calls comes to an end.**

Calls are replaced in rounds.  A round copies what stands in front of the first call, replaces this
call, and leaves the text behind it to the next round; the arguments of the call besides the first
have rounds of their own.  All of these texts are parts of what stands behind the parenthesis of the
call, so that they are shorter than the text the round started with, and no row of rounds goes on
forever.  What a text becomes is therefore settled by saying what a single round does.

Main definitions:

* `ShaderEffect.Onward` — **a round leads from one text to another**;
* `ShaderEffect.ReplacesCalls` — what a round does.

Main results:

* `ShaderEffect.wellFounded_onward` — **rounds come to an end**;
* `ShaderEffect.replacesCalls_iff` — replacing calls does what rounds do, and nothing else does.
-/

import ShaderEffect.Proofs.Program.Rewriting

set_option autoImplicit false

namespace ShaderEffect

/-! ### From text to text -/

/-- **A round of replacing calls leads from one text to another**, each with the character it stands
behind. -/
inductive Onward : Option Char × List Char → Option Char × List Char → Prop where
  /-- From a text to what stands behind its first call. -/
  | after {front : Option Char} {cs plain opened : List Char} {m : ImageMacro} {a : Arguments}
      (h : FirstCall front cs plain m opened) (ha : splitArguments 0 opened = some a) :
      Onward (front, cs) (some ')', a.after)
  /-- From a text to an argument of its first call, but for the first argument. -/
  | inside {front : Option Char} {cs plain opened t : List Char} {m : ImageMacro} {a : Arguments}
      (h : FirstCall front cs plain m opened) (ha : splitArguments 0 opened = some a)
      (ht : t ∈ a.others) : Onward (front, cs) (none, Text.trim t)

/-- Rounds lead to shorter texts. -/
theorem Onward.length_lt {text next : Option Char × List Char} (h : Onward text next) :
    next.2.length < text.2.length := by
  cases h with
  | after h ha =>
    exact Nat.lt_trans (splitArguments_eq_some_iff.1 ha).length_after_lt h.length_lt
  | inside h ha ht =>
    have hargument := (splitArguments_eq_some_iff.1 ha).length_lt_of_mem ht
    exact Nat.lt_of_le_of_lt (Text.length_trim_le _) (Nat.lt_trans hargument h.length_lt)

/-- **Rounds of replacing calls come to an end.** -/
theorem wellFounded_onward : WellFounded fun next text => Onward text next :=
  Subrelation.wf Onward.length_lt (measure fun text : Option Char × List Char => text.2.length).wf

/-! ### What a round does -/

/-- Texts become by `go` what they become in a round. -/
structure ReplacesCalls (samplers : List Sampler)
    (go : Option Char → List Char → Except GenerationFault (List Char)) : Prop where
  /-- A text without calls stays. -/
  plain : ∀ {front cs}, CallFree front cs [] → go front cs = .ok cs
  /-- A call whose parenthesis is not closed is refused. -/
  unclosed : ∀ {front cs plain m opened}, FirstCall front cs plain m opened →
    splitArguments 0 opened = none → go front cs = .error (.unbalanced m.name)
  /-- What stands in front of a call stays, and the call is replaced. -/
  closed : ∀ {front cs plain m opened a}, FirstCall front cs plain m opened →
    splitArguments 0 opened = some a →
      go front cs = (m.replaceBy samplers a go).map (plain ++ ·)

section

variable {samplers : List Sampler} {front : Option Char} {m : ImageMacro} {a : Arguments}
  {cs plain opened : List Char}
  {go go' : Option Char → List Char → Except GenerationFault (List Char)}

theorem mapM_congr_of_mem {ε α β : Type} {f g : α → Except ε β} {as : List α}
    (h : ∀ x ∈ as, f x = g x) : as.mapM f = as.mapM g := by
  induction as with
  | nil => rfl
  | cons x as ih =>
    obtain ⟨hx, has⟩ := List.forall_mem_cons.1 h
    rw [List.mapM_cons, List.mapM_cons, hx, ih has]

/-- A call is replaced in one way, if the texts it leads to become the same. -/
theorem ImageMacro.replaceBy_congr (hafter : go (some ')') a.after = go' (some ')') a.after)
    (hinside : ∀ t ∈ a.others, go none (Text.trim t) = go' none (Text.trim t)) :
    m.replaceBy samplers a go = m.replaceBy samplers a go' := by
  unfold replaceBy
  rw [mapM_congr_of_mem hinside, hafter]

/-- **What a round does settles what texts become.** -/
theorem ReplacesCalls.unique (h : ReplacesCalls samplers go) (h' : ReplacesCalls samplers go')
    (front : Option Char) (cs : List Char) : go front cs = go' front cs := by
  suffices hall : ∀ text : Option Char × List Char, go text.1 text.2 = go' text.1 text.2 from
    hall (front, cs)
  intro text
  induction text using wellFounded_onward.induction with
  | _ text ih =>
    obtain ⟨front, cs⟩ := text
    rcases callFree_or_exists_first front cs with hfree | ⟨plain, m, opened, hfirst⟩
    · rw [h.plain hfree, h'.plain hfree]
    · cases ha : splitArguments 0 opened with
      | none => rw [h.unclosed hfirst ha, h'.unclosed hfirst ha]
      | some a =>
        have hafter : go (some ')') a.after = go' (some ')') a.after := ih _ (.after hfirst ha)
        have hinside (t : List Char) (ht : t ∈ a.others) :
            go none (Text.trim t) = go' none (Text.trim t) := ih _ (.inside hfirst ha ht)
        rw [h.closed hfirst ha, h'.closed hfirst ha, ImageMacro.replaceBy_congr hafter hinside]

/-- **Replacing calls does what rounds do**, and nothing else does. -/
theorem replacesCalls_iff : ReplacesCalls samplers go ↔
    ∀ front cs, go front cs = expandFrom samplers (front.any Text.isWord) cs := by
  have hself : ReplacesCalls samplers fun front cs =>
      expandFrom samplers (front.any Text.isWord) cs := by
    constructor
    · exact fun h => expandFrom_eq_ok_iff.2 (.rest h)
    · rintro front cs plain m opened ⟨rest, rfl, hplain, hcall⟩ hnone
      rw [expandFrom_plain hplain, expandFrom_of_called hcall, hnone]
      rfl
    · rintro front cs plain m opened a ⟨rest, rfl, hplain, hcall⟩ ha
      rw [expandFrom_plain hplain, expandFrom_of_called hcall, ha]
  constructor
  · exact fun h => h.unique hself
  · intro h
    obtain rfl : go = fun front cs => expandFrom samplers (front.any Text.isWord) cs :=
      funext fun front => funext fun cs => h front cs
    exact hself

end

end ShaderEffect
