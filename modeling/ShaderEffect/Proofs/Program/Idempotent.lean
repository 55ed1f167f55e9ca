/-
**Replacing calls leaves no calls behind.**

The text in which calls have been replaced is put together from parts of the original text, from
names of samplers, and from the words of what takes the place of calls.  No part contains a call,
but a call could start in one part and go on in the next.  It does not: a call goes on with a
character of a word, with a blank or with a parenthesis, and between two parts the second one starts
with none of these, or it starts with a character of a word and the first one ends with none.

Main definitions:

* `ShaderEffect.Sampler.IsNamed` — the name of a sampler is an identifier.

Main results:

* `ShaderEffect.CallFree.followed` — **no call starts in one part and goes on in the next**;
* `ShaderEffect.Rewritten.callFree` — no call is left;
* `ShaderEffect.expandMacros_idempotent` — **no call is left, and replacing calls once more changes
  nothing**.
-/

import ShaderEffect.Expr.Token
import ShaderEffect.Proofs.Program.Rewriting

set_option autoImplicit false

namespace ShaderEffect

open Decimal (isDigit)
open ShaderEffect.Expr (isNameStart isNameChar)
open ImageMacro (Called)

/-! ### Characters of words -/

/-- The name of the sampler is an identifier: ASCII letters, digits and underscores, of which the
first is no digit. -/
def Sampler.IsNamed (s : Sampler) : Prop :=
  ∃ c cs, s.name.toList = c :: cs ∧ isNameStart c ∧ ∀ d ∈ cs, isNameChar d

theorem Text.isWord_of_isNameChar {c : Char} (h : isNameChar c) : Text.isWord c := by
  have hrange (r : Nat × Nat) (hr : r ∈ Text.wordRanges) (hc : r.1 ≤ c.toNat ∧ c.toNat ≤ r.2) :
      Text.isWord c := by
    rw [Text.isWord, Text.inRanges, List.any_eq_true]
    exact ⟨r, hr, by simpa using hc⟩
  simp only [isNameChar, isNameStart, isDigit, Bool.or_eq_true, Bool.and_eq_true,
    decide_eq_true_eq, beq_iff_eq] at h
  rcases h with ((h | h) | rfl) | h
  · exact hrange (0x61, 0x7A) (by decide +kernel) h
  · exact hrange (0x41, 0x5A) (by decide +kernel) h
  · decide +kernel
  · exact hrange (0x30, 0x39) (by decide +kernel) h

theorem Sampler.IsNamed.of_mem_name {s : Sampler} (h : s.IsNamed) {c : Char}
    (hc : c ∈ s.name.toList) : isNameChar c := by
  obtain ⟨d, cs, hname, hstart, hrest⟩ := h
  rw [hname, List.mem_cons] at hc
  rcases hc with rfl | hc
  · rw [isNameChar, hstart, Bool.true_or]
  · exact hrest c hc

theorem ImageMacro.isWord_of_mem_name {m : ImageMacro} {c : Char} (h : c ∈ m.name.toList) :
    Text.isWord c := by
  have hall : m.name.toList.all isNameChar := by
    cases m <;> decide
  exact Text.isWord_of_isNameChar (List.all_eq_true.1 hall c h)

/-! ### Parts without calls -/

namespace CallFree

variable {front front' : Option Char} {c : Char} {cs next : List Char}

/-- Behind a character that belongs to no word, the same calls start as anywhere. -/
theorem of_front (h : CallFree front cs next) (hfront : front.any Text.isWord = false) :
    CallFree front' cs next := by
  cases cs with
  | nil => exact callFree_nil
  | cons c cs =>
    obtain ⟨hhead, htail⟩ := callFree_cons.1 h
    refine callFree_cons.2 ⟨fun m opened hcalled => hhead m opened ?_, htail⟩
    exact ImageMacro.called_iff_of_front.2
      ⟨hfront, (ImageMacro.called_iff_of_front.1 hcalled).2⟩

/-- A call within a part is one whatever comes next. -/
theorem alone (h : CallFree front cs next) : CallFree front cs [] := by
  intro p c q hcs m opened hcalled
  obtain ⟨hfront, blanks, hblanks, hspelled⟩ := ImageMacro.called_iff_of_front.1 hcalled
  rw [List.append_nil] at hspelled
  refine h p c q hcs m (opened ++ next)
    (ImageMacro.called_iff_of_front.2 ⟨hfront, blanks, hblanks, ?_⟩)
  rw [hspelled]
  simp only [List.append_assoc, List.cons_append]

/-- A part without parentheses contains no call. -/
theorem of_not_mem (h : '(' ∉ cs) : CallFree front cs [] := by
  rintro p c q rfl m opened ⟨-, blanks, -, hspelled⟩
  refine h (List.mem_append_right p ?_)
  rw [List.append_nil] at hspelled
  rw [hspelled]
  simp

/-- At a character that no name starts with, no call starts. -/
theorem cons_of_ne (hc : c ≠ 'I') (h : CallFree (some c) cs next) :
    CallFree front (c :: cs) next := by
  refine callFree_cons.2 ⟨fun m opened hcalled => ?_, h⟩
  obtain ⟨cs', heq⟩ := hcalled.exists_cons
  exact hc (List.cons.inj heq).1

/-- Inside a word no call starts. -/
theorem of_word (hcs : ∀ d ∈ cs, Text.isWord d) (hc : Text.isWord c) :
    CallFree (some c) cs next := by
  induction cs generalizing c with
  | nil => exact callFree_nil
  | cons d cs ih =>
    obtain ⟨hd, hcs⟩ := List.forall_mem_cons.1 hcs
    refine callFree_cons.2 ⟨fun m opened hcalled => ?_, ih hcs hd⟩
    have hfront := (ImageMacro.called_iff_of_front.1 hcalled).1
    rw [Option.any_some, hc] at hfront
    cases hfront

/-- **No call starts in one part and goes on in the next**, if the next part starts with none of the
characters that a call goes on with. -/
theorem followed (h : CallFree front cs []) (hnext : ∀ d ∈ next.head?, Text.isBlank d = false ∧
    d ≠ '(' ∧ (Text.isWord d → cs.getLast?.any Text.isWord = false)) :
    CallFree front cs next := by
  rintro p c q rfl m opened hcalled
  obtain ⟨hfront, blanks, hblanks, hspelled⟩ := ImageMacro.called_iff_of_front.1 hcalled
  have hhead : (c :: q) ++ next = (m.name.toList ++ (blanks ++ ['('])) ++ opened := by
    rw [hspelled]
    simp only [List.append_assoc, List.cons_append, List.nil_append]
  have hpart (rest : List Char) (hrest : c :: q = m.name.toList ++ (blanks ++ ['(']) ++ rest) :
      False := by
    refine h p c q rfl m rest (ImageMacro.called_iff_of_front.2 ⟨hfront, blanks, hblanks, ?_⟩)
    rw [List.append_nil, hrest]
    simp only [List.append_assoc, List.cons_append, List.nil_append]
  -- What a call goes on with ends in this part, or the next part starts within it.
  rcases List.append_eq_append_iff.1 hhead with ⟨rest, hrest, hopened⟩ | ⟨rest, hrest, -⟩
  · cases rest with
    | nil => exact hpart [] (by rw [List.append_nil, hrest, List.append_nil])
    | cons d rest =>
      obtain ⟨hblank, hopen, hword⟩ := hnext d (by rw [hopened]; rfl)
      have hd : d ∉ blanks ++ ['('] := by
        intro hmem
        rcases List.mem_append.1 hmem with hmem | hmem
        · rw [hblanks d hmem] at hblank
          cases hblank
        · exact hopen (List.mem_singleton.1 hmem)
      rcases List.append_eq_append_iff.1 hrest with ⟨end', hname, hend⟩ | ⟨end', hname, hend⟩
      · exact hd (hend ▸ by simp)
      · cases end' with
        | nil =>
          rw [List.nil_append] at hend
          exact hd (hend ▸ List.mem_cons_self)
        | cons e end' =>
          cases hend
          -- Then it starts within the name, of which this part has the characters in front.
          have hmem (e : Char) (he : e ∈ c :: q ++ d :: end') : Text.isWord e :=
            ImageMacro.isWord_of_mem_name (hname ▸ he)
          have hlast := hword (hmem d (List.mem_append_right _ List.mem_cons_self))
          rw [List.getLast?_append, List.getLast?_eq_some_getLast (List.cons_ne_nil c q),
            Option.some_or, Option.any_some,
            hmem _ (List.mem_append_left _ (List.getLast_mem _))] at hlast
          cases hlast
  · exact hpart rest hrest

/-- No call goes on with a character that belongs to no word, is not blank and is no parenthesis. -/
theorem separated (h : CallFree front cs []) (hblank : Text.isBlank c = false) (hopen : c ≠ '(')
    (hword : Text.isWord c = false) : CallFree front cs (c :: next) := by
  refine h.followed ?_
  rintro d ⟨⟩
  refine ⟨hblank, hopen, fun hd => ?_⟩
  rw [hword] at hd
  cases hd

end CallFree

section Replacing

variable {samplers : List Sampler} {front : Option Char} {m : ImageMacro} {s : Sampler}
  {cs text next out : List Char} {places : List (List Char)}

/-! ### What calls are replaced by -/

/-- The names of the variables that accompany a sampler are words. -/
theorem Sampler.IsNamed.of_mem_companion {c : Char} {part : String} (h : s.IsNamed)
    (hpart : part.toList.all isNameChar) (hc : c ∈ ("_" ++ s.name ++ part).toList) :
    isNameChar c := by
  simp only [String.toList_append, List.mem_append] at hc
  rcases hc with (hc | hc) | hc
  · obtain rfl : c = '_' := by simpa using hc
    rfl
  · exact h.of_mem_name hc
  · exact List.all_eq_true.1 hpart c hc

/-- The arguments that stand for an image have no parentheses. -/
theorem Sampler.IsNamed.not_mem_imageArguments (h : s.IsNamed) :
    '(' ∉ (ImageMacro.imageArguments s).toList := by
  have happend {a b : String} (ha : '(' ∉ a.toList) (hb : '(' ∉ b.toList) :
      '(' ∉ (a ++ b).toList := by
    rw [String.toList_append, List.mem_append]
    exact fun hmem => hmem.elim ha hb
  have hname : '(' ∉ s.name.toList := fun hmem => absurd (h.of_mem_name hmem) (by decide)
  have hcompanion {part : String} (hpart : part.toList.all isNameChar) :
      '(' ∉ ("_" ++ s.name ++ part).toList :=
    fun hmem => absurd (h.of_mem_companion hpart hmem) (by decide)
  have hcomma : '(' ∉ ", ".toList := by decide
  exact happend (happend (happend (happend (happend (happend hname hcomma)
    (hcompanion (by decide))) hcomma) (hcompanion (by decide))) hcomma) (hcompanion (by decide))

/-- The name of the variable that holds the size of an image is a word. -/
theorem Sampler.IsNamed.callFree_sizeName (h : s.IsNamed) :
    CallFree front (Sampler.sizeName s.name).toList next := by
  have hword (c : Char) (hc : c ∈ (Sampler.sizeName s.name).toList) : Text.isWord c :=
    Text.isWord_of_isNameChar (h.of_mem_companion (by decide) hc)
  obtain ⟨rest, hname⟩ : ∃ rest, (Sampler.sizeName s.name).toList = '_' :: rest := by
    exact ⟨_, by simp only [Sampler.sizeName, String.toList_append]; rfl⟩
  rw [hname] at hword ⊢
  obtain ⟨hfirst, hrest⟩ := List.forall_mem_cons.1 hword
  exact .cons_of_ne (by decide) (.of_word hrest hfirst)

/-- A call of a sampling function contains no call of a macro, if its place contains none. -/
theorem Sampler.IsNamed.callFree_sampleCall {mode place : String} (h : s.IsNamed)
    (hmode : mode = "BYNORM" ∨ mode = "BYPIXEL") (hplace : CallFree none place.toList []) :
    CallFree front (ImageMacro.sampleCall s mode place).toList next := by
  have hcall : (ImageMacro.sampleCall s mode place).toList =
      'V' :: ("VSAMPLER_".toList ++ s.shape.functionPart.toList ++ mode.toList) ++
        '(' :: ((ImageMacro.imageArguments s).toList ++ ',' :: ' ' :: (place.toList ++ [')'])) := by
    unfold ImageMacro.sampleCall
    simp [String.toList_append]
  have hword : ("VSAMPLER_".toList ++ s.shape.functionPart.toList ++ mode.toList).all
      isNameChar := by
    rcases hmode with rfl | rfl <;> cases s.shape <;> decide
  rw [hcall]
  refine callFree_append.2 ⟨.cons_of_ne (by decide) (.of_word ?_ ?_), .cons_of_ne (by decide) ?_⟩
  · exact fun c hc => Text.isWord_of_isNameChar (List.all_eq_true.1 hword c hc)
  · exact Text.isWord_of_isNameChar (by decide)
  refine callFree_append.2 ⟨.separated (.of_not_mem h.not_mem_imageArguments) (by decide)
    (by decide) (by decide +kernel), .cons_of_ne (by decide) (.cons_of_ne (by decide) ?_)⟩
  exact callFree_append.2 ⟨.separated (hplace.of_front rfl) (by decide) (by decide)
    Text.isWord_close, .cons_of_ne (by decide) callFree_nil⟩

/-! ### Replaced texts -/

/-- What a call stands for contains no call, if its places contain none. -/
theorem Sampler.IsNamed.callFree_expand (h : s.IsNamed) (hexpand : m.expand s places = .ok text)
    (hplaces : ∀ p ∈ places, CallFree none p []) : CallFree front text next := by
  rcases ImageMacro.eq_of_expand hexpand with rfl | ⟨mode, place, rfl, hmode, hplace⟩
  · exact h.callFree_sizeName
  · refine h.callFree_sampleCall (hmode.imp_right And.left) ?_
    rcases hplace with hplace | hplace
    · exact hplaces _ hplace
    · refine .of_not_mem ?_
      simp only [List.mem_cons, List.not_mem_nil, or_false] at hplace
      rcases hplace with rfl | rfl <;> decide

/-- What a call stands for starts with a letter or an underscore. -/
theorem ImageMacro.head?_of_expand (hexpand : m.expand s places = .ok text) :
    ∃ c rest, text = c :: rest ∧ c ∈ ['V', '_'] := by
  rcases eq_of_expand hexpand with rfl | ⟨mode, place, rfl, -⟩
  · exact ⟨'_', _, by simp only [Sampler.sizeName, String.toList_append]; rfl, by simp⟩
  · exact ⟨'V', _, by unfold sampleCall; simp only [String.toList_append]; rfl, by simp⟩

/-- **No call is left** where calls have been replaced. -/
theorem Rewritten.callFree (hnames : ∀ s ∈ samplers, s.IsNamed)
    (h : Rewritten samplers front cs out) : CallFree front out [] := by
  induction h with
  | rest hfree => exact hfree
  | call hfirst hexpands _ _ ihplaces ihafter =>
    obtain ⟨rest, rfl, hplain, hcalled⟩ := hfirst
    have hnamed := hnames _ (List.mem_of_find?_eq_some hexpands.sampler)
    refine callFree_append.2 ⟨hplain.alone.followed ?_, callFree_append.2
      ⟨hnamed.callFree_expand hexpands.expand ?_, ihafter.of_front ?_⟩⟩
    · obtain ⟨c, rest, rfl, hc⟩ := ImageMacro.head?_of_expand hexpands.expand
      rintro d ⟨⟩
      simp only [List.mem_cons, List.not_mem_nil, or_false] at hc
      refine ⟨by rcases hc with rfl | rfl <;> decide, by rcases hc with rfl | rfl <;> decide,
        fun _ => ?_⟩
      have hlast := (ImageMacro.called_iff_of_front.1 hcalled).1
      cases hplain : List.getLast? _ with
      | none => rfl
      | some e => rwa [hplain] at hlast
    · intro p hp
      rw [← List.map_snd_zip (Nat.le_of_eq hexpands.length)] at hp
      obtain ⟨⟨t, p⟩, hmem, rfl⟩ := List.mem_map.1 hp
      exact ihplaces t p hmem
    · rw [Option.any_some, Text.isWord_close]

/-- **No call is left where calls have been replaced, and replacing calls once more changes
nothing.** -/
theorem expandMacros_idempotent (hnames : ∀ s ∈ samplers, s.IsNamed)
    (h : expandMacros samplers cs = .ok out) :
    (∀ p rest, out = p ++ rest → ∀ m opened, ¬Called p.getLast? rest m opened) ∧
      expandMacros samplers out = .ok out := by
  have hfree := (expandMacros_eq_ok_iff.1 h).callFree hnames
  refine ⟨fun p rest hout m opened hcalled => ?_, expandMacros_eq_ok_iff.2 (.rest hfree)⟩
  obtain ⟨rest, rfl⟩ := hcalled.exists_cons
  exact hfree p 'I' rest hout m opened (by rwa [List.append_nil, Option.or_none])

end Replacing

/-- **An image that is called like a macro** may be sampled at a place that its size tells. -/
theorem expandMacros_idempotent_nested :
    (∀ s ∈ [(⟨"IMG_SIZE", .flat⟩ : Sampler), ⟨"sky", .cube⟩], s.IsNamed) ∧
    ∃ out, expandMacros [⟨"IMG_SIZE", .flat⟩, ⟨"sky", .cube⟩]
        "IMG_PIXEL (IMG_SIZE, IMG_SIZE(IMG_SIZE)/2.)*IMG_NORM_PIXEL(sky, d)".toList = .ok out ∧
      (∀ p rest, out = p ++ rest → ∀ m opened, ¬Called p.getLast? rest m opened) ∧
      expandMacros [⟨"IMG_SIZE", .flat⟩, ⟨"sky", .cube⟩] out = .ok out := by
  have hnames : ∀ s ∈ [(⟨"IMG_SIZE", .flat⟩ : Sampler), ⟨"sky", .cube⟩], s.IsNamed := by
    intro s hs
    simp only [List.mem_cons, List.not_mem_nil, or_false] at hs
    rcases hs with rfl | rfl
    · exact ⟨'I', "MG_SIZE".toList, rfl, by decide, List.all_eq_true.1 (by decide)⟩
    · exact ⟨'s', "ky".toList, rfl, by decide, List.all_eq_true.1 (by decide)⟩
  have hok : (expandMacros [⟨"IMG_SIZE", .flat⟩, ⟨"sky", .cube⟩]
      "IMG_PIXEL (IMG_SIZE, IMG_SIZE(IMG_SIZE)/2.)*IMG_NORM_PIXEL(sky, d)".toList).isOk = true := by
    decide +kernel
  cases h : expandMacros [⟨"IMG_SIZE", .flat⟩, ⟨"sky", .cube⟩]
      "IMG_PIXEL (IMG_SIZE, IMG_SIZE(IMG_SIZE)/2.)*IMG_NORM_PIXEL(sky, d)".toList with
  | error fault =>
    rw [h] at hok
    cases hok
  | ok out => exact ⟨hnames, out, rfl, expandMacros_idempotent hnames h⟩

end ShaderEffect
