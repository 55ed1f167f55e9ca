/-
**Where image macros are called.**

A macro is called where its name stands at the beginning of a word, blanks may follow, and a
parenthesis is opened.  A text is gone through from left to right: either no call starts in it, or
there is a first one, with a part in front of it in which none starts.

Main definitions:

* `ShaderEffect.Text.Boundary` — whether a word starts or ends between two texts;
* `ShaderEffect.ImageMacro.Called` — **a call at the front of a text**;
* `ShaderEffect.CallFree` — no call starts in a part of a text;
* `ShaderEffect.FirstCall` — the first call in a text.

Main results:

* `ShaderEffect.ImageMacro.called_iff` — the call that is looked for is found;
* `ShaderEffect.callFree_or_exists_first`, `ShaderEffect.FirstCall.unique` — there is no call, or
  one first call.
-/

import ShaderEffect.Program.Macro

set_option autoImplicit false

namespace ShaderEffect

/-- A word starts or ends between the character `front` and the text `cs`: one of the two sides
belongs to a word, and the other does not. -/
def Text.Boundary (front : Option Char) (cs : List Char) : Prop :=
  front.any Text.isWord ≠ cs.head?.any Text.isWord

namespace ImageMacro

/-- Behind the character `front`, the text `cs` starts with a call of the macro, and `opened`
follows its parenthesis. -/
structure Called (front : Option Char) (cs : List Char) (m : ImageMacro) (opened : List Char) :
    Prop where
  boundary : Text.Boundary front cs
  /-- Nothing but blanks stands between the name and the parenthesis. -/
  spelled : ∃ blanks, (∀ c ∈ blanks, Text.isBlank c) ∧
    cs = m.name.toList ++ (blanks ++ '(' :: opened)

variable {m m' : ImageMacro} {front : Option Char} {c : Char}
  {cs blanks blanks' rest opened opened' : List Char}

/-! ### Names -/

/-- Names start with a character of a word. -/
theorem exists_name_eq (m : ImageMacro) : ∃ name, m.name.toList = 'I' :: name := by
  cases m <;> exact ⟨_, rfl⟩

theorem isWord_I : Text.isWord 'I' = true := by decide +kernel

/-- Names have neither blanks nor parentheses. -/
theorem of_mem_name (h : c ∈ m.name.toList) : Text.isBlank c = false ∧ c ≠ '(' := by
  have hall : m.name.toList.all fun c => !Text.isBlank c && c != '(' := by
    cases m <;> decide +kernel
  simpa using List.all_eq_true.1 hall c h

theorem name_injective (h : m.name.toList = m'.name.toList) : m = m' := by
  revert h
  cases m <;> cases m' <;> decide

/-- A name goes as far as there is neither a blank nor a parenthesis. -/
theorem takeWhile_spelled (hblanks : ∀ c ∈ blanks, Text.isBlank c) :
    (m.name.toList ++ (blanks ++ '(' :: opened)).takeWhile
      (fun c => !Text.isBlank c && c != '(') = m.name.toList := by
  rw [List.takeWhile_append_of_pos]
  · cases blanks with
    | nil => simp
    | cons b bs => simp [hblanks b (List.mem_cons_self ..)]
  · intro c hc
    obtain ⟨hblank, hopen⟩ := of_mem_name hc
    simp [hblank, hopen]

theorem trimLeft_blanks (hblanks : ∀ c ∈ blanks, Text.isBlank c) :
    Text.trimLeft (blanks ++ '(' :: opened) = '(' :: opened := by
  rw [Text.trimLeft, List.dropWhile_append_of_pos hblanks, List.dropWhile_cons_of_neg (by decide)]

/-- A text starts with one call only. -/
theorem spelled_unique (hblanks : ∀ c ∈ blanks, Text.isBlank c)
    (hblanks' : ∀ c ∈ blanks', Text.isBlank c)
    (h : m.name.toList ++ (blanks ++ '(' :: opened) =
      m'.name.toList ++ (blanks' ++ '(' :: opened')) : m = m' ∧ opened = opened' := by
  have hname : m.name.toList = m'.name.toList := by
    rw [← takeWhile_spelled hblanks, h, takeWhile_spelled hblanks']
  obtain rfl := name_injective hname
  have hrest := congrArg Text.trimLeft (List.append_cancel_left h)
  rw [trimLeft_blanks hblanks, trimLeft_blanks hblanks'] at hrest
  exact ⟨rfl, List.tail_eq_of_cons_eq hrest⟩

theorem Called.unique (h : Called front cs m opened) (h' : Called front cs m' opened') :
    m = m' ∧ opened = opened' := by
  obtain ⟨blanks, hblanks, rfl⟩ := h.spelled
  obtain ⟨blanks', hblanks', heq⟩ := h'.spelled
  exact spelled_unique hblanks hblanks' heq

/-- Behind a character a call starts if the character belongs to no word. -/
theorem called_iff_of_front : Called front cs m opened ↔ front.any Text.isWord = false ∧
    ∃ blanks, (∀ c ∈ blanks, Text.isBlank c) ∧
      cs = m.name.toList ++ (blanks ++ '(' :: opened) := by
  have hboundary (blanks : List Char) :
      Text.Boundary front (m.name.toList ++ (blanks ++ '(' :: opened)) ↔
        front.any Text.isWord = false := by
    obtain ⟨name, hname⟩ := exists_name_eq m
    rw [hname, Text.Boundary, List.cons_append, List.head?_cons, Option.any_some, isWord_I]
    simp
  constructor
  · rintro ⟨hfront, blanks, hblanks, rfl⟩
    exact ⟨(hboundary blanks).1 hfront, blanks, hblanks, rfl⟩
  · rintro ⟨hfront, blanks, hblanks, rfl⟩
    exact ⟨(hboundary blanks).2 hfront, blanks, hblanks, rfl⟩

/-- A text that starts with a call has a first character. -/
theorem Called.exists_cons (h : Called front cs m opened) : ∃ cs', cs = 'I' :: cs' := by
  obtain ⟨blanks, -, rfl⟩ := h.spelled
  obtain ⟨name, hname⟩ := exists_name_eq m
  exact ⟨name ++ (blanks ++ '(' :: opened), by rw [hname, List.cons_append]⟩

/-! ### Finding calls -/

theorem callOf?_eq_some_iff : m.callOf? cs = some opened ↔ ∃ blanks,
    (∀ c ∈ blanks, Text.isBlank c) ∧ cs = m.name.toList ++ (blanks ++ '(' :: opened) := by
  unfold callOf?
  constructor
  · intro h
    split at h
    · cases h
    · rename_i rest hname
      have hrest := Text.after?_eq_some_iff.1 h
      have hsplit := List.takeWhile_append_dropWhile (p := Text.isBlank) (l := rest)
      rw [← Text.trimLeft, hrest] at hsplit
      refine ⟨rest.takeWhile Text.isBlank, List.all_eq_true.1 List.all_takeWhile, ?_⟩
      rw [Text.after?_eq_some_iff.1 hname]
      exact congrArg (m.name.toList ++ ·) hsplit.symm
  · rintro ⟨blanks, hblanks, rfl⟩
    rw [Text.after?_eq_some_iff.2 rfl]
    dsimp only
    rw [trimLeft_blanks hblanks]
    rfl

theorem call?_eq_some_iff : call? cs = some (m, opened) ↔ m.callOf? cs = some opened := by
  have hfound {m' : ImageMacro} {opened' : List Char} (h : call? cs = some (m', opened')) :
      m'.callOf? cs = some opened' := by
    obtain ⟨n, -, hn⟩ := List.exists_of_findSome?_eq_some h
    obtain ⟨rest, hrest, he⟩ := Option.map_eq_some_iff.1 hn
    cases he
    exact hrest
  constructor
  · exact hfound
  · intro h
    have hmem : m ∈ all := by cases m <;> decide
    cases hcall : call? cs with
    | none =>
      have hnone := List.findSome?_eq_none_iff.1 hcall m hmem
      rw [h] at hnone
      cases hnone
    | some found =>
      obtain ⟨blanks, hblanks, rfl⟩ := callOf?_eq_some_iff.1 h
      obtain ⟨blanks', hblanks', heq⟩ := callOf?_eq_some_iff.1 (hfound hcall)
      obtain ⟨hm, hopened⟩ := spelled_unique hblanks hblanks' heq
      rw [Option.some.injEq, Prod.ext_iff]
      exact ⟨hm.symm, hopened.symm⟩

/-- **The call that is looked for is found.** -/
theorem called_iff : (if front.any Text.isWord then none else call? cs) = some (m, opened) ↔
    Called front cs m opened := by
  rw [called_iff_of_front, ← callOf?_eq_some_iff, ← call?_eq_some_iff]
  cases front.any Text.isWord <;> simp

end ImageMacro

/-! ### Parts of a text without calls -/

open ImageMacro (Called)

/-- No call starts in the text `cs`, behind the character `front` and before the text `next`. -/
def CallFree (front : Option Char) (cs next : List Char) : Prop :=
  ∀ p c q, cs = p ++ c :: q → ∀ m opened, ¬Called (p.getLast?.or front) (c :: q ++ next) m opened

section CallFree

variable {front : Option Char} {c : Char} {cs ds next : List Char}

theorem callFree_nil : CallFree front [] next := by
  intro p c q h
  simp at h

theorem getLast?_cons_or (c : Char) (cs : List Char) (front : Option Char) :
    (c :: cs).getLast?.or front = cs.getLast?.or (some c) := by
  rw [List.getLast?_cons]
  cases cs.getLast? <;> rfl

/-- No call starts at the first character, nor behind it. -/
theorem callFree_cons : CallFree front (c :: cs) next ↔
    (∀ m opened, ¬Called front (c :: (cs ++ next)) m opened) ∧ CallFree (some c) cs next := by
  constructor
  · intro h
    refine ⟨h [] c cs rfl, fun p d q hcs m opened hcalled => ?_⟩
    exact h (c :: p) d q (by rw [hcs, List.cons_append]) m opened
      (by rwa [getLast?_cons_or])
  · rintro ⟨hhead, htail⟩ p d q hcs m opened hcalled
    cases p with
    | nil =>
      cases hcs
      exact hhead m opened hcalled
    | cons e p =>
      cases hcs
      rw [getLast?_cons_or] at hcalled
      exact htail p d q rfl m opened hcalled

/-- A call that starts in two parts of a text starts in the first or in the second one. -/
theorem callFree_append : CallFree front (cs ++ ds) next ↔
    CallFree front cs (ds ++ next) ∧ CallFree (cs.getLast?.or front) ds next := by
  induction cs generalizing front with
  | nil => simp [callFree_nil]
  | cons c cs ih =>
    rw [List.cons_append, callFree_cons, callFree_cons, ih, getLast?_cons_or, List.append_assoc,
      and_assoc]

/-- The first call in the text `cs`, behind the character `front`; the text `plain` stands in front
of it. -/
structure FirstCall (front : Option Char) (cs plain : List Char) (m : ImageMacro)
    (opened : List Char) : Prop where
  found : ∃ rest, cs = plain ++ rest ∧ CallFree front plain rest ∧
    Called (plain.getLast?.or front) rest m opened

/-- **A text has no call, or a first one.** -/
theorem callFree_or_exists_first (front : Option Char) (cs : List Char) :
    CallFree front cs [] ∨ ∃ plain m opened, FirstCall front cs plain m opened := by
  induction cs generalizing front with
  | nil => exact Or.inl callFree_nil
  | cons c cs ih =>
    by_cases hcall : ∃ m opened, Called front (c :: cs) m opened
    · obtain ⟨m, opened, h⟩ := hcall
      exact Or.inr ⟨[], m, opened, ⟨c :: cs, rfl, callFree_nil, h⟩⟩
    · have hhead (m : ImageMacro) (opened : List Char) : ¬Called front (c :: cs) m opened :=
        fun h => hcall ⟨m, opened, h⟩
      rcases ih (some c) with hfree | ⟨plain, m, opened, ⟨rest, rfl, hplain, h⟩⟩
      · left
        rw [callFree_cons, List.append_nil]
        exact ⟨hhead, hfree⟩
      · refine Or.inr ⟨c :: plain, m, opened, ⟨rest, rfl, callFree_cons.2 ⟨hhead, hplain⟩, ?_⟩⟩
        rwa [getLast?_cons_or]

namespace FirstCall

variable {plain plain' opened opened' : List Char} {m m' : ImageMacro}

/-- **A text has one first call only.** -/
theorem unique (h : FirstCall front cs plain m opened) (h' : FirstCall front cs plain' m' opened') :
    plain = plain' ∧ m = m' ∧ opened = opened' := by
  obtain ⟨rest, hcs, hplain, h⟩ := h
  obtain ⟨rest', hcs', hplain', h'⟩ := h'
  have heq := hcs.symm.trans hcs'
  clear hcs hcs'
  induction plain generalizing front plain' with
  | nil =>
    cases plain' with
    | nil =>
      obtain rfl : rest = rest' := heq
      exact ⟨rfl, h.unique h'⟩
    | cons d plain' =>
      rw [List.nil_append] at heq
      subst heq
      exact absurd h ((callFree_cons.1 hplain').1 m opened)
  | cons c plain ih =>
    cases plain' with
    | nil =>
      rw [List.nil_append] at heq
      subst heq
      exact absurd h' ((callFree_cons.1 hplain).1 m' opened')
    | cons d plain' =>
      rw [List.cons_append, List.cons_append, List.cons.injEq] at heq
      obtain ⟨rfl, heq⟩ := heq
      rw [getLast?_cons_or] at h h'
      obtain ⟨rfl, hrest⟩ :=
        ih (callFree_cons.1 hplain).2 h (callFree_cons.1 hplain').2 h' heq
      exact ⟨rfl, hrest⟩

/-- Where a call starts, a text is not free of calls. -/
theorem not_callFree (h : FirstCall front cs plain m opened) : ¬CallFree front cs [] := by
  intro hfree
  obtain ⟨rest, rfl, -, hcall⟩ := h
  obtain ⟨rest', rfl⟩ := hcall.exists_cons
  exact hfree plain 'I' rest' rfl m opened (by rwa [List.append_nil])

/-- A call takes at least its parenthesis. -/
theorem length_lt (h : FirstCall front cs plain m opened) : opened.length < cs.length := by
  obtain ⟨rest, rfl, -, hcall⟩ := h
  obtain ⟨blanks, -, rfl⟩ := hcall.spelled
  simp only [List.length_append, List.length_cons]
  omega

end FirstCall

end CallFree

end ShaderEffect
