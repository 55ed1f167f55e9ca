/-
**Lines that state a version.**

A line states a version if it goes on with the directive behind spaces and tabs.  The lines of a
body that do so are dropped, each with its line break, and no others.

Main definitions:

* `ShaderEffect.StatesVersion` — a line states a version.

Main results:

* `ShaderEffect.StatesVersion.of_append_cons` — a character that stands in no directive ends what
  can be one;
* `ShaderEffect.dropVersionLines_eq` — **lines that state a version are dropped, and no others**.
-/

import ShaderEffect.Program.VersionLine
import ShaderEffect.Proofs.Text.Lines

set_option autoImplicit false

namespace ShaderEffect

/-! ### Lines that state a version -/

/-- The line states a version: behind spaces and tabs it goes on with the directive. -/
def StatesVersion (line : List Char) : Prop :=
  ∃ indent rest, (∀ c ∈ indent, c = ' ' ∨ c = '\t') ∧ line = indent ++ ("#version".toList ++ rest)

/-- The lines that are dropped are those that state a version. -/
theorem isVersionLine_iff {line : List Char} : isVersionLine line = true ↔ StatesVersion line := by
  unfold isVersionLine
  rw [Option.isSome_iff_exists]
  simp only [Text.after?_eq_some_iff]
  constructor
  · rintro ⟨rest, hrest⟩
    refine ⟨line.takeWhile fun c => c == ' ' || c == '\t', rest, fun c hc => ?_, ?_⟩
    · simpa using List.mem_takeWhile_imp hc
    · rw [← hrest, List.takeWhile_append_dropWhile]
  · rintro ⟨indent, rest, hindent, rfl⟩
    refine ⟨rest, ?_⟩
    rw [List.dropWhile_append_of_pos (by simpa using hindent)]
    rfl

instance : DecidablePred StatesVersion := fun _ => decidable_of_iff _ isVersionLine_iff

/-- The characters in front of a directive, and those of the directive itself. -/
def directive : List Char := " \t#version".toList

namespace StatesVersion

variable {a b line : List Char} {c : Char}

/-- A line that states a version may go on in any way. -/
theorem append (h : StatesVersion a) (b : List Char) : StatesVersion (a ++ b) := by
  obtain ⟨indent, rest, hindent, rfl⟩ := h
  exact ⟨indent, rest ++ b, hindent, by simp only [List.append_assoc]⟩

/-- **A character that stands in no directive** does not help to state a version. -/
theorem of_append_cons (hc : c ∉ directive) (h : StatesVersion (a ++ c :: b)) :
    StatesVersion a := by
  obtain ⟨indent, rest, hindent, heq⟩ := h
  have hmem : c ∉ indent ++ "#version".toList := by
    intro hmem
    rcases List.mem_append.1 hmem with hmem | hmem
    · rcases hindent c hmem with rfl | rfl <;> exact hc (by decide)
    · exact hc (List.mem_append_right [' ', '\t'] hmem)
  rw [← List.append_assoc] at heq
  rcases List.append_eq_append_iff.1 heq with ⟨middle, hmiddle, hrest⟩ | ⟨middle, rfl, -⟩
  · cases middle with
    | nil =>
      rw [List.append_nil] at hmiddle
      exact ⟨indent, [], hindent, by rw [← hmiddle, List.append_nil]⟩
    | cons d middle =>
      obtain ⟨rfl, -⟩ := List.cons.inj hrest
      exact absurd (hmiddle ▸ List.mem_append_right a List.mem_cons_self) hmem
  · exact ⟨indent, middle, hindent, List.append_assoc ..⟩

/-- What stands in front of a line that states a version is blank, or has the sign of directives. -/
theorem of_append (hsign : '#' ∉ a) (h : StatesVersion (a ++ b)) : StatesVersion b := by
  obtain ⟨indent, rest, hindent, heq⟩ := h
  rcases List.append_eq_append_iff.1 heq with ⟨middle, rfl, rfl⟩ | ⟨middle, rfl, hrest⟩
  · exact ⟨middle, rest, fun c hc => hindent c (List.mem_append_right _ hc), rfl⟩
  · cases middle with
    | nil => exact ⟨[], rest, by simp, hrest.symm⟩
    | cons d middle =>
      obtain ⟨rfl, -⟩ := List.cons.inj hrest
      exact absurd (List.mem_append_right _ List.mem_cons_self) hsign

end StatesVersion

/-- A line that leaves the way of a directive at some character states no version. -/
theorem not_statesVersion_of_stop (start : List Char) (c : Char) (hc : c ∉ directive)
    (h : ¬StatesVersion start) (rest : List Char) : ¬StatesVersion (start ++ c :: rest) :=
  mt (.of_append_cons hc) h

/-! ### Dropping the lines that state a version -/

section Dropping

variable {line rest : List Char}

theorem takeWhile_line (hbreak : '\n' ∉ line) (rest : List Char) :
    (line ++ '\n' :: rest).takeWhile (· != '\n') = line ∧
      (line ++ '\n' :: rest).dropWhile (· != '\n') = '\n' :: rest := by
  have hall : ∀ c ∈ line, (c != '\n') = true := fun c hc => by
    simpa using fun heq : c = '\n' => hbreak (heq ▸ hc)
  rw [List.takeWhile_append_of_pos hall, List.dropWhile_append_of_pos hall]
  simp

/-- The last line of a text is dropped if it states a version. -/
theorem dropVersionLines_last (hbreak : '\n' ∉ line) :
    dropVersionLines line = if StatesVersion line then [] else line := by
  have hall : ∀ c ∈ line, (c != '\n') = true := fun c hc => by
    simpa using fun heq : c = '\n' => hbreak (heq ▸ hc)
  have htake : line.takeWhile (· != '\n') = line := List.takeWhile_eq_self_iff.2 hall
  have hdrop : line.dropWhile (· != '\n') = [] := List.dropWhile_eq_nil_iff.2 hall
  unfold dropVersionLines
  split
  · simp only [htake, isVersionLine_iff]
  · rename_i h
    rw [hdrop] at h
    cases h

/-- A line that is not the last one is dropped with its line break. -/
theorem dropVersionLines_line (hbreak : '\n' ∉ line) : dropVersionLines (line ++ '\n' :: rest) =
    (if StatesVersion line then [] else line ++ ['\n']) ++ dropVersionLines rest := by
  obtain ⟨htake, hdrop⟩ := takeWhile_line hbreak rest
  rw [dropVersionLines]
  split
  · rename_i h
    rw [hdrop] at h
    cases h
  · rename_i h
    rw [hdrop] at h
    cases h
    simp only [htake, isVersionLine_iff]
    split <;> simp

/-- A line break is no part of a directive. -/
theorem statesVersion_append_break : StatesVersion (line ++ '\n' :: rest) ↔ StatesVersion line :=
  ⟨.of_append_cons (by decide), fun h => h.append _⟩

/-- **The lines that state a version are dropped**, and no others. -/
theorem dropVersionLines_eq (cs : List Char) : dropVersionLines cs =
    ((Text.lines cs).filter fun line => ¬StatesVersion line).flatten := by
  induction cs using Text.line_induction with
  | last line hbreak =>
    rw [dropVersionLines_last hbreak, Text.lines_last hbreak]
    by_cases h : StatesVersion line <;> simp [h]
  | line line rest hbreak ih =>
    rw [dropVersionLines_line hbreak, Text.lines_line hbreak, ih, List.filter_cons]
    have hline := @statesVersion_append_break line []
    by_cases h : StatesVersion line <;> simp [h, hline]

end Dropping

end ShaderEffect
