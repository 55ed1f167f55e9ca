/-
**Lines of texts.**

Texts are written line by line.  What is read off the lines of a text that ends with a line break is
followed by what is read off the text behind it, so that a text of many parts can be read part by
part.

Main definitions:

* `ShaderEffect.Text.lines` — the lines of a text, with their line breaks;
* `ShaderEffect.Text.Lacks`, `ShaderEffect.Text.Unbroken`, `ShaderEffect.Text.Whole` — a text
  without some characters, one without line breaks, and one that ends with a line break;
* `ShaderEffect.Text.readLines` — what is read off the lines of a text;
* `ShaderEffect.Text.Silent` — a text in whole lines of which nothing is read.

Main results:

* `ShaderEffect.Text.line_induction` — texts are built from the front line by line;
* `ShaderEffect.Text.readLines_append` — **texts in whole lines are read one after the other**.
-/

import Mathlib.Data.List.TakeWhile

set_option autoImplicit false

namespace ShaderEffect.Text

/-! ### Lines with their line breaks -/

/-- A text is a last line without a line break, or it starts with a line that has one behind it. -/
@[elab_as_elim]
theorem line_induction {motive : List Char → Prop}
    (last : ∀ line, '\n' ∉ line → motive line)
    (line : ∀ line rest, '\n' ∉ line → motive rest → motive (line ++ '\n' :: rest))
    (cs : List Char) : motive cs := by
  -- what has been read of the line stands in front
  have hbehind (front : List Char) (hfront : '\n' ∉ front) : motive (front ++ cs) := by
    induction cs generalizing front with
    | nil => exact last _ (by rwa [List.append_nil])
    | cons c cs ih =>
      by_cases hc : c = '\n'
      · subst hc
        exact line front cs hfront (ih [] List.not_mem_nil)
      · rw [← List.singleton_append, ← List.append_assoc]
        refine ih (front ++ [c]) fun hmem => ?_
        rcases List.mem_append.1 hmem with hmem | hmem
        · exact hfront hmem
        · exact hc (List.mem_singleton.1 hmem).symm
  exact hbehind [] List.not_mem_nil

/-- The lines of a text, each with the line break that ends it.  The last line has none. -/
def lines : List Char → List (List Char)
  | [] => [[]]
  | c :: cs => if c = '\n' then ['\n'] :: lines cs else (lines cs).modifyHead (c :: ·)

variable {line rest : List Char}

theorem lines_last (hbreak : '\n' ∉ line) : lines line = [line] := by
  induction line with
  | nil => rfl
  | cons c line ih =>
    rw [List.mem_cons, not_or] at hbreak
    rw [lines, if_neg (Ne.symm hbreak.1), ih hbreak.2]
    rfl

theorem lines_line (hbreak : '\n' ∉ line) :
    lines (line ++ '\n' :: rest) = (line ++ ['\n']) :: lines rest := by
  induction line with
  | nil => rfl
  | cons c line ih =>
    rw [List.mem_cons, not_or] at hbreak
    rw [List.cons_append, lines, if_neg (Ne.symm hbreak.1), ih hbreak.2]
    rfl

/-! ### Texts with and without line breaks -/

/-- What is said of the characters in a list is decided along the list, and not by going through
all characters that there are. -/
instance (priority := high) decidableForallMem (p : Char → Prop) [DecidablePred p]
    (cs : List Char) : Decidable (∀ c ∈ cs, p c) :=
  List.decidableBAll p cs

/-- The text has none of the characters. -/
def Lacks (cs : List Char) (text : String) : Prop := ∀ c ∈ cs, c ∉ text.toList

instance (cs : List Char) : DecidablePred (Lacks cs) :=
  fun text => inferInstanceAs (Decidable (∀ c ∈ cs, c ∉ text.toList))

/-- The text has no line breaks. -/
def Unbroken (text : String) : Prop := '\n' ∉ text.toList

instance : DecidablePred Unbroken :=
  fun text => inferInstanceAs (Decidable ('\n' ∉ text.toList))

/-- Every line of the text has a line break behind it. -/
def Whole (text : String) : Prop := text = "" ∨ text.toList.getLast? = some '\n'

section

variable {a b : String}

theorem lacks_ofList {cs text : List Char} (h : ∀ c ∈ cs, c ∉ text) :
    Lacks cs (String.ofList text) := by
  rwa [Lacks, String.toList_ofList]

theorem Lacks.append {cs : List Char} (ha : Lacks cs a) (hb : Lacks cs b) : Lacks cs (a ++ b) := by
  intro c hc
  rw [String.toList_append, List.mem_append]
  exact fun h => h.elim (ha c hc) (hb c hc)

theorem Lacks.intercalate {cs : List Char} {texts : List String} (ha : Lacks cs a)
    (h : ∀ text ∈ texts, Lacks cs text) : Lacks cs (a.intercalate texts) := by
  induction texts with
  | nil =>
    rw [String.intercalate_nil]
    exact fun c _ => List.not_mem_nil
  | cons text texts ih =>
    obtain ⟨htext, htexts⟩ := List.forall_mem_cons.1 h
    cases texts with
    | nil => rwa [String.intercalate_singleton]
    | cons text' texts =>
      rw [String.intercalate_cons_cons]
      exact (htext.append ha).append (ih htexts)

theorem Lacks.unbroken {cs : List Char} (h : Lacks cs a) (hc : '\n' ∈ cs) : Unbroken a := h _ hc

theorem unbroken_ofList {cs : List Char} (h : '\n' ∉ cs) : Unbroken (String.ofList cs) := by
  rwa [Unbroken, String.toList_ofList]

theorem Unbroken.append (ha : Unbroken a) (hb : Unbroken b) : Unbroken (a ++ b) := by
  rw [Unbroken, String.toList_append, List.mem_append]
  exact fun h => h.elim ha hb

theorem Whole.empty : Whole "" := Or.inl rfl

theorem Whole.append (ha : Whole a) (hb : Whole b) : Whole (a ++ b) := by
  rcases hb with rfl | hb
  · rwa [String.append_empty]
  · right
    rw [String.toList_append, List.getLast?_append, hb, Option.some_or]

/-- Whatever stands in front of a text that ends with a line break, the whole ends with it. -/
theorem Whole.behind (a : String) (hb : b.toList.getLast? = some '\n') : Whole (a ++ b) := by
  right
  rw [String.toList_append, List.getLast?_append, hb, Option.some_or]

theorem Whole.append_break (a : String) : Whole (a ++ "\n") := .behind a rfl

theorem Whole.join {texts : List String} (h : ∀ text ∈ texts, Whole text) :
    Whole (String.join texts) := by
  induction texts with
  | nil => exact .empty
  | cons text texts ih =>
    obtain ⟨htext, htexts⟩ := List.forall_mem_cons.1 h
    rw [String.join_cons]
    exact htext.append (ih htexts)

end

/-! ### Reading line by line -/

/-- What is read off the lines of a text, from the first to the last. -/
def readLines {α : Type} (read : List Char → Option α) (text : String) : List α :=
  (text.toList.splitOn '\n').filterMap read

/-- The text is written in whole lines, and nothing is read off them. -/
structure Silent {α : Type} (read : List Char → Option α) (text : String) : Prop where
  whole : Whole text
  nothing : readLines read text = []

section

variable {α : Type} {read : List Char → Option α} {a b : String} {c : Char}

theorem readLines_empty (hempty : read [] = none) : readLines read "" = [] :=
  List.filterMap_cons_none hempty

/-- **Texts in whole lines are read one after the other**, if nothing is read off an empty line. -/
theorem readLines_append (hempty : read [] = none) (ha : Whole a) (b : String) :
    readLines read (a ++ b) = readLines read a ++ readLines read b := by
  rcases ha with rfl | ha
  · rw [String.empty_append, readLines_empty hempty, List.nil_append]
  · obtain ⟨cs, hcs⟩ := List.getLast?_eq_some_iff.1 ha
    have hfirst : readLines read a = (cs.splitOn '\n').filterMap read := by
      rw [readLines, hcs, List.splitOn_append_cons_self, List.filterMap_append, List.splitOn_nil,
        List.filterMap_cons_none hempty]
      exact List.append_nil _
    rw [hfirst, readLines, readLines, String.toList_append, hcs, List.append_assoc,
      List.singleton_append, List.splitOn_append_cons_self, List.filterMap_append]

theorem readLines_join (hempty : read [] = none) {texts : List String}
    (h : ∀ text ∈ texts, Whole text) :
    readLines read (String.join texts) = texts.flatMap (readLines read) := by
  induction texts with
  | nil => exact readLines_empty hempty
  | cons text texts ih =>
    obtain ⟨htext, htexts⟩ := List.forall_mem_cons.1 h
    rw [String.join_cons, readLines_append hempty htext, ih htexts, List.flatMap_cons]

theorem Silent.append (hempty : read [] = none) (ha : Silent read a) (hb : Silent read b) :
    Silent read (a ++ b) :=
  ⟨ha.whole.append hb.whole, by rw [readLines_append hempty ha.whole, ha.nothing, hb.nothing]; rfl⟩

theorem silent_empty (hempty : read [] = none) : Silent read "" :=
  ⟨.empty, readLines_empty hempty⟩

/-- Nothing is read off a line break. -/
theorem silent_break (hempty : read [] = none) : Silent read "\n" :=
  ⟨.append_break "", by rw [readLines, show "\n".toList.splitOn '\n' = [[], []] by decide,
    List.filterMap_cons_none hempty, List.filterMap_cons_none hempty, List.filterMap_nil]⟩

theorem silent_ofList {cs : List Char} (hwhole : cs.getLast? = some '\n')
    (hnothing : (cs.splitOn '\n').filterMap read = []) : Silent read (String.ofList cs) := by
  refine ⟨Or.inr ?_, ?_⟩
  · rwa [String.toList_ofList]
  · rwa [readLines, String.toList_ofList]

/-- What is read off a text of one line. -/
theorem readLines_break (hempty : read [] = none) (ha : Unbroken a) :
    readLines read (a ++ "\n") = (read a.toList).toList := by
  have hline : (a ++ "\n").toList = a.toList ++ ['\n'] := String.toList_append ..
  rw [readLines, hline, List.splitOn_append_cons_self, List.splitOn_eq_singleton ha,
    List.splitOn_nil, List.singleton_append]
  cases h : read a.toList with
  | none => rw [List.filterMap_cons_none h, List.filterMap_cons_none hempty]; rfl
  | some x => rw [List.filterMap_cons_some h, List.filterMap_cons_none hempty]; rfl

/-- What is read off a text that is written line by line. -/
theorem readLines_lines (hempty : read [] = none) {lines : List String}
    (h : ∀ line ∈ lines, Unbroken line) :
    readLines read (String.join (lines.map (· ++ "\n"))) =
      lines.filterMap fun line => read line.toList := by
  induction lines with
  | nil => exact readLines_empty hempty
  | cons line lines ih =>
    obtain ⟨hline, hlines⟩ := List.forall_mem_cons.1 h
    rw [List.map_cons, String.join_cons, readLines_append hempty (.append_break line),
      readLines_break hempty hline, ih hlines, List.filterMap_cons]
    cases read line.toList <;> rfl

/-- Lines are parts of the text. -/
theorem mem_of_mem_line {cs line : List Char} (hline : line ∈ cs.splitOn '\n') (hc : c ∈ line) :
    c ∈ cs := by
  induction cs using line_induction with
  | last cs hbreak =>
    rw [List.splitOn_eq_singleton hbreak, List.mem_singleton] at hline
    exact hline ▸ hc
  | line first rest hbreak ih =>
    rw [List.splitOn_append_cons_self, List.splitOn_eq_singleton hbreak, List.mem_append,
      List.mem_singleton] at hline
    rcases hline with rfl | hline
    · exact List.mem_append_left _ hc
    · exact List.mem_append_right _ (List.mem_cons_of_mem _ (ih hline))

/-- Nothing is read off a text without a character that is needed for that. -/
theorem readLines_eq_nil (hread : ∀ line, c ∉ line → read line = none) (ha : c ∉ a.toList) :
    readLines read a = [] :=
  List.filterMap_eq_nil_iff.2 fun line hline => hread line fun hc => ha (mem_of_mem_line hline hc)

end

end ShaderEffect.Text
