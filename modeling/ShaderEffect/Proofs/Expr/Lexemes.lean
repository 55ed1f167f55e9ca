/-
**The tokens of a text are its longest lexemes.**

A text is cut from left to right.  Blanks are dropped, and in front of anything else the longest
lexeme is cut off: a punctuation character, a `$` and a name, a name, or a numeral.  A numeral is a
run of digits and points with an exponent behind it, if there is one with a digit; whether it is a
number is asked only once it has been cut off, so that `1.2.3` is no number and not two of them.

Main definitions:

* `ShaderEffect.Expr.Lexeme` — the lexemes, and what token each stands for;
* `ShaderEffect.Expr.Longest` — the longest lexeme at the front of a text;
* `ShaderEffect.Expr.Cuts`, `ShaderEffect.Expr.Stuck` — **how far a text is cut**, and where it
  cannot be cut any further;
* `ShaderEffect.Expr.Spaced` — lexemes with blanks between them.

Main results:

* `ShaderEffect.Expr.scan_spec` — one step cuts off the longest lexeme;
* `ShaderEffect.Expr.Cuts.tokenize_eq`, `ShaderEffect.Expr.Stuck.tokenize_eq` — cutting goes on
  behind what has been cut, and ends where it is stuck;
* `ShaderEffect.Expr.isSome_read?_iff` — the numerals that are numbers;
* `ShaderEffect.Expr.tokenize_longest` — **tokens are the longest lexemes**.
-/

import Mathlib.Data.List.TakeWhile
import ShaderEffect.Expr.Token

set_option autoImplicit false

namespace ShaderEffect.Expr

open Decimal (isDigit)

/-! ### Lexemes -/

/-- The characters that are tokens on their own. -/
inductive Punctuation : Char → Token → Prop where
  | plus : Punctuation '+' .plus
  | minus : Punctuation '-' .minus
  | star : Punctuation '*' .star
  | slash : Punctuation '/' .slash
  | percent : Punctuation '%' .percent
  | lparen : Punctuation '(' .lparen
  | rparen : Punctuation ')' .rparen
  | comma : Punctuation ',' .comma

/-- What follows the digits and points of a numeral: nothing, or a mark, perhaps a sign, and
digits. -/
inductive IsExponent : List Char → Prop where
  | none : IsExponent []
  | some {mark : Char} {sign ds : List Char} (hmark : mark = 'e' ∨ mark = 'E')
      (hsign : sign = [] ∨ sign = ['+'] ∨ sign = ['-']) (hne : ds ≠ [])
      (hds : ∀ d ∈ ds, isDigit d) : IsExponent (mark :: (sign ++ ds))

/-- The token of a numeral, if it is a number. -/
def numberOf (text : List Char) : Except LexFault Token :=
  match Decimal.read? text with
  | none => .error (.invalidNumber (String.ofList text))
  | some v => .ok (.number v)

/-- The lexemes, and what each of them stands for. -/
inductive Lexeme : List Char → Except LexFault Token → Prop where
  | punctuation {c : Char} {t : Token} (h : Punctuation c t) : Lexeme [c] (.ok t)
  | var {name : List Char} (hne : name ≠ []) (hname : ∀ d ∈ name, isNameChar d) :
      Lexeme ('$' :: name) (.ok (.var (String.ofList name)))
  | ident {c : Char} {name : List Char} (hc : isNameStart c) (hname : ∀ d ∈ name, isNameChar d) :
      Lexeme (c :: name) (.ok (.ident (String.ofList (c :: name))))
  | numeral {run ex : List Char} (hne : run ≠ []) (hrun : ∀ d ∈ run, isNumberChar d)
      (hex : IsExponent ex) : Lexeme (run ++ ex) (numberOf (run ++ ex))

/-- The word is a lexeme, and no longer one stands at the front of the text that it begins. -/
structure Longest (word : List Char) (r : Except LexFault Token) (rest : List Char) : Prop where
  lexeme : Lexeme word r
  length_le : ∀ word' r' rest', Lexeme word' r' → word' ++ rest' = word ++ rest →
    word'.length ≤ word.length

/-- The front of a text is cut into tokens, and the rest of it is left. -/
inductive Cuts : List Char → List Token → List Char → Prop where
  | nil (cs : List Char) : Cuts cs [] cs
  | blank {c : Char} {cs rest : List Char} {ts : List Token} (hc : Text.isBlank c)
      (h : Cuts cs ts rest) : Cuts (c :: cs) ts rest
  | token {word cs rest : List Char} {t : Token} {ts : List Token}
      (hword : Longest word (.ok t) cs) (h : Cuts cs ts rest) : Cuts (word ++ cs) (t :: ts) rest

/-- There is something at the front of a text that is neither a blank nor a token. -/
inductive Stuck : List Char → LexFault → Prop where
  /-- A `$` that no name follows. -/
  | dollar {cs : List Char} (h : ∀ c ∈ cs.head?, isNameChar c = false) :
      Stuck ('$' :: cs) .bareDollar
  /-- A numeral that is not a number. -/
  | numeral {word rest : List Char} {fault : LexFault} (h : Longest word (.error fault) rest) :
      Stuck (word ++ rest) fault
  /-- A character that neither is a blank nor begins a lexeme. -/
  | character {c : Char} {cs : List Char} (hblank : Text.isBlank c = false)
      (hpunctuation : ∀ t, ¬ Punctuation c t) (hdollar : c ≠ '$')
      (hnumber : isNumberChar c = false) (hname : isNameStart c = false) :
      Stuck (c :: cs) (.unexpectedCharacter c)

/-- Lexemes that stand for the tokens, with blanks in front, at the end, and between any two. -/
inductive Spaced : List Char → List Token → Prop where
  | blanks {gap : List Char} (hgap : ∀ c ∈ gap, Text.isBlank c) : Spaced gap []
  | word {gap word cs : List Char} {t : Token} {ts : List Token}
      (hgap : ∀ c ∈ gap, Text.isBlank c) (hword : Lexeme word (.ok t))
      (hcs : ∀ c ∈ cs.head?, Text.isBlank c) (h : Spaced cs ts) :
      Spaced (gap ++ word ++ cs) (t :: ts)

/-! ### Classes of characters -/

section Classes

variable {c d : Char} {t : Token}

theorem eq_iff_toNat_eq : c = d ↔ c.toNat = d.toNat := Char.toNat_inj.symm

theorem isDigit_iff : isDigit c ↔ 48 ≤ c.toNat ∧ c.toNat ≤ 57 := by
  simp [isDigit, Char.le_def, UInt32.le_iff_toNat_le]

theorem isNumberChar_iff : isNumberChar c ↔ isDigit c ∨ c = '.' := by
  simp [isNumberChar]

theorem isNameStart_iff : isNameStart c ↔
    (97 ≤ c.toNat ∧ c.toNat ≤ 122) ∨ (65 ≤ c.toNat ∧ c.toNat ≤ 90) ∨ c = '_' := by
  simp [isNameStart, Char.le_def, UInt32.le_iff_toNat_le, or_assoc]

theorem isNameChar_iff : isNameChar c ↔ isNameStart c ∨ isDigit c := by
  simp [isNameChar]

/-- Names begin with no character of a numeral. -/
theorem isNumberChar_of_isNameStart (h : isNameStart c) : isNumberChar c = false := by
  rw [Bool.eq_false_iff, ne_eq, isNumberChar_iff, isDigit_iff]
  rw [isNameStart_iff, eq_iff_toNat_eq] at h
  rw [eq_iff_toNat_eq]
  simp only [Char.reduceToNat] at h ⊢
  omega

/-- No blank stands in a lexeme. -/
theorem not_isBlank_of_isNameChar (h : isNameChar c) : Text.isBlank c = false := by
  rw [isNameChar_iff, isNameStart_iff, isDigit_iff, eq_iff_toNat_eq] at h
  simp only [Char.reduceToNat] at h
  simp [Text.isBlank]
  omega

theorem not_isBlank_of_isNumberChar (h : isNumberChar c) : Text.isBlank c = false := by
  rcases isNumberChar_iff.1 h with h | rfl
  · exact not_isBlank_of_isNameChar (isNameChar_iff.2 (Or.inr h))
  · decide

theorem IsExponent.not_isBlank {ex : List Char} (h : IsExponent ex) :
    ∀ d ∈ ex, Text.isBlank d = false := by
  intro d hd
  cases h with
  | none => simp at hd
  | some hmark hsign _ hds =>
    rcases List.mem_cons.1 hd with rfl | hd
    · rcases hmark with rfl | rfl <;> decide
    · rcases List.mem_append.1 hd with hd | hd
      · rcases hsign with rfl | rfl | rfl <;> simp at hd <;> subst hd <;> decide
      · exact not_isBlank_of_isNameChar (isNameChar_iff.2 (Or.inr (hds d hd)))

/-- Punctuation begins no other lexeme. -/
theorem Punctuation.other (h : Punctuation c t) :
    Text.isBlank c = false ∧ c ≠ '$' ∧ isNumberChar c = false ∧ isNameStart c = false := by
  cases h <;> decide

theorem punctuation_iff : Punctuation c t ↔ punctuation? c = some t := by
  constructor
  · intro h
    cases h <;> rfl
  · intro h
    unfold punctuation? at h
    split at h <;> cases h <;> constructor

end Classes

/-! ### What a lexeme is can be seen from its first character -/

section Lexemes

variable {c : Char} {t : Token} {word word' cs rest rest' : List Char}
  {r r' : Except LexFault Token} {fault : LexFault}

theorem Lexeme.ne_nil (h : Lexeme word r) : word ≠ [] := by
  cases h with
  | numeral hne _ _ => exact fun hnil => hne (List.append_eq_nil_iff.1 hnil).1
  | _ => simp

/-- The run of a numeral begins it. -/
theorem cons_eq_append {run ex : List Char} (hne : run ≠ []) (h : c :: cs = run ++ ex) :
    c ∈ run := by
  cases run with
  | nil => exact absurd rfl hne
  | cons d run =>
    cases h
    exact List.mem_cons_self

/-- A lexeme that begins with punctuation is nothing else. -/
theorem Lexeme.of_punctuation (hc : Punctuation c t) (h : Lexeme (c :: cs) r) :
    cs = [] ∧ r = .ok t := by
  obtain ⟨-, hdollar, hnumber, hname⟩ := hc.other
  generalize hword : c :: cs = word at h
  cases h with
  | punctuation hd =>
    cases hword
    rw [punctuation_iff] at hc hd
    exact ⟨rfl, by rw [Option.some.inj (hd.symm.trans hc)]⟩
  | var _ _ =>
    cases hword
    exact absurd rfl hdollar
  | ident hd _ =>
    cases hword
    exact absurd hd (by rw [hname]; decide)
  | numeral hne hrun _ =>
    exact absurd (hrun c (cons_eq_append hne hword)) (by rw [hnumber]; decide)

/-- A lexeme that begins with `$` is a variable. -/
theorem Lexeme.of_dollar (h : Lexeme ('$' :: cs) r) :
    cs ≠ [] ∧ (∀ d ∈ cs, isNameChar d) ∧ r = .ok (.var (String.ofList cs)) := by
  generalize hword : '$' :: cs = word at h
  cases h with
  | punctuation hd =>
    cases hword
    exact absurd rfl hd.other.2.1
  | var hne hname =>
    cases hword
    exact ⟨hne, hname, rfl⟩
  | ident hd _ =>
    cases hword
    exact absurd hd (by decide)
  | numeral hne hrun _ =>
    exact absurd (hrun '$' (cons_eq_append hne hword)) (by decide)

/-- A lexeme that begins like a name is a name. -/
theorem Lexeme.of_isNameStart (hc : isNameStart c) (h : Lexeme (c :: cs) r) :
    (∀ d ∈ cs, isNameChar d) ∧ r = .ok (.ident (String.ofList (c :: cs))) := by
  generalize hword : c :: cs = word at h
  cases h with
  | punctuation hd =>
    cases hword
    exact absurd hc (by rw [hd.other.2.2.2]; decide)
  | var _ _ =>
    cases hword
    exact absurd hc (by decide)
  | ident _ hname =>
    cases hword
    exact ⟨hname, rfl⟩
  | numeral hne hrun _ =>
    exact absurd (hrun c (cons_eq_append hne hword))
      (by rw [isNumberChar_of_isNameStart hc]; decide)

/-- A lexeme that begins like a numeral is a numeral. -/
theorem Lexeme.of_isNumberChar (hc : isNumberChar c) (h : Lexeme (c :: cs) r) :
    ∃ run ex, c :: cs = run ++ ex ∧ run ≠ [] ∧ (∀ d ∈ run, isNumberChar d) ∧ IsExponent ex ∧
      r = numberOf (c :: cs) := by
  generalize hword : c :: cs = word at h
  cases h with
  | punctuation hd =>
    cases hword
    exact absurd hc (by rw [hd.other.2.2.1]; decide)
  | var _ _ =>
    cases hword
    exact absurd hc (by decide)
  | ident hd _ =>
    cases hword
    exact absurd hc (by rw [isNumberChar_of_isNameStart hd]; decide)
  | numeral hne hrun hex => exact ⟨_, _, rfl, hne, hrun, hex, rfl⟩

/-- A word stands for one thing at most. -/
theorem Lexeme.unique (h : Lexeme word r) (h' : Lexeme word r') : r = r' := by
  cases h with
  | punctuation hc => exact (h'.of_punctuation hc).2.symm
  | var _ _ => exact h'.of_dollar.2.2.symm
  | ident hc _ => exact (h'.of_isNameStart hc).2.symm
  | @numeral run ex hne hrun hex =>
    obtain ⟨c, run, rfl⟩ := List.exists_cons_of_ne_nil hne
    obtain ⟨_, _, -, -, -, -, hr⟩ := h'.of_isNumberChar (hrun c List.mem_cons_self)
    exact hr.symm

/-- There is one longest lexeme at the front of a text at most. -/
theorem Longest.unique (h : Longest word r rest) (h' : Longest word' r' rest')
    (heq : word ++ rest = word' ++ rest') : word = word' ∧ r = r' ∧ rest = rest' := by
  have hlength : word.length = word'.length :=
    Nat.le_antisymm (h'.length_le _ _ _ h.lexeme heq) (h.length_le _ _ _ h'.lexeme heq.symm)
  obtain ⟨rfl, rfl⟩ := List.append_inj heq hlength
  exact ⟨rfl, h.lexeme.unique h'.lexeme, rfl⟩

/-- The characters that begin a lexeme. -/
theorem Lexeme.first (h : Lexeme (c :: cs) r) :
    (∃ t, Punctuation c t) ∨ c = '$' ∨ isNumberChar c ∨ isNameStart c := by
  generalize hword : c :: cs = word at h
  cases h with
  | punctuation hd =>
    cases hword
    exact Or.inl ⟨_, hd⟩
  | var _ _ =>
    cases hword
    exact Or.inr (Or.inl rfl)
  | ident hd _ =>
    cases hword
    exact Or.inr (Or.inr (Or.inr hd))
  | numeral hne hrun _ =>
    exact Or.inr (Or.inr (Or.inl (hrun c (cons_eq_append hne hword))))

/-- No blank stands in a lexeme. -/
theorem Lexeme.not_isBlank (h : Lexeme word r) : ∀ c ∈ word, Text.isBlank c = false := by
  intro c hc
  cases h with
  | punctuation hd =>
    obtain rfl := List.mem_singleton.1 hc
    exact hd.other.1
  | var _ hname =>
    rcases List.mem_cons.1 hc with rfl | hc
    · decide
    · exact not_isBlank_of_isNameChar (hname c hc)
  | ident hd hname =>
    rcases List.mem_cons.1 hc with rfl | hc
    · exact not_isBlank_of_isNameChar (isNameChar_iff.2 (Or.inl hd))
    · exact not_isBlank_of_isNameChar (hname c hc)
  | numeral _ hrun hex =>
    rcases List.mem_append.1 hc with hc | hc
    · exact not_isBlank_of_isNumberChar (hrun c hc)
    · exact hex.not_isBlank c hc

/-- A lexeme that a blank or the end follows is the longest one. -/
theorem Lexeme.longest (h : Lexeme word r) (hrest : ∀ c ∈ rest.head?, Text.isBlank c) :
    Longest word r rest := by
  refine ⟨h, fun word' r' rest' h' heq => ?_⟩
  rcases List.append_eq_append_iff.1 heq with ⟨mid, rfl, -⟩ | ⟨mid, rfl, rfl⟩
  · rw [List.length_append]
    exact Nat.le_add_right _ _
  · -- what the longer lexeme has more begins with the blank
    cases mid with
    | nil => rw [List.append_nil]
    | cons b mid =>
      have hblank := hrest b rfl
      rw [h'.not_isBlank b (List.mem_append_right _ List.mem_cons_self)] at hblank
      cases hblank

end Lexemes

/-! ### The longest lexeme at the front of a text -/

section Front

variable {c : Char} {t : Token} {p : Char → Bool} {cs ex rest : List Char}
  {r : Except LexFault Token}

/-- Characters of a class that a text begins with are among the first ones of that class. -/
theorem length_le_takeWhile {name : List Char} (hname : ∀ d ∈ name, p d) (rest : List Char) :
    name.length ≤ ((name ++ rest).takeWhile p).length := by
  rw [List.takeWhile_append_of_pos hname, List.length_append]
  exact Nat.le_add_right _ _

/-- Characters of a class that none follows are all that is taken off. -/
theorem takeWhile_append_of_head {name : List Char} (hname : ∀ d ∈ name, p d) (cs : List Char)
    (hcs : ∀ c ∈ cs.head?, p c = false) :
    (name ++ cs).takeWhile p = name ∧ (name ++ cs).dropWhile p = cs := by
  rw [List.takeWhile_append_of_pos hname, List.dropWhile_append_of_pos hname]
  cases cs with
  | nil => simp
  | cons c cs => simp [hcs c rfl]

/-- A lexeme is the longest one if it goes on as far as any that begins like it. -/
theorem Longest.of_takeWhile (h : Lexeme (c :: cs.takeWhile p) r)
    (hp : ∀ name r', Lexeme (c :: name) r' → ∀ d ∈ name, p d) :
    Longest (c :: cs.takeWhile p) r (cs.dropWhile p) := by
  refine ⟨h, fun word' r' rest' h' heq => ?_⟩
  rw [List.cons_append, List.takeWhile_append_dropWhile] at heq
  obtain ⟨d, name, rfl⟩ := List.exists_cons_of_ne_nil h'.ne_nil
  cases heq
  exact Nat.succ_le_succ (length_le_takeWhile (hp name r' h') rest')

theorem Longest.of_punctuation (h : Punctuation c t) : Longest [c] (.ok t) cs := by
  refine ⟨.punctuation h, fun word' r' rest' h' heq => ?_⟩
  obtain ⟨d, name, rfl⟩ := List.exists_cons_of_ne_nil h'.ne_nil
  cases heq
  rw [(h'.of_punctuation h).1]

/-- What is split off is an exponent. -/
theorem isExponent_exponentSplit (cs : List Char) : IsExponent (exponentSplit cs).1 := by
  have hsome {mark : Char} (hmark : mark = 'e' ∨ mark = 'E') {ds : List Char} (sign : List Char)
      (hsign : sign = [] ∨ sign = ['+'] ∨ sign = ['-'])
      (hne : ¬ (ds.takeWhile isDigit).isEmpty) :
      IsExponent (mark :: (sign ++ ds.takeWhile isDigit)) :=
    .some hmark hsign (fun hnil => hne (List.isEmpty_iff.2 hnil))
      fun d hd => List.mem_takeWhile_imp hd
  unfold exponentSplit
  split
  case h_1 => exact .none
  case h_2 mark cs =>
    split
    case isFalse => exact .none
    case isTrue hmark =>
      split <;> split
      case h_1.isTrue | h_2.isTrue | h_3.isTrue => exact .none
      case h_1.isFalse hne => exact hsome hmark ['+'] (by simp) hne
      case h_2.isFalse hne => exact hsome hmark ['-'] (by simp) hne
      case h_3.isFalse hne => exact hsome hmark [] (by simp) hne

/-- An exponent that a text begins with is split off, and all digits that follow it. -/
theorem exponentSplit_eq {mark : Char} {sign ds : List Char} (hmark : mark = 'e' ∨ mark = 'E')
    (hsign : sign = [] ∨ sign = ['+'] ∨ sign = ['-']) (hds : ∃ d ∈ ds.head?, isDigit d) :
    exponentSplit (mark :: (sign ++ ds)) =
      (mark :: (sign ++ ds.takeWhile isDigit), ds.dropWhile isDigit) := by
  obtain ⟨d, hd, hdigit⟩ := hds
  obtain ⟨ds, rfl⟩ := List.head?_eq_some_iff.1 hd
  have hplus : d ≠ '+' := by
    rintro rfl
    cases hdigit
  have hminus : d ≠ '-' := by
    rintro rfl
    cases hdigit
  rcases hsign with rfl | rfl | rfl <;> simp [exponentSplit, hmark, hdigit, hplus, hminus]

/-- No longer exponent stands at the front of a text. -/
theorem length_le_exponentSplit (hex : IsExponent ex) (rest : List Char) :
    ex.length ≤ (exponentSplit (ex ++ rest)).1.length := by
  cases hex with
  | none => exact Nat.zero_le _
  | @some mark sign ds hmark hsign hne hds =>
    obtain ⟨d, ds, rfl⟩ := List.exists_cons_of_ne_nil hne
    rw [List.cons_append, List.append_assoc,
      exponentSplit_eq hmark hsign ⟨d, rfl, hds d List.mem_cons_self⟩]
    simp only [List.length_cons, List.length_append]
    have hlength := length_le_takeWhile hds rest
    rw [List.length_cons] at hlength
    omega

theorem numberSplit_append (cs : List Char) : (numberSplit cs).1 ++ (numberSplit cs).2 = cs := by
  simp only [numberSplit, List.append_assoc, exponentSplit_append, List.takeWhile_append_dropWhile]

/-- No exponent begins like a number. -/
theorem takeWhile_isNumberChar_exponent (hex : IsExponent ex) (hne : ex ≠ []) (rest : List Char) :
    (ex ++ rest).takeWhile isNumberChar = [] ∧
      (ex ++ rest).dropWhile isNumberChar = ex ++ rest := by
  cases hex with
  | none => exact absurd rfl hne
  | some hmark _ _ _ => rcases hmark with rfl | rfl <;> exact ⟨rfl, rfl⟩

/-- A numeral is the longest lexeme if it is all that a run and an exponent can be. -/
theorem Longest.of_numberSplit (hc : isNumberChar c) (cs : List Char) :
    Longest (numberSplit (c :: cs)).1 (numberOf (numberSplit (c :: cs)).1)
      (numberSplit (c :: cs)).2 := by
  refine ⟨.numeral (by simp [hc]) (fun d hd => List.mem_takeWhile_imp hd)
    (isExponent_exponentSplit _), fun word' r' rest' h' heq => ?_⟩
  rw [numberSplit_append] at heq
  obtain ⟨d, name, rfl⟩ := List.exists_cons_of_ne_nil h'.ne_nil
  obtain rfl : d = c := (List.cons.inj heq).1
  obtain ⟨run, ex, hword, -, hrun, hex, -⟩ := h'.of_isNumberChar hc
  rw [hword, List.append_assoc] at heq
  simp only [hword, numberSplit, List.length_append, ← heq]
  rw [List.takeWhile_append_of_pos hrun, List.dropWhile_append_of_pos hrun, List.length_append]
  by_cases hnil : ex = []
  · rw [hnil, List.length_nil]
    omega
  · -- behind the whole run both look for an exponent
    obtain ⟨htake, hdrop⟩ := takeWhile_isNumberChar_exponent hex hnil rest'
    rw [htake, hdrop]
    have hlength := length_le_exponentSplit hex rest'
    rw [List.length_nil]
    omega

end Front

/-! ### One step -/

section Step

variable {c : Char} {word text cs rest : List Char} {r : Except LexFault Token}
  {fault fault' : LexFault}

/-- What one step does at the front of a text. -/
inductive Scanned (c : Char) (cs : List Char) :
    Except LexFault (Reading (Option Token) (c :: cs)) → Prop where
  | blank (hc : Text.isBlank c) : Scanned c cs (.ok (.ofHead none))
  | token {word rest : List Char} {t : Token} (hshorter : rest.length < (c :: cs).length)
      (hcs : c :: cs = word ++ rest) (hword : Longest word (.ok t) rest) :
      Scanned c cs (.ok ⟨some t, rest, hshorter⟩)
  | fault {fault : LexFault} (h : Stuck (c :: cs) fault) : Scanned c cs (.error fault)

/-- **One step cuts off the longest lexeme.** -/
theorem scan_spec (c : Char) (cs : List Char) : Scanned c cs (scan c cs) := by
  unfold scan
  split
  case isTrue hblank => exact .blank hblank
  case isFalse hblank =>
    split
    case h_1 t ht =>
      have hc := punctuation_iff.2 ht
      exact .token (Nat.lt_succ_self _) rfl (.of_punctuation hc)
    case h_2 hnone =>
      split
      case isTrue hdollar =>
        subst hdollar
        split
        case isTrue hempty =>
          refine .fault (.dollar fun d hd => ?_)
          obtain ⟨ds, rfl⟩ := List.head?_eq_some_iff.1 hd
          simpa using hempty
        case isFalse hne =>
          refine .token _ (by simp) (.of_takeWhile (.var ?_ ?_) ?_)
          · exact fun hnil => hne (List.isEmpty_iff.2 hnil)
          · exact fun d hd => List.mem_takeWhile_imp hd
          · exact fun name r' h' => h'.of_dollar.2.1
      case isFalse hdollar =>
        split
        case isTrue hnumber =>
          have hlongest := Longest.of_numberSplit hnumber cs
          have happend := numberSplit_append (c :: cs)
          unfold numberOf at hlongest
          split
          case h_1 hread =>
            rw [hread] at hlongest
            have hstuck := Stuck.numeral hlongest
            rw [happend] at hstuck
            exact .fault hstuck
          case h_2 v hread =>
            rw [hread] at hlongest
            exact .token _ happend.symm hlongest
        case isFalse hnumber =>
          split
          case isTrue hname =>
            refine .token _ (by simp) (.of_takeWhile (.ident hname ?_) ?_)
            · exact fun d hd => List.mem_takeWhile_imp hd
            · exact fun name r' h' => (h'.of_isNameStart hname).1
          case isFalse hname =>
            refine .fault (.character ?_ ?_ hdollar ?_ ?_)
            · exact Bool.eq_false_iff.2 hblank
            · intro t ht
              rw [punctuation_iff, hnone] at ht
              cases ht
            · exact Bool.eq_false_iff.2 hnumber
            · exact Bool.eq_false_iff.2 hname

/-- Where a text is stuck, the longest lexeme at the front of it, if there is one, is at fault. -/
theorem Stuck.of_longest (h : Stuck text fault) (hword : Longest word r rest)
    (htext : text = word ++ rest) : r = .error fault := by
  obtain ⟨c, name, rfl⟩ := List.exists_cons_of_ne_nil hword.lexeme.ne_nil
  cases h with
  | dollar hnone =>
    cases htext
    obtain ⟨hne, hname, -⟩ := hword.lexeme.of_dollar
    obtain ⟨d, name, rfl⟩ := List.exists_cons_of_ne_nil hne
    have hd := hname d List.mem_cons_self
    rw [hnone d rfl] at hd
    cases hd
  | numeral h => exact (h.unique hword htext).2.1.symm
  | character _ hpunctuation hdollar hnumber hname =>
    cases htext
    rcases hword.lexeme.first with ⟨t, ht⟩ | rfl | hc | hc
    · exact absurd ht (hpunctuation t)
    · exact absurd rfl hdollar
    · rw [hnumber] at hc
      cases hc
    · rw [hname] at hc
      cases hc

/-- Only one thing is wrong where a text is stuck. -/
theorem Stuck.unique (h : Stuck text fault) (h' : Stuck text fault') : fault = fault' := by
  have hcopy := h
  cases h with
  | numeral hword => exact Except.error.inj (h'.of_longest hword rfl)
  | @dollar cs _ =>
    generalize htext : '$' :: cs = text at h'
    cases h' with
    | dollar _ => rfl
    | numeral hword => exact (Except.error.inj (hcopy.of_longest hword htext)).symm
    | character _ _ hdollar _ _ =>
      cases htext
      exact absurd rfl hdollar
  | @character c cs _ _ hdollar _ _ =>
    generalize htext : c :: cs = text at h'
    cases h' with
    | dollar _ =>
      cases htext
      exact absurd rfl hdollar
    | numeral hword => exact (Except.error.inj (hcopy.of_longest hword htext)).symm
    | character _ _ _ _ _ =>
      cases htext
      rfl

/-- A text is stuck neither at its end nor at a blank. -/
theorem Stuck.exists_cons (h : Stuck text fault) :
    ∃ c cs, text = c :: cs ∧ Text.isBlank c = false := by
  cases h with
  | dollar _ => exact ⟨'$', _, rfl, by decide⟩
  | numeral hword =>
    obtain ⟨c, name, rfl⟩ := List.exists_cons_of_ne_nil hword.lexeme.ne_nil
    exact ⟨c, _, rfl, hword.lexeme.not_isBlank c List.mem_cons_self⟩
  | character hblank _ _ _ _ => exact ⟨_, _, rfl, hblank⟩

end Step

/-! ### All steps -/

section Steps

variable {c : Char} {t : Token} {ts : List Token} {word cs rest : List Char} {fault : LexFault}

theorem tokenize_nil : tokenize [] = .ok [] := by
  rw [tokenize.eq_def]

theorem tokenize_cons (c : Char) (cs : List Char) : tokenize (c :: cs) =
    match scan c cs with
    | .error fault => .error fault
    | .ok r => (tokenize r.rest).map (r.value.toList ++ ·) := by
  rw [tokenize.eq_def]
  dsimp only
  cases scan c cs with
  | error fault => rfl
  | ok r =>
    dsimp only
    cases tokenize r.rest <;> rfl

theorem tokenize_blank (hc : Text.isBlank c) : tokenize (c :: cs) = tokenize cs := by
  have hscan : scan c cs = .ok (.ofHead none) := by
    unfold scan
    rw [if_pos hc]
  rw [tokenize_cons, hscan]
  dsimp only [Reading.ofHead]
  cases tokenize cs <;> rfl

/-- The longest lexeme is the first token. -/
theorem Longest.tokenize_eq (h : Longest word (.ok t) rest) :
    tokenize (word ++ rest) = (tokenize rest).map (t :: ·) := by
  obtain ⟨c, name, rfl⟩ := List.exists_cons_of_ne_nil h.lexeme.ne_nil
  have hscan := scan_spec c (name ++ rest)
  rw [List.cons_append, tokenize_cons]
  generalize scan c (name ++ rest) = x at hscan
  cases hscan with
  | blank hc =>
    rw [h.lexeme.not_isBlank c List.mem_cons_self] at hc
    cases hc
  | token hshorter hcs hword =>
    obtain ⟨-, ht, rfl⟩ := h.unique hword hcs
    cases ht
    dsimp only
    cases tokenize rest <;> rfl
  | fault hstuck => cases hstuck.of_longest h rfl

/-- There are no tokens of a text that is stuck. -/
theorem Stuck.tokenize_eq (h : Stuck cs fault) : tokenize cs = .error fault := by
  obtain ⟨c, ds, rfl, hc⟩ := h.exists_cons
  have hscan := scan_spec c ds
  rw [tokenize_cons]
  generalize scan c ds = x at hscan
  cases hscan with
  | blank hblank =>
    rw [hc] at hblank
    cases hblank
  | token hshorter hcs hword => cases h.of_longest hword hcs
  | fault hstuck => rw [h.unique hstuck]

/-- Cutting goes on behind what has been cut. -/
theorem Cuts.tokenize_eq (h : Cuts cs ts rest) :
    tokenize cs = (tokenize rest).map (ts ++ ·) := by
  induction h with
  | nil cs =>
    cases tokenize cs <;> rfl
  | blank hc _ ih => rw [tokenize_blank hc, ih]
  | @token _ _ rest _ _ hword _ ih =>
    rw [hword.tokenize_eq, ih]
    cases tokenize rest <;> rfl

/-- Every text is cut into tokens up to its end, or up to where it is stuck. -/
theorem exists_cuts (cs : List Char) :
    ∃ ts rest, Cuts cs ts rest ∧ (rest = [] ∨ ∃ fault, Stuck rest fault) := by
  induction hlength : cs.length using Nat.strongRecOn generalizing cs with
  | ind n ih =>
    subst hlength
    cases cs with
    | nil => exact ⟨[], [], .nil [], Or.inl rfl⟩
    | cons c cs =>
      have hscan := scan_spec c cs
      generalize scan c cs = x at hscan
      cases hscan with
      | blank hc =>
        obtain ⟨ts, rest, hcuts, hrest⟩ := ih _ (Nat.lt_succ_self _) cs rfl
        exact ⟨ts, rest, .blank hc hcuts, hrest⟩
      | @token word rest t hshorter hcs hword =>
        obtain ⟨ts, rest', hcuts, hrest⟩ := ih _ hshorter rest rfl
        rw [hcs]
        exact ⟨t :: ts, rest', .token hword hcuts, hrest⟩
      | fault hstuck => exact ⟨[], c :: cs, .nil _, Or.inr ⟨_, hstuck⟩⟩

theorem tokenize_eq_ok_iff : tokenize cs = .ok ts ↔ Cuts cs ts [] := by
  constructor
  · intro h
    obtain ⟨us, rest, hcuts, rfl | ⟨fault, hstuck⟩⟩ := exists_cuts cs
    · rw [hcuts.tokenize_eq, tokenize_nil] at h
      cases h
      simpa using hcuts
    · rw [hcuts.tokenize_eq, hstuck.tokenize_eq] at h
      cases h
  · intro h
    rw [h.tokenize_eq, tokenize_nil]
    exact congrArg _ (List.append_nil ts)

theorem tokenize_eq_error_iff :
    tokenize cs = .error fault ↔ ∃ ts rest, Cuts cs ts rest ∧ Stuck rest fault := by
  constructor
  · intro h
    obtain ⟨us, rest, hcuts, rfl | ⟨fault', hstuck⟩⟩ := exists_cuts cs
    · rw [hcuts.tokenize_eq, tokenize_nil] at h
      cases h
    · rw [hcuts.tokenize_eq, hstuck.tokenize_eq] at h
      cases h
      exact ⟨us, rest, hcuts, hstuck⟩
  · rintro ⟨ts, rest, hcuts, hstuck⟩
    rw [hcuts.tokenize_eq, hstuck.tokenize_eq]
    rfl

end Steps

/-! ### Numerals that are numbers -/

section Numerals

variable {run ex ds fs cs : List Char}

/-- A run of digits and points begins with digits; a point follows them, or nothing. -/
theorem exists_digits_append (hrun : ∀ d ∈ run, isNumberChar d) :
    ∃ ds tail, run = ds ++ tail ∧ (∀ d ∈ ds, isDigit d) ∧
      (tail = [] ∨ ∃ cs, tail = '.' :: cs ∧ ∀ d ∈ cs, isNumberChar d) := by
  refine ⟨run.takeWhile isDigit, run.dropWhile isDigit, List.takeWhile_append_dropWhile.symm,
    fun d hd => List.mem_takeWhile_imp hd, ?_⟩
  cases htail : run.dropWhile isDigit with
  | nil => exact Or.inl rfl
  | cons c cs =>
    have hmem : ∀ d ∈ c :: cs, isNumberChar d := by
      rw [← htail]
      exact fun d hd => hrun d ((List.dropWhile_suffix _).subset hd)
    have hc : isDigit c = false := by
      have h := List.head_dropWhile_not (p := isDigit) (l := run) (by simp [htail])
      simpa [htail] using h
    rcases isNumberChar_iff.1 (hmem c List.mem_cons_self) with h | rfl
    · rw [hc] at h
      cases h
    · exact Or.inr ⟨cs, rfl, fun d hd => hmem d (List.mem_cons_of_mem _ hd)⟩

theorem IsExponent.head_not_isDigit (hex : IsExponent ex) : ∀ c ∈ ex.head?, isDigit c = false := by
  cases hex with
  | none => simp
  | some hmark _ _ _ => rcases hmark with rfl | rfl <;> simp <;> decide

theorem IsExponent.isSome_readSuffix? (hex : IsExponent ex) : (Decimal.readSuffix? ex).isSome := by
  cases hex with
  | none => rfl
  | @some mark sign ds hmark hsign hne hds =>
    obtain ⟨d, ds, rfl⟩ := List.exists_cons_of_ne_nil hne
    have hd := hds d List.mem_cons_self
    have hplus : d ≠ '+' := by
      rintro rfl
      cases hd
    have hminus : d ≠ '-' := by
      rintro rfl
      cases hd
    have hall : (d :: ds).all isDigit = true := List.all_eq_true.2 hds
    rcases hsign with rfl | rfl | rfl <;>
      simp [Decimal.readSuffix?, Decimal.readExponent?, hmark, hall, hplus, hminus]

/-- Digits without a point are a number. -/
theorem isSome_read?_digits (hds : ∀ d ∈ ds, isDigit d) (hex : IsExponent ex) :
    (Decimal.read? (ds ++ ex)).isSome ↔ ds ≠ [] := by
  obtain ⟨htake, hdrop⟩ := takeWhile_append_of_head hds ex hex.head_not_isDigit
  have hpoint (cs : List Char) (heq : ex = '.' :: cs) : False := by
    subst heq
    generalize htext : '.' :: cs = text at hex
    cases hex with
    | none => cases htext
    | some hmark _ _ _ =>
      cases htext
      simp at hmark
  unfold Decimal.read?
  simp only [htake, hdrop]
  by_cases hnil : ds = [] <;> simp [hnil, hex.isSome_readSuffix?]

/-- Behind a point there are digits, and then only an exponent. -/
theorem isSome_read?_point (hds : ∀ d ∈ ds, isDigit d) (hfs : ∀ d ∈ fs, isDigit d)
    (cs : List Char) (hcs : ∀ c ∈ cs.head?, isDigit c = false) :
    (Decimal.read? (ds ++ '.' :: (fs ++ cs))).isSome ↔
      (ds ≠ [] ∨ fs ≠ []) ∧ (Decimal.readSuffix? cs).isSome := by
  obtain ⟨htake, hdrop⟩ := takeWhile_append_of_head hds ('.' :: (fs ++ cs)) (by simp; decide)
  obtain ⟨htake', hdrop'⟩ := takeWhile_append_of_head hfs cs hcs
  unfold Decimal.read?
  simp only [htake, hdrop, htake', hdrop']
  by_cases hnil : ds = [] <;> by_cases hnil' : fs = [] <;> simp [hnil, hnil']

/-- **The numerals that are numbers**: they have a digit, and no more than one point. -/
theorem isSome_read?_iff (hrun : ∀ d ∈ run, isNumberChar d) (hex : IsExponent ex) :
    (Decimal.read? (run ++ ex)).isSome ↔ (∃ d ∈ run, isDigit d) ∧ run.count '.' ≤ 1 := by
  have hcount {ds : List Char} (hds : ∀ d ∈ ds, isDigit d) : ds.count '.' = 0 :=
    List.count_eq_zero.2 fun hpoint => by cases hds _ hpoint
  have hexists {ds : List Char} (hds : ∀ d ∈ ds, isDigit d) : (∃ d ∈ ds, isDigit d) ↔ ds ≠ [] := by
    constructor
    · rintro ⟨d, hd, -⟩ rfl
      cases hd
    · intro hne
      obtain ⟨d, hd⟩ := List.exists_mem_of_ne_nil ds hne
      exact ⟨d, hd, hds d hd⟩
  obtain ⟨ds, tail, rfl, hds, rfl | ⟨run, rfl, hrun'⟩⟩ := exists_digits_append hrun
  · -- there is no point
    rw [List.append_nil, isSome_read?_digits hds hex, hexists hds, hcount hds]
    simp
  · obtain ⟨fs, tail, rfl, hfs, rfl | ⟨run, rfl, -⟩⟩ := exists_digits_append hrun'
    · -- there is one
      rw [List.append_nil, List.append_assoc, List.cons_append,
        isSome_read?_point hds hfs ex hex.head_not_isDigit]
      have hpoint : isDigit '.' = false := by decide
      rw [← hexists hds, ← hexists hfs]
      simp [hcount hds, hcount hfs, hex.isSome_readSuffix?, or_and_right, exists_or, hpoint]
    · -- there are two or more
      have h := isSome_read?_point hds hfs ('.' :: run ++ ex) (by simp; decide)
      simp only [List.append_assoc, List.cons_append] at h ⊢
      rw [h]
      simp [Decimal.readSuffix?, hcount hds, hcount hfs]

end Numerals

/-! ### Lexemes with blanks between them -/

theorem Cuts.blanks {gap cs rest : List Char} {ts : List Token} (hgap : ∀ c ∈ gap, Text.isBlank c)
    (h : Cuts cs ts rest) : Cuts (gap ++ cs) ts rest := by
  induction gap with
  | nil => exact h
  | cons c gap ih =>
    rw [List.forall_mem_cons] at hgap
    exact .blank hgap.1 (ih hgap.2)

/-- Lexemes with blanks between them are cut apart again. -/
theorem Spaced.cuts {cs : List Char} {ts : List Token} (h : Spaced cs ts) : Cuts cs ts [] := by
  induction h with
  | @blanks gap hgap =>
    rw [← List.append_nil gap]
    exact .blanks hgap (.nil [])
  | word hgap hword hcs _ ih =>
    rw [List.append_assoc]
    exact .blanks hgap (.token (hword.longest hcs) ih)

/-- One more lexeme, if the characters around it are checked one by one. -/
theorem Spaced.word_of_all {gap word cs : List Char} {t : Token} {ts : List Token}
    (hgap : gap.all Text.isBlank) (hword : Lexeme word (.ok t)) (hcs : cs.head?.all Text.isBlank)
    (h : Spaced cs ts) : Spaced (gap ++ word ++ cs) (t :: ts) :=
  .word (List.all_eq_true.1 hgap) hword ((Option.all_eq_true _ _).1 hcs) h

/-! ### Tokens -/

/-- **The tokens of a text are its longest lexemes.**  A text has tokens if it can be cut up to its
end into blanks and longest lexemes that stand for them, and it has none if it gets stuck on the
way.  The numerals that are numbers have a digit and no more than one point.  Lexemes that are
written with blanks between them are told apart. -/
theorem tokenize_longest :
    (∀ cs ts, tokenize cs = .ok ts ↔ Cuts cs ts []) ∧
      (∀ cs fault, tokenize cs = .error fault ↔ ∃ ts rest, Cuts cs ts rest ∧ Stuck rest fault) ∧
      (∀ run ex, (∀ d ∈ run, isNumberChar d) → IsExponent ex →
        ((∃ t, numberOf (run ++ ex) = .ok t) ↔ (∃ d ∈ run, isDigit d) ∧ run.count '.' ≤ 1)) ∧
      ∀ cs ts, Spaced cs ts → tokenize cs = .ok ts := by
  refine ⟨fun cs ts => tokenize_eq_ok_iff, fun cs fault => tokenize_eq_error_iff,
    fun run ex hrun hex => ?_, fun cs ts h => tokenize_eq_ok_iff.2 h.cuts⟩
  rw [← isSome_read?_iff hrun hex]
  unfold numberOf
  cases Decimal.read? (run ++ ex) <;> simp

/-- Blanks may be of any kind, and stand at both ends. -/
theorem tokenize_longest_blanks : ∃ v, Decimal.read? "2.5E-1".toList = some v ∧
    Spaced "\t2.5E-1 *\n $scale ".toList [.number v, .star, .var "scale"] ∧
    tokenize "\t2.5E-1 *\n $scale ".toList = .ok [.number v, .star, .var "scale"] := by
  have hrun : ∀ d ∈ ['2', '.', '5'], isNumberChar d := List.all_eq_true.1 rfl
  have hex : IsExponent ['E', '-', '1'] :=
    @IsExponent.some 'E' ['-'] ['1'] (Or.inr rfl) (Or.inr (Or.inr rfl)) (by decide)
      (List.all_eq_true.1 rfl)
  have hdigit : (∃ d ∈ ['2', '.', '5'], isDigit d) ∧ ['2', '.', '5'].count '.' ≤ 1 :=
    ⟨⟨'2', List.mem_cons_self, rfl⟩, by decide⟩
  obtain ⟨v, hv⟩ := Option.isSome_iff_exists.1 ((isSome_read?_iff hrun hex).2 hdigit)
  have hnumeral : Lexeme (['2', '.', '5'] ++ ['E', '-', '1']) (.ok (.number v)) := by
    have hnumberOf : numberOf (['2', '.', '5'] ++ ['E', '-', '1']) = .ok (.number v) := by
      rw [numberOf, hv]
    rw [← hnumberOf]
    exact .numeral (by decide) hrun hex
  have hscale : Lexeme "$scale".toList (.ok (.var "scale")) :=
    .var (by decide) (List.all_eq_true.1 rfl)
  have hspaced : Spaced "\t2.5E-1 *\n $scale ".toList [.number v, .star, .var "scale"] :=
    @Spaced.word_of_all ['\t'] _ _ _ _ rfl hnumeral rfl
      (@Spaced.word_of_all [' '] _ _ _ _ rfl (.punctuation .star) rfl
        (@Spaced.word_of_all ['\n', ' '] _ _ _ _ rfl hscale rfl
          (@Spaced.blanks [' '] (List.all_eq_true.1 rfl))))
  exact ⟨v, hv, hspaced, tokenize_longest.2.2.2 _ _ hspaced⟩

end ShaderEffect.Expr
