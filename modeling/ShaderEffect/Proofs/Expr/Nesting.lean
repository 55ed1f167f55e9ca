/-
**How deep an expression may be nested.**

An atom of an expression lies in parentheses, in calls and under signs, and percent signs stand
behind it and behind the atoms around it.  No more than `ShaderEffect.Expr.maxLevels` levels may be
open at once; but an atom is a level itself, so that one less is left for what is around it, and the
percent signs behind an atom are not open any more where those behind the next one around it are
counted.

Main definitions:

* `ShaderEffect.Expr.Place`, `ShaderEffect.Expr.Form.places` — **where the atoms lie**;
* `ShaderEffect.Expr.Place.nesting` — how deep an atom is nested.

Main results:

* `ShaderEffect.Expr.Form.levels_le_iff` — the levels that are open, counted atom by atom;
* `ShaderEffect.Expression.parse_places` — **what is too deep**, and how that differs from nesting;
* `ShaderEffect.Expression.parse_parenthesised` — 255 parentheses are accepted, and 256 are not;
* `ShaderEffect.Expression.parse_percentages` — percent signs behind a parenthesis and in it are not
  added up.
-/

import ShaderEffect.Proofs.Expr.Form
import ShaderEffect.Proofs.Expr.Lexemes

set_option autoImplicit false

namespace ShaderEffect

namespace Expr

/-! ### Places of atoms -/

/-- Where an atom lies in an expression. -/
structure Place where
  /-- The parentheses, those of calls among them, and the signs around it. -/
  around : Nat
  /-- The percent signs right behind it. -/
  behind : Nat
  /-- The percent signs behind the atoms around it. -/
  outer : Nat

namespace Place

/-- How many parentheses, signs and percent signs the atom lies under. -/
def nesting (a : Place) : Nat := a.around + a.behind + a.outer

/-- The place if there is one more parenthesis or sign around everything. -/
def enclosed (a : Place) : Place := { a with around := a.around + 1 }

/-- The place if there are so many percent signs behind an atom around it. -/
def under (k : Nat) (a : Place) : Place := { a with outer := a.outer + k }

/-- Two limits for places mean the same if neither is kept where the other is not. -/
theorem forall_lt_iff_forall_nesting_le_iff (l : List Place) (m : Nat) :
    ((∀ a ∈ l, a.around + a.behind < m) ↔ ∀ a ∈ l, a.nesting ≤ m) ↔
      ¬ ((∀ a ∈ l, a.nesting ≤ m) ∧ ∃ a ∈ l, a.around + a.behind = m) ∧
        ¬ ((∃ a ∈ l, m < a.nesting) ∧ ∀ a ∈ l, a.around + a.behind < m) := by
  constructor
  · refine fun h => ⟨?_, ?_⟩
    · rintro ⟨hnesting, a, ha, heq⟩
      exact Nat.ne_of_lt (h.2 hnesting a ha) heq
    · rintro ⟨⟨a, ha, hlt⟩, haround⟩
      exact Nat.not_le.2 hlt (h.1 haround a ha)
  · rintro ⟨hsame, hdeeper⟩
    constructor
    · intro haround a ha
      by_contra hle
      exact hdeeper ⟨⟨a, ha, Nat.not_le.1 hle⟩, haround⟩
    · intro hnesting a ha
      have hle : a.around + a.behind ≤ m := Nat.le_trans (Nat.le_add_right _ _) (hnesting a ha)
      exact Nat.lt_of_le_of_ne hle fun heq => hsame ⟨hnesting, a, ha, heq⟩

end Place

namespace Form

variable {p : Phrase}

/-- The places of the atoms in a phrase, but for the phrase itself if it is an atom. -/
def places : {p : Phrase} → Form p → List Place
  | _, number _ => []
  | _, var _ => []
  | _, parens s => s.places.map Place.enclosed
  | _, unary _ a => a.places.map Place.enclosed
  | _, binary _ a b => (a.places ++ b.places).map Place.enclosed
  | _, clamp a b c => (a.places ++ b.places ++ c.places).map Place.enclosed
  | _, operand a k => ⟨0, k, 0⟩ :: a.places.map (Place.under k)
  | _, minus s => s.places.map Place.enclosed
  | _, plus s => s.places.map Place.enclosed
  | _, unsigned o => o.places
  | _, factor s => s.places
  | _, times _ l r => l.places ++ r.places
  | _, term q => q.places
  | _, add _ l r => l.places ++ r.places

/-- The level that an atom takes itself, which is counted outside of it. -/
def own : Phrase → Nat
  | .atom | .operand => 0
  | .signed | .product | .sum => 1

/-- There is an atom in every phrase. -/
theorem places_ne_nil (f : Form p) : p ≠ .atom → f.places ≠ [] := by
  induction f with
  | number _ | var _ | parens _ _ | unary _ _ _ | binary _ _ _ _ _ | clamp _ _ _ _ _ _ =>
    exact fun h => absurd rfl h
  | operand _ _ _ => exact fun _ => List.cons_ne_nil _ _
  | minus _ ih | plus _ ih => exact fun _ h => ih (by simp) (List.map_eq_nil_iff.1 h)
  | unsigned _ ih | factor _ ih | term _ ih => exact fun _ => ih (by simp)
  | times _ _ _ ihl _ | add _ _ _ ihl _ =>
    exact fun _ h => ihl (by simp) (List.append_eq_nil_iff.1 h).1

section Levels

variable {l : List Place} {n m k : Nat}

theorem forall_enclosed : (∀ a ∈ l.map Place.enclosed, a.around + a.behind + n ≤ m) ↔
    ∀ a ∈ l, a.around + a.behind + (n + 1) ≤ m := by
  simp only [List.forall_mem_map, Place.enclosed]
  exact forall₂_congr fun a _ => by omega

theorem forall_under : (∀ a ∈ l.map (Place.under k), a.around + a.behind + n ≤ m) ↔
    ∀ a ∈ l, a.around + a.behind + n ≤ m := by
  simp only [List.forall_mem_map, Place.under]

/-- One more level is open if there is one more around every atom. -/
theorem succ_le_iff_of_forall (hne : l ≠ [])
    (h : ∀ m, k ≤ m ↔ ∀ a ∈ l, a.around + a.behind + n ≤ m) :
    k + 1 ≤ m ↔ ∀ a ∈ l, a.around + a.behind + (n + 1) ≤ m := by
  cases m with
  | zero =>
    obtain ⟨a, ha⟩ := List.exists_mem_of_ne_nil l hne
    exact ⟨fun hle => absurd hle (Nat.not_succ_le_zero k),
      fun hall => absurd (hall a ha) (Nat.not_succ_le_zero _)⟩
  | succ m =>
    rw [Nat.succ_le_succ_iff, h m]
    exact forall₂_congr fun a _ => Nat.succ_le_succ_iff.symm

end Levels

/-- **The levels that are open at once**: around each atom its parentheses and signs, those of its
own percent signs, and that of the atom. -/
theorem levels_le_iff (f : Form p) (m : Nat) :
    f.levels ≤ m ↔ ∀ a ∈ f.places, a.around + a.behind + own p ≤ m := by
  -- by induction on the form, for every limit, as a sign leaves one less to its operand
  induction f generalizing m with
  | number v | var x => simp [levels, places]
  | parens s ih | unary f s ih =>
    rw [levels, places, forall_enclosed]
    exact ih m
  | binary f a b iha ihb =>
    rw [levels, places, forall_enclosed, List.forall_mem_append, Nat.max_le]
    exact and_congr (iha m) (ihb m)
  | clamp a b c iha ihb ihc =>
    rw [levels, places, forall_enclosed, List.forall_mem_append, List.forall_mem_append,
      and_assoc, Nat.max_le, Nat.max_le]
    exact and_congr (iha m) (and_congr (ihb m) (ihc m))
  | operand a k ih =>
    -- its percent signs are behind itself, but do not count for what is in it
    rw [levels, places, List.forall_mem_cons, forall_under, Nat.max_le, and_comm]
    exact and_congr (by simp [own]) (ih m)
  | minus s ih | plus s ih =>
    rw [levels, places, forall_enclosed]
    exact succ_le_iff_of_forall (s.places_ne_nil (by simp)) ih
  | unsigned o ih => exact succ_le_iff_of_forall (o.places_ne_nil (by simp)) ih
  | factor s ih | term s ih => exact ih m
  | times hop l r ihl ihr | add hop l r ihl ihr =>
    rw [levels, places, List.forall_mem_append, Nat.max_le]
    exact and_congr (ihl m) (ihr m)

/-- The levels of an expression are within the limit if each atom is left with one for itself. -/
theorem levels_le_maxLevels_iff (f : Form .sum) :
    f.levels ≤ maxLevels ↔ ∀ a ∈ f.places, a.around + a.behind < maxLevels :=
  f.levels_le_iff maxLevels

end Form

end Expr

/-! ### What is too deep -/

namespace Expression

open ShaderEffect.Expr (Form maxLevels)

variable {source : String} {f : Form .sum}

/-- An expression is parsed if no atom has too many parentheses and signs around it and percent
signs right behind it. -/
theorem exists_parse_iff (h : Expr.tokenize source.toList = .ok f.tokens) :
    (∃ x, parse source = .ok x) ↔ ∀ a ∈ f.places, a.around + a.behind < maxLevels := by
  rw [← f.levels_le_maxLevels_iff, parse_form h]
  split <;> simp [*]

/-- An expression that is not parsed is too deep. -/
theorem parse_eq_error_of_form (h : Expr.tokenize source.toList = .ok f.tokens)
    (hnone : ∀ x, parse source ≠ .ok x) : parse source = .error (.grammar .tooDeep) := by
  rw [parse_form h] at hnone ⊢
  split at hnone
  · exact absurd rfl (hnone _)
  · exact if_neg ‹_›

/-- **What is too deep.**  An expression is parsed if no atom has 256 or more parentheses and signs
around it and percent signs right behind it; otherwise it is refused for that reason.  A limit of
256 levels of nesting is missed by this in two ways: if no atom is nested deeper, but one of them is
just as deep without any percent signs behind an atom around it; and if it takes such percent signs
for an atom to be nested deeper. -/
theorem parse_places (h : Expr.tokenize source.toList = .ok f.tokens) :
    ((∃ x, parse source = .ok x) ↔ ∀ a ∈ f.places, a.around + a.behind < maxLevels) ∧
    ((∀ x, parse source ≠ .ok x) → parse source = .error (.grammar .tooDeep)) ∧
    (((∃ x, parse source = .ok x) ↔ ∀ a ∈ f.places, a.nesting ≤ maxLevels) ↔
      ¬ ((∀ a ∈ f.places, a.nesting ≤ maxLevels) ∧
          ∃ a ∈ f.places, a.around + a.behind = maxLevels) ∧
        ¬ ((∃ a ∈ f.places, maxLevels < a.nesting) ∧
          ∀ a ∈ f.places, a.around + a.behind < maxLevels)) := by
  refine ⟨exists_parse_iff h, parse_eq_error_of_form h, ?_⟩
  rw [exists_parse_iff h]
  exact Expr.Place.forall_lt_iff_forall_nesting_le_iff f.places maxLevels

end Expression

/-! ### Expressions at the limit -/

namespace Expr

section Cuts

variable {c : Char} {t : Token} {ts : List Token} {name cs rest : List Char}

theorem Cuts.punctuation (hc : Punctuation c t) (h : Cuts cs ts rest) :
    Cuts (c :: cs) (t :: ts) rest :=
  .token (.of_punctuation hc) h

/-- The same punctuation many times. -/
theorem Cuts.replicate (hc : Punctuation c t) (k : Nat) (h : Cuts cs ts rest) :
    Cuts (List.replicate k c ++ cs) (List.replicate k t ++ ts) rest := by
  induction k with
  | zero => exact h
  | succ k ih => exact .punctuation hc ih

/-- A variable ends where no name can go on. -/
theorem Cuts.var (hne : name ≠ []) (hname : ∀ d ∈ name, isNameChar d)
    (hcs : ∀ d ∈ cs.head?, isNameChar d = false) (h : Cuts cs ts rest) :
    Cuts ('$' :: name ++ cs) (.var (String.ofList name) :: ts) rest := by
  obtain ⟨htake, hdrop⟩ := takeWhile_append_of_head hname cs hcs
  have hlexeme : Lexeme ('$' :: (name ++ cs).takeWhile isNameChar)
      (.ok (.var (String.ofList name))) := by
    rw [htake]
    exact .var hne hname
  have hlongest := Longest.of_takeWhile hlexeme fun _ _ h' => h'.of_dollar.2.1
  rw [htake, hdrop] at hlongest
  exact .token hlongest h

theorem Cuts.width (hcs : ∀ d ∈ cs.head?, isNameChar d = false) (h : Cuts cs ts rest) :
    Cuts ("$WIDTH".toList ++ cs) (.var "WIDTH" :: ts) rest :=
  @Cuts.var ts "WIDTH".toList cs rest (by decide) (List.all_eq_true.1 rfl) hcs h

end Cuts

namespace Form

/-- An operand that is an expression. -/
def ofOperand (o : Form .operand) : Form .sum := .term (.factor (.unsigned o))

/-- The width in so many parentheses. -/
def parenthesised : Nat → Form .sum
  | 0 => ofOperand (.operand (.var "WIDTH") 0)
  | k + 1 => ofOperand (.operand (.parens (parenthesised k)) 0)

/-- The width with percent signs behind it, in parentheses with percent signs behind them. -/
def percentages (j k : Nat) : Form .sum :=
  ofOperand (.operand (.parens (ofOperand (.operand (.var "WIDTH") j))) k)

theorem tokens_parenthesised (k : Nat) : (parenthesised k).tokens =
    List.replicate k .lparen ++ .var "WIDTH" :: List.replicate k .rparen := by
  induction k with
  | zero => rfl
  | succ k ih =>
    simp only [parenthesised, ofOperand, tokens, ih]
    rw [List.replicate_succ, List.replicate_succ' (n := k) (a := Token.rparen)]
    simp

/-- The innermost parenthesis is the deepest. -/
theorem places_parenthesised (k : Nat) :
    (∀ a ∈ (parenthesised k).places, a.nesting ≤ k) ∧
      ∃ a ∈ (parenthesised k).places, a.around + a.behind = k := by
  induction k with
  | zero => simp [parenthesised, ofOperand, places, Place.nesting]
  | succ k ih =>
    obtain ⟨hall, a, ha, heq⟩ := ih
    have hplaces : (parenthesised (k + 1)).places =
        ⟨0, 0, 0⟩ :: (parenthesised k).places.map fun a => (a.enclosed).under 0 := by
      simp only [parenthesised, ofOperand, places, List.map_map]
      rfl
    rw [hplaces]
    constructor
    · intro b hb
      rcases List.mem_cons.1 hb with rfl | hb
      · exact Nat.zero_le _
      · obtain ⟨d, hd, rfl⟩ := List.mem_map.1 hb
        have hle := hall d hd
        simp only [Place.nesting, Place.under, Place.enclosed] at hle ⊢
        omega
    · refine ⟨_, List.mem_cons_of_mem _ (List.mem_map_of_mem ha), ?_⟩
      simp only [Place.under, Place.enclosed]
      omega

theorem places_percentages (j k : Nat) :
    (percentages j k).places = [⟨0, k, 0⟩, ⟨1, j, k⟩] := by
  simp [percentages, ofOperand, places, Place.enclosed, Place.under]

end Form

end Expr

namespace Expression

open ShaderEffect.Expr (Form Cuts Punctuation maxLevels)

/-- The width in so many parentheses, as a text. -/
def parenthesised (k : Nat) : String :=
  String.ofList (List.replicate k '(' ++ ("$WIDTH".toList ++ List.replicate k ')'))

/-- The width with percent signs behind it, in parentheses with percent signs behind them, as a
text. -/
def percentages (j k : Nat) : String :=
  String.ofList ('(' :: ("$WIDTH".toList ++
    (List.replicate j '%' ++ (')' :: List.replicate k '%'))))

theorem tokenize_parenthesised (k : Nat) :
    Expr.tokenize (parenthesised k).toList = .ok (Form.parenthesised k).tokens := by
  unfold parenthesised
  rw [Form.tokens_parenthesised, Expr.tokenize_eq_ok_iff, String.toList_ofList]
  have hclose : Cuts (List.replicate k ')') (List.replicate k .rparen) [] := by
    have h := Cuts.replicate .rparen k (.nil [])
    rwa [List.append_nil, List.append_nil] at h
  refine .replicate .lparen k (.width (fun d hd => ?_) hclose)
  obtain rfl := List.eq_of_mem_replicate (List.mem_of_mem_head? hd)
  decide

theorem tokenize_percentages (j k : Nat) :
    Expr.tokenize (percentages j k).toList = .ok (Form.percentages j k).tokens := by
  have htokens : (Form.percentages j k).tokens = .lparen :: .var "WIDTH" ::
      (List.replicate j .percent ++ .rparen :: List.replicate k .percent) := by
    simp [Form.percentages, Form.ofOperand, Form.tokens]
  unfold percentages
  rw [htokens, Expr.tokenize_eq_ok_iff, String.toList_ofList]
  have houter : Cuts (List.replicate k '%') (List.replicate k .percent) [] := by
    have h := Cuts.replicate .percent k (.nil [])
    rwa [List.append_nil, List.append_nil] at h
  have hinner := Cuts.replicate .percent j (.punctuation .rparen houter)
  refine .punctuation .lparen (.width (fun d hd => ?_) hinner)
  cases j with
  | zero =>
    obtain rfl : ')' = d := Option.some.inj hd
    decide
  | succ j =>
    obtain rfl : '%' = d := Option.some.inj hd
    decide

/-- Parentheses around the width are accepted if they are less than 256. -/
theorem parse_parenthesised (k : Nat) :
    (∃ x, parse (parenthesised k) = .ok x) ↔ k < maxLevels := by
  obtain ⟨hall, a, ha, heq⟩ := Form.places_parenthesised k
  rw [exists_parse_iff (tokenize_parenthesised k)]
  constructor
  · exact fun h => heq ▸ h a ha
  · intro hlt b hb
    have hle : b.around + b.behind ≤ b.nesting := Nat.le_add_right _ _
    exact Nat.lt_of_le_of_lt (Nat.le_trans hle (hall b hb)) hlt

/-- Percent signs behind a parenthesis do not count for what is in it. -/
theorem parse_percentages (j k : Nat) :
    (∃ x, parse (percentages j k) = .ok x) ↔ j + 1 < maxLevels ∧ k < maxLevels := by
  rw [exists_parse_iff (tokenize_percentages j k), Form.places_percentages]
  simp [Nat.add_comm, and_comm]

/-- One parenthesis less than the limit. -/
theorem parse_places_255 :
    Expr.tokenize (parenthesised 255).toList = .ok (Form.parenthesised 255).tokens ∧
      ∃ x, parse (parenthesised 255) = .ok x := by
  have h := tokenize_parenthesised 255
  refine ⟨h, (parse_places h).1.2 fun a ha => ?_⟩
  have hle : a.around + a.behind ≤ a.nesting := Nat.le_add_right _ _
  exact Nat.lt_succ_of_le (Nat.le_trans hle ((Form.places_parenthesised 255).1 a ha))

/-- 256 parentheses are refused, though nothing is nested deeper than that; and the width is
accepted under 400 percent signs and a parenthesis, which is deeper. -/
theorem nesting_limit_missed :
    (Expr.tokenize (parenthesised 256).toList = .ok (Form.parenthesised 256).tokens ∧
      (∀ a ∈ (Form.parenthesised 256).places, a.nesting ≤ 256) ∧
      parse (parenthesised 256) = .error (.grammar .tooDeep)) ∧
    (Expr.tokenize (percentages 200 200).toList = .ok (Form.percentages 200 200).tokens ∧
      (∃ a ∈ (Form.percentages 200 200).places, a.nesting = 401) ∧
      ∃ x, parse (percentages 200 200) = .ok x) := by
  refine ⟨⟨tokenize_parenthesised 256, (Form.places_parenthesised 256).1, ?_⟩,
    tokenize_percentages 200 200, ?_, (parse_percentages 200 200).2 (by decide)⟩
  · refine parse_eq_error_of_form (tokenize_parenthesised 256) fun x hx => ?_
    exact Nat.lt_irrefl maxLevels ((parse_parenthesised 256).1 ⟨x, hx⟩)
  · rw [Form.places_percentages]
    exact ⟨⟨1, 200, 200⟩, by simp, rfl⟩

end Expression

end ShaderEffect
