/-
**Numbers as widths and heights.**

The width and the height of a target are expressions, but the metadata may give a number for them.
It is kept as its text, and the text is parsed whenever a frame needs the size.  Nothing is lost on
the way: whatever the number is written like, its text is one numeral, with a minus sign in front
if there is one, and has the value of the number wherever it is evaluated.

Main definitions:

* `ShaderEffect.Json.Number.InRange` — the numbers that there are: whole ones of a machine word, and
  finite doubles;
* `ShaderEffect.Json.Number.isNegative` — the numbers with a minus sign.

Main results:

* `ShaderEffect.Json.Number.written_compact` — the text of a number is read as its magnitude;
* `ShaderEffect.Expression.parse_number` — a numeral with a sign or without is parsed;
* `ShaderEffect.PassForm.numbers_keep_value` — **a number that is given as an extent keeps its
  value**.
-/

import ShaderEffect.Proofs.Decimal.Written
import ShaderEffect.Proofs.Document.Passes
import ShaderEffect.Proofs.Expr.Form

set_option autoImplicit false

namespace ShaderEffect

open Decimal (Written withBits infinityBits isFinite_withBits neg_withBits)

/-! ### The texts of numbers -/

namespace Decimal

/-- A whole number is read as the double nearest to it. -/
theorem ofDecimal_natCast (n : Nat) : ofDecimal false n 0 = ofFraction false n 1 := by
  unfold ofDecimal
  split
  case isTrue hzero => rw [hzero]
  case isFalse hzero =>
    rw [if_neg (by decide), if_neg (by omega)]
    simp

/-- The digits of a whole number. -/
theorem written_toDigits (n : Nat) : Written (Nat.toDigits 10 n) ⟨n, 0⟩ := by
  have h := Written.whole Nat.toDigits_ne_nil
    (fun c hc => isDigit_of_mem_toDigits (n := n) hc) .none rfl
  rwa [List.append_nil, ofDigits_toDigits] at h

/-- No text of a number begins with a sign. -/
theorem Written.head_ne_minus {cs : List Char} {d : Digits} (h : Written cs d) :
    cs.head? ≠ some '-' := by
  have hhead {ds : List Char} (hne : ds ≠ []) (hds : ∀ c ∈ ds, isDigit c) (rest : List Char) :
      (ds ++ rest).head? ≠ some '-' := by
    obtain ⟨c, ds, rfl⟩ := List.exists_cons_of_ne_nil hne
    intro heq
    cases heq
    cases hds '-' List.mem_cons_self
  cases h with
  | whole hne hds _ _ => exact hhead hne hds _
  | pointed hne hds _ _ _ => exact hhead hne hds _

end Decimal

namespace Json.Number

/-- The numbers that there are: whole ones of a machine word, and finite doubles. -/
def InRange : Number → Prop
  | whole n => -2 ^ 63 ≤ n ∧ n < 2 ^ 64
  | decimal x => x.isFinite

/-- Whether a number has a minus sign. -/
def isNegative : Number → Bool
  | whole n => n < 0
  | decimal x => Decimal.isNegative x

/-- **The text of a number is read as its magnitude**, behind the sign. -/
theorem written_compact {n : Number} (hn : n.InRange) :
    ∃ cs d k, n.compact.toList = (if n.isNegative then ['-'] else []) ++ cs ∧ Written cs d ∧
      Decimal.ofDecimal false d.digits d.exponent = withBits false k ∧ k < infinityBits ∧
      n.toFloat = withBits n.isNegative k := by
  cases n with
  | whole n =>
    obtain ⟨hlow, hhigh⟩ := hn
    refine ⟨Nat.toDigits 10 n.natAbs, ⟨n.natAbs, 0⟩, Decimal.nearestBits n.natAbs 1, ?_,
      Decimal.written_toDigits n.natAbs, Decimal.ofDecimal_natCast n.natAbs, ?_, rfl⟩
    · show n.repr.toList = (if decide (n < 0) = true then ['-'] else []) ++ _
      rw [Int.repr_eq_if]
      by_cases hsign : n < 0
      · rw [if_neg (not_le.2 hsign), if_pos (decide_eq_true hsign), String.toList_append,
          Nat.toList_repr, show (-n).toNat = n.natAbs by omega]
        rfl
      · rw [if_pos (not_lt.1 hsign), if_neg (by simpa using hsign), Nat.toList_repr,
          show n.toNat = n.natAbs by omega]
        rfl
    · refine Decimal.nearestBits_lt Nat.one_ne_zero ?_
      have hword : (n.natAbs : ℚ) < 2 ^ 64 := by exact_mod_cast (by omega : n.natAbs < 2 ^ 64)
      have hpowers : (2 : ℚ) ^ 64 ≤ 2 ^ (1023 : Int) := by
        rw [zpow_ofNat]
        exact pow_le_pow_right₀ (by norm_num) (by norm_num)
      rw [Nat.cast_one, div_one]
      exact hword.trans_le hpowers
  | decimal x =>
    obtain ⟨cs, d, htext, hwritten, hread⟩ := Decimal.Layout.written_render numberLayout hn
    refine ⟨cs, d, _, htext, hwritten, hread, ?_, Decimal.eq_withBits x⟩
    exact (Decimal.canonical_magnitude ((Decimal.isFinite_iff x).1 hn)).bits_lt

end Json.Number

/-! ### Numerals as expressions -/

namespace Expr

variable {cs : List Char} {d : Decimal.Digits}

/-- The text of a number is one lexeme. -/
theorem lexeme_of_written (h : Written cs d) :
    Lexeme cs (.ok (.number (Decimal.ofDecimal false d.digits d.exponent))) := by
  have hnumberOf : numberOf cs = .ok (.number (Decimal.ofDecimal false d.digits d.exponent)) := by
    rw [numberOf, h.read?_eq]
  have hdigit {c : Char} (hc : Decimal.isDigit c) : isNumberChar c :=
    isNumberChar_iff.2 (Or.inl hc)
  rw [← hnumberOf]
  cases h with
  | whole hne hds hex _ => exact .numeral hne (fun c hc => hdigit (hds c hc)) hex
  | @pointed ds fs ex _ hne hds hfs hex _ =>
    have hrun : ∀ c ∈ ds ++ '.' :: fs, isNumberChar c := by
      intro c hc
      rcases List.mem_append.1 hc with hc | hc
      · exact hdigit (hds c hc)
      · rcases List.mem_cons.1 hc with rfl | hc
        · rfl
        · exact hdigit (hfs c hc)
    have htext : ds ++ '.' :: (fs ++ ex) = ds ++ '.' :: fs ++ ex := by simp
    rw [htext]
    exact .numeral (by simp) hrun hex

/-- **The text of a number is one token**, behind that of the sign. -/
theorem tokenize_of_written (h : Written cs d) (negative : Bool) :
    tokenize ((if negative then ['-'] else []) ++ cs) = .ok ((if negative then [.minus] else []) ++
      [.number (Decimal.ofDecimal false d.digits d.exponent)]) := by
  have hlongest : Longest cs _ [] := (lexeme_of_written h).longest (by simp)
  have hnumber := hlongest.tokenize_eq
  rw [List.append_nil, tokenize_nil] at hnumber
  cases negative with
  | false => exact hnumber
  | true =>
    have hlongest : Longest ['-'] (.ok .minus) cs := .of_punctuation .minus
    have hminus := hlongest.tokenize_eq
    rw [hnumber] at hminus
    exact hminus

end Expr

namespace Expression

variable {source : String} {v : Float}

/-- **A numeral with a sign or without is parsed**, and has its value everywhere. -/
theorem parse_number {negative : Bool} (hv : (if negative then -v else v).isFinite)
    (h : Expr.tokenize source.toList =
      .ok ((if negative then [.minus] else []) ++ [.number v])) :
    ∃ e, parse source = .ok e ∧
      ∀ env axis, e.evaluate env axis = .ok (if negative then -v else v) := by
  let numeral : Expr.Form .signed := .unsigned (.operand (.number v) 0)
  have hvalue (e : Expr) (he : ∀ env axis, e.eval env axis = .ok (if negative then -v else v))
      (env : Environment) (axis : Axis) : evaluate ⟨source, e⟩ env axis =
        .ok (if negative then -v else v) := by
    have hfinite : e.finiteValue env axis = .ok (if negative then -v else v) := by
      unfold Expr.finiteValue
      rw [he]
      exact if_pos hv
    rw [evaluate, hfinite]
  cases negative with
  | false =>
    have hparse := parse_form (f := .term (.factor numeral)) h
    exact ⟨_, hparse, hvalue _ fun _ _ => rfl⟩
  | true =>
    have hparse := parse_form (f := .term (.factor (.minus numeral))) h
    exact ⟨_, hparse, hvalue _ fun _ _ => rfl⟩

end Expression

/-- **A number that is given as an extent keeps its value.**  What is kept of it is its text.  The
text is parsed; it is one numeral, with a minus sign in front exactly if the text has one; and it
has the value of the number on either axis and in every environment. -/
theorem PassForm.numbers_keep_value {n : Json.Number} (hn : n.InRange) :
    let text := Json.plainText (.number n)
    (∀ (form : PassForm) (t : Target), form.Declares t →
      (form.width = some (.number n) → t.width = some text) ∧
        (form.height = some (.number n) → t.height = some text)) ∧
    (∃ v, Expr.tokenize text.toList =
      .ok ((if text.toList.head? = some '-' then [.minus] else []) ++ [.number v])) ∧
    ∃ e, Expression.parse text = .ok e ∧
      ∀ env axis, e.evaluate env axis = .ok n.toFloat := by
  intro text
  obtain ⟨cs, d, k, htext, hwritten, hread, hk, hvalue⟩ := Json.Number.written_compact hn
  change text.toList = _ at htext
  have htokens := Expr.tokenize_of_written hwritten n.isNegative
  rw [← htext, hread] at htokens
  have hsign : text.toList.head? = some '-' ↔ n.isNegative = true := by
    rw [htext]
    cases n.isNegative with
    | false => simpa using hwritten.head_ne_minus
    | true => simp
  have hsigned : (if n.isNegative then -withBits false k else withBits false k) = n.toFloat := by
    rw [hvalue]
    cases n.isNegative with
    | false => rfl
    | true => exact neg_withBits _ hk
  refine ⟨fun form t ht => ⟨fun hwidth => ?_, fun hheight => ?_⟩, ⟨withBits false k, ?_⟩, ?_⟩
  · rw [ht.width, hwidth]
    rfl
  · rw [ht.height, hheight]
    rfl
  · simp only [hsign]
    exact htokens
  · have hfinite : n.toFloat.isFinite := by
      rw [hvalue]
      exact (isFinite_withBits _ hk).1
    rw [← hsigned] at hfinite ⊢
    exact Expression.parse_number hfinite htokens

/-- A small negative number, which is written with an exponent, as a width; and the negative zero as
a height. -/
theorem PassForm.numbers_keep_value_small :
    let form : PassForm := {
      target := some "a", persistent := none, float := none,
      width := some (.number (.decimal (-1.5e-7))), height := some (.number (.decimal (-0.0))) }
    let t := Passes.targetOf "a" false false form
    form.Declares t ∧ t.width = some "-1.5e-7" ∧ t.height = some "-0.0" ∧
      ∃ e, Expression.parse "-1.5e-7" = .ok e ∧
        ∀ env axis, e.evaluate env axis = .ok (-1.5e-7) := by
  intro form t
  have hdeclares : form.Declares t := ⟨rfl, rfl, rfl, rfl, rfl, rfl⟩
  have hsmall : Json.plainText (.number (.decimal (-1.5e-7))) = "-1.5e-7" := by decide +kernel
  have hzero : Json.plainText (.number (.decimal (-0.0))) = "-0.0" := by decide +kernel
  have hfinite : (-1.5e-7 : Float).isFinite = true := by decide +kernel
  have hfinite' : (-0.0 : Float).isFinite = true := by decide +kernel
  obtain ⟨hwidth, -, hparse⟩ := PassForm.numbers_keep_value (n := .decimal (-1.5e-7)) hfinite
  obtain ⟨hheight, -, -⟩ := PassForm.numbers_keep_value (n := .decimal (-0.0)) hfinite'
  rw [hsmall] at hwidth hparse
  rw [hzero] at hheight
  exact ⟨hdeclares, (hwidth form t hdeclares).1 rfl, (hheight form t hdeclares).2 rfl, hparse⟩

end ShaderEffect
