/-
**What is written is read back.**

A double is written as digits, with a point and digits behind it or without, and with an exponent or
without.  Zeros in front, and zeros that fill the places up to the point, do not change the fraction
that the digits stand for, and the place of the point and the exponent make up for each other.  So
in every layout the text of a finite double, without its sign, is read as its magnitude.

Main definitions:

* `ShaderEffect.Decimal.Written` — **the texts of a decimal number**.

Main results:

* `ShaderEffect.Decimal.Written.read?_eq` — texts are read as the numbers they are written for;
* `ShaderEffect.Decimal.Layout.written_renderDigits` — digits are written in every layout;
* `ShaderEffect.Decimal.Layout.written_render` — **the text of a double is read back**.
-/

import ShaderEffect.Decimal.Layout
import ShaderEffect.Proofs.Decimal.Shortest
import ShaderEffect.Proofs.Expr.Lexemes

set_option autoImplicit false

namespace ShaderEffect.Decimal

open ShaderEffect.Expr (IsExponent isDigit_iff takeWhile_append_of_head)

/-! ### Runs of digits -/

section Runs

variable {n : Nat} {ds : List Char}

theorem ofDigits_append (ds es : List Char) :
    ofDigits (ds ++ es) = 10 ^ es.length * ofDigits ds + ofDigits es := by
  show Nat.ofDigitChars 10 (ds ++ es) 0 = _
  rw [Nat.ofDigitChars_append, Nat.ofDigitChars_eq_ofDigitChars_zero]
  rfl

theorem ofDigits_zeros (k : Nat) : ofDigits (List.replicate k '0') = 0 :=
  (Nat.ofDigitChars_replicate_zero).trans (Nat.mul_zero _)

/-- Zeros in front of digits do not count. -/
theorem ofDigits_zeros_append (k : Nat) (ds : List Char) :
    ofDigits (List.replicate k '0' ++ ds) = ofDigits ds := by
  rw [ofDigits_append, ofDigits_zeros, Nat.mul_zero, Nat.zero_add]

/-- Zeros behind digits multiply them by powers of ten. -/
theorem ofDigits_append_zeros (ds : List Char) (k : Nat) :
    ofDigits (ds ++ List.replicate k '0') = 10 ^ k * ofDigits ds := by
  rw [ofDigits_append, ofDigits_zeros, List.length_replicate, Nat.add_zero]

theorem ofDigits_toDigits (n : Nat) : ofDigits (Nat.toDigits 10 n) = n :=
  Nat.ofDigitChars_ten_toDigits

theorem isDigit_of_mem_toDigits {c : Char} (hc : c ∈ Nat.toDigits 10 n) : isDigit c := by
  have h := Nat.isDigit_of_mem_toDigits (by decide) (by decide) hc
  rw [isDigit_iff]
  simp only [Char.isDigit, Bool.and_eq_true, decide_eq_true_eq, ge_iff_le,
    UInt32.le_iff_toNat_le] at h
  exact h

theorem isDigit_of_mem_zeros {k : Nat} {c : Char} (hc : c ∈ List.replicate k '0') : isDigit c := by
  rw [List.eq_of_mem_replicate hc]
  rfl

end Runs

/-! ### Texts of numbers -/

/-- **The texts of a decimal number**: digits, a point with digits behind it or none, and an
exponent or none. -/
inductive Written : List Char → Digits → Prop where
  | whole {ds ex : List Char} {e : Int} (hne : ds ≠ []) (hds : ∀ c ∈ ds, isDigit c)
      (hex : IsExponent ex) (he : readSuffix? ex = some e) :
      Written (ds ++ ex) ⟨ofDigits ds, e⟩
  | pointed {ds fs ex : List Char} {e : Int} (hne : ds ≠ []) (hds : ∀ c ∈ ds, isDigit c)
      (hfs : ∀ c ∈ fs, isDigit c) (hex : IsExponent ex) (he : readSuffix? ex = some e) :
      Written (ds ++ '.' :: (fs ++ ex)) ⟨ofDigits (ds ++ fs), e - fs.length⟩

namespace Written

variable {cs : List Char} {d : Digits}

/-- **Texts are read as the numbers they are written for.** -/
theorem read?_eq (h : Written cs d) : read? cs = some (ofDecimal false d.digits d.exponent) := by
  cases h with
  | @whole ds ex e hne hds hex he =>
    obtain ⟨htake, hdrop⟩ := takeWhile_append_of_head hds ex hex.head_not_isDigit
    unfold read?
    simp only [htake, hdrop]
    -- no exponent begins with a point
    cases hex with
    | none => simp [hne, he]
    | some hmark _ _ _ => rcases hmark with rfl | rfl <;> simp [hne, he]
  | @pointed ds fs ex e hne hds hfs hex he =>
    obtain ⟨htake, hdrop⟩ := takeWhile_append_of_head hds ('.' :: (fs ++ ex)) (by simp; decide)
    obtain ⟨htake', hdrop'⟩ := takeWhile_append_of_head hfs ex hex.head_not_isDigit
    unfold read?
    simp only [htake, hdrop, htake', hdrop']
    simp [hne, he]

end Written

/-! ### Layouts -/

/-- Digits around a point. -/
theorem written_point {cs ds fs : List Char} (hcs : cs = ds ++ '.' :: fs) (hne : ds ≠ [])
    (hds : ∀ c ∈ ds, isDigit c) (hfs : ∀ c ∈ fs, isDigit c) :
    Written cs ⟨ofDigits (ds ++ fs), -(fs.length : Int)⟩ := by
  have h := Written.pointed hne hds hfs .none rfl
  rwa [List.append_nil, ← hcs, Int.zero_sub] at h

section Layouts

variable {digits : String}

/-- **Digits around a point**, with zeros where there are no digits. -/
theorem written_plainText (hne : digits.toList ≠ []) (hdigits : ∀ c ∈ digits.toList, isDigit c)
    (point : Int) : ∃ d, Written (plainText digits point).toList d ∧
      d.value = ofDigits digits.toList * 10 ^ (point - digits.length) := by
  have hlength : digits.length = digits.toList.length := String.length_toList.symm
  have hpos : 0 < digits.toList.length := List.length_pos_iff.2 hne
  have hzeros (k : Nat) : (zeros k).toList = List.replicate k '0' := String.toList_ofList
  have hzero : ∀ c ∈ ['0'], isDigit c := List.forall_mem_singleton.2 rfl
  unfold plainText
  dsimp only
  rw [hlength]
  split
  case isTrue hpoint =>
    -- zeros in front do not count
    have htext : ("0." ++ zeros (-point).toNat ++ digits).toList =
        ['0'] ++ '.' :: (List.replicate (-point).toNat '0' ++ digits.toList) := by
      simp [hzeros]
    refine ⟨_, written_point htext (by simp) hzero ?_, ?_⟩
    · intro c hc
      exact (List.mem_append.1 hc).elim isDigit_of_mem_zeros (hdigits c)
    · have hvalue : ofDigits (['0'] ++ (List.replicate (-point).toNat '0' ++ digits.toList)) =
          ofDigits digits.toList :=
        (ofDigits_zeros_append 1 _).trans (ofDigits_zeros_append _ _)
      have hexponent : -((List.replicate (-point).toNat '0' ++ digits.toList).length : Int) =
          point - digits.toList.length := by
        rw [List.length_append, List.length_replicate]
        omega
      rw [Digits.value, hvalue, hexponent]
  case isFalse hpoint =>
    split
    case isTrue hlong =>
      -- zeros behind the digits fill the places up to the point
      have htext : (digits ++ zeros (point - digits.toList.length).toNat ++ ".0").toList =
          (digits.toList ++ List.replicate (point - digits.toList.length).toNat '0') ++
            '.' :: ['0'] := by
        simp [hzeros]
      refine ⟨_, written_point htext (by simp [hne]) ?_ hzero, ?_⟩
      · intro c hc
        exact (List.mem_append.1 hc).elim (hdigits c) isDigit_of_mem_zeros
      · obtain ⟨k, hk⟩ := Int.eq_ofNat_of_zero_le (Int.sub_nonneg.2 hlong)
        have hvalue : ofDigits (digits.toList ++ List.replicate k '0' ++ ['0']) =
            10 ^ 1 * (10 ^ k * ofDigits digits.toList) := by
          rw [← ofDigits_append_zeros]
          exact ofDigits_append_zeros _ 1
        rw [Digits.value, hk, Int.toNat_natCast, hvalue]
        simp
        ring
    case isFalse hlong =>
      have htext : (String.ofList (digits.toList.take point.toNat) ++ "." ++
          String.ofList (digits.toList.drop point.toNat)).toList =
            digits.toList.take point.toNat ++ '.' :: digits.toList.drop point.toNat := by
        simp
      refine ⟨_, written_point htext ?_ ?_ ?_, ?_⟩
      · rw [← List.length_pos_iff, List.length_take]
        omega
      · exact fun c hc => hdigits c (List.mem_of_mem_take hc)
      · exact fun c hc => hdigits c (List.mem_of_mem_drop hc)
      · have hexponent : -((digits.toList.drop point.toNat).length : Int) =
            point - digits.toList.length := by
          rw [List.length_drop]
          omega
        rw [Digits.value, hexponent, List.take_append_drop]

/-- The sign of an exponent. -/
def exponentSign (plus : Bool) (e : Int) : List Char :=
  if e < 0 then ['-'] else if plus then ['+'] else []

/-- **Exponents are read back**, with their sign. -/
theorem readSuffix?_exponent (plus : Bool) (e : Int) :
    IsExponent ('e' :: (exponentSign plus e ++ Nat.toDigits 10 e.natAbs)) ∧
      readSuffix? ('e' :: (exponentSign plus e ++ Nat.toDigits 10 e.natAbs)) = some e := by
  have hdigits : ∀ c ∈ Nat.toDigits 10 e.natAbs, isDigit c := fun c => isDigit_of_mem_toDigits
  have hvalue := ofDigits_toDigits e.natAbs
  have hne : Nat.toDigits 10 e.natAbs ≠ [] := Nat.toDigits_ne_nil
  generalize Nat.toDigits 10 e.natAbs = ds at *
  have hall : (ds.all isDigit && !ds.isEmpty) = true := by
    simpa [hne] using hdigits
  refine ⟨.some (Or.inl rfl) ?_ hne hdigits, ?_⟩
  · unfold exponentSign
    split
    · exact Or.inr (Or.inr rfl)
    · cases plus <;> simp
  · rw [readSuffix?, if_pos (Or.inl rfl)]
    unfold exponentSign
    split
    case isTrue hnegative =>
      show readExponent? ('-' :: ds) = _
      rw [readExponent?, if_pos hall, hvalue]
      congr 1
      omega
    case isFalse hnegative =>
      have habs : ((e.natAbs : Nat) : Int) = e := by omega
      cases plus with
      | true =>
        show readExponent? ('+' :: ds) = _
        rw [readExponent?, if_pos hall, hvalue, habs]
      | false =>
        show readExponent? ds = _
        obtain ⟨d, ds, rfl⟩ := List.exists_cons_of_ne_nil hne
        -- no digit is a sign
        have hd := hdigits d List.mem_cons_self
        have hplus : d ≠ '+' := by
          rintro rfl
          cases hd
        have hminus : d ≠ '-' := by
          rintro rfl
          cases hd
        rw [readExponent?.eq_3 _ (by simpa using hplus) (by simpa using hminus), if_pos hall,
          hvalue, habs]

/-- **One digit before the point, the others after it**, and an exponent. -/
theorem written_scientificText (hne : digits.toList ≠ [])
    (hdigits : ∀ c ∈ digits.toList, isDigit c) (plus : Bool) (e : Int) :
    Written (scientificText plus digits e).toList
      ⟨ofDigits digits.toList, e + 1 - digits.length⟩ := by
  obtain ⟨hex, he⟩ := readSuffix?_exponent plus e
  have hlength : digits.length = digits.toList.length := String.length_toList.symm
  have hsuffix : ("e" ++ ((if e < 0 then "-" else if plus then "+" else "") ++
      toString e.natAbs)).toList = 'e' :: (exponentSign plus e ++ Nat.toDigits 10 e.natAbs) := by
    unfold exponentSign
    repeat' split
    all_goals simp
  unfold scientificText
  dsimp only
  rw [String.append_assoc, String.append_assoc, String.toList_append, hsuffix, hlength]
  generalize digits.toList = cs at *
  match cs, hne with
  | [c], _ =>
    have htext := Written.whole (List.cons_ne_nil c []) hdigits hex he
    have hexponent : e + 1 - (([c].length : Nat) : Int) = e := by simp
    rw [hexponent]
    simpa using htext
  | c :: d :: cs, _ =>
    have htext := Written.pointed (List.cons_ne_nil c [])
      (fun c hc => hdigits c (List.mem_cons.2 (Or.inl (List.mem_singleton.1 hc))))
      (fun f hf => hdigits f (List.mem_cons_of_mem c hf)) hex he
    have hexponent : e + 1 - (((c :: d :: cs).length : Nat) : Int) =
        e - ((d :: cs).length : Nat) := by
      simp only [List.length_cons]
      omega
    rw [hexponent]
    simpa using htext

/-- **Digits are written in every layout.** -/
theorem Layout.written_renderDigits (l : Layout) {d : Digits} :
    ∃ d', Written (l.renderDigits d).toList d' ∧ d'.value = d.value := by
  have hcs : (toString d.digits).toList = Nat.toDigits 10 d.digits := Nat.toList_repr
  have hdigits : ∀ c ∈ (toString d.digits).toList, isDigit c := by
    rw [hcs]
    exact fun c => isDigit_of_mem_toDigits
  have hne : (toString d.digits).toList ≠ [] := by
    rw [hcs]
    exact Nat.toDigits_ne_nil
  have hvalue : ofDigits (toString d.digits).toList = d.digits := by
    rw [hcs, ofDigits_toDigits]
  unfold renderDigits
  dsimp only
  split
  · obtain ⟨d', htext, heq⟩ := written_plainText hne hdigits
      (d.exponent + (toString d.digits).length - 1 + 1)
    refine ⟨d', htext, ?_⟩
    rw [heq, hvalue, Digits.value]
    congr 2
    omega
  · have htext := written_scientificText hne hdigits l.exponentPlus
      (d.exponent + (toString d.digits).length - 1)
    refine ⟨_, htext, ?_⟩
    rw [Digits.value, Digits.value, hvalue]
    congr 2
    dsimp only
    omega

/-- **The text of a finite double is read back**: behind the sign stands a number that is read as
the magnitude. -/
theorem Layout.written_render (l : Layout) {x : Float} (hx : x.isFinite) :
    ∃ cs d, (l.render x).toList = (if isNegative x then ['-'] else []) ++ cs ∧ Written cs d ∧
      ofDecimal false d.digits d.exponent = withBits false (magnitude x).bits := by
  have hcanonical := canonical_magnitude ((isFinite_iff x).1 hx)
  obtain ⟨hnumber, hfinite⟩ := isNaN_of_isFinite hx
  have hsign : (if isNegative x then "-" else "" : String).toList =
      if isNegative x then ['-'] else [] := by
    cases isNegative x <;> rfl
  unfold render
  rw [hnumber, hfinite]
  dsimp only
  rw [if_neg Bool.false_ne_true, if_neg Bool.false_ne_true]
  split
  case isTrue hzero =>
    have hdigit : ∀ c ∈ ['0'], isDigit c := List.forall_mem_singleton.2 rfl
    have htext : Written "0.0".toList ⟨0, -1⟩ :=
      written_point rfl (List.cons_ne_nil '0' []) hdigit hdigit
    have hbits : (magnitude x).bits = 0 := by
      have hleast : (magnitude x).exponent = -1074 := by
        by_contra hne
        have := hcanonical.normal hne
        omega
      rw [Dyadic.bits, hleast, hzero]
      rfl
    refine ⟨_, _, ?_, htext, ?_⟩
    · rw [String.toList_append, hsign]
    · rw [hbits]
      rfl
  case isFalse hzero =>
    have hpos := Nat.pos_of_ne_zero hzero
    obtain ⟨d, htext, hvalue⟩ := l.written_renderDigits (d := shortest l.tie (magnitude x))
    have hreads := reads_shortest l.tie hpos
    rw [← hvalue] at hreads
    refine ⟨_, d, ?_, htext, ofDecimal_eq hcanonical hpos hreads⟩
    rw [String.toList_append, hsign]

end Layouts

end ShaderEffect.Decimal
