/-
**Doubles as fractions, and rounding them to whole numbers.**

A finite double is a fraction, and it is rounded to the whole number nearest to that fraction,
halves away from zero.  Rounding keeps the order of fractions, so that a double is rounded beyond
a whole number if it lies beyond it; for a large double its bits tell that.

Main definitions:

* `ShaderEffect.Decimal.value` — the fraction that a finite double is;
* `ShaderEffect.Decimal.roundAway` — a fraction rounded to a whole number.

Main results:

* `ShaderEffect.Decimal.roundToInt_eq` — **doubles are rounded as the fractions that they are**;
* `ShaderEffect.Decimal.roundAway_mono` — rounding keeps the order;
* `ShaderEffect.Decimal.value_ofFraction_one` — small whole numbers are doubles themselves;
* `ShaderEffect.Decimal.le_nearestBits`, `ShaderEffect.Decimal.le_value_of_bits` — **bits tell which
  powers of two a number reaches**.
-/

import ShaderEffect.Proofs.Decimal.Shortest

set_option autoImplicit false

namespace ShaderEffect.Decimal

/-! ### Fractions -/

/-- A fraction rounded to the nearest whole number, a half away from zero. -/
def roundAway (q : ℚ) : Int := if 0 ≤ q then ⌊q + 1 / 2⌋ else ⌈q - 1 / 2⌉

theorem roundAway_of_nonneg {q : ℚ} (hq : 0 ≤ q) : roundAway q = ⌊q + 1 / 2⌋ := if_pos hq

/-- Rounding looks at the distance from zero only. -/
theorem roundAway_neg (q : ℚ) : roundAway (-q) = -roundAway q := by
  have hceil (r : ℚ) : ⌈-r - 1 / 2⌉ = -⌊r + 1 / 2⌋ := by
    rw [← Int.ceil_neg, neg_add']
  have hfloor (r : ℚ) : ⌊-r + 1 / 2⌋ = -⌈r - 1 / 2⌉ := by
    rw [← Int.floor_neg, neg_sub', sub_neg_eq_add]
  unfold roundAway
  rcases lt_trichotomy q 0 with h | rfl | h
  · rw [if_pos (by linarith), if_neg (not_le.2 h), hfloor]
  · norm_num
  · rw [if_neg (by linarith), if_pos h.le, hceil]

/-- **Rounding keeps the order.** -/
theorem roundAway_mono : Monotone roundAway := by
  intro q r h
  unfold roundAway
  split
  · rw [if_pos (by linarith)]
    exact Int.floor_le_floor (by linarith)
  · split
    · have hceil : ⌈q - 1 / 2⌉ ≤ 0 := Int.ceil_le.2 (by push_cast; linarith)
      exact hceil.trans (Int.floor_nonneg.2 (by linarith))
    · exact Int.ceil_le_ceil (by linarith)

/-- Whole numbers are not rounded. -/
theorem roundAway_intCast (z : Int) : roundAway z = z := by
  have hnat (n : Nat) : roundAway n = n := by
    rw [roundAway_of_nonneg (Nat.cast_nonneg n), Int.floor_natCast_add]
    norm_num
  rcases Int.eq_nat_or_neg z with ⟨n, rfl | rfl⟩
  · exact hnat n
  · push_cast
    rw [roundAway_neg, hnat]

/-! ### Doubles -/

section Doubles

variable {d : Dyadic}

namespace Dyadic

/-- A dyadic number is the fraction of its numerator and its denominator. -/
theorem num_div_den (d : Dyadic) : (d.num / d.den : ℚ) = d.value := by
  have h := zpow_eq_div (b := 2) (by decide) d.exponent
  rw [Nat.cast_ofNat] at h
  rw [value, h, ← mul_div_assoc, ← Nat.cast_mul]
  rfl

theorem den_pos (d : Dyadic) : 0 < d.den := Nat.pow_pos (by decide)

theorem value_nonneg (d : Dyadic) : 0 ≤ d.value :=
  mul_nonneg (Nat.cast_nonneg _) (zpow_nonneg (by norm_num) _)

/-- The bits of a magnitude of which the exponent is not the least one have an exponent themselves,
and what it is. -/
theorem Canonical.bits_div (hd : d.Canonical) (h : 2 ^ 52 ≤ d.bits) :
    2 ^ 52 ≤ d.significand ∧ ((d.bits / 2 ^ 52 : Nat) : Int) = d.exponent + 1075 := by
  have hleast := hd.least
  have hlt := hd.significand_lt
  have hnormal : 2 ^ 52 ≤ d.significand := by
    by_cases hne : d.exponent = -1074
    · rw [bits, hne] at h
      omega
    · exact hd.normal hne
  refine ⟨hnormal, ?_⟩
  unfold bits
  omega

/-- **Magnitudes of the same bits are the same.** -/
theorem Canonical.eq_of_bits {d' : Dyadic} (hd : d.Canonical) (hd' : d'.Canonical)
    (h : d.bits = d'.bits) : d = d' := by
  have heq : d.exponent = d'.exponent := by
    rcases Nat.lt_or_ge d.bits (2 ^ 52) with hlt | hge
    · have hleast := hd.least
      have hleast' := hd'.least
      have hlt' := h ▸ hlt
      unfold bits at hlt hlt'
      omega
    · have he := (hd.bits_div hge).2
      have he' := (hd'.bits_div (h ▸ hge)).2
      rw [h] at he
      omega
  have hsignificand : d.significand = d'.significand := by
    unfold bits at h
    rw [heq] at h
    omega
  cases d
  cases d'
  rw [mk.injEq]
  exact ⟨hsignificand, heq⟩

end Dyadic

/-- The fraction that a finite double is. -/
def value (x : Float) : ℚ := if isNegative x then -(magnitude x).value else (magnitude x).value

theorem roundHalfUp_eq {num den : Nat} (hden : 0 < den) :
    (roundHalfUp num den : Int) = ⌊(num / den : ℚ) + 1 / 2⌋ := by
  have hpos : (0 : ℚ) < den := Nat.cast_pos.2 hden
  have hle : ((2 * den * roundHalfUp num den : Nat) : ℚ) ≤ (2 * num + den : Nat) :=
    Nat.cast_le.2 roundHalfUp_le
  have hlt : ((2 * num : Nat) : ℚ) < (2 * den * roundHalfUp num den + den : Nat) :=
    Nat.cast_lt.2 (lt_roundHalfUp hden)
  push_cast at hle hlt
  refine (Int.floor_eq_iff.2 ⟨?_, ?_⟩).symm
  · rw [← sub_le_iff_le_add, le_div_iff₀ hpos]
    push_cast
    linarith
  · rw [← lt_sub_iff_add_lt, div_lt_iff₀ hpos]
    push_cast
    linarith

/-- **Doubles are rounded as the fractions that they are**: to the nearest whole number, and halves
away from zero. -/
theorem roundToInt_eq (x : Float) : roundToInt x = roundAway (value x) := by
  have hround : (roundHalfUp (magnitude x).num (magnitude x).den : Int) =
      roundAway (magnitude x).value := by
    rw [roundHalfUp_eq (magnitude x).den_pos, Dyadic.num_div_den,
      roundAway_of_nonneg (magnitude x).value_nonneg]
  unfold roundToInt value
  dsimp only
  rw [hround]
  split
  · rw [roundAway_neg]
  · rfl

/-- The magnitude of a double with given bits. -/
theorem magnitude_withBits (negative : Bool) (hd : d.Canonical) :
    magnitude (withBits negative d.bits) = d := by
  obtain ⟨hfinite, hbits, -⟩ := isFinite_withBits negative hd.bits_lt
  exact (canonical_magnitude ((isFinite_iff _).1 hfinite)).eq_of_bits hd hbits

/-- **Bits tell which powers of two a double reaches.** -/
theorem le_value_of_bits (negative : Bool) {k a : Nat} (hk : k < infinityBits)
    (h : (1023 + a) * 2 ^ 52 ≤ k) :
    (2 : ℚ) ^ a ≤ (magnitude (withBits negative k)).value := by
  obtain ⟨hfinite, hbits, -⟩ := isFinite_withBits negative hk
  have hd := canonical_magnitude ((isFinite_iff _).1 hfinite)
  generalize magnitude (withBits negative k) = d at *
  obtain ⟨hsignificand, hexponent⟩ := hd.bits_div (by omega)
  have hdiv : 1023 + a ≤ d.bits / 2 ^ 52 := (Nat.le_div_iff_mul_le (by decide)).2 (hbits ▸ h)
  calc (2 : ℚ) ^ a = 2 ^ 52 * 2 ^ ((a : Int) - 52) := by
        rw [← zpow_natCast 2 52, ← zpow_add₀ (by norm_num), ← zpow_natCast]
        congr 1
        omega
    _ ≤ d.significand * 2 ^ d.exponent :=
        mul_le_mul (by exact_mod_cast hsignificand)
          (zpow_le_zpow_right₀ (by norm_num) (by omega)) (zpow_nonneg (by norm_num) _)
          (Nat.cast_nonneg _)

end Doubles

/-! ### Whole numbers as doubles -/

/-- A whole number that a fraction reaches is reached by the rounded one. -/
theorem le_roundHalfEven {num den n : Nat} (hden : den ≠ 0) (h : (n : ℚ) ≤ num / den) :
    n ≤ roundHalfEven num den := by
  have hle : n ≤ num / den := by
    rw [le_div_iff₀ (Nat.cast_pos.2 (Nat.pos_of_ne_zero hden))] at h
    rw [Nat.le_div_iff_mul_le (Nat.pos_of_ne_zero hden)]
    exact_mod_cast h
  unfold roundHalfEven
  dsimp only
  repeat' split
  all_goals omega

/-- **A fraction that reaches a power of two is rounded to a double that does.** -/
theorem le_nearestBits {num den a : Nat} (hden : den ≠ 0) (h : (2 : ℚ) ^ a ≤ num / den) :
    min ((1023 + a) * 2 ^ 52) infinityBits ≤ nearestBits num den := by
  have hnum : num ≠ 0 := by
    rintro rfl
    rw [Nat.cast_zero, zero_div] at h
    exact absurd h (not_le.2 (by positivity))
  have hleading : (a : Int) ≤ leadingBit num den :=
    le_leadingBit hnum hden (by rwa [zpow_natCast])
  have hspec := (leadingBit_spec hnum hden).1
  unfold nearestBits
  rw [if_neg hnum]
  dsimp only
  generalize hq : max (leadingBit num den - 52) (-1074) = q
  have hround : 2 ^ 52 ≤ roundHalfEven (num * Nat.pow 2 (-q).toNat) (den * Nat.pow 2 q.toNat) := by
    refine le_roundHalfEven (mul_pow_ne_zero hden _) ?_
    rw [← div_zpow_eq, le_div_iff₀ (zpow_pos (by norm_num) _)]
    refine le_trans ?_ hspec
    rw [Nat.cast_pow, Nat.cast_ofNat, ← zpow_natCast, ← zpow_add₀ (by norm_num)]
    exact zpow_le_zpow_right₀ (by norm_num) (by push_cast; omega)
  refine min_le_min ?_ le_rfl
  show _ ≤ (q + 1074).toNat * 2 ^ 52 + _
  omega

theorem le_nearestBits_one {n a : Nat} (ha : a ≤ 1024) (h : 2 ^ a ≤ n) :
    (1023 + a) * 2 ^ 52 ≤ nearestBits n 1 := by
  have hle : (2 : ℚ) ^ a ≤ n / (1 : Nat) := by
    rw [Nat.cast_one, div_one]
    exact_mod_cast h
  refine le_trans (le_min le_rfl ?_) (le_nearestBits one_ne_zero hle)
  exact Nat.mul_le_mul_right _ (by omega)

/-- The digits of a whole number that is not too large, moved up until the leading one is the
fifty-third. -/
theorem exists_canonical {n : Nat} (hpos : 0 < n) (hn : n < 2 ^ 53) :
    ∃ d : Dyadic, d.Canonical ∧ 0 < d.significand ∧ d.value = n := by
  have hlog : n.log2 ≤ 52 := Nat.lt_succ_iff.1 ((Nat.log2_lt hpos.ne').2 hn)
  obtain ⟨k, hk⟩ := Nat.exists_eq_add_of_le hlog
  have hlow : 2 ^ 52 ≤ n * 2 ^ k := by
    calc 2 ^ 52 = 2 ^ n.log2 * 2 ^ k := by rw [← pow_add, ← hk]
      _ ≤ n * 2 ^ k := Nat.mul_le_mul_right _ (Nat.log2_self_le hpos.ne')
  have hhigh : n * 2 ^ k < 2 ^ 53 := by
    calc n * 2 ^ k < 2 ^ (n.log2 + 1) * 2 ^ k :=
          Nat.mul_lt_mul_of_pos_right Nat.lt_log2_self (Nat.pow_pos (by decide))
      _ = 2 ^ 53 := by rw [← pow_add]; congr 1; omega
  refine ⟨⟨n * 2 ^ k, -(k : Int)⟩, ⟨?_, ?_, hhigh, fun _ => hlow⟩, ?_, ?_⟩
  · dsimp only
    omega
  · dsimp only
    omega
  · exact Nat.lt_of_lt_of_le (by decide) hlow
  · rw [Dyadic.value, zpow_neg, zpow_natCast]
    push_cast
    field_simp

/-- **Whole numbers that are not too large are doubles themselves.** -/
theorem value_ofFraction_one (negative : Bool) {n : Nat} (hn : n < 2 ^ 53) :
    value (ofFraction negative n 1) = if negative then -(n : ℚ) else n := by
  rcases Nat.eq_zero_or_pos n with rfl | hpos
  · cases negative <;> decide +kernel
  obtain ⟨d, hd, hsignificand, hvalue⟩ := exists_canonical hpos hn
  have hbits : nearestBits n 1 = d.bits := by
    refine nearestBits_eq hd hsignificand one_ne_zero ?_
    rw [Nat.cast_one, div_one, ← hvalue]
    exact d.reads_value
  rw [ofFraction_eq, hbits, value, magnitude_withBits negative hd, hvalue,
    (isFinite_withBits negative hd.bits_lt).2.2]

end ShaderEffect.Decimal
