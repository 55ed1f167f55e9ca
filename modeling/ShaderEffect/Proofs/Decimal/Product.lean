/-
**The product of large doubles.**

Two doubles are multiplied by multiplying their significands, of fifty-three digits each, and
adding their exponents.  The product is rounded to fifty-three digits, and by that at most one
digit longer, but no smaller power of two; then it is packed into bits, and infinite where there
are no bits for its exponent.  So the exponents in the bits of two doubles tell how large their
product is at least.

Main results:

* `ShaderEffect.Decimal.roundWithAccuracy_eq` — a product is rounded to fifty-three digits;
* `ShaderEffect.Decimal.toNat_pack`, `ShaderEffect.Decimal.unpack_withBits` — what such numbers are
  packed into, and the other way round;
* `ShaderEffect.Decimal.mul_withBits` — **the product of large doubles is large**, or infinite.
-/

import ShaderEffect.Proofs.Decimal.Bits

set_option autoImplicit false

namespace ShaderEffect.Decimal

open Float.Model (Format totalExponent)
open Float.Model.UnpackedFloat

/-! ### Rounding significands -/

theorem mantissa_shiftRight (em : ExtendedMantissa) (n : Nat) :
    (em >>> n).mantissa = em.mantissa / 2 ^ n := by
  show (n.repeat ExtendedMantissa.shiftRightOne em).mantissa = _
  induction n with
  | zero => exact (Nat.div_one _).symm
  | succ n ih =>
      show (n.repeat ExtendedMantissa.shiftRightOne em).mantissa / 2 = _
      rw [ih, Nat.div_div_eq_div_mul, Nat.pow_succ]

theorem le_roundedMantissa (em : ExtendedMantissa) : em.mantissa ≤ em.roundedMantissa := by
  obtain ⟨m, r, s⟩ := em
  cases r <;> cases s <;>
    simp only [ExtendedMantissa.roundedMantissa, ExtendedMantissa.accuracy,
      Accuracy.roundToNearestEven] <;> omega

/-- The first fifty-three digits of a number. -/
theorem leading_bounds {m : Nat} (hm : 52 ≤ m.log2) :
    2 ^ 52 ≤ m / 2 ^ (m.log2 - 52) ∧ m / 2 ^ (m.log2 - 52) < 2 ^ 53 := by
  have hpos : m ≠ 0 := by
    rintro rfl
    exact absurd hm (by decide)
  have hpow : 0 < 2 ^ (m.log2 - 52) := Nat.pow_pos (by decide)
  have hexponent : 53 + (m.log2 - 52) = m.log2 + 1 := by omega
  rw [Nat.le_div_iff_mul_le hpow, Nat.div_lt_iff_lt_mul hpow, ← pow_add, ← pow_add,
    Nat.add_sub_cancel' hm, hexponent]
  exact ⟨Nat.log2_self_le hpos, Nat.lt_log2_self⟩

/-- The exponent that a number of a significand has in a double, if it is not too small. -/
theorem targetExponent_eq {m : Nat} {e : Int} (h : -1074 ≤ (m.log2 : Int) + e - 52) :
    Format.binary64.targetExponent (totalExponent m e) = m.log2 + e - 52 := by
  show max ((m.log2 : Int) + 1 + e - 53) (-1074) = _
  omega

/-- Digits behind the fifty-third one are shifted out. -/
theorem shiftToTargetExponent_eq {m : Nat} {e : Int} (hm : 52 ≤ m.log2)
    (h : -1074 ≤ (m.log2 : Int) + e - 52) :
    shiftToTargetExponent .binary64 m e .exact =
      (ExtendedMantissa.ofMantissaAndAccuracy m .exact >>> (m.log2 - 52),
        (m.log2 : Int) + e - 52) := by
  have hshift : ((m.log2 : Int) + e - 52 - e).toNat = m.log2 - 52 := by omega
  unfold shiftToTargetExponent shiftToExponent
  dsimp only
  rw [targetExponent_eq h, hshift]
  congr 1
  omega

/-- **A number that is not too small is rounded to fifty-three digits**, and to no lower
exponent. -/
theorem roundWithAccuracy_eq (s : Sign) {m : Nat} {e : Int} (hm : 52 ≤ m.log2)
    (h : -1074 ≤ (m.log2 : Int) + e - 52) :
    ∃ (n : Nat) (f : Int) (hn : 0 < n),
      roundWithAccuracy .binary64 s m e .exact = .finite s n f hn ∧
        2 ^ 52 ≤ n ∧ n < 2 ^ 53 ∧ (m.log2 : Int) + e - 52 ≤ f := by
  unfold roundWithAccuracy
  rw [shiftToTargetExponent_eq hm h]
  dsimp only
  generalize hem : ExtendedMantissa.ofMantissaAndAccuracy m .exact >>> (m.log2 - 52) = em
  have hmantissa : em.mantissa = m / 2 ^ (m.log2 - 52) := by
    rw [← hem, mantissa_shiftRight]
    rfl
  have hrounded : 52 ≤ em.roundedMantissa.log2 := by
    have hle := (leading_bounds hm).1.trans (hmantissa ▸ le_roundedMantissa em)
    exact (Nat.le_log2 (Nat.ne_of_gt (Nat.lt_of_lt_of_le (by decide) hle))).2 hle
  generalize em.roundedMantissa = r at *
  -- rounding up can give one digit more, which is shifted out
  rw [shiftToTargetExponent_eq hrounded (by omega)]
  dsimp only
  obtain ⟨hlow, hhigh⟩ := leading_bounds hrounded
  have hfinal : (ExtendedMantissa.ofMantissaAndAccuracy r .exact >>> (r.log2 - 52)).mantissa =
      r / 2 ^ (r.log2 - 52) := mantissa_shiftRight _ _
  have hpos : 0 < r / 2 ^ (r.log2 - 52) := Nat.lt_of_lt_of_le (by decide) hlow
  simp only [hfinal]
  rw [dif_neg hpos.ne']
  exact ⟨_, _, hpos, rfl, hlow, hhigh, by omega⟩

/-! ### Packing -/

/-- **A number with fifty-three digits is packed** into bits, or is infinite. -/
theorem toNat_pack {n : Nat} {f : Int} (hn : 0 < n) (hlow : 2 ^ 52 ≤ n) (hhigh : n < 2 ^ 53)
    (hf : -1074 ≤ f) :
    (pack .binary64 (.finite .positive n f hn)).toNat = min (Dyadic.bits ⟨n, f⟩) infinityBits := by
  have hbiased : (f + (Format.binary64.exponentBias : Int) +
      (Format.binary64.mantissaBitsWithoutImplicit : Int)).toNat = (f + 1075).toNat := by
    show (f + ((1023 : Nat) : Int) + ((52 : Nat) : Int)).toNat = _
    omega
  have hlog : n.log2 = 52 := (Nat.log2_eq_iff hn.ne').2 ⟨hlow, hhigh⟩
  unfold pack
  dsimp only
  rw [hbiased, hlog]
  split
  case isTrue hlarge =>
    have hpacked : (packedInfinity .binary64 .positive).toNat = infinityBits := by decide
    have hbits : infinityBits ≤ Dyadic.bits ⟨n, f⟩ := by
      change 2 ^ 11 ≤ (f + 1075).toNat + 1 at hlarge
      unfold Dyadic.bits infinityBits
      dsimp only
      omega
    rw [hpacked, min_eq_right hbits]
  case isFalse hsmall =>
    change ¬ 2 ^ 11 ≤ (f + 1075).toNat + 1 at hsmall
    have hbits : Dyadic.bits ⟨n, f⟩ ≤ infinityBits := by
      unfold Dyadic.bits infinityBits
      dsimp only
      omega
    rw [if_pos (show 52 + 1 = Format.binary64.mantissaBits from rfl), toNat_packComponents,
      min_eq_left hbits, BitVec.toNat_ofNat, BitVec.toNat_ofNat]
    show 0 + _ % 2 ^ 11 * 2 ^ 52 + n % 2 ^ 52 = (f + 1074).toNat * 2 ^ 52 + n
    omega

/-- **Bits with an exponent are unpacked** into a number with fifty-three digits. -/
theorem unpack_withBits {k : Nat} (hlow : 2 ^ 52 ≤ k) (hk : k < infinityBits) :
    ∃ (m : Nat) (hm : 0 < m), m.log2 = 52 ∧
      unpack .binary64 (withBits false k).toBits.toBitVec =
        .finite .positive m (((k / 2 ^ 52 : Nat) : Int) - 1075) hm := by
  have hbits : (withBits false k).toBits.toNat = k := toNat_toBits_withBits false hk
  generalize hb : (withBits false k).toBits.toBitVec = b
  replace hb : b.toNat = k := by rw [← hb, UInt64.toNat_toBitVec, hbits]
  unfold infinityBits at hk
  have hexponent : (@unpackExponent .binary64 b).toNat = k / 2 ^ 52 := by
    rw [toNat_unpackExponent, hb]
    omega
  have hsign : @unpackSign .binary64 b = 0#1 := by
    have htoNat : (@unpackSign .binary64 b).toNat = b.toNat / 2 ^ 63 % 2 := by
      simp [unpackSign, Nat.shiftRight_eq_div_pow]
    rw [← BitVec.toNat_inj, htoNat, hb]
    show k / 2 ^ 63 % 2 = 0
    omega
  have hlarge : @unpackExponent .binary64 b ≠ -1#_ := by
    rw [ne_eq, unpackExponent_eq_iff, hb]
    omega
  have hzero : @unpackExponent .binary64 b ≠ 0#_ := by
    rw [ne_eq, ← BitVec.toNat_inj, hexponent]
    show k / 2 ^ 52 ≠ 0
    omega
  have hm : (1#1 ++ @unpackMantissa .binary64 b).toNat =
      2 ^ 52 + (@unpackMantissa .binary64 b).toNat := by
    rw [toNat_append_eq]
    rfl
  have hmantissa : (@unpackMantissa .binary64 b).toNat < 2 ^ 52 :=
    (@unpackMantissa .binary64 b).isLt
  refine ⟨(1#1 ++ @unpackMantissa .binary64 b).toNat, by omega, ?_, ?_⟩
  · rw [hm]
    exact (Nat.log2_eq_iff (by omega)).2 ⟨by omega, by omega⟩
  · unfold unpack
    dsimp only
    rw [if_neg hlarge, if_neg hzero, hsign, ← hexponent]
    rfl

/-! ### Products -/

theorem withBits_toNat (x : Float) : withBits false x.toBits.toNat = x := by
  show Float.ofBits (UInt64.ofNat (x.toBits.toNat + 0)) = x
  rw [Nat.add_zero, UInt64.ofNat_toNat, Float.ofBits_toBits]

/-- **The product of large doubles is large**, or infinite. -/
theorem mul_withBits {j k : Nat} (hj : 2 ^ 52 ≤ j) (hj' : j < infinityBits) (hk : 2 ^ 52 ≤ k)
    (hk' : k < infinityBits) (h : 1024 ≤ j / 2 ^ 52 + k / 2 ^ 52) :
    ∃ l, withBits false j * withBits false k = withBits false l ∧ l ≤ infinityBits ∧
      min ((j / 2 ^ 52 + k / 2 ^ 52 - 1023) * 2 ^ 52) infinityBits ≤ l := by
  obtain ⟨m₁, hm₁, hlog₁, hunpack₁⟩ := unpack_withBits hj hj'
  obtain ⟨m₂, hm₂, hlog₂, hunpack₂⟩ := unpack_withBits hk hk'
  have hproduct : 104 ≤ (m₁ * m₂).log2 := by
    rw [Nat.le_log2 (Nat.mul_ne_zero hm₁.ne' hm₂.ne')]
    calc 2 ^ 104 = 2 ^ m₁.log2 * 2 ^ m₂.log2 := by rw [hlog₁, hlog₂, ← pow_add]
      _ ≤ m₁ * m₂ := Nat.mul_le_mul (Nat.log2_self_le hm₁.ne') (Nat.log2_self_le hm₂.ne')
  obtain ⟨n, f, hn, hround, hlow, hhigh, hf⟩ := roundWithAccuracy_eq .positive (m := m₁ * m₂)
    (e := ((j / 2 ^ 52 : Nat) : Int) - 1075 + (((k / 2 ^ 52 : Nat) : Int) - 1075)) (by omega)
    (by omega)
  have hbits : (withBits false j * withBits false k).toBits.toNat =
      min (Dyadic.bits ⟨n, f⟩) infinityBits := by
    rw [← toNat_pack hn hlow hhigh (by omega), ← hround]
    show (pack .binary64 (mul .binary64 (unpack .binary64 (withBits false j).toBits.toBitVec)
      (unpack .binary64 (withBits false k).toBits.toBitVec))).toNat = _
    rw [hunpack₁, hunpack₂]
    rfl
  refine ⟨min (Dyadic.bits ⟨n, f⟩) infinityBits, ?_, min_le_right _ _, min_le_min ?_ le_rfl⟩
  · rw [← hbits, withBits_toNat]
  · unfold Dyadic.bits
    dsimp only
    omega

end ShaderEffect.Decimal
