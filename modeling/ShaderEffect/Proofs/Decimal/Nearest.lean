/-
**The double nearest to a fraction.**

The fractions that are rounded to a finite double are those between the midpoints to its two
neighbours, and a midpoint is rounded to the neighbour with an even significand.  The gap below a
power of two is half the gap above it, so that there the lower midpoint is nearer; and what lies
just below a power of two has one more binary digit until it is rounded up.

Main definitions:

* `ShaderEffect.Decimal.Dyadic.value` — a dyadic number as a fraction;
* `ShaderEffect.Decimal.Nearest` — the whole number nearest to a fraction;
* `ShaderEffect.Decimal.Dyadic.Reads` — **the fractions that are rounded to a double**.

Main results:

* `ShaderEffect.Decimal.leadingBit_spec` — the leading binary digit of a fraction;
* `ShaderEffect.Decimal.roundHalfEven_eq` — fractions are rounded to the nearest whole number;
* `ShaderEffect.Decimal.nearestBits_eq` — **fractions are rounded to the nearest double**;
* `ShaderEffect.Decimal.nearestBits_lt` — a fraction that is not too large is rounded to a finite
  one.
-/

import ShaderEffect.Decimal.Shortest
import ShaderEffect.Proofs.Decimal.Bits

set_option autoImplicit false

namespace ShaderEffect.Decimal

/-! ### Powers -/

/-- A power with a sign is a fraction of two without. -/
theorem zpow_eq_div {b : Nat} (hb : b ≠ 0) (q : Int) :
    (b : ℚ) ^ q = (b ^ q.toNat : Nat) / (b ^ (-q).toNat : Nat) := by
  have hb' : (b : ℚ) ≠ 0 := Nat.cast_ne_zero.2 hb
  have hq : q = (q.toNat : Int) - ((-q).toNat : Int) := by omega
  rw [Nat.cast_pow, Nat.cast_pow, ← zpow_natCast, ← zpow_natCast, ← zpow_sub₀ hb', ← hq]

/-- A fraction over a power of two. -/
theorem div_zpow_eq (num den : Nat) (q : Int) :
    (num / den : ℚ) / 2 ^ q =
      (num * Nat.pow 2 (-q).toNat : Nat) / (den * Nat.pow 2 q.toNat : Nat) := by
  have h := zpow_eq_div (b := 2) (by decide) q
  rw [Nat.cast_ofNat] at h
  rw [h, Nat.cast_mul, Nat.cast_mul]
  show _ = ((num : ℚ) * (2 ^ (-q).toNat : Nat)) / ((den : ℚ) * (2 ^ q.toNat : Nat))
  rw [div_div_div_eq]

theorem mul_pow_ne_zero {den : Nat} (hden : den ≠ 0) (k : Nat) : den * Nat.pow 2 k ≠ 0 :=
  Nat.mul_ne_zero hden (Nat.ne_of_gt (Nat.pow_pos (by decide)))

/-! ### The leading digit -/

section Leading

variable {num den : Nat}

/-- A fraction lies below a power of two. -/
theorem div_lt_zpow_iff (hden : den ≠ 0) (q : Int) :
    (num / den : ℚ) < 2 ^ q ↔ num * Nat.pow 2 (-q).toNat < den * Nat.pow 2 q.toNat := by
  have hpos : 0 < den * Nat.pow 2 q.toNat := Nat.pos_of_ne_zero (mul_pow_ne_zero hden _)
  rw [← div_lt_one₀ (zpow_pos (by norm_num) q), div_zpow_eq, div_lt_one₀ (Nat.cast_pos.2 hpos),
    Nat.cast_lt]

/-- **The leading binary digit of a fraction.** -/
theorem leadingBit_spec (hnum : num ≠ 0) (hden : den ≠ 0) :
    (2 : ℚ) ^ leadingBit num den ≤ num / den ∧
      (num / den : ℚ) < 2 ^ (leadingBit num den + 1) := by
  have hpos : (0 : ℚ) < den := Nat.cast_pos.2 (Nat.pos_of_ne_zero hden)
  have hnumLow : (2 : ℚ) ^ (num.log2 : Int) ≤ num := by
    exact_mod_cast Nat.log2_self_le hnum
  have hnumHigh : (num : ℚ) < 2 ^ ((num.log2 : Int) + 1) := by
    exact_mod_cast Nat.lt_log2_self (n := num)
  have hdenLow : (2 : ℚ) ^ (den.log2 : Int) ≤ den := by
    exact_mod_cast Nat.log2_self_le hden
  have hdenHigh : (den : ℚ) < 2 ^ ((den.log2 : Int) + 1) := by
    exact_mod_cast Nat.lt_log2_self (n := den)
  -- the digits of numerator and denominator tell the leading one of the fraction up to one place
  have hlow : (2 : ℚ) ^ ((num.log2 : Int) - den.log2 - 1) ≤ num / den := by
    rw [le_div_iff₀ hpos]
    calc (2 : ℚ) ^ ((num.log2 : Int) - den.log2 - 1) * den
        ≤ 2 ^ ((num.log2 : Int) - den.log2 - 1) * 2 ^ ((den.log2 : Int) + 1) :=
          mul_le_mul_of_nonneg_left hdenHigh.le (zpow_nonneg (by norm_num) _)
      _ = 2 ^ (num.log2 : Int) := by
          rw [← zpow_add₀ (by norm_num)]
          congr 1
          ring
      _ ≤ num := hnumLow
  have hhigh : (num / den : ℚ) < 2 ^ ((num.log2 : Int) - den.log2 + 1) := by
    rw [div_lt_iff₀ hpos]
    calc (num : ℚ) < 2 ^ ((num.log2 : Int) + 1) := hnumHigh
      _ = 2 ^ ((num.log2 : Int) - den.log2 + 1) * 2 ^ (den.log2 : Int) := by
          rw [← zpow_add₀ (by norm_num)]
          congr 1
          ring
      _ ≤ 2 ^ ((num.log2 : Int) - den.log2 + 1) * den :=
          mul_le_mul_of_nonneg_left hdenLow (zpow_nonneg (by norm_num) _)
  unfold leadingBit
  dsimp only
  split
  case isTrue h =>
    rw [Int.sub_add_cancel]
    exact ⟨hlow, (div_lt_zpow_iff hden _).2 h⟩
  case isFalse h =>
    exact ⟨not_lt.1 (mt (div_lt_zpow_iff hden _).1 h), hhigh⟩

/-- A power of two that a fraction reaches is no greater than that of its leading digit. -/
theorem le_leadingBit (hnum : num ≠ 0) (hden : den ≠ 0) {q : Int} (h : (2 : ℚ) ^ q ≤ num / den) :
    q ≤ leadingBit num den := by
  have hlt := lt_of_le_of_lt h (leadingBit_spec hnum hden).2
  rw [zpow_lt_zpow_iff_right₀ (by norm_num)] at hlt
  omega

/-- A power of two that a fraction does not reach is greater than that of its leading digit. -/
theorem leadingBit_lt (hnum : num ≠ 0) (hden : den ≠ 0) {q : Int} (h : (num / den : ℚ) < 2 ^ q) :
    leadingBit num den < q := by
  have hlt := lt_of_le_of_lt (leadingBit_spec hnum hden).1 h
  rwa [zpow_lt_zpow_iff_right₀ (by norm_num)] at hlt

end Leading

/-! ### Whole numbers -/

/-- The whole number nearest to a fraction; between two of them, the even one. -/
structure Nearest (v : ℚ) (n : Nat) : Prop where
  low : (n : ℚ) - 1 / 2 ≤ v
  high : v ≤ n + 1 / 2
  tie : v = n - 1 / 2 ∨ v = n + 1 / 2 → n % 2 = 0

/-- **Fractions are rounded to the nearest whole number.** -/
theorem roundHalfEven_eq {num den n : Nat} (hden : den ≠ 0) (h : Nearest (num / den) n) :
    roundHalfEven num den = n := by
  have hpos : (0 : ℚ) < den := Nat.cast_pos.2 (Nat.pos_of_ne_zero hden)
  have hlow : 2 * (n * den) ≤ 2 * num + den := by
    have := h.low
    rw [le_div_iff₀ hpos] at this
    have : (2 * (n * den) : ℚ) ≤ 2 * num + den := by linarith
    exact_mod_cast this
  have hhigh : 2 * num ≤ 2 * (n * den) + den := by
    have := h.high
    rw [div_le_iff₀ hpos] at this
    have : (2 * num : ℚ) ≤ 2 * (n * den) + den := by linarith
    exact_mod_cast this
  have htie : 2 * (n * den) = 2 * num + den ∨ 2 * num = 2 * (n * den) + den → n % 2 = 0 := by
    intro heq
    refine h.tie (heq.imp (fun heq => ?_) fun heq => ?_)
    · rw [div_eq_iff hpos.ne']
      have : (2 * (n * den) : ℚ) = 2 * num + den := by exact_mod_cast heq
      linarith
    · rw [div_eq_iff hpos.ne']
      have : (2 * num : ℚ) = 2 * (n * den) + den := by exact_mod_cast heq
      linarith
  -- the whole number is the quotient or the one above it
  have hdivision := Nat.div_add_mod' num den
  have hmod := Nat.mod_lt num (Nat.pos_of_ne_zero hden)
  unfold roundHalfEven
  dsimp only
  generalize num / den = q at hdivision ⊢
  generalize num % den = r at hdivision hmod ⊢
  have hle : n ≤ q + 1 := by
    by_contra hgt
    have hmul : (q + 2) * den ≤ n * den := Nat.mul_le_mul_right _ (by omega)
    rw [Nat.add_mul] at hmul
    omega
  have hge : q ≤ n := by
    by_contra hlt
    have hmul : (n + 1) * den ≤ q * den := Nat.mul_le_mul_right _ (by omega)
    rw [Nat.add_mul] at hmul
    omega
  rcases (by omega : n = q ∨ n = q + 1) with rfl | rfl
  · split
    · rfl
    · split
      · omega
      · rw [if_pos (htie (by omega))]
  · rw [Nat.add_mul] at hlow hhigh htie
    split
    · omega
    · split
      · rfl
      · have := htie (by omega)
        rw [if_neg (by omega)]

/-- Rounding adds less than one. -/
theorem roundHalfEven_le {num den n : Nat} (hden : den ≠ 0) (h : (num / den : ℚ) < n) :
    roundHalfEven num den ≤ n := by
  have hlt : num / den < n := by
    rw [div_lt_iff₀ (Nat.cast_pos.2 (Nat.pos_of_ne_zero hden))] at h
    rw [Nat.div_lt_iff_lt_mul (Nat.pos_of_ne_zero hden)]
    exact_mod_cast h
  unfold roundHalfEven
  dsimp only
  split
  · omega
  · split
    · omega
    · split <;> omega

/-! ### Doubles -/

namespace Dyadic

/-- A dyadic number as a fraction. -/
def value (d : Dyadic) : ℚ := d.significand * 2 ^ d.exponent

/-- How far below a double the fractions begin that are rounded to it, in quarters of a unit of its
last digit. -/
def margin (d : Dyadic) : ℚ := if d.narrowBelow then 1 else 2

/-- **The fractions that are rounded to a double**: those between two midpoints, which belong to the
doubles with an even significand. -/
structure Reads (d : Dyadic) (v : ℚ) : Prop where
  low : (4 * d.significand - d.margin) * 2 ^ (d.exponent - 2) ≤ v
  high : v ≤ (4 * d.significand + 2) * 2 ^ (d.exponent - 2)
  tie : v = (4 * d.significand - d.margin) * 2 ^ (d.exponent - 2) ∨
    v = (4 * d.significand + 2) * 2 ^ (d.exponent - 2) → d.significand % 2 = 0

variable {d : Dyadic} {v : ℚ}

/-- The same bounds, in units of the last digit. -/
theorem Reads.scaled (h : d.Reads v) :
    (d.significand : ℚ) - d.margin / 4 ≤ v / 2 ^ d.exponent ∧
      v / 2 ^ d.exponent ≤ d.significand + 1 / 2 ∧
      (v / 2 ^ d.exponent = d.significand - d.margin / 4 ∨
        v / 2 ^ d.exponent = d.significand + 1 / 2 → d.significand % 2 = 0) := by
  have hpos : (0 : ℚ) < 2 ^ d.exponent := zpow_pos (by norm_num) _
  have hquarter : (2 : ℚ) ^ (d.exponent - 2) = 2 ^ d.exponent / 4 := by
    rw [zpow_sub₀ (by norm_num)]
    norm_num
  obtain ⟨hlow, hhigh, htie⟩ := h
  rw [hquarter] at hlow hhigh htie
  refine ⟨?_, ?_, fun heq => htie (heq.imp (fun heq => ?_) fun heq => ?_)⟩
  · rw [le_div_iff₀ hpos]
    linarith
  · rw [div_le_iff₀ hpos]
    linarith
  · rw [div_eq_iff hpos.ne'] at heq
    linarith
  · rw [div_eq_iff hpos.ne'] at heq
    linarith

/-- The gap below a number is narrow at a power of two. -/
theorem narrowBelow_iff : d.narrowBelow = true ↔ d.significand = 2 ^ 52 ∧ -1074 < d.exponent := by
  simp [narrowBelow]

theorem margin_cases (d : Dyadic) :
    (d.significand = 2 ^ 52 ∧ -1074 < d.exponent) ∧ d.margin = 1 ∨
      ¬ (d.significand = 2 ^ 52 ∧ -1074 < d.exponent) ∧ d.margin = 2 := by
  rw [← narrowBelow_iff]
  unfold margin
  by_cases h : d.narrowBelow = true
  · exact Or.inl ⟨h, if_pos h⟩
  · exact Or.inr ⟨h, if_neg h⟩

theorem margin_pos (d : Dyadic) : 0 < d.margin := by
  unfold margin
  split <;> norm_num

theorem margin_le (d : Dyadic) : d.margin ≤ 2 := by
  unfold margin
  split <;> norm_num

/-- In units of the last digit, the significand is the nearest whole number. -/
theorem Reads.nearest (h : d.Reads v) : Nearest (v / 2 ^ d.exponent) d.significand := by
  obtain ⟨hlow, hhigh, htie⟩ := h.scaled
  rcases d.margin_cases with ⟨-, hm⟩ | ⟨-, hm⟩
  all_goals rw [hm] at hlow htie
  · refine ⟨by linarith, hhigh, ?_⟩
    rintro (heq | heq)
    · linarith
    · exact htie (Or.inr heq)
  · have hhalf : (2 : ℚ) / 4 = 1 / 2 := by norm_num
    rw [hhalf] at hlow htie
    exact ⟨hlow, hhigh, htie⟩

/-- What is below the least significand of its exponent is just below a power of two, which is the
nearest whole number in half the units as well. -/
theorem Reads.nearest_below (h : d.Reads v) (hd : d.Canonical) (hne : d.exponent ≠ -1074)
    (hbelow : v / 2 ^ d.exponent < 2 ^ 52) :
    d.significand = 2 ^ 52 ∧ (2 : ℚ) ^ 51 ≤ v / 2 ^ d.exponent ∧
      Nearest (v / 2 ^ (d.exponent - 1)) (2 ^ 53) := by
  obtain ⟨hlow, -, -⟩ := h.scaled
  have hnormal : (2 : ℚ) ^ 52 ≤ d.significand := by exact_mod_cast hd.normal hne
  obtain ⟨⟨hm, -⟩, hmargin⟩ : (d.significand = 2 ^ 52 ∧ -1074 < d.exponent) ∧ d.margin = 1 := by
    rcases d.margin_cases with h | ⟨hnot, hm⟩
    · exact h
    · rw [hm] at hlow
      have hlt : (d.significand : ℚ) < 2 ^ 52 + 1 := by linarith
      have hlt : d.significand < 2 ^ 52 + 1 := by exact_mod_cast hlt
      have hleast := hd.least
      exact absurd ⟨le_antisymm (by omega) (hd.normal hne), by omega⟩ hnot
  rw [hmargin, hm] at hlow
  push_cast at hlow
  have hdouble : v / 2 ^ (d.exponent - 1) = 2 * (v / 2 ^ d.exponent) := by
    rw [zpow_sub₀ (by norm_num)]
    field_simp
  refine ⟨hm, by linarith, ?_⟩
  rw [hdouble]
  push_cast
  refine ⟨?_, ?_, fun _ => by decide⟩ <;> push_cast <;> linarith

end Dyadic

/-- The bits of a fraction whose last digit is told. -/
theorem nearestBits_of_unit {num den n : Nat} {q : Int} (hnum : num ≠ 0) (hden : den ≠ 0)
    (hq : max (leadingBit num den - 52) (-1074) = q) (h : Nearest ((num / den) / 2 ^ q) n) :
    nearestBits num den = min ((q + 1074).toNat * 2 ^ 52 + n) infinityBits := by
  rw [div_zpow_eq] at h
  have hround := roundHalfEven_eq (mul_pow_ne_zero hden _) h
  unfold nearestBits
  rw [if_neg hnum, hq]
  dsimp only
  rw [hround]
  rfl

/-- **Fractions are rounded to the nearest double.** -/
theorem nearestBits_eq {d : Dyadic} {num den : Nat} (hd : d.Canonical) (hpos : 0 < d.significand)
    (hden : den ≠ 0) (h : d.Reads (num / den)) : nearestBits num den = d.bits := by
  obtain ⟨hlow, hhigh, -⟩ := h.scaled
  have hunit : (0 : ℚ) < 2 ^ d.exponent := zpow_pos (by norm_num) _
  have hnum : num ≠ 0 := by
    rintro rfl
    rw [Nat.cast_zero, zero_div, zero_div] at hlow
    have hone : (1 : ℚ) ≤ d.significand := by exact_mod_cast hpos
    have := d.margin_le
    linarith
  -- a fraction reaches a power of two if it does so in units of the last digit
  have hreaches (k : Nat) : (2 : ℚ) ^ ((k : Int) + d.exponent) ≤ num / den ↔
      (2 : ℚ) ^ k ≤ num / den / 2 ^ d.exponent := by
    rw [le_div_iff₀ hunit, zpow_add₀ (by norm_num), zpow_natCast]
  have hupper : leadingBit num den < 53 + d.exponent := by
    refine leadingBit_lt hnum hden (not_le.1 (mt (hreaches 53).1 (not_le.2 ?_)))
    have : (d.significand : ℚ) + 1 ≤ 2 ^ 53 := by exact_mod_cast hd.significand_lt
    linarith
  have hleast := hd.least
  have hbits := hd.bits_lt
  by_cases hbelow : d.exponent ≠ -1074 ∧ (num / den : ℚ) / 2 ^ d.exponent < 2 ^ 52
  · -- just below a power of two there is one more digit
    obtain ⟨hne, hbelow⟩ := hbelow
    obtain ⟨hm, hreached, hnearest⟩ := h.nearest_below hd hne hbelow
    have hlower : 51 + d.exponent ≤ leadingBit num den :=
      le_leadingBit hnum hden ((hreaches 51).2 hreached)
    have hupper' : leadingBit num den < 52 + d.exponent :=
      leadingBit_lt hnum hden (not_le.1 (mt (hreaches 52).1 (not_le.2 hbelow)))
    rw [nearestBits_of_unit hnum hden (by omega) hnearest]
    unfold Dyadic.bits at hbits ⊢
    rw [hm] at hbits ⊢
    omega
  · -- else the last digit is that of the double
    have hunits : max (leadingBit num den - 52) (-1074) = d.exponent := by
      by_cases hmin : d.exponent = -1074
      · omega
      · have := le_leadingBit hnum hden ((hreaches 52).2 (not_lt.1 fun h => hbelow ⟨hmin, h⟩))
        omega
    rw [nearestBits_of_unit hnum hden hunits h.nearest]
    exact min_eq_left hbits.le

/-- **A fraction that is not too large is rounded to a finite double.** -/
theorem nearestBits_lt {num den : Nat} (hden : den ≠ 0) (h : (num / den : ℚ) < 2 ^ (1023 : Int)) :
    nearestBits num den < infinityBits := by
  by_cases hnum : num = 0
  · rw [nearestBits, if_pos hnum]
    decide
  have hleading := leadingBit_lt hnum hden h
  unfold nearestBits
  rw [if_neg hnum]
  dsimp only
  generalize hq : max (leadingBit num den - 52) (-1074) = q
  have hround : roundHalfEven (num * Nat.pow 2 (-q).toNat) (den * Nat.pow 2 q.toNat) ≤ 2 ^ 53 := by
    refine roundHalfEven_le (mul_pow_ne_zero hden _) ?_
    rw [← div_zpow_eq, div_lt_iff₀ (zpow_pos (by norm_num) _)]
    refine (leadingBit_spec hnum hden).2.trans_le ?_
    calc (2 : ℚ) ^ (leadingBit num den + 1) ≤ 2 ^ (53 + q) :=
          zpow_le_zpow_right₀ (by norm_num) (by omega)
      _ = ((2 ^ 53 : Nat) : ℚ) * 2 ^ q := by
          rw [zpow_add₀ (by norm_num)]
          norm_num
  refine (min_le_left _ _).trans_lt ?_
  show (q + 1074).toNat * 2 ^ 52 + _ < 2047 * 2 ^ 52
  omega

end ShaderEffect.Decimal
