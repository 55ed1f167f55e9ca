/-
**The digits of a double are read back.**

The digits that are selected for a double are those of a fraction that is rounded to it: a decimal
number is only taken where it lies between the midpoints to the two neighbours, and were there none,
the exact value would be.  So whoever reads these digits gets the double back; the numbers that are
too large or too small to be looked at closely are none of them.

Main definitions:

* `ShaderEffect.Decimal.Digits.value` — a decimal number as a fraction.

Main results:

* `ShaderEffect.Decimal.Dyadic.readsBack_iff` — what is compared are fractions;
* `ShaderEffect.Decimal.reads_shortest` — **the selected digits are rounded to the double**;
* `ShaderEffect.Decimal.ofDecimal_eq` — **digits that are rounded to a double are read as it**.
-/

import ShaderEffect.Decimal.Reader
import ShaderEffect.Proofs.Decimal.Nearest

set_option autoImplicit false

namespace ShaderEffect.Decimal

/-- A decimal number as a fraction. -/
def Digits.value (d : Digits) : ℚ := d.digits * 10 ^ d.exponent

/-! ### Comparing -/

section Compare

variable {a b : Nat} {i j : Int}

/-- What is compared are two fractions, with their denominators multiplied away. -/
theorem exists_scale (a b : Nat) (i j : Int) : ∃ c : ℚ, 0 < c ∧
    ((a * Nat.pow 10 i.toNat * Nat.pow 2 (-j).toNat : Nat) : ℚ) = a * 10 ^ i * c ∧
      ((b * Nat.pow 2 j.toNat * Nat.pow 10 (-i).toNat : Nat) : ℚ) = b * 2 ^ j * c := by
  have hten := zpow_eq_div (b := 10) (by decide) i
  have htwo := zpow_eq_div (b := 2) (by decide) j
  rw [Nat.cast_ofNat] at hten htwo
  have hten' : ((10 ^ (-i).toNat : Nat) : ℚ) ≠ 0 := by positivity
  have htwo' : ((2 ^ (-j).toNat : Nat) : ℚ) ≠ 0 := by positivity
  refine ⟨(10 ^ (-i).toNat : Nat) * (2 ^ (-j).toNat : Nat), by positivity, ?_, ?_⟩
  · rw [hten]
    show ((a * 10 ^ i.toNat * 2 ^ (-j).toNat : Nat) : ℚ) = _
    rw [Nat.cast_mul, Nat.cast_mul]
    field_simp
  · rw [htwo]
    show ((b * 2 ^ j.toNat * 10 ^ (-i).toNat : Nat) : ℚ) = _
    rw [Nat.cast_mul, Nat.cast_mul]
    field_simp

theorem compareScaled_eq_lt : compareScaled a i b j = .lt ↔ (a * 10 ^ i : ℚ) < b * 2 ^ j := by
  obtain ⟨c, hc, ha, hb⟩ := exists_scale a b i j
  rw [compareScaled, Nat.compare_eq_lt, ← Nat.cast_lt (α := ℚ), ha, hb, mul_lt_mul_iff_left₀ hc]

theorem compareScaled_eq_eq : compareScaled a i b j = .eq ↔ (a * 10 ^ i : ℚ) = b * 2 ^ j := by
  obtain ⟨c, hc, ha, hb⟩ := exists_scale a b i j
  rw [compareScaled, Nat.compare_eq_eq, ← Nat.cast_inj (R := ℚ), ha, hb, mul_left_inj' hc.ne']

theorem compareScaled_eq_gt : compareScaled a i b j = .gt ↔ (b * 2 ^ j : ℚ) < a * 10 ^ i := by
  obtain ⟨c, hc, ha, hb⟩ := exists_scale a b i j
  rw [compareScaled, Nat.compare_eq_gt, ← Nat.cast_lt (α := ℚ), ha, hb, mul_lt_mul_iff_left₀ hc]

end Compare

namespace Dyadic

variable {x : Dyadic} {d : Digits} {v : ℚ}

/-- **What is compared are fractions**: a decimal number is taken to be read as a double if it is
rounded to it. -/
theorem readsBack_iff (hpos : 0 < x.significand) : x.readsBack d = true ↔ x.Reads d.value := by
  have hlow : ((4 * x.significand - if x.narrowBelow then 1 else 2 : Nat) : ℚ) =
      4 * x.significand - x.margin := by
    unfold margin
    split
    · rw [Nat.cast_sub (by omega)]
      push_cast
      rfl
    · rw [Nat.cast_sub (by omega)]
      push_cast
      rfl
  have hhigh : ((4 * x.significand + 2 : Nat) : ℚ) = 4 * x.significand + 2 := by
    push_cast
    rfl
  unfold readsBack
  simp only [Bool.and_eq_true, Bool.or_eq_true, beq_iff_eq, compareScaled_eq_gt,
    compareScaled_eq_eq, compareScaled_eq_lt, hlow, hhigh]
  change (_ < d.value ∨ _ ∧ d.value = _) ∧ (d.value < _ ∨ _ ∧ d.value = _) ↔ _
  constructor
  · rintro ⟨hlow, hhigh⟩
    refine ⟨?_, ?_, ?_⟩
    · exact hlow.elim le_of_lt fun h => h.2.ge
    · exact hhigh.elim le_of_lt fun h => h.2.le
    · rintro (heq | heq)
      · exact hlow.elim (fun h => absurd heq h.ne') And.left
      · exact hhigh.elim (fun h => absurd heq h.ne) And.left
  · rintro ⟨hlow, hhigh, htie⟩
    constructor
    · rcases hlow.lt_or_eq with h | h
      · exact Or.inl h
      · exact Or.inr ⟨htie (Or.inl h.symm), h.symm⟩
    · rcases hhigh.lt_or_eq with h | h
      · exact Or.inl h
      · exact Or.inr ⟨htie (Or.inr h), h⟩

/-- What is taken on a grid is read back. -/
theorem readsBack_of_onGrid? {tie : Tie} {g : Int} (h : x.onGrid? tie g = some d) :
    x.readsBack d = true := by
  unfold onGrid? at h
  dsimp only at h
  split at h
  · cases h
  · rename_i hbelow _
    cases h
    exact hbelow
  · rename_i habove
    cases h
    exact habove
  · rename_i hbelow habove
    -- one of the two neighbours is taken, and both are read back
    repeat' split at h
    all_goals
      cases h
      first | exact hbelow | exact habove

/-- A number is rounded to itself. -/
theorem reads_value (x : Dyadic) : x.Reads x.value := by
  have hunit : (0 : ℚ) < 2 ^ (x.exponent - 2) := zpow_pos (by norm_num) _
  have hvalue : x.value = 4 * x.significand * 2 ^ (x.exponent - 2) := by
    rw [value, zpow_sub₀ (by norm_num)]
    ring
  have hmargin := x.margin_pos
  have hlow : (4 * x.significand - x.margin) * 2 ^ (x.exponent - 2) < x.value := by
    rw [hvalue]
    exact mul_lt_mul_of_pos_right (by linarith) hunit
  have hhigh : x.value < (4 * x.significand + 2) * 2 ^ (x.exponent - 2) := by
    rw [hvalue]
    exact mul_lt_mul_of_pos_right (by linarith) hunit
  exact ⟨hlow.le, hhigh.le, fun h => (h.elim hlow.ne' hhigh.ne).elim⟩

end Dyadic

/-- The decimal number that is exactly a dyadic one. -/
theorem value_exact (x : Dyadic) :
    Digits.value ⟨x.num * Nat.pow 5 (-x.exponent).toNat, min x.exponent 0⟩ = x.value := by
  have hnum : ((x.num * Nat.pow 5 (-x.exponent).toNat : Nat) : ℚ) =
      x.significand * 2 ^ x.exponent.toNat * 5 ^ (-x.exponent).toNat := by
    show ((x.significand * 2 ^ x.exponent.toNat * 5 ^ (-x.exponent).toNat : Nat) : ℚ) = _
    push_cast
    rfl
  rw [Digits.value, Dyadic.value, hnum]
  dsimp only
  generalize x.exponent = e
  rcases le_total 0 e with h | h
  · obtain ⟨k, rfl⟩ := Int.eq_ofNat_of_zero_le h
    simp
  · -- each half of a unit is five tenths
    obtain ⟨k, hk⟩ := Int.eq_ofNat_of_zero_le (Int.neg_nonneg.2 h)
    obtain rfl : e = -(k : Int) := by omega
    have hten : (10 : ℚ) ^ k = 2 ^ k * 5 ^ k := by
      rw [← mul_pow]
      norm_num
    rw [min_eq_left h, neg_neg, Int.toNat_natCast, zpow_neg, zpow_neg, zpow_natCast, zpow_natCast,
      hten, Int.toNat_eq_zero.2 h]
    field_simp

/-- **The selected digits are rounded to the double.** -/
theorem reads_shortest (tie : Tie) {x : Dyadic} (hpos : 0 < x.significand) :
    x.Reads (shortest tie x).value := by
  unfold shortest
  rw [if_neg hpos.ne']
  cases hfind : (List.range 24).findSome? fun (i : Nat) =>
      x.onGrid? tie (x.coarseGrid - (i : Int)) with
  | some d =>
    obtain ⟨i, -, hd⟩ := List.exists_of_findSome?_eq_some hfind
    exact (x.readsBack_iff hpos).1 (Dyadic.readsBack_of_onGrid? hd)
  | none =>
    rw [Option.getD_none]
    rw [value_exact]
    exact x.reads_value

/-! ### Reading -/

section Reading

variable {x : Dyadic} {d : Digits}

/-- What is rounded to a double is not too large, and not too small. -/
theorem Dyadic.Reads.bounds {v : ℚ} (h : x.Reads v) (hx : x.Canonical) (hpos : 0 < x.significand) :
    (2 : ℚ) ^ (-1075 : Int) ≤ v ∧ v < 10 ^ (401 : Int) := by
  obtain ⟨hleast, hle, hlt, -⟩ := hx
  have hone : (1 : ℚ) ≤ x.significand := by exact_mod_cast hpos
  have hmargin := x.margin_le
  constructor
  · refine le_trans ?_ h.low
    calc (2 : ℚ) ^ (-1075 : Int) = 2 * 2 ^ (-1076 : Int) :=
          zpow_one_add₀ (by norm_num) (-1076)
      _ ≤ 2 * 2 ^ (x.exponent - 2) :=
          mul_le_mul_of_nonneg_left (zpow_le_zpow_right₀ (by norm_num) (by omega)) (by norm_num)
      _ ≤ _ := mul_le_mul_of_nonneg_right (by linarith) (zpow_nonneg (by norm_num) _)
  · refine h.high.trans_lt ?_
    have hsignificand : (4 * x.significand + 2 : ℚ) ≤ 2 ^ 56 := by
      exact_mod_cast (by omega : 4 * x.significand + 2 ≤ 2 ^ 56)
    calc (4 * x.significand + 2 : ℚ) * 2 ^ (x.exponent - 2)
        ≤ 2 ^ 56 * 2 ^ (969 : Int) :=
          mul_le_mul hsignificand (zpow_le_zpow_right₀ (by norm_num) (by omega))
            (zpow_nonneg (by norm_num) _) (by norm_num)
      _ = ((2 ^ 56 * 2 ^ 969 : Nat) : ℚ) := by
          rw [zpow_ofNat, Nat.cast_mul, Nat.cast_pow, Nat.cast_pow, Nat.cast_ofNat]
      _ < ((10 ^ 401 : Nat) : ℚ) := Nat.cast_lt.2 (by decide +kernel)
      _ = 10 ^ (401 : Int) := by rw [zpow_ofNat, Nat.cast_pow, Nat.cast_ofNat]

/-- A whole number is less than a power of ten with as many digits as it has octal ones. -/
theorem lt_ten_pow (n : Nat) : (n : ℚ) < 10 ^ (n.log2 / 3 + 1) := by
  have hlt : n < 10 ^ (n.log2 / 3 + 1) :=
    calc n < 2 ^ (n.log2 + 1) := Nat.lt_log2_self
      _ ≤ 2 ^ (3 * (n.log2 / 3 + 1)) := Nat.pow_le_pow_right (by decide) (by omega)
      _ = 8 ^ (n.log2 / 3 + 1) := Nat.pow_mul 2 3 _
      _ ≤ 10 ^ (n.log2 / 3 + 1) := Nat.pow_le_pow_left (by decide) _
  exact_mod_cast hlt

/-- **Digits that are rounded to a double are read as it.** -/
theorem ofDecimal_eq (hx : x.Canonical) (hpos : 0 < x.significand) (h : x.Reads d.value) :
    ofDecimal false d.digits d.exponent = withBits false x.bits := by
  obtain ⟨hlow, hhigh⟩ := h.bounds hx hpos
  have hten : (0 : ℚ) < 10 ^ d.exponent := zpow_pos (by norm_num) _
  have hdigits : d.digits ≠ 0 := by
    intro hzero
    rw [Digits.value, hzero, Nat.cast_zero, zero_mul] at hlow
    exact absurd hlow (not_le.2 (zpow_pos (by norm_num) _))
  have hone : (1 : ℚ) ≤ d.digits := by exact_mod_cast Nat.pos_of_ne_zero hdigits
  -- the number is looked at closely
  have hlarge : ¬ 400 < d.exponent := by
    have hle : (10 : ℚ) ^ d.exponent ≤ d.value := le_mul_of_one_le_left hten.le hone
    have := (zpow_lt_zpow_iff_right₀ (by norm_num)).1 (hle.trans_lt hhigh)
    omega
  have hsmall : ¬ d.exponent + (d.digits.log2 / 3 + 1 : Nat) < -330 := by
    intro hlt
    have hvalue : d.value < 10 ^ (-330 : Int) :=
      calc d.value < 10 ^ (d.digits.log2 / 3 + 1) * 10 ^ d.exponent :=
            mul_lt_mul_of_pos_right (lt_ten_pow _) hten
        _ = 10 ^ (d.exponent + (d.digits.log2 / 3 + 1 : Nat)) := by
            rw [zpow_add₀ (by norm_num), zpow_natCast, mul_comm]
        _ ≤ 10 ^ (-330 : Int) := zpow_le_zpow_right₀ (by norm_num) hlt.le
    have hpowers : ((2 ^ 1075 : Nat) : ℚ) ≤ (10 ^ 330 : Nat) := Nat.cast_le.2 (by decide +kernel)
    have hpowers : (10 : ℚ) ^ (-330 : Int) ≤ 2 ^ (-1075 : Int) := by
      rw [Nat.cast_pow, Nat.cast_pow, Nat.cast_ofNat, Nat.cast_ofNat] at hpowers
      rw [zpow_neg, zpow_neg, zpow_ofNat, zpow_ofNat]
      exact inv_anti₀ (by positivity) hpowers
    exact absurd (hlow.trans_lt hvalue) (not_lt.2 hpowers)
  have hvalue : d.value = ((d.digits * Nat.pow 10 d.exponent.toNat : Nat) : ℚ) /
      (Nat.pow 10 (-d.exponent).toNat : Nat) := by
    have hten := zpow_eq_div (b := 10) (by decide) d.exponent
    rw [Nat.cast_ofNat] at hten
    rw [Digits.value, hten, Nat.cast_mul, mul_div_assoc]
    rfl
  have hden : Nat.pow 10 (-d.exponent).toNat ≠ 0 := Nat.ne_of_gt (Nat.pow_pos (by decide))
  rw [hvalue] at h
  unfold ofDecimal
  rw [if_neg hdigits, if_neg hlarge, if_neg hsmall, ofFraction_eq, nearestBits_eq hx hpos hden h]

end Reading

end ShaderEffect.Decimal
