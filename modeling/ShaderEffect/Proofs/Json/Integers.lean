/-
**Whole numbers as they are written.**

A whole number of a metadata text is read exactly if it fits a machine word.  One that does not is
read as its leading digits, as many as fill a word, times a power of ten, in double arithmetic.
That need not be the nearest double; but it is a large one, as the whole number is, and so both
are kept within thirty-two bits as the same limit.  A whole number of a word that is no double
itself is large, too.

Main definitions:

* `ShaderEffect.Decimal.Near` — bits that are as good as a whole number for thirty-two bits;
* `ShaderEffect.Json.Numeral.integer?` — the whole number that a numeral is;
* `ShaderEffect.Json.Writes` — **a value that stands where a whole number is written**.

Main results:

* `ShaderEffect.Value.longOf_withBits` — such bits are kept within thirty-two bits as the whole
  number;
* `ShaderEffect.Json.near_scale?` — leading digits times a power of ten are such bits;
* `ShaderEffect.Json.Writes.longOf` — **a whole number is read as itself, kept within thirty-two
  bits**;
* `ShaderEffect.Json.Writes.natural?_eq` — a whole number of a word is read as itself.
-/

import ShaderEffect.Json.Lexeme
import ShaderEffect.Parameter.Value
import ShaderEffect.Proofs.Decimal.Product
import ShaderEffect.Proofs.Decimal.Rounding

set_option autoImplicit false

namespace ShaderEffect

open Decimal

namespace Json

/-! ### Digits -/

/-- Digits behind a whole number. -/
theorem le_foldl_digits (n : Nat) (ds : List Char) :
    n ≤ ds.foldl (fun n c => 10 * n + digitValue c) n := by
  induction ds generalizing n with
  | nil => exact le_rfl
  | cons c ds ih =>
      rw [List.foldl_cons]
      exact (by omega : n ≤ 10 * n + digitValue c).trans (ih _)

theorem digitValue_le {c : Char} (hc : isDigit c) : digitValue c ≤ 9 := by
  simp only [isDigit, Bool.and_eq_true, decide_eq_true_eq, Char.le_def,
    UInt32.le_iff_toNat_le] at hc
  obtain ⟨-, hle⟩ := hc
  change c.toNat ≤ 57 at hle
  unfold digitValue
  omega

/-- What fits a word is the whole number that the digits write. -/
theorem accumulate_fits {n : Nat} {ds : List Char} (h : (accumulate n ds).2 = 0) :
    (accumulate n ds).1 = ds.foldl (fun n c => 10 * n + digitValue c) n := by
  induction ds generalizing n with
  | nil => rfl
  | cons c ds ih =>
      unfold accumulate at h ⊢
      split
      case isTrue hfits =>
        rw [if_pos hfits] at h
        exact ih h
      case isFalse hspilt =>
        rw [if_neg hspilt] at h
        exact absurd h (Nat.succ_ne_zero _)

/-- What does not fit a word fills it but for a digit, and the whole number that the digits write is
no less. -/
theorem accumulate_spills {n : Nat} {ds : List Char} (hds : ∀ c ∈ ds, isDigit c)
    (h : (accumulate n ds).2 ≠ 0) :
    maxWord < 10 * (accumulate n ds).1 + 10 ∧
      (accumulate n ds).1 ≤ ds.foldl (fun n c => 10 * n + digitValue c) n := by
  induction ds generalizing n with
  | nil => exact absurd rfl h
  | cons c ds ih =>
      obtain ⟨hc, hds⟩ := List.forall_mem_cons.1 hds
      unfold accumulate at h ⊢
      split
      case isTrue hfits =>
        rw [if_pos hfits] at h
        exact ih hds h
      case isFalse hspilt =>
        have hdigit := digitValue_le hc
        exact ⟨by dsimp only; omega, le_foldl_digits n (c :: ds)⟩

theorem accumulate_le {n : Nat} (hn : n ≤ maxWord) (ds : List Char) :
    (accumulate n ds).1 ≤ maxWord := by
  induction ds generalizing n with
  | nil => exact hn
  | cons c ds ih =>
      unfold accumulate
      split
      case isTrue hfits => exact ih hfits
      case isFalse => exact hn

/-- Digits before a point are digits. -/
theorem isDigit_of_digits {cs : List Char} {r : Reading (List Char) cs} (h : digits cs = .ok r) :
    ∀ c ∈ r.value, isDigit c := by
  unfold digits at h
  split at h
  · cases h
  · split at h
    · rename_i c cs hc
      cases h
      exact List.forall_mem_cons.2 ⟨hc, fun d hd => List.mem_takeWhile_imp hd⟩
    · cases h

theorem isDigit_of_wholePart {cs : List Char} {r : Reading (List Char) cs}
    (h : wholePart cs = .ok r) : ∀ c ∈ r.value, isDigit c := by
  unfold wholePart at h
  split at h
  · split at h
    · cases h
    · cases h
      exact List.forall_mem_singleton.2 rfl
  · exact isDigit_of_digits h

theorem isDigit_of_unsignedNumeral {negative : Bool} {cs : List Char} {r : Reading Numeral cs}
    (h : unsignedNumeral negative cs = .ok r) : ∀ c ∈ r.value.whole, isDigit c := by
  unfold unsignedNumeral at h
  split at h
  · cases h
  · rename_i w hw
    split at h
    · cases h
    · split at h
      · cases h
      · cases h
        exact isDigit_of_wholePart hw

theorem isDigit_of_numeral {cs : List Char} {r : Reading Numeral cs} (h : numeral cs = .ok r) :
    ∀ c ∈ r.value.whole, isDigit c := by
  unfold numeral at h
  split at h
  · split at h
    · cases h
    · rename_i r' hr'
      cases h
      exact isDigit_of_unsignedNumeral (r := r') hr'
  · exact isDigit_of_unsignedNumeral h

end Json

/-! ### Doubles near to whole numbers -/

/-- **What is as good as a whole number** where only thirty-two bits matter: the bits of the nearest
double, or those of any large one, if the whole number is large itself. -/
inductive Decimal.Near : Nat → Nat → Prop where
  | nearest {w : Nat} : w < 2 ^ 53 → Near (nearestBits w 1) w
  | large {k w : Nat} : 2 ^ 31 ≤ w → (1023 + 31) * 2 ^ 52 ≤ k → Near k w

theorem Decimal.near_nearestBits (w : Nat) : Near (nearestBits w 1) w := by
  rcases Nat.lt_or_ge w (2 ^ 53) with hlt | hge
  · exact .nearest hlt
  · have hlarge : 2 ^ 31 ≤ w := Nat.le_trans (by decide) hge
    exact .large hlarge (le_nearestBits_one (by decide) hlarge)

namespace Value

theorem longOf_withBits (negative : Bool) {k w : Nat} (hk : k < infinityBits) (h : Near k w) :
    longOf (withBits negative k) = saturate (if negative then -(w : Int) else w) := by
  cases h with
  | nearest hw =>
    have hvalue := value_ofFraction_one negative hw
    rw [ofFraction_eq] at hvalue
    have hround : roundToInt (withBits negative (nearestBits w 1)) =
        if negative then -(w : Int) else w := by
      rw [roundToInt_eq, hvalue, ← roundAway_intCast (if negative then -(w : Int) else w)]
      cases negative <;> simp
    rw [longOf, hround]
  | large hw hlarge =>
    have hle := le_value_of_bits negative hk hlarge
    have hsign := (isFinite_withBits negative hk).2.2
    have hmono : ((2 ^ 31 : Nat) : Int) ≤ roundAway (magnitude (withBits negative k)).value := by
      rw [← roundAway_intCast ((2 ^ 31 : Nat) : Int)]
      exact roundAway_mono (by exact_mod_cast hle)
    unfold longOf saturate
    rw [roundToInt_eq, value, hsign]
    cases negative with
    | false =>
      congr 1
      simp only [Bool.false_eq_true, if_false]
      omega
    | true =>
      congr 1
      simp only [if_true, roundAway_neg]
      omega

end Value

namespace Json

/-! ### Powers of ten -/

/-- Whole numbers of a word are rounded to finite doubles. -/
theorem nearestBits_word {n : Nat} (hn : n ≤ maxWord) : nearestBits n 1 < infinityBits := by
  have hlt : (n : ℚ) < (2 ^ 64 : Nat) := Nat.cast_lt.2 (Nat.lt_of_le_of_lt hn (by decide))
  refine nearestBits_lt one_ne_zero ?_
  rw [Nat.cast_one, div_one]
  refine hlt.trans_le ?_
  rw [Nat.cast_pow, Nat.cast_ofNat, ← zpow_natCast]
  exact zpow_le_zpow_right₀ (by norm_num) (by decide)

/-- The powers of ten that are computed with are finite. -/
theorem nearestBits_ten : ∀ k ≤ 308, nearestBits (10 ^ k) 1 < infinityBits := by
  decide +kernel

theorem powerOfTen_eq {k : Nat} (hk : k ≤ 308) :
    powerOfTen k = withBits false (nearestBits (10 ^ k) 1) := by
  have hzero : (-(k : Int)).toNat = 0 := by omega
  unfold powerOfTen ofDecimal
  rw [if_neg one_ne_zero, if_neg (by omega), if_neg (by omega), Nat.one_mul, hzero,
    Int.toNat_natCast]
  rfl

/-- **A whole number that fills a word, times a power of ten,** is a large double or out of
range. -/
theorem near_scale? {n k w : Nat} {x : Float} (hn : 2 ^ 60 ≤ n) (hword : n ≤ maxWord)
    (hw : 2 ^ 31 ≤ w) (h : scale? n k = some x) :
    ∃ l < infinityBits, x = withBits false l ∧ Near l w := by
  unfold scale? at h
  dsimp only at h
  rw [if_neg (by omega)] at h
  split at h
  · rw [if_neg (by omega)] at h
    cases h
  · rename_i hk
    rw [Int.toNat_natCast, powerOfTen_eq (by omega), ofFraction_eq] at h
    have hten := nearestBits_ten k (by omega)
    have hle := le_nearestBits_one (by decide) hn
    have hle' : (1023 + 0) * 2 ^ 52 ≤ nearestBits (10 ^ k) 1 :=
      le_nearestBits_one (by decide) (Nat.one_le_pow k 10 (by decide))
    obtain ⟨l, hl, hfinite, hlarge⟩ := mul_withBits (Nat.le_trans (by decide) hle)
      (nearestBits_word hword) (Nat.le_trans (by decide) hle') hten (by omega)
    rw [hl] at h
    split at h
    · cases h
    · rename_i hinf
      cases h
      have hne : l ≠ infinityBits := by
        rintro rfl
        exact hinf (by decide +kernel)
      refine ⟨l, Nat.lt_of_le_of_ne hfinite hne, rfl, .large hw ?_⟩
      unfold infinityBits at hlarge hfinite hne
      omega

/-! ### Whole numbers as they are written -/

/-- The whole number that a numeral without point and exponent is. -/
def Numeral.integer? (n : Numeral) : Option Int :=
  if n.fraction.isNone && n.exponent.isNone then
    some (if n.negative then -(ofDigits n.whole : Int) else ofDigits n.whole)
  else none

/-- **A value that stands where a whole number is written.** -/
def Writes (j : Json) (z : Int) : Prop :=
  ∃ (cs : List Char) (r : Reading Numeral cs) (m : Number), numeral cs = .ok r ∧
    r.value.integer? = some z ∧ r.value.value? = some m ∧ j = .number m

variable {n : Numeral} {z : Int} {m : Number}

/-- What a numeral without point and exponent is read as. -/
theorem exists_of_integer? (hz : n.integer? = some z) :
    z = (if n.negative then -(ofDigits n.whole : Int) else ofDigits n.whole) ∧
      n.value? =
        if (accumulate 0 n.whole).2 = 0 then
          if !n.negative then some (.whole (accumulate 0 n.whole).1)
          else if 0 < (accumulate 0 n.whole).1 ∧ (accumulate 0 n.whole).1 ≤ Nat.pow 2 63 then
            some (.whole (-((accumulate 0 n.whole).1 : Int)))
          else some (.decimal (-(ofFraction false (accumulate 0 n.whole).1 1)))
        else (scale? (accumulate 0 n.whole).1 (accumulate 0 n.whole).2).map fun x =>
          .decimal (if n.negative then -x else x) := by
  unfold Numeral.integer? at hz
  split at hz
  · rename_i hplain
    cases hz
    refine ⟨rfl, ?_⟩
    obtain ⟨negative, whole, fraction, exponent⟩ := n
    obtain ⟨hfraction, hexponent⟩ := Bool.and_eq_true_iff.1 hplain
    obtain rfl := Option.isNone_iff_eq_none.1 hfraction
    obtain rfl := Option.isNone_iff_eq_none.1 hexponent
    unfold Numeral.value?
    dsimp only
    by_cases hspilt : (accumulate 0 whole).2 = 0
    · simp [hspilt]
    · simp [hspilt, accumulate]
  · cases hz

/-- **The double of a whole number that is written** is one as good as it. -/
theorem exists_near (hdigits : ∀ c ∈ n.whole, isDigit c) (hz : n.integer? = some z)
    (hm : n.value? = some m) :
    ∃ k < infinityBits, m.toFloat = withBits n.negative k ∧ Near k (ofDigits n.whole) := by
  obtain ⟨-, hvalue⟩ := exists_of_integer? hz
  rw [hm] at hvalue
  have hword := accumulate_le (Nat.zero_le maxWord) n.whole
  by_cases hspilt : (accumulate 0 n.whole).2 = 0
  · rw [if_pos hspilt] at hvalue
    have heq : _ = ofDigits n.whole := accumulate_fits hspilt
    have hfinite := nearestBits_word hword
    refine ⟨nearestBits (accumulate 0 n.whole).1 1, hfinite, ?_, heq ▸ near_nearestBits _⟩
    generalize (accumulate 0 n.whole).1 = w at *
    cases hsign : n.negative with
    | false =>
      rw [hsign] at hvalue
      cases hvalue
      have hpositive : decide ((w : Int) < 0) = false := by simp
      rw [Number.toFloat, hpositive]
      rfl
    | true =>
      rw [hsign, if_neg (by decide)] at hvalue
      split at hvalue
      · rename_i hpos
        cases hvalue
        have hnegative : decide (-(w : Int) < 0) = true := by
          rw [decide_eq_true_eq]
          omega
        rw [Number.toFloat, hnegative, Int.natAbs_neg]
        rfl
      · cases hvalue
        exact neg_withBits false hfinite
  · rw [if_neg hspilt] at hvalue
    obtain ⟨hfull, hle⟩ := accumulate_spills hdigits hspilt
    change _ ≤ ofDigits n.whole at hle
    have hmax : maxWord = 2 ^ 64 - 1 := rfl
    generalize accumulate 0 n.whole = a at *
    obtain ⟨x, hx, rfl⟩ := Option.map_eq_some_iff.1 hvalue.symm
    obtain ⟨k, hk, rfl, hnear⟩ := near_scale? (w := ofDigits n.whole) (by omega) hword
      (by omega) hx
    refine ⟨k, hk, ?_, hnear⟩
    rw [Number.toFloat]
    cases n.negative with
    | false => rfl
    | true => exact neg_withBits false hk

/-- **A whole number that is written is read as itself**, kept within thirty-two bits. -/
theorem Writes.longOf {j : Json} (h : j.Writes z) :
    j.float?.map Value.longOf = some (Value.saturate z) := by
  obtain ⟨cs, r, m, hr, hz, hm, rfl⟩ := h
  obtain ⟨k, hk, hfloat, hnear⟩ := exists_near (isDigit_of_numeral hr) hz hm
  rw [float?, hfloat, Option.map_some, Value.longOf_withBits _ hk hnear, (exists_of_integer? hz).1]

/-- **A whole number that is not negative and fits a word is read as itself**, unless it is written
with a sign. -/
theorem Writes.natural?_eq {j : Json} (h : j.Writes z) {i : Nat} (hi : j.natural? = some i) :
    z = i ∧ i ≤ maxWord := by
  obtain ⟨cs, r, m, hr, hz, hm, rfl⟩ := h
  obtain ⟨hsign, hvalue⟩ := exists_of_integer? hz
  rw [hm] at hvalue
  have hword := accumulate_le (Nat.zero_le maxWord) r.value.whole
  split at hvalue
  · rename_i hspilt
    have heq : _ = ofDigits r.value.whole := accumulate_fits hspilt
    rw [← heq] at hsign
    generalize (accumulate 0 r.value.whole).1 = w at *
    cases hnegative : r.value.negative with
    | false =>
      rw [hnegative] at hvalue hsign
      cases hvalue
      simp [natural?] at hi
      subst hi
      exact ⟨hsign, hword⟩
    | true =>
      rw [hnegative, if_neg (by decide)] at hvalue
      split at hvalue
      · cases hvalue
        rw [natural?, if_neg (by omega)] at hi
        cases hi
      · cases hvalue
        cases hi
  · obtain ⟨x, -, rfl⟩ := Option.map_eq_some_iff.1 hvalue.symm
    cases hi

end Json

end ShaderEffect
