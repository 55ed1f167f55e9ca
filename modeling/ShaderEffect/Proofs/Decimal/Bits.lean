/-
**The bits of finite doubles.**

The bits of a double are a sign, an exponent of eleven bits, and a fraction of fifty-two.  They are
told by the sign and by the whole number and the power of two that the magnitude is made of; and
where the exponent is not the largest one, any bits are those of a finite double, of which the
negation has the same bits but for the sign.

Main definitions:

* `ShaderEffect.Decimal.Dyadic.Canonical`, `ShaderEffect.Decimal.Dyadic.bits` — the magnitudes of
  finite doubles, and their bits;
* `ShaderEffect.Decimal.withBits` — the double with a sign and other bits.

Main results:

* `ShaderEffect.Decimal.toNat_toBits`, `ShaderEffect.Decimal.eq_withBits` — **a double is what its
  sign and its magnitude tell**;
* `ShaderEffect.Decimal.isFinite_withBits` — **finite bits make a finite double**;
* `ShaderEffect.Decimal.neg_withBits` — **and its negation differs in the sign**.
-/

import Mathlib
import ShaderEffect.Decimal.Double

set_option autoImplicit false

namespace ShaderEffect.Decimal

open Float.Model (Format)
open Float.Model.UnpackedFloat

/-! ### Bits as whole numbers -/

theorem toNat_append_eq {n k : Nat} (a : BitVec n) (b : BitVec k) :
    (a ++ b).toNat = a.toNat * 2 ^ k + b.toNat := by
  rw [BitVec.toNat_append, Nat.shiftLeft_eq, Nat.mul_comm, Nat.two_pow_add_eq_or_of_lt b.isLt]

theorem toNat_packComponents (s : Sign) (e : BitVec 11) (m : BitVec 52) :
    (packComponents .binary64 s e m).toNat =
      s.toBitVec.toNat * 2 ^ 63 + e.toNat * 2 ^ 52 + m.toNat := by
  show (s.toBitVec ++ e ++ m).toNat = _
  rw [toNat_append_eq, toNat_append_eq]
  ring

theorem toNat_unpackExponent (b : BitVec 64) :
    (@unpackExponent .binary64 b).toNat = b.toNat / 2 ^ 52 % 2 ^ 11 := by
  simp [unpackExponent, Nat.shiftRight_eq_div_pow]

/-- Bits have the largest exponent, where the number that they make has. -/
theorem unpackExponent_eq_iff (b : BitVec 64) :
    @unpackExponent .binary64 b = -1#_ ↔ b.toNat / 2 ^ 52 % 2 ^ 11 = 2047 := by
  rw [← BitVec.toNat_inj, toNat_unpackExponent]
  rfl

/-- **Negation changes the sign bit**, and no other one. -/
theorem neg_unpack_packComponents (s : Sign) (e : BitVec 11) (m : BitVec 52) :
    (unpack .binary64 (packComponents .binary64 s e m)).neg =
      unpack .binary64 (packComponents .binary64 (-s) e m) := by
  have he (s : Sign) : unpackExponent (packComponents .binary64 s e m) = e :=
    unpackExponent_packComponents ..
  have hm (s : Sign) : unpackMantissa (packComponents .binary64 s e m) = m :=
    unpackMantissa_packComponents ..
  unfold unpack
  simp only [he, hm, unpackSign_packComponents, Sign.ofBitVec_toBitVec]
  split
  · split <;> rfl
  · split
    · split <;> rfl
    · rfl

/-- Bits are those of a finite number, unless their exponent is the largest one. -/
theorem isFinite_unpack (b : BitVec 64) :
    (unpack .binary64 b).isFinite ↔ b.toNat / 2 ^ 52 % 2 ^ 11 ≠ 2047 := by
  rw [← not_iff_not, not_not, ← unpackExponent_eq_iff]
  fun_cases unpack .binary64 b with
  | case1 _ e _ _ h | case2 _ e h => exact iff_of_true Bool.false_ne_true h
  | case3 _ e _ _ h | case4 _ e _ _ _ h | case5 _ e _ _ _ h =>
    exact iff_of_false (not_not_intro rfl) h

/-! ### Magnitudes -/

/-- The exponent of a double as its bits have it. -/
def biasedExponent (x : Float) : Nat := x.toBits.toNat / 2 ^ 52 % 2 ^ 11

/-- The magnitudes of finite doubles: the significand has fifty-three bits, but where the exponent
is the least one it can have fewer. -/
structure Dyadic.Canonical (d : Dyadic) : Prop where
  least : -1074 ≤ d.exponent
  exponent_le : d.exponent ≤ 971
  significand_lt : d.significand < 2 ^ 53
  normal : d.exponent ≠ -1074 → 2 ^ 52 ≤ d.significand

/-- The bits of a double of a magnitude, without the sign. -/
def Dyadic.bits (d : Dyadic) : Nat := (d.exponent + 1074).toNat * 2 ^ 52 + d.significand

/-- The bits of the infinite double, without the sign. -/
def infinityBits : Nat := 2047 * 2 ^ 52

theorem Dyadic.Canonical.bits_lt {d : Dyadic} (hd : d.Canonical) : d.bits < infinityBits := by
  obtain ⟨-, hle, hlt, -⟩ := hd
  unfold bits infinityBits
  omega

section Magnitude

variable {x : Float}

theorem magnitude_of_zero (h : biasedExponent x = 0) :
    magnitude x = ⟨x.toBits.toNat % 2 ^ 52, -1074⟩ := if_pos h

theorem magnitude_of_ne_zero (h : biasedExponent x ≠ 0) :
    magnitude x = ⟨2 ^ 52 + x.toBits.toNat % 2 ^ 52, (biasedExponent x : Int) - 1075⟩ := if_neg h

theorem isNegative_eq (x : Float) : isNegative x = decide (x.toBits.toNat / 2 ^ 63 = 1) := rfl

/-- **The bits of a double** are those of its magnitude and the sign. -/
theorem toNat_toBits (x : Float) :
    x.toBits.toNat = (magnitude x).bits + if isNegative x then 2 ^ 63 else 0 := by
  have hlt : x.toBits.toNat < 2 ^ 64 := x.toBits.toBitVec.isLt
  have hbits : (magnitude x).bits = biasedExponent x * 2 ^ 52 + x.toBits.toNat % 2 ^ 52 := by
    by_cases hzero : biasedExponent x = 0
    · rw [magnitude_of_zero hzero, hzero]
      rfl
    · rw [magnitude_of_ne_zero hzero, Dyadic.bits]
      dsimp only
      omega
  have hsign : (if isNegative x then 2 ^ 63 else 0) = x.toBits.toNat / 2 ^ 63 * 2 ^ 63 := by
    rw [isNegative_eq]
    rcases (by omega : x.toBits.toNat / 2 ^ 63 = 0 ∨ x.toBits.toNat / 2 ^ 63 = 1) with h | h
    all_goals
      rw [h]
      rfl
  rw [hbits, hsign, biasedExponent]
  omega

theorem canonical_magnitude (h : biasedExponent x ≠ 2047) : (magnitude x).Canonical := by
  have hlt : biasedExponent x < 2 ^ 11 := Nat.mod_lt _ (by decide)
  have hfraction : x.toBits.toNat % 2 ^ 52 < 2 ^ 52 := Nat.mod_lt _ (by decide)
  by_cases hzero : biasedExponent x = 0
  · rw [magnitude_of_zero hzero]
    refine ⟨le_rfl, ?_, ?_, fun hne => absurd rfl hne⟩ <;> dsimp only <;> omega
  · rw [magnitude_of_ne_zero hzero]
    refine ⟨?_, ?_, ?_, fun _ => Nat.le_add_right _ _⟩ <;> dsimp only <;> omega

end Magnitude

/-- A double is finite, unless its exponent is the largest one. -/
theorem isFinite_iff (x : Float) : x.isFinite ↔ biasedExponent x ≠ 2047 :=
  isFinite_unpack x.toBits.toBitVec

/-- A finite double is a number, and not infinite. -/
theorem isNaN_of_isFinite {x : Float} (h : x.isFinite) : x.isNaN = false ∧ x.isInf = false := by
  change (unpack .binary64 x.toBits.toBitVec).isFinite at h
  show (unpack .binary64 x.toBits.toBitVec).isNaN = false ∧
    (unpack .binary64 x.toBits.toBitVec).isInf = false
  cases hu : unpack .binary64 x.toBits.toBitVec with
  | infinity _ | notANumber =>
    rw [hu] at h
    exact absurd h Bool.false_ne_true
  | zero _ | finite _ _ _ _ => exact ⟨rfl, rfl⟩

/-! ### Doubles with given bits -/

/-- The double with a sign and other bits. -/
def withBits (negative : Bool) (k : Nat) : Float :=
  Float.ofBits (UInt64.ofNat (k + if negative then 2 ^ 63 else 0))

/-- The double nearest to a fraction has the bits that are nearest to it. -/
theorem ofFraction_eq (negative : Bool) (num den : Nat) :
    ofFraction negative num den = withBits negative (nearestBits num den) := rfl

/-- **A double is what its sign and its magnitude tell.** -/
theorem eq_withBits (x : Float) : x = withBits (isNegative x) (magnitude x).bits := by
  rw [withBits, ← toNat_toBits, UInt64.ofNat_toNat, Float.ofBits_toBits]

/-- Bits of which the exponent is not the largest one are those of a double. -/
theorem toBits_ofBits {u : UInt64} (h : u.toNat / 2 ^ 52 % 2 ^ 11 ≠ 2047) :
    (Float.ofBits u).toBits = u := by
  have hvalid : Format.binary64.Valid u.toBitVec :=
    ⟨fun hall => absurd ((unpackExponent_eq_iff _).1 hall) h⟩
  exact UInt64.toBitVec_inj.1 (pack_unpack_of_valid hvalid)

theorem toNat_toBits_neg {x : Float} (h : x.isFinite) :
    (-x).toBits.toNat = (x.toBits.toNat + 2 ^ 63) % 2 ^ 64 := by
  rw [isFinite_iff, biasedExponent] at h
  obtain ⟨s, e, m, hb⟩ : ∃ s e m, packComponents .binary64 s e m = x.toBits.toBitVec :=
    ⟨_, _, _, @packComponents_unpackSign_unpackExponent_unpackMantissa .binary64 _⟩
  have hbits : x.toBits.toNat = _ :=
    (congrArg BitVec.toNat hb.symm).trans (toNat_packComponents s e m)
  have hflipped := toNat_packComponents (-s) e m
  have hsign : (-s).toBitVec.toNat = 1 - s.toBitVec.toNat := by
    cases s <;> rfl
  have he := e.isLt
  have hm := m.isLt
  have hvalid : Format.binary64.Valid (packComponents .binary64 (-s) e m) := by
    refine ⟨fun hall => absurd ((unpackExponent_eq_iff _).1 hall) ?_⟩
    rw [hflipped]
    omega
  have hneg : (-x).toBits.toBitVec = packComponents .binary64 (-s) e m := by
    rw [← pack_unpack_of_valid hvalid, ← neg_unpack_packComponents, hb]
    rfl
  rw [← UInt64.toNat_toBitVec, hneg, hflipped, hsign, hbits]
  omega

section WithBits

variable {k : Nat}

theorem toNat_toBits_withBits (negative : Bool) (hk : k < infinityBits) :
    (withBits negative k).toBits.toNat = k + if negative then 2 ^ 63 else 0 := by
  have hbits : (UInt64.ofNat (k + if negative then 2 ^ 63 else 0)).toNat =
      k + if negative then 2 ^ 63 else 0 := by
    rw [UInt64.toNat_ofNat']
    unfold infinityBits at hk
    split <;> omega
  rw [withBits, toBits_ofBits, hbits]
  rw [hbits]
  unfold infinityBits at hk
  split <;> omega

/-- **Finite bits make a finite double**, with that sign and these bits. -/
theorem isFinite_withBits (negative : Bool) (hk : k < infinityBits) :
    (withBits negative k).isFinite ∧ (magnitude (withBits negative k)).bits = k ∧
      isNegative (withBits negative k) = negative := by
  have hbits := toNat_toBits_withBits negative hk
  have hexponent : biasedExponent (withBits negative k) ≠ 2047 := by
    rw [biasedExponent, hbits]
    unfold infinityBits at hk
    split <;> omega
  have hlt := (canonical_magnitude hexponent).bits_lt
  rw [toNat_toBits] at hbits
  refine ⟨(isFinite_iff _).2 hexponent, ?_⟩
  unfold infinityBits at hk hlt
  cases negative <;> cases hsign : isNegative (withBits _ k) <;> rw [hsign] at hbits <;>
    simp at hbits ⊢ <;> omega

/-- **The negation of a double** differs in the sign. -/
theorem neg_withBits (negative : Bool) (hk : k < infinityBits) :
    -withBits negative k = withBits (!negative) k := by
  refine Float.toBits_inj.1 (UInt64.toNat_inj.1 ?_)
  rw [toNat_toBits_neg (isFinite_withBits negative hk).1, toNat_toBits_withBits negative hk,
    toNat_toBits_withBits _ hk]
  unfold infinityBits at hk
  cases negative <;> simp <;> omega

end WithBits

end ShaderEffect.Decimal
