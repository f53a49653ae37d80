import Mathlib
import Pipework.Random.Twister

/-!
# Doubles of the unit interval

The twister gives a number of 53 bits divided by `2 ^ 53`. A number `n` of at most 53 bits is a double: its bits are
shifted until the highest has place 52, `mantissaOf n`, and the exponent makes up for that. Division by a power of two
lowers the exponent and nothing else, so no step on the way rounds (`roundWithAccuracy_exact`), and the exponent of the
quotient shows that it is less than one (`fraction_bounds`). So the twister is a lawful source.
-/

namespace Pipework

open Float.Model Float.Model.UnpackedFloat

/-! ## Rounding -/

theorem log2_mul_two_pow {m : Nat} (h : m ≠ 0) (j : Nat) : (m * 2 ^ j).log2 = m.log2 + j := by
  induction j with
  | zero => simp
  | succ j ih =>
    have hne : m * 2 ^ j ≠ 0 := Nat.mul_ne_zero h (Nat.two_pow_pos j).ne'
    rw [show m * 2 ^ (j + 1) = 2 * (m * 2 ^ j) by ring, Nat.log2_two_mul hne, ih]
    rfl

theorem shiftRight_exact (m j : Nat) :
    ExtendedMantissa.ofMantissaAndAccuracy (m * 2 ^ j) .exact >>> j = ⟨m, false, false⟩ := by
  change j.repeat ExtendedMantissa.shiftRightOne ⟨m * 2 ^ j, false, false⟩ = _
  induction j generalizing m with
  | zero => simp [Nat.repeat]
  | succ j ih =>
    rw [Nat.repeat, show m * 2 ^ (j + 1) = (m * 2) * 2 ^ j by ring, ih]
    simp [ExtendedMantissa.shiftRightOne]

/-- A mantissa of 53 bits with zeros after it is rounded to itself. -/
theorem roundWithAccuracy_exact {m : Nat} (hm : m.log2 = 52) (hpos : 0 < m) (j : Nat) {e : Int} (he : -1074 ≤ e) :
    roundWithAccuracy .binary64 .positive (m * 2 ^ j) (e - j) .exact = .finite .positive m e hpos := by
  have htarget (j : Nat) : Format.binary64.targetExponent (totalExponent (m * 2 ^ j) (e - j)) = e := by
    rw [totalExponent, log2_mul_two_pow hpos.ne', hm]
    simp only [Format.targetExponent, Format.minExponent, Format.mantissaBits]
    omega
  have hshift (j : Nat) :
      shiftToTargetExponent .binary64 (m * 2 ^ j) (e - j) .exact = (⟨m, false, false⟩, e) := by
    unfold shiftToTargetExponent shiftToExponent
    dsimp only
    rw [htarget j, show (e - (e - (j : Int))).toNat = j by omega, shiftRight_exact]
    simp
  have hzero : shiftToTargetExponent .binary64 m e .exact = (⟨m, false, false⟩, e) := by
    simpa using hshift 0
  have hrounded : (⟨m, false, false⟩ : ExtendedMantissa).roundedMantissa = m := rfl
  simp only [roundWithAccuracy, hshift, hrounded, hzero]
  exact dif_neg hpos.ne'

/-! ## Bits -/

/-- The highest bit of a mantissa is not stored, for it is always set. -/
theorem toNat_append_mantissa {m : Nat} (hle : 2 ^ 52 ≤ m) (hlt : m < 2 ^ 53) :
    (1#1 ++ BitVec.ofNat 52 m).toNat = m := by
  rw [BitVec.toNat_append, ← Nat.shiftLeft_add_eq_or_of_lt (BitVec.isLt _)]
  simp only [Nat.shiftLeft_eq, BitVec.toNat_ofNat]
  omega

theorem unpack_pack {m : Nat} (hm : m.log2 = 52) (hpos : 0 < m) {e : Int} (he : -1074 ≤ e) (he' : e ≤ 971) :
    (Float.Model.pack (.finite .positive m e hpos)).unpack = .finite .positive m e hpos := by
  obtain ⟨hle, hlt⟩ := (Nat.log2_eq_iff hpos.ne').1 hm
  have hbiased : (BitVec.ofNat 11 (e + 1075).toNat).toNat = (e + 1075).toNat := by
    rw [BitVec.toNat_ofNat]
    exact Nat.mod_eq_of_lt (by omega)
  -- neither of the exponents that mark infinities and small numbers
  have hne (v : BitVec 11) (hv : v.toNat ≠ (e + 1075).toNat) : BitVec.ofNat 11 (e + 1075).toNat ≠ v := by
    intro heq
    rw [← heq, hbiased] at hv
    exact hv rfl
  have hpacked : UnpackedFloat.pack .binary64 (.finite .positive m e hpos) =
      packComponents .binary64 .positive (BitVec.ofNat 11 (e + 1075).toNat) (BitVec.ofNat 52 m) := by
    have hexponent : (e + Format.binary64.exponentBias + Format.binary64.mantissaBitsWithoutImplicit).toNat
        = (e + 1075).toNat := by
      change (e + 1023 + 52).toNat = _
      omega
    simp only [UnpackedFloat.pack, hexponent, hm]
    rw [if_neg (by omega)]
    exact if_pos rfl
  change UnpackedFloat.unpack .binary64 (UnpackedFloat.pack .binary64 (.finite .positive m e hpos)) = _
  rw [hpacked]
  simp only [UnpackedFloat.unpack, unpackMantissa_packComponents, unpackExponent_packComponents,
    unpackSign_packComponents]
  rw [if_neg (hne _ (by change 2047 ≠ _; omega)), if_neg (hne _ (by change 0 ≠ _; omega))]
  congr 1
  · exact toNat_append_mantissa hle hlt
  · rw [hbiased]
    change ((e + 1075).toNat : Int) - (1023 + 52) = e
    omega

/-! ## Numbers -/

/-- The bits of a number, shifted until the highest has place 52. -/
def mantissaOf (n : Nat) : Nat := n * 2 ^ (52 - n.log2)

variable {n : Nat}

theorem mantissaOf_pos (hpos : 0 < n) : 0 < mantissaOf n := Nat.mul_pos hpos (Nat.two_pow_pos _)

theorem log2_lt_of_lt (hpos : 0 < n) (hlt : n < 2 ^ 53) : n.log2 < 53 := (Nat.log2_lt hpos.ne').2 hlt

theorem log2_mantissaOf (hpos : 0 < n) (hlt : n < 2 ^ 53) : (mantissaOf n).log2 = 52 := by
  have hlog := log2_lt_of_lt hpos hlt
  rw [mantissaOf, log2_mul_two_pow hpos.ne']
  omega

/-- A result with the mantissa of a number is stored without rounding, whatever zeros follow the mantissa. -/
theorem unpack_pack_mantissaOf (hpos : 0 < n) (hlt : n < 2 ^ 53) (j : Nat) {e : Int} (he : -1074 ≤ e)
    (he' : e ≤ 971) :
    (Float.Model.pack (roundWithAccuracy .binary64 .positive (mantissaOf n * 2 ^ j) (e - j) .exact)).unpack =
      .finite .positive (mantissaOf n) e (mantissaOf_pos hpos) := by
  have hlog := log2_mantissaOf hpos hlt
  rw [roundWithAccuracy_exact hlog (mantissaOf_pos hpos) j he]
  exact unpack_pack hlog (mantissaOf_pos hpos) he he'

theorem unpack_toUInt64_toFloat (hpos : 0 < n) (hlt : n < 2 ^ 53) :
    n.toUInt64.toFloat.toModel.unpack = .finite .positive (mantissaOf n) (n.log2 - 52) (mantissaOf_pos hpos) := by
  have hlog := log2_lt_of_lt hpos hlt
  have hword : n.toUInt64.toNat = n := by
    simp only [Nat.toUInt64, UInt64.toNat_ofNat']
    omega
  have htarget : Format.binary64.targetExponent (totalExponent n 0) = (n.log2 : Int) - 52 := by
    simp only [totalExponent, Format.targetExponent, Format.minExponent, Format.mantissaBits]
    omega
  have hround : UnpackedFloat.round .binary64 .positive n 0 =
      roundWithAccuracy .binary64 .positive (mantissaOf n * 2 ^ 0) ((n.log2 : Int) - 52 - (0 : Nat)) .exact := by
    simp only [UnpackedFloat.round, decreaseExponent, htarget, Nat.shiftLeft_eq]
    rw [show (0 - ((n.log2 : Int) - 52)).toNat = 52 - n.log2 by omega,
      show (0 : Int) - ((52 - n.log2 : Nat) : Int) = (n.log2 : Int) - 52 - (0 : Nat) by omega, Nat.pow_zero,
      Nat.mul_one]
    rfl
  have hpacked : n.toUInt64.toFloat.toModel = Float.Model.pack (UnpackedFloat.round .binary64 .positive n 0) := by
    have hcompare : compare (n : Int) 0 = .gt := compare_gt_iff_gt.2 (Int.natCast_pos.2 hpos)
    change Float.Model.pack (UnpackedFloat.normalize .binary64 (n.toUInt64.toNat : Int) 0 .positive) = _
    rw [hword, UnpackedFloat.normalize, hcompare]
    rfl
  rw [hpacked, hround]
  exact unpack_pack_mantissaOf hpos hlt 0 (by omega) (by omega)

/-- A number becomes a double by way of a word, which is then multiplied by one. -/
theorem unpack_toFloat (hpos : 0 < n) (hlt : n < 2 ^ 53) :
    n.toFloat.toModel.unpack = .finite .positive (mantissaOf n) (n.log2 - 52) (mantissaOf_pos hpos) := by
  have hlog := log2_lt_of_lt hpos hlt
  have hone : (Float.exactlyRepresentablePowersOfTen[0]).toModel.unpack =
      .finite .positive (2 ^ 52) (-52) (by decide) := rfl
  have hfloat : n.toFloat = n.toUInt64.toFloat * Float.exactlyRepresentablePowersOfTen[0] := by
    change Float.ofScientific n false 0 = _
    rw [Float.ofScientific, dif_pos ⟨hlt, by decide⟩]
    rfl
  have hproduct : n.toFloat.toModel = Float.Model.pack (UnpackedFloat.mul .binary64 n.toUInt64.toFloat.toModel.unpack
      (Float.exactlyRepresentablePowersOfTen[0]).toModel.unpack) := by
    rw [hfloat]
    rfl
  rw [hproduct, hone, unpack_toUInt64_toFloat hpos hlt]
  exact unpack_pack_mantissaOf hpos hlt 52 (by omega) (by omega)

/-! ## Fractions -/

/-- The mantissa has to be shifted by 53 places before it is divided, so the quotient ends in a zero. -/
theorem divCore_mantissaOf (hpos : 0 < n) (hlt : n < 2 ^ 53) :
    divCore .binary64 (mantissaOf n) ((n.log2 : Int) - 52) (2 ^ 52) 1 =
      (mantissaOf n * 2 ^ 1, (n.log2 : Int) - 105 - (1 : Nat), .exact) := by
  have hlog := log2_lt_of_lt hpos hlt
  have hlog52 : (2 ^ 52 : Nat).log2 = 52 := by decide
  have htarget : min ((n.log2 : Int) - 52 - 1) (Format.binary64.targetExponent
      (totalExponent (mantissaOf n) ((n.log2 : Int) - 52) - totalExponent (2 ^ 52) 1)) = (n.log2 : Int) - 106 := by
    simp only [totalExponent, log2_mantissaOf hpos hlt, hlog52, Format.targetExponent, Format.minExponent,
      Format.mantissaBits]
    omega
  have hshift : mantissaOf n <<< 53 = mantissaOf n * 2 ^ 1 * 2 ^ 52 := by
    rw [Nat.shiftLeft_eq]
    ring
  simp only [divCore, htarget]
  rw [show ((n.log2 : Int) - 52 - 1 - ((n.log2 : Int) - 106)).toNat = 53 by omega, hshift,
    Nat.mul_div_cancel _ (by decide), Nat.mul_mod_left]
  refine Prod.ext rfl (Prod.ext ?_ rfl)
  change (n.log2 : Int) - 106 = (n.log2 : Int) - 105 - 1
  omega

theorem unpack_fraction (hpos : 0 < n) (hlt : n < 2 ^ 53) :
    (n.toFloat / 9007199254740992).toModel.unpack =
      .finite .positive (mantissaOf n) (n.log2 - 105) (mantissaOf_pos hpos) := by
  have hlog := log2_lt_of_lt hpos hlt
  have hdivisor : (9007199254740992 : Float).toModel.unpack = .finite .positive (2 ^ 52) 1 (by decide) := rfl
  have hquotient : (n.toFloat / 9007199254740992).toModel = Float.Model.pack
      (UnpackedFloat.div .binary64 n.toFloat.toModel.unpack (9007199254740992 : Float).toModel.unpack) := rfl
  rw [hquotient, hdivisor, unpack_toFloat hpos hlt]
  simp only [UnpackedFloat.div, divCore_mantissaOf hpos hlt]
  exact unpack_pack_mantissaOf hpos hlt 1 (by omega) (by omega)

/-- Less than `2 ^ 53` parts of that many lie in the unit interval. -/
theorem fraction_bounds (hlt : n < 2 ^ 53) :
    0 ≤ n.toFloat / 9007199254740992 ∧ n.toFloat / 9007199254740992 < 1 := by
  rcases Nat.eq_zero_or_pos n with rfl | hpos
  · exact ⟨by decide +kernel, by decide +kernel⟩
  · have hfraction := unpack_fraction hpos hlt
    have hlog := log2_lt_of_lt hpos hlt
    have hzero : (0 : Float).toModel.unpack = .zero .positive := rfl
    have hone : (1 : Float).toModel.unpack = .finite .positive (2 ^ 52) (-52) (by decide) := rfl
    constructor
    · change decide ((0 : Float).toModel.unpack.le (n.toFloat / 9007199254740992).toModel.unpack = true) = true
      rw [hzero, hfraction]
      rfl
    · have hexponent : compare ((n.log2 : Int) - 105) (-52) = .lt := compare_lt_iff_lt.2 (by omega)
      change decide ((n.toFloat / 9007199254740992).toModel.unpack.lt (1 : Float).toModel.unpack = true) = true
      rw [hfraction, hone]
      simp only [UnpackedFloat.lt, UnpackedFloat.compare, hexponent]
      rfl

/-- The doubles of the twister are made of 27 and 26 bits. -/
instance : LawfulSource Twister := by
  have hbits (a b : UInt32) : (a >>> 5).toNat * 67108864 + (b >>> 6).toNat < 2 ^ 53 := by
    have ha := a.toNat_lt
    have hb := b.toNat_lt
    simp only [UInt32.toNat_shiftRight, Nat.shiftRight_eq_div_pow]
    change a.toNat / 32 * 67108864 + b.toNat / 64 < _
    omega
  exact ⟨fun _ => (fraction_bounds (hbits _ _)).1, fun _ => (fraction_bounds (hbits _ _)).2⟩

end Pipework
