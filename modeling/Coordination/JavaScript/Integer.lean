import Mathlib
import Coordination.JavaScript.Number

/-!
# Integers are exact

A natural number below `2 ^ 53` is a binary64 value: the number that `Float.ofNat`
makes of it stands for it exactly. The proof follows the model of `Float`: a
mantissa of 53 bits is rounded to itself, packed and read back.
-/

namespace Coordination

namespace JavaScript

open Float.Model Float.Model.UnpackedFloat

namespace Number

/-- A mantissa of 53 bits, with an exponent that `Float` has. -/
structure IsNormal (m : ℕ) (e : ℤ) : Prop where
  lower : 2 ^ 52 ≤ m
  upper : m < 2 ^ 53
  exponent : -1074 ≤ e
  bounded : e ≤ 971

namespace IsNormal

variable {m : ℕ} {e : ℤ}

theorem pos (h : IsNormal m e) : 0 < m :=
  lt_of_lt_of_le (by norm_num) h.lower

theorem log2 (h : IsNormal m e) : m.log2 = 52 :=
  (Nat.log2_eq_iff h.pos.ne').2 ⟨h.lower, h.upper⟩

/-- With more bits than it needs, the mantissa is shifted to its place. -/
theorem targetExponent (h : IsNormal m e) (j : ℕ) :
    Format.binary64.targetExponent (totalExponent (m * 2 ^ j) (e - j)) = e := by
  have hlog : (m * 2 ^ j).log2 = 52 + j := by
    rw [Nat.log2_eq_iff (Nat.mul_pos h.pos (by positivity)).ne']
    have hlower := h.lower
    have hupper := h.upper
    constructor
    · rw [pow_add]
      exact Nat.mul_le_mul_right _ hlower
    · rw [show 52 + j + 1 = 53 + j by omega, pow_add]
      exact Nat.mul_lt_mul_of_pos_right hupper (by positivity)
  have hexponent := h.exponent
  simp only [Format.targetExponent, totalExponent, hlog, Format.mantissaBits, Format.minExponent]
  omega

/-- Zeros are shifted out without a trace. -/
theorem shiftRight (m j : ℕ) :
    (ExtendedMantissa.mk (m * 2 ^ j) false false) >>> j = ExtendedMantissa.mk m false false := by
  change j.repeat ExtendedMantissa.shiftRightOne _ = _
  induction j generalizing m with
  | zero => simp [Nat.repeat]
  | succ j ih =>
      rw [Nat.repeat, show m * 2 ^ (j + 1) = (m * 2) * 2 ^ j by ring, ih]
      simp [ExtendedMantissa.shiftRightOne]

theorem shiftToTargetExponent (h : IsNormal m e) (j : ℕ) :
    Float.Model.UnpackedFloat.shiftToTargetExponent Format.binary64 (m * 2 ^ j) (e - j) .exact =
      (ExtendedMantissa.mk m false false, e) := by
  have hshift : (e - (e - (j : ℤ))).toNat = j := by omega
  simp only [Float.Model.UnpackedFloat.shiftToTargetExponent, h.targetExponent, shiftToExponent,
    hshift, ExtendedMantissa.ofMantissaAndAccuracy, shiftRight]
  rw [sub_add_cancel]

/-- A value of 53 significant bits is rounded to itself. -/
theorem roundWithAccuracy (h : IsNormal m e) (j : ℕ) :
    Float.Model.UnpackedFloat.roundWithAccuracy Format.binary64 .positive (m * 2 ^ j) (e - j)
      .exact = .finite .positive m e h.pos := by
  have hagain := h.shiftToTargetExponent 0
  simp only [pow_zero, mul_one, Nat.cast_zero, sub_zero] at hagain
  have hrounded : (ExtendedMantissa.mk m false false).roundedMantissa = m := rfl
  simp only [Float.Model.UnpackedFloat.roundWithAccuracy, h.shiftToTargetExponent, hrounded, hagain,
    h.pos.ne', dite_false]

theorem unpackSign_packComponents (exponent : BitVec 11) (mantissa : BitVec 52) :
    @unpackSign Format.binary64
      (packComponents Format.binary64 .positive exponent mantissa) = 0#1 := by
  refine BitVec.eq_of_getLsbD_eq fun i hi => ?_
  have hzero : i = 0 := by omega
  subst hzero
  have hsign : (0#1 ++ exponent ++ mantissa).getLsbD 63 = false := by
    rw [BitVec.getLsbD_append, BitVec.getLsbD_append]
    rfl
  simp [unpackSign, packComponents, Sign.toBitVec]
  exact hsign

/-- The implicit bit comes back in front of the mantissa. -/
theorem toNat_implicit (h : IsNormal m e) : (1#1 ++ BitVec.ofNat 52 m).toNat = m := by
  have hlower := h.lower
  have hupper := h.upper
  rw [BitVec.toNat_append, ← Nat.shiftLeft_add_eq_or_of_lt (BitVec.isLt _), BitVec.toNat_ofNat]
  simp only [BitVec.toNat_ofNat, Nat.shiftLeft_eq]
  omega

/-- What is packed is read back. -/
theorem unpack_pack (h : IsNormal m e) :
    (Float.Model.pack (.finite .positive m e h.pos)).unpack = .finite .positive m e h.pos := by
  have hexponent := h.exponent
  have hbounded := h.bounded
  have hbiased : (BitVec.ofNat 11 (e + 1023 + 52).toNat).toNat = (e + 1023 + 52).toNat := by
    rw [BitVec.toNat_ofNat, Nat.mod_eq_of_lt (by omega)]
  have hones : BitVec.ofNat 11 (e + 1023 + 52).toNat ≠ -1#11 := by
    intro heq
    have hnat := congrArg BitVec.toNat heq
    rw [hbiased] at hnat
    simp at hnat
    omega
  have hzero : BitVec.ofNat 11 (e + 1023 + 52).toNat ≠ 0#11 := by
    intro heq
    have hnat := congrArg BitVec.toNat heq
    rw [hbiased] at hnat
    simp at hnat
    omega
  have hpacked : Float.Model.UnpackedFloat.pack Format.binary64 (.finite .positive m e h.pos) =
      packComponents Format.binary64 .positive (BitVec.ofNat 11 (e + 1023 + 52).toNat)
        (BitVec.ofNat 52 m) := by
    have hfits : ¬ 2 ^ 11 ≤ (e + 1023 + 52).toNat + 1 := by omega
    have hbits : m.log2 + 1 = Format.binary64.mantissaBits := by
      rw [h.log2]
      rfl
    exact (if_neg hfits).trans (if_pos hbits)
  have hbias : ((e + 1023 + 52).toNat : ℤ) - ((1023 : ℕ) + (52 : ℕ)) = e := by omega
  show Float.Model.UnpackedFloat.unpack Format.binary64
    (Float.Model.UnpackedFloat.pack Format.binary64 _) = _
  rw [hpacked]
  simp only [Float.Model.UnpackedFloat.unpack, unpackMantissa_packComponents,
    unpackExponent_packComponents, unpackSign_packComponents]
  rw [if_neg hones, if_neg hzero]
  congr 1
  · exact h.toNat_implicit
  · rw [hbiased]
    exact hbias

end IsNormal

/-! ## Natural numbers -/

/-- The mantissa and the exponent of a natural number. -/
theorem isNormal_shift {n : ℕ} (hpos : 0 < n) (hn : n < 2 ^ 53) :
    IsNormal (n * 2 ^ (52 - n.log2)) (-(52 - n.log2 : ℕ)) := by
  have hlog : n.log2 < 53 := (Nat.log2_lt hpos.ne').2 hn
  have hsplit : 2 ^ n.log2 * 2 ^ (52 - n.log2) = 2 ^ 52 := by
    rw [← pow_add]
    congr 1
    omega
  have hlower := Nat.mul_le_mul_right (2 ^ (52 - n.log2)) (Nat.log2_self_le hpos.ne')
  have hupper := Nat.mul_lt_mul_of_pos_right (Nat.lt_log2_self (n := n))
    (show 0 < 2 ^ (52 - n.log2) by positivity)
  rw [hsplit] at hlower
  rw [pow_succ, mul_right_comm, hsplit] at hupper
  exact ⟨hlower, hupper, by omega, by omega⟩

/-- A natural number is packed with all its bits. -/
theorem ofNat_model {n : ℕ} (hpos : 0 < n) (hn : n < 2 ^ 53) :
    (Float.Model.UnpackedFloat.ofNat Format.binary64 n) =
      .finite .positive (n * 2 ^ (52 - n.log2)) (-(52 - n.log2 : ℕ))
        (isNormal_shift hpos hn).pos := by
  have hnormal := isNormal_shift hpos hn
  have htarget : Format.binary64.targetExponent (totalExponent n 0) = -(52 - n.log2 : ℕ) := by
    have hlog : n.log2 < 53 := (Nat.log2_lt hpos.ne').2 hn
    simp only [Format.targetExponent, totalExponent, Format.mantissaBits, Format.minExponent]
    omega
  have hcompare : compare (n : ℤ) 0 = .gt := Int.compare_eq_gt.2 (by omega)
  have hround := hnormal.roundWithAccuracy 0
  simp only [pow_zero, mul_one, Nat.cast_zero, sub_zero] at hround
  rw [Float.Model.UnpackedFloat.ofNat, Float.Model.UnpackedFloat.ofInt,
    Float.Model.UnpackedFloat.normalize, hcompare]
  simp only [Float.Model.UnpackedFloat.round, Int.toNat_natCast, htarget, decreaseExponent,
    Nat.shiftLeft_eq]
  rw [← hround]
  simp

/-- Multiplying by one changes nothing. -/
theorem mul_one_model {m : ℕ} {e : ℤ} (h : IsNormal m e) :
    Float.Model.mul (Float.Model.pack (.finite .positive m e h.pos))
      (Float.ofBits 0x3FF0000000000000).toModel =
        Float.Model.pack (.finite .positive m e h.pos) := by
  have hone : (Float.ofBits 0x3FF0000000000000).toModel.unpack =
      .finite .positive (2 ^ 52) (-52) (by decide) := rfl
  rw [Float.Model.mul, h.unpack_pack, hone]
  simp only [Float.Model.UnpackedFloat.mul]
  have hround := h.roundWithAccuracy 52
  exact congrArg Float.Model.pack hround

theorem toModel_toFloat {n : ℕ} (hpos : 0 < n) (hn : n < 2 ^ 53) :
    n.toUInt64.toFloat.toModel = Float.Model.pack (.finite .positive (n * 2 ^ (52 - n.log2))
      (-(52 - n.log2 : ℕ)) (isNormal_shift hpos hn).pos) := by
  have hword : n.toUInt64.toNat = n := by
    rw [Nat.toUInt64, UInt64.toNat_ofNat', Nat.mod_eq_of_lt (by omega)]
  show Float.Model.pack (Float.Model.UnpackedFloat.ofNat Format.binary64 n.toUInt64.toNat) = _
  rw [hword, ofNat_model hpos hn]

theorem toModel_ofNat {n : ℕ} (hpos : 0 < n) (hn : n < 2 ^ 53) :
    (Float.ofNat n).toModel = Float.Model.pack (.finite .positive (n * 2 ^ (52 - n.log2))
      (-(52 - n.log2 : ℕ)) (isNormal_shift hpos hn).pos) := by
  have hfast : Float.ofNat n = n.toUInt64.toFloat * Float.ofBits 0x3FF0000000000000 :=
    dif_pos ⟨hn, by decide⟩
  rw [hfast]
  show Float.Model.mul n.toUInt64.toFloat.toModel _ = _
  rw [toModel_toFloat hpos hn, mul_one_model (isNormal_shift hpos hn)]

/-- A number that is packed as `n` is stands for it. -/
theorem toRat?_of_toModel {n : ℕ} (hpos : 0 < n) (hn : n < 2 ^ 53) {x : Number}
    (hx : x.toModel = Float.Model.pack (.finite .positive (n * 2 ^ (52 - n.log2))
      (-(52 - n.log2 : ℕ)) (isNormal_shift hpos hn).pos)) : toRat? x = some (n : ℚ) := by
  rw [toRat?, hx, (isNormal_shift hpos hn).unpack_pack]
  simp only [toRat?.scale]
  generalize 52 - n.log2 = k
  rcases Nat.eq_zero_or_pos k with rfl | hk
  · simp
  · rw [if_neg (by omega)]
    have hne : (2 : ℚ) ^ k ≠ 0 := by positivity
    push_cast
    simp [hne]

theorem toRat?_toFloat {n : ℕ} (hpos : 0 < n) (hn : n < 2 ^ 53) :
    toRat? n.toUInt64.toFloat = some (n : ℚ) :=
  toRat?_of_toModel hpos hn (toModel_toFloat hpos hn)

/-- A natural number below `2 ^ 53` is exact. -/
theorem toRat?_ofNat {n : ℕ} (hn : n < 2 ^ 53) : toRat? (Float.ofNat n) = some (n : ℚ) := by
  rcases Nat.eq_zero_or_pos n with rfl | hpos
  · decide +kernel
  · exact toRat?_of_toModel hpos hn (toModel_ofNat hpos hn)

/-! ## Below zero -/

theorem unpack_neg_one : ∃ m e h, (-1 : Number).toModel.unpack = .finite .negative m e h := by
  have hnegative : (match (-1 : Number).toModel.unpack with
      | .finite .negative .. => true
      | _ => false) = true := by decide +kernel
  split at hnegative
  case h_1 m e h hunpack => exact ⟨m, e, h, hunpack⟩
  case h_2 => cases hnegative

theorem unpack_zero : ∃ s, (0 : Number).toModel.unpack = .zero s := by
  have hzero : (match (0 : Number).toModel.unpack with
      | .zero _ => true
      | _ => false) = true := by decide +kernel
  split at hzero
  case h_1 s hunpack => exact ⟨s, hunpack⟩
  case h_2 => cases hzero

theorem lt_iff_compare {x y : Number} :
    Float.lt x y = true ↔ x.toModel.unpack.compare y.toModel.unpack = some .lt := by
  show decide (x.toModel.unpack.lt y.toModel.unpack = true) = true ↔ _
  rw [decide_eq_true_iff, UnpackedFloat.lt, beq_iff_eq]

/-- An integer that is not negative lies above minus one. -/
theorem neg_one_lt {x : Number} (hinteger : x.isInteger = true) (hneg : ¬ x < 0) :
    Float.lt (-1) x = true := by
  obtain ⟨_, _, _, hone⟩ := unpack_neg_one
  obtain ⟨_, hunpack⟩ := unpack_zero
  have hzero : ¬ Float.lt x 0 = true := hneg
  rw [lt_iff_compare, hunpack] at hzero
  rw [lt_iff_compare, hone]
  unfold isInteger toRat? at hinteger
  cases hx : x.toModel.unpack with
  | notANumber => simp [hx] at hinteger
  | infinity s => simp [hx] at hinteger
  | zero s => rfl
  | finite s m e hm =>
      rw [hx] at hzero
      cases s with
      | positive => rfl
      | negative => exact absurd rfl hzero

end Number

end JavaScript

end Coordination
