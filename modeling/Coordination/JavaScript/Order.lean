import Coordination.JavaScript.Integer

/-!
# Numbers in order

The mantissa of a number has all its 53 bits, except at the least exponent. So the comparison
of `Float`, which looks at the exponents first, is the comparison of the exact values.
-/

namespace Coordination

namespace JavaScript

open Float.Model Float.Model.UnpackedFloat

namespace Number

/-- A mantissa and an exponent as `Float` has them: a mantissa of fewer than 53 bits comes with
the least exponent. -/
structure IsRounded (m : ℕ) (e : ℤ) : Prop where
  upper : m < 2 ^ 53
  exponent : -1074 ≤ e
  full : -1074 < e → 2 ^ 52 ≤ m

theorem isRounded_of_unpack {x : Number} {s : Sign} {m : ℕ} {e : ℤ} {hm : 0 < m}
    (h : x.toModel.unpack = .finite s m e hm) : IsRounded m e := by
  unfold Float.Model.unpack UnpackedFloat.unpack at h
  generalize x.toModel.toBits.toBitVec = bits at h
  have hmantissa : (@unpackMantissa Format.binary64 bits).toNat < 2 ^ 52 := BitVec.isLt _
  have hbias : (Format.binary64.exponentBias : ℤ) = 1023 := rfl
  simp only [hbias] at h
  split at h
  · split at h <;> cases h
  · split at h
    · split at h
      · cases h
      · -- a subnormal number
        rename_i hzero _
        cases h
        rw [hzero]
        exact ⟨by omega, by norm_num, by norm_num⟩
    · rename_i hzero
      cases h
      have hpositive : (@unpackExponent Format.binary64 bits).toNat ≠ 0 := fun h0 =>
        hzero (BitVec.eq_of_toNat_eq h0)
      have himplicit : (1#1 ++ @unpackMantissa Format.binary64 bits).toNat =
          2 ^ 52 + (@unpackMantissa Format.binary64 bits).toNat := by
        rw [BitVec.toNat_append, ← Nat.shiftLeft_add_eq_or_of_lt (BitVec.isLt _)]
        rfl
      rw [himplicit]
      refine ⟨by omega, ?_, fun _ => by omega⟩
      show (-1074 : ℤ) ≤ _ - (1023 + (52 : ℕ))
      omega

theorem scale_eq (e : ℤ) : toRat?.scale e = 2 ^ e := by
  unfold toRat?.scale
  split_ifs with he
  · rw [← zpow_natCast, Int.toNat_of_nonneg he]
  · rw [← zpow_natCast, Int.toNat_of_nonneg (by omega), zpow_neg, one_div, inv_inv]

/-- The greater exponent has the greater value. -/
theorem lt_of_exponent_lt {m₁ m₂ : ℕ} {e₁ e₂ : ℤ} (h₁ : IsRounded m₁ e₁) (h₂ : IsRounded m₂ e₂)
    (he : e₁ < e₂) : (m₁ : ℚ) * 2 ^ e₁ < m₂ * 2 ^ e₂ := by
  have hupper : (m₁ : ℚ) < 2 ^ 53 := by exact_mod_cast h₁.upper
  have hexponent := h₁.exponent
  have hfull : (2 ^ 52 : ℚ) ≤ m₂ := by exact_mod_cast h₂.full (by omega)
  have hpow : (2 : ℚ) ^ (e₁ + 1) ≤ 2 ^ e₂ := zpow_le_zpow_right₀ (by norm_num) (by omega)
  calc (m₁ : ℚ) * 2 ^ e₁ < 2 ^ 53 * 2 ^ e₁ := by gcongr
    _ = 2 ^ 52 * 2 ^ (e₁ + 1) := by rw [zpow_add_one₀ (by norm_num)]; ring
    _ ≤ m₂ * 2 ^ e₂ := by gcongr

theorem compare_exponent_first {m₁ m₂ : ℕ} {e₁ e₂ : ℤ} (h₁ : IsRounded m₁ e₁)
    (h₂ : IsRounded m₂ e₂) :
    (compare e₁ e₂).then (compare m₁ m₂) = compare ((m₁ : ℚ) * 2 ^ e₁) (m₂ * 2 ^ e₂) := by
  rcases lt_trichotomy e₁ e₂ with he | rfl | he
  · rw [compare_lt_iff_lt.2 he, compare_lt_iff_lt.2 (lt_of_exponent_lt h₁ h₂ he)]
    rfl
  · have hpos : (0 : ℚ) < 2 ^ e₁ := by positivity
    rw [compare_eq_iff_eq.2 rfl]
    rcases lt_trichotomy m₁ m₂ with hm | rfl | hm
    · have hlt : (m₁ : ℚ) * 2 ^ e₁ < m₂ * 2 ^ e₁ := by gcongr
      rw [compare_lt_iff_lt.2 hm, compare_lt_iff_lt.2 hlt]
      rfl
    · rw [compare_eq_iff_eq.2 rfl, compare_eq_iff_eq.2 rfl]
      rfl
    · have hgt : (m₂ : ℚ) * 2 ^ e₁ < m₁ * 2 ^ e₁ := by gcongr
      rw [compare_gt_iff_gt.2 hm, compare_gt_iff_gt.2 hgt]
      rfl
  · rw [compare_gt_iff_gt.2 he, compare_gt_iff_gt.2 (lt_of_exponent_lt h₂ h₁ he)]
    rfl

theorem toRat?_eq_some {x : Number} {q : ℚ} : toRat? x = some q ↔
    (∃ s, x.toModel.unpack = .zero s ∧ q = 0) ∨
    (∃ m e hm, x.toModel.unpack = .finite .positive m e hm ∧ q = m * 2 ^ e) ∨
    ∃ m e hm, x.toModel.unpack = .finite .negative m e hm ∧ q = -(m * 2 ^ e) := by
  unfold toRat?
  cases x.toModel.unpack with
  | notANumber => simp
  | infinity s => simp
  | zero s => simp [eq_comm]
  | finite s m e hm =>
      cases s <;> simp [scale_eq, eq_comm, hm]

theorem compare_neg_neg (a b : ℚ) : compare (-a) (-b) = (compare a b).swap := by
  rcases lt_trichotomy a b with h | rfl | h
  · rw [compare_lt_iff_lt.2 h, compare_gt_iff_gt.2 (neg_lt_neg h)]
    rfl
  · rw [compare_eq_iff_eq.2 rfl, compare_eq_iff_eq.2 rfl]
    rfl
  · rw [compare_gt_iff_gt.2 h, compare_lt_iff_lt.2 (neg_lt_neg h)]
    rfl

/-- The comparison of two finite numbers is the comparison of their exact values. -/
theorem compare_unpack {x y : Number} {a b : ℚ} (hx : toRat? x = some a) (hy : toRat? y = some b) :
    x.toModel.unpack.compare y.toModel.unpack = some (compare a b) := by
  have hpos {m : ℕ} (e : ℤ) (hm : 0 < m) : (0 : ℚ) < m * 2 ^ e := by positivity
  rcases toRat?_eq_some.1 hx with ⟨s, hux, rfl⟩ | ⟨m, e, hm, hux, rfl⟩ | ⟨m, e, hm, hux, rfl⟩ <;>
    rcases toRat?_eq_some.1 hy with ⟨t, huy, rfl⟩ | ⟨n, f, hn, huy, rfl⟩ | ⟨n, f, hn, huy, rfl⟩ <;>
    rw [hux, huy]
  · rw [compare_eq_iff_eq.2 rfl]
    rfl
  · rw [compare_lt_iff_lt.2 (hpos f hn)]
    rfl
  · rw [compare_gt_iff_gt.2 (neg_lt_zero.2 (hpos f hn))]
    rfl
  · rw [compare_gt_iff_gt.2 (hpos e hm)]
    rfl
  · rw [← compare_exponent_first (isRounded_of_unpack hux) (isRounded_of_unpack huy)]
    rfl
  · rw [compare_gt_iff_gt.2 ((neg_lt_zero.2 (hpos f hn)).trans (hpos e hm))]
    rfl
  · rw [compare_lt_iff_lt.2 (neg_lt_zero.2 (hpos e hm))]
    rfl
  · rw [compare_lt_iff_lt.2 ((neg_lt_zero.2 (hpos e hm)).trans (hpos f hn))]
    rfl
  · rw [compare_neg_neg, ← compare_exponent_first (isRounded_of_unpack hux) (isRounded_of_unpack huy)]
    rfl

theorem lt_iff {x y : Number} {a b : ℚ} (hx : toRat? x = some a) (hy : toRat? y = some b) :
    x < y ↔ a < b := by
  show Float.lt x y = true ↔ _
  rw [lt_iff_compare, compare_unpack hx hy, Option.some_inj, compare_lt_iff_lt]

theorem beq_iff {x y : Number} {a b : ℚ} (hx : toRat? x = some a) (hy : toRat? y = some b) :
    (x == y) = true ↔ a = b := by
  show (x.toModel.unpack.compare y.toModel.unpack == some .eq) = true ↔ _
  rw [compare_unpack hx hy, beq_iff_eq, Option.some_inj, compare_eq_iff_eq]

end Number

end JavaScript

end Coordination
