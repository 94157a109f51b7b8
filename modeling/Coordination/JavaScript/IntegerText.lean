import Coordination.JavaScript.Order

/-!
# The text of an integer

`Number::toString` looks for the fewest digits that read back as the number. An integer below
`2 ^ 53` gets its own digits: whatever shorter decimal reads back as it is an integer below
`2 ^ 54`, even where it is beyond `2 ^ 53`, and so a number itself.
-/

namespace Coordination

namespace JavaScript

open Float.Model Float.Model.UnpackedFloat

namespace Number

/-! ## Products -/

/-- A value that is not below one has all its bits. -/
theorem IsRounded.full_of_one_le {m : ℕ} {e : ℤ} (h : IsRounded m e) (hone : (1 : ℚ) ≤ m * 2 ^ e) :
    2 ^ 52 ≤ m := by
  refine h.full (lt_of_not_ge fun he => absurd hone (not_le.2 ?_))
  have hupper : (m : ℚ) < 2 ^ 53 := by exact_mod_cast h.upper
  have hpow : (2 : ℚ) ^ e ≤ 2 ^ (-53 : ℤ) := zpow_le_zpow_right₀ (by norm_num) (by omega)
  calc (m : ℚ) * 2 ^ e < 2 ^ 53 * 2 ^ e := by gcongr
    _ ≤ 2 ^ 53 * 2 ^ (-53 : ℤ) := by gcongr
    _ = 1 := by norm_num

theorem IsRounded.isNormal {m : ℕ} {e : ℤ} (h : IsRounded m e) (hone : (1 : ℚ) ≤ m * 2 ^ e)
    (hbound : (m : ℚ) * 2 ^ e < 2 ^ 53) : IsNormal m e := by
  have hfull := h.full_of_one_le hone
  refine ⟨hfull, h.upper, h.exponent, ?_⟩
  by_contra hlarge
  have hfull' : (2 ^ 52 : ℚ) ≤ m := by exact_mod_cast hfull
  have hpow : (2 : ℚ) ^ (1 : ℤ) ≤ 2 ^ e := zpow_le_zpow_right₀ (by norm_num) (by omega)
  refine absurd hbound (not_lt.2 ?_)
  calc (2 ^ 53 : ℚ) = 2 ^ 52 * 2 ^ (1 : ℤ) := by norm_num
    _ ≤ m * 2 ^ e := by gcongr

theorem unpack_of_one_le {x : Number} {a : ℚ} (hx : toRat? x = some a) (ha : 1 ≤ a) :
    ∃ m e hm, x.toModel.unpack = .finite .positive m e hm ∧ a = m * 2 ^ e ∧ 2 ^ 52 ≤ m := by
  rcases toRat?_eq_some.1 hx with ⟨_, _, rfl⟩ | ⟨m, e, hm, hunpack, rfl⟩ | ⟨m, e, _, _, rfl⟩
  · exact absurd ha (by norm_num)
  · exact ⟨m, e, hm, hunpack, rfl, (isRounded_of_unpack hunpack).full_of_one_le ha⟩
  · have hpos : (0 : ℚ) ≤ m * 2 ^ e := by positivity
    linarith

/-- A product of 53 significant bits is exact. -/
theorem toRat?_mul {x y : Number} {a b : ℚ} {m : ℕ} {e : ℤ} (hx : toRat? x = some a)
    (hy : toRat? y = some b) (ha : 1 ≤ a) (hb : 1 ≤ b) (hm : IsNormal m e)
    (hab : a * b = m * 2 ^ e) : toRat? (x * y) = some (a * b) := by
  obtain ⟨m₁, e₁, hm₁, hux, rfl, hfull₁⟩ := unpack_of_one_le hx ha
  obtain ⟨m₂, e₂, hm₂, huy, rfl, hfull₂⟩ := unpack_of_one_le hy hb
  have hproduct : (m₁ * m₂ : ℚ) = m * 2 ^ (e - (e₁ + e₂)) := by
    rw [zpow_sub₀ (by norm_num), zpow_add₀ (by norm_num), mul_div_assoc', ← hab]
    field_simp
  have hshift : 0 ≤ e - (e₁ + e₂) := by
    by_contra hneg
    have hsmall : (2 : ℚ) ^ (e - (e₁ + e₂)) ≤ 1 := zpow_le_one_of_nonpos₀ (by norm_num) (by omega)
    have hle : (m₁ * m₂ : ℚ) ≤ m := by
      rw [hproduct]
      exact mul_le_of_le_one_right (by positivity) hsmall
    have hle' : m₁ * m₂ ≤ m := by exact_mod_cast hle
    have hbig : 2 ^ 52 * 2 ^ 52 ≤ m₁ * m₂ := Nat.mul_le_mul hfull₁ hfull₂
    have hupper := hm.upper
    omega
  obtain ⟨j, hj⟩ := Int.eq_ofNat_of_zero_le hshift
  have hmantissa : m₁ * m₂ = m * 2 ^ j := by
    rw [hj, zpow_natCast] at hproduct
    exact_mod_cast hproduct
  have hmodel : (x * y).toModel.unpack = .finite .positive m e hm.pos := by
    show (Float.Model.mul x.toModel y.toModel).unpack = _
    rw [Float.Model.mul, hux, huy]
    show (Float.Model.pack (roundWithAccuracy Format.binary64 .positive (m₁ * m₂) (e₁ + e₂)
      .exact)).unpack = _
    rw [hmantissa, show e₁ + e₂ = e - (j : ℤ) by omega, hm.roundWithAccuracy j, hm.unpack_pack]
  rw [hab]
  exact toRat?_eq_some.2 (Or.inr (Or.inl ⟨m, e, hm.pos, hmodel, rfl⟩))

/-- The negative of an integer is exact. -/
theorem toRat?_neg {x : Number} {a : ℚ} (hx : toRat? x = some (-a)) (ha : 1 ≤ a)
    (hbound : a < 2 ^ 53) : toRat? (-x) = some a := by
  rcases toRat?_eq_some.1 hx with ⟨_, _, h⟩ | ⟨m, e, _, _, h⟩ | ⟨m, e, hm, hunpack, h⟩
  · linarith
  · have hpos : (0 : ℚ) ≤ m * 2 ^ e := by positivity
    linarith
  · obtain rfl := neg_inj.1 h
    have hnormal := (isRounded_of_unpack hunpack).isNormal ha hbound
    have hmodel : (-x).toModel.unpack = .finite .positive m e hm := by
      show (Float.Model.neg x.toModel).unpack = _
      rw [Float.Model.neg, hunpack]
      exact hnormal.unpack_pack
    exact toRat?_eq_some.2 (Or.inr (Or.inl ⟨m, e, hm, hmodel, rfl⟩))

/-! ## Decimals -/

/-- An integer below `2 ^ 54` that a number stands for: above `2 ^ 53` they are the even ones. -/
def IsExact (n : ℕ) : Prop :=
  n < 2 ^ 53 ∨ 2 ∣ n ∧ n < 2 ^ 54

theorem exists_isNormal {n : ℕ} (hpos : 0 < n) (hn : IsExact n) :
    ∃ m e, IsNormal m e ∧ (n : ℚ) = m * 2 ^ e := by
  by_cases hsmall : n < 2 ^ 53
  · refine ⟨_, _, isNormal_shift hpos hsmall, ?_⟩
    rw [zpow_neg, zpow_natCast]
    push_cast
    rw [mul_assoc, mul_inv_cancel₀ (by positivity), mul_one]
  · obtain ⟨⟨m, rfl⟩, hlarge⟩ := hn.resolve_left hsmall
    refine ⟨m, 1, ⟨by omega, by omega, by omega, by omega⟩, ?_⟩
    push_cast
    ring

theorem toRat?_power (j : Fin Float.exactlyRepresentablePowersOfTen.size) :
    toRat? Float.exactlyRepresentablePowersOfTen[j] = some (10 ^ j.val) := by
  revert j
  decide +kernel

/-- A decimal that stands for an exact integer is read as it. -/
theorem toRat?_ofDecimal {s j : ℕ} (hpos : 0 < s) (hs : s < 2 ^ 53) (hj : j ≤ 22)
    (hexact : IsExact (s * 10 ^ j)) : toRat? (ofDecimal s j) = some ((s * 10 ^ j : ℕ) : ℚ) := by
  obtain ⟨m, e, hnormal, hvalue⟩ := exists_isNormal (Nat.mul_pos hpos (by positivity)) hexact
  have hpower := toRat?_power ⟨j, Nat.lt_succ_of_le hj⟩
  have hone : (1 : ℚ) ≤ s := by exact_mod_cast hpos
  have hpow : (1 : ℚ) ≤ 10 ^ j := one_le_pow₀ (by norm_num)
  push_cast at hvalue ⊢
  rw [ofDecimal, decide_eq_false (by omega : ¬ (j : ℤ) < 0), Int.natAbs_natCast]
  refine (congrArg toRat? (dif_pos ⟨hs, hj⟩)).trans ?_
  exact toRat?_mul (toRat?_toFloat hpos hs) hpower hone hpow hnormal hvalue

/-! ## The digits -/

/-- The candidate of `shortest` with `k` digits. -/
def nearest (x : Number) (q : ℚ) (k : ℕ) : Option ℕ :=
  let scaled := q * decimalExponent.tenPow (k - decimalExponent q)
  let low := ⌊scaled⌋.toNat
  (if scaled - low ≤ 1 / 2 then [low, low + 1] else [low + 1, low]).find? fun s =>
    (ofDecimal s (decimalExponent q - k)).beq x

theorem shortest_eq (x : Number) (q : ℚ) : shortest x q =
    match (List.range 17).findSome? fun k => (nearest x q (k + 1)).map fun s => (s, k + 1) with
    | some (s, k) =>
      if s = 10 ^ k then (1, 1, decimalExponent q + 1) else (s, k, decimalExponent q)
    | none => (0, 1, 1) :=
  rfl

/-- How many digits an integer has. -/
theorem length_digits {n : ℕ} (hpos : 0 < n) :
    10 ^ ((digits n).length - 1) ≤ n ∧ n < 10 ^ (digits n).length := by
  have hlength : 0 < (digits n).length := Nat.length_toDigits_pos
  constructor
  · by_cases hone : (digits n).length = 1
    · rw [hone]
      exact hpos
    · refine le_of_not_gt fun hlt => ?_
      have hle := (Nat.length_toDigits_le_iff (b := 10) (n := n) (k := (digits n).length - 1)
        (by decide) (by omega)).2 hlt
      unfold digits at *
      omega
  · exact (Nat.length_toDigits_le_iff (by decide) hlength).1 le_rfl

theorem decimalExponent_natCast {n : ℕ} (hpos : 0 < n) :
    decimalExponent n = (digits n).length := by
  have hone : (digits 1).length = 1 := rfl
  have hlength : 0 < (digits n).length := Nat.length_toDigits_pos
  have hexponent : ((digits n).length : ℤ) - (digits 1).length = ((digits n).length - 1 : ℕ) := by
    rw [hone]
    omega
  unfold decimalExponent
  simp only [Rat.num_natCast, Rat.den_natCast, Int.toNat_natCast, hexponent]
  rw [if_pos]
  · push_cast [Nat.cast_sub hlength]
    ring
  · rw [decimalExponent.tenPow, if_pos (by omega), Int.toNat_natCast]
    exact_mod_cast (length_digits hpos).1

section Shortest

variable {x : Number} {n : ℕ}

/-- With all its digits an integer is found. -/
theorem nearest_length (hx : toRat? x = some (n : ℚ)) (hpos : 0 < n) (hn : n < 2 ^ 53) :
    nearest x n (digits n).length = some n := by
  have hread : toRat? (ofDecimal n (0 : ℕ)) = some (n : ℚ) := by
    have h := toRat?_ofDecimal (j := 0) hpos hn (by omega) (Or.inl (by simpa using hn))
    simpa using h
  have hbeq : (ofDecimal n 0).beq x = true := (beq_iff hread hx).2 rfl
  unfold nearest
  rw [decimalExponent_natCast hpos, sub_self]
  have hscaled : (n : ℚ) * decimalExponent.tenPow 0 = n := by
    simp [decimalExponent.tenPow]
  simp only [hscaled, Int.floor_natCast, Int.toNat_natCast, sub_self]
  rw [if_pos (by norm_num)]
  exact List.find?_cons_of_pos (p := fun s => (ofDecimal s 0).beq x) hbeq

/-- What is found with fewer digits is the integer, less some zeros. -/
theorem nearest_sound (hx : toRat? x = some (n : ℚ)) (hpos : 0 < n) (hn : n < 2 ^ 53) {k s : ℕ}
    (hk : 1 ≤ k) (hlength : k < (digits n).length) (hs : nearest x n k = some s) :
    s * 10 ^ ((digits n).length - k) = n := by
  obtain ⟨j, hj⟩ : ∃ j, (digits n).length = k + (j + 1) :=
    ⟨(digits n).length - k - 1, by omega⟩
  have hsixteen : (digits n).length ≤ 16 :=
    (Nat.length_toDigits_le_iff (by decide) (by decide)).2 (hn.trans (by norm_num))
  have hexponent : ((digits n).length : ℤ) - k = (j + 1 : ℕ) := by omega
  have hscale : decimalExponent.tenPow ((k : ℤ) - (digits n).length) = 1 / 10 ^ (j + 1) := by
    rw [decimalExponent.tenPow, if_neg (by omega)]
    congr 2
    omega
  have hfloor : ⌊(n : ℚ) * (1 / 10 ^ (j + 1))⌋.toNat = n / 10 ^ (j + 1) := by
    have h := Rat.floor_intCast_div_natCast n (10 ^ (j + 1))
    push_cast at h
    rw [mul_one_div, h]
    exact Int.toNat_natCast _
  unfold nearest at hs
  rw [decimalExponent_natCast hpos, hexponent, hscale] at hs
  simp only [hfloor] at hs
  -- the candidates are the quotient and its successor
  have hcandidate : s = n / 10 ^ (j + 1) ∨ s = n / 10 ^ (j + 1) + 1 := by
    have hmem := List.mem_of_find?_eq_some hs
    split_ifs at hmem
    · simpa using hmem
    · simpa [or_comm] using hmem
  have hpow : 10 ^ (j + 1) ≤ n := by
    refine le_trans (Nat.pow_le_pow_right (by norm_num) ?_) (length_digits hpos).1
    omega
  have hquotient : 1 ≤ n / 10 ^ (j + 1) := (Nat.one_le_div_iff (by positivity)).2 hpow
  have hten : n / 10 ^ (j + 1) ≤ n / 10 := by
    refine Nat.div_le_div_left ?_ (by norm_num)
    exact Nat.le_self_pow (by omega) 10
  have hle : n / 10 ^ (j + 1) * 10 ^ (j + 1) ≤ n := Nat.div_mul_le_self _ _
  have hexact : IsExact (s * 10 ^ (j + 1)) := by
    refine Or.inr ⟨Dvd.dvd.mul_left (dvd_pow (by norm_num) (by omega)) s, ?_⟩
    rcases hcandidate with rfl | rfl
    · omega
    · rw [Nat.add_mul, Nat.one_mul]
      omega
  have hread := toRat?_ofDecimal (by omega) (by omega) (by omega) hexact
  have hbeq : (ofDecimal s (j + 1 : ℕ) == x) = true :=
    List.find?_some (p := fun s => (ofDecimal s (j + 1 : ℕ)).beq x) hs
  have hvalue := (beq_iff hread hx).1 hbeq
  rw [hj, Nat.add_sub_cancel_left]
  exact_mod_cast hvalue

/-- The shortest digits of an integer are its digits, less some zeros. -/
theorem shortest_integer (hx : toRat? x = some (n : ℚ)) (hpos : 0 < n) (hn : n < 2 ^ 53) :
    ∃ s k, shortest x n = (s, k, ((digits n).length : ℤ)) ∧ k ≤ (digits n).length ∧
      s * 10 ^ ((digits n).length - k) = n := by
  have hsixteen : (digits n).length ≤ 16 :=
    (Nat.length_toDigits_le_iff (by decide) (by decide)).2 (hn.trans (by norm_num))
  have hlength : 0 < (digits n).length := Nat.length_toDigits_pos
  have hall := nearest_length hx hpos hn
  rw [shortest_eq, decimalExponent_natCast hpos]
  cases hfound : (List.range 17).findSome? fun k => (nearest x n (k + 1)).map fun s => (s, k + 1) with
  | none =>
      rw [List.findSome?_eq_none_iff] at hfound
      have hnone := hfound ((digits n).length - 1) (List.mem_range.2 (by omega))
      rw [Nat.sub_add_cancel hlength, hall] at hnone
      cases hnone
  | some found =>
      obtain ⟨before, i, after, hrange, hi, hbefore⟩ := List.findSome?_eq_some_iff.1 hfound
      obtain ⟨s, hs, rfl⟩ := Option.map_eq_some_iff.1 hi
      have hindex : before.length = i := by
        have hget := congrArg (fun l => l[before.length]?) hrange
        have hlt : before.length < 17 := by
          have hcount := congrArg List.length hrange
          simp at hcount
          omega
        simpa [hlt] using hget
      -- the search ends at all the digits, if not before
      have hk : i + 1 ≤ (digits n).length := by
        by_contra hlong
        have hmem : (digits n).length - 1 ∈ before := by
          refine List.mem_iff_getElem?.2 ⟨(digits n).length - 1, ?_⟩
          have hget := congrArg (fun l => l[(digits n).length - 1]?) hrange
          rw [List.getElem?_append_left (by omega)] at hget
          rw [← hget, List.getElem?_range (by omega)]
        have hnone := hbefore _ hmem
        rw [Nat.sub_add_cancel hlength, hall] at hnone
        cases hnone
      have hvalue : s * 10 ^ ((digits n).length - (i + 1)) = n := by
        rcases hk.lt_or_eq with hless | heq
        · exact nearest_sound hx hpos hn (by omega) hless hs
        · rw [heq, hall] at hs
          cases hs
          rw [heq, Nat.sub_self, pow_zero, mul_one]
      have hne : s ≠ 10 ^ (i + 1) := by
        rintro rfl
        rw [← pow_add, Nat.add_sub_cancel' hk] at hvalue
        exact absurd hvalue (length_digits hpos).2.ne'
      refine ⟨s, i + 1, ?_, hk, hvalue⟩
      simp only [if_neg hne]

end Shortest

/-- Zeros are written behind the digits. -/
theorem digits_mul_pow {s : ℕ} (hs : 0 < s) (j : ℕ) :
    digits (s * 10 ^ j) = digits s ++ List.replicate j '0' := by
  induction j with
  | zero => simp
  | succ j ih =>
      have hten : digits (10 * (s * 10 ^ j) + 0) = digits (s * 10 ^ j) ++ digits 0 :=
        (Nat.toDigits_append_toDigits (by decide) (by positivity) (by decide)).symm
      rw [pow_succ, ← mul_assoc, mul_comm, ← Nat.add_zero (10 * (s * 10 ^ j)), hten, ih,
        List.append_assoc, List.replicate_succ']
      rfl

theorem layout_shortest {x : Number} {n : ℕ} (hx : toRat? x = some (n : ℚ)) (hpos : 0 < n)
    (hn : n < 2 ^ 53) :
    layout (shortest x n).1 (shortest x n).2.1 (shortest x n).2.2 = digits n := by
  obtain ⟨s, k, hshortest, hk, hvalue⟩ := shortest_integer hx hpos hn
  have hsixteen : (digits n).length ≤ 16 :=
    (Nat.length_toDigits_le_iff (by decide) (by decide)).2 (hn.trans (by norm_num))
  have hs : 0 < s := by
    rcases Nat.eq_zero_or_pos s with rfl | hs
    · omega
    · exact hs
  have hzeros : (((digits n).length : ℤ) - k).toNat = (digits n).length - k := by omega
  rw [hshortest]
  show layout s k (digits n).length = digits n
  rw [layout, if_pos ⟨by omega, by omega⟩, hzeros, ← digits_mul_pow hs, hvalue]

/-- The text of an integer below `2 ^ 53` is its decimal notation. -/
theorem finiteText_integer {x : Number} {z : ℤ} (hx : toRat? x = some (z : ℚ)) (hz : |z| < 2 ^ 53) :
    finiteText x z = (toString z).toList := by
  rcases lt_trichotomy z 0 with hneg | rfl | hpos
  · obtain ⟨n, rfl⟩ : ∃ n : ℕ, z = Int.negSucc n := ⟨(-z).toNat - 1, by omega⟩
    have hbound : n + 1 < 2 ^ 53 := by
      rw [abs_of_neg (Int.negSucc_lt_zero n), Int.neg_negSucc] at hz
      exact_mod_cast hz
    have hvalue : ((Int.negSucc n : ℤ) : ℚ) = -((n + 1 : ℕ) : ℚ) := Int.cast_negSucc n
    have hone : (1 : ℚ) ≤ (n + 1 : ℕ) := by exact_mod_cast Nat.le_add_left 1 n
    rw [hvalue] at hx ⊢
    have hminus := toRat?_neg hx hone (by exact_mod_cast hbound)
    have hneg : -((n + 1 : ℕ) : ℚ) < 0 := by linarith
    rw [finiteText, if_neg hneg.ne, if_pos hneg, neg_neg]
    refine (congrArg (List.cons '-') (layout_shortest hminus (Nat.succ_pos n) hbound)).trans ?_
    show _ = ("-" ++ toString (n + 1)).toList
    rw [String.toList_append, Nat.toString_eq_ofList_toDigits, String.toList_ofList,
      String.toList_ofList]
    rfl
  · rfl
  · obtain ⟨n, rfl⟩ := Int.eq_ofNat_of_zero_le hpos.le
    have hbound : n < 2 ^ 53 := by
      rw [Nat.abs_cast] at hz
      exact_mod_cast hz
    have hn : 0 < n := by exact_mod_cast hpos
    rw [Int.cast_natCast] at hx ⊢
    rw [finiteText, if_neg (by positivity), if_neg (not_lt.2 (by positivity))]
    refine (layout_shortest hx hn hbound).trans ?_
    show _ = (toString n).toList
    rw [Nat.toString_eq_ofList_toDigits, String.toList_ofList]
    rfl

end Number

end JavaScript

end Coordination
