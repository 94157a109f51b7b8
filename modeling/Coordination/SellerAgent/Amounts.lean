import Coordination.DataSeller.Settlement
import Coordination.SellerAgent.Settlement

/-!
# Prices in base units

The data seller reads the digits of an amount; the Python agents multiply it as a
`Decimal` of 28 digits. Both give `amount · 10 ^ 6` exactly where the digits of the
amount, without the zeros around them, fit the precision; a longer amount is rounded.
-/

namespace Coordination

namespace SellerAgent

open Python Library

/-- The digits of an amount before and after its point. -/
def amountParts (amount : String) : List Char × List Char :=
  ((amount.toList.span Char.isDigit).1, (amount.toList.span Char.isDigit).2.drop 1)

/-- A point and one to six digits, or nothing. -/
def matchesFraction : List Char → Bool
  | [] => true
  | '.' :: frac => frac ≠ [] ∧ frac.length ≤ 6 ∧ frac.all Char.isDigit
  | _ => false

/-- `^(0|[1-9][0-9]*)(\.[0-9]{1,6})?$`, the pattern of the contract schema. -/
def matchesAmount (amount : String) : Bool :=
  let (whole, rest) := amount.toList.span Char.isDigit
  (whole = ['0'] ∨ whole ≠ [] ∧ whole.head? ≠ some '0') ∧ matchesFraction rest

/-- The amounts the contract schema admits: the pattern, and not zero. -/
def admittedAmount (amount : String) : Bool :=
  matchesAmount amount ∧ ((amountParts amount).1 ++ (amountParts amount).2).any (· ≠ '0')

/-- The number an amount stands for. -/
def amountValue (amount : String) : ℚ :=
  Nat.ofDigitChars 10 ((amountParts amount).1 ++ (amountParts amount).2) 0 /
    10 ^ (amountParts amount).2.length

/-- The digits of an amount without the zeros before and after them. -/
def significantDigits (amount : String) : List Char :=
  significant ((amountParts amount).1 ++ (amountParts amount).2)

/-! ## The shape of an admitted amount -/

/-- An amount taken apart. -/
structure Shaped (amount : String) (whole frac : List Char) : Prop where
  text : amount.toList = whole ++ (if frac = [] then [] else '.' :: frac)
  whole_digits : ∀ c ∈ whole, c.isDigit = true
  frac_digits : ∀ c ∈ frac, c.isDigit = true
  whole_ne : whole ≠ []
  whole_head : whole = ['0'] ∨ whole.head? ≠ some '0'
  frac_length : frac.length ≤ 6
  span : amount.toList.span Char.isDigit = (whole, if frac = [] then [] else '.' :: frac)

theorem matchesFraction_eq {rest : List Char} (h : matchesFraction rest = true) :
    rest = (if rest.drop 1 = [] then [] else '.' :: rest.drop 1) ∧
      (∀ c ∈ rest.drop 1, c.isDigit = true) ∧ (rest.drop 1).length ≤ 6 := by
  unfold matchesFraction at h
  split at h
  · simp
  · obtain ⟨hne, hlength, hdigits⟩ := of_decide_eq_true h
    exact ⟨by simp [hne], List.all_eq_true.1 hdigits, hlength⟩
  · cases h

theorem shaped_of_matches {amount : String} (h : matchesAmount amount = true) :
    Shaped amount (amountParts amount).1 (amountParts amount).2 := by
  unfold matchesAmount at h
  unfold amountParts
  rw [List.span_eq_takeWhile_dropWhile] at h ⊢
  have hsplit := List.takeWhile_append_dropWhile (p := Char.isDigit) (l := amount.toList)
  have hdigits := List.all_takeWhile (p := Char.isDigit) (l := amount.toList)
  obtain ⟨hwhole, hrest⟩ := of_decide_eq_true h
  obtain ⟨hpoint, hfrac, hlength⟩ := matchesFraction_eq hrest
  exact {
    text := by
      rw [← hpoint]
      exact hsplit.symm
    whole_digits := List.all_eq_true.1 hdigits
    frac_digits := hfrac
    whole_ne := by
      rcases hwhole with hzero | ⟨hne, _⟩
      · rw [hzero]
        exact List.cons_ne_nil _ _
      · exact hne
    whole_head := hwhole.imp id And.right
    frac_length := hlength
    span := by rw [List.span_eq_takeWhile_dropWhile, ← hpoint] }

/-! ## What Python reads -/

section Reading

theorem span_append {whole rest : List Char} (hwhole : ∀ c ∈ whole, c.isDigit = true)
    (hrest : ∀ c ∈ rest.head?, c.isDigit = false) :
    (whole ++ rest).span Char.isDigit = (whole, rest) := by
  rw [List.span_eq_takeWhile_dropWhile, List.takeWhile_append_of_pos hwhole,
    List.dropWhile_append_of_pos hwhole]
  cases rest with
  | nil => simp
  | cons c cs => simp [hrest c rfl]

/-- The characters of an amount are ASCII, and none of them is white space or a mark. -/
theorem plain_of_shaped {amount : String} {whole frac : List Char} (h : Shaped amount whole frac)
    {c : Char} (hc : c ∈ amount.toList) : c.isDigit = true ∨ c = '.' := by
  rw [h.text, List.mem_append] at hc
  rcases hc with hc | hc
  · exact Or.inl (h.whole_digits c hc)
  · split at hc
    · cases hc
    · rcases List.mem_cons.1 hc with rfl | hc
      · exact Or.inr rfl
      · exact Or.inl (h.frac_digits c hc)

variable [Interpreter]

omit [Interpreter] in
theorem plain_bounds {c : Char} (hc : c.isDigit = true ∨ c = '.') : 46 ≤ c.toNat ∧ c.toNat ≤ 57 := by
  rcases hc with hc | rfl
  · have := digit_bounds hc
    omega
  · decide

theorem asciiOf_plain {c : Char} (hc : c.isDigit = true ∨ c = '.') : asciiOf c = c :=
  if_pos (by have := plain_bounds hc; omega)

theorem isSpace_plain {c : Char} (hc : c.isDigit = true ∨ c = '.') : isSpace c = false := by
  have hbounds := plain_bounds hc
  rw [isSpace, if_pos (by omega)]
  refine decide_eq_false fun hmem => ?_
  simp only [List.mem_cons, List.not_mem_nil, or_false] at hmem
  omega

omit [Interpreter] in
theorem stripWith_eq_self {p : Char → Bool} {cs : List Char} (h : ∀ c ∈ cs, p c = false) :
    stripWith p cs = cs := by
  have hkeep {xs : List Char} (hxs : ∀ c ∈ xs, p c = false) : xs.dropWhile p = xs := by
    cases xs with
    | nil => rfl
    | cons x xs => simp [hxs x List.mem_cons_self]
  rw [stripWith, hkeep h, hkeep fun c hc => h c (List.mem_reverse.1 hc), List.reverse_reverse]

omit [Interpreter] in
theorem toLower_digit {c : Char} (hc : c.isDigit = true) : c.toLower = c := by
  have hbounds := digit_bounds hc
  refine dif_neg fun h => ?_
  have hupper : (65 : ℕ) ≤ c.toNat := UInt32.le_iff_toNat_le.1 h.1
  omega

omit [Interpreter] in
/-- Digits, with a point and digits behind them or not, are read as they stand. -/
theorem unsignedDecimal_shaped {amount : String} {whole frac : List Char}
    (h : Shaped amount whole frac) : unsignedDecimal false amount.toList =
      some (.finite ⟨false, Nat.ofDigitChars 10 (whole ++ frac) 0, -frac.length⟩) := by
  obtain ⟨c, cs, hc, hcons⟩ : ∃ c cs, c.isDigit = true ∧ amount.toList = c :: cs := by
    obtain ⟨c, cs, hwhole⟩ := List.exists_cons_of_ne_nil h.whole_ne
    refine ⟨c, cs ++ (if frac = [] then [] else '.' :: frac),
      h.whole_digits c (by rw [hwhole]; exact List.mem_cons_self), ?_⟩
    rw [h.text, hwhole, List.cons_append]
  have hbounds := digit_bounds hc
  have hname : amount.toList.map Char.toLower = c :: cs.map Char.toLower := by
    rw [hcons, List.map_cons, toLower_digit hc]
  -- no name of a special value begins with a digit
  have hletter (d : Char) (hd : 57 < d.toNat) : c ≠ d := fun hcd => by
    rw [hcd] at hbounds
    omega
  have hi := hletter 'i' (by decide)
  have hn := hletter 'n' (by decide)
  have hs := hletter 's' (by decide)
  unfold unsignedDecimal
  simp only [hname]
  rw [if_neg (by simp [hi]), if_neg (by simp [hn.symm]), if_neg (by simp [hs.symm])]
  rw [h.span]
  by_cases hfrac : frac = []
  · subst hfrac
    simp [h.whole_ne, exponentOf]
  · have hdigits : frac.span Char.isDigit = (frac, []) := by
      have hspan : (frac ++ []).span Char.isDigit = (frac, []) :=
        span_append h.frac_digits (by simp)
      rwa [List.append_nil] at hspan
    simp only [if_neg hfrac, hdigits]
    simp [h.whole_ne, exponentOf]

/-- An admitted amount is read digit by digit. -/
theorem decimalOfText_shaped {amount : String} {whole frac : List Char}
    (h : Shaped amount whole frac) : decimalOfText amount =
      some (.finite ⟨false, Nat.ofDigitChars 10 (whole ++ frac) 0, -frac.length⟩) := by
  have hstrip : stripWith isSpace amount.toList = amount.toList :=
    stripWith_eq_self fun c hc => isSpace_plain (plain_of_shaped h hc)
  have hfilter : amount.toList.filter (· ≠ '_') = amount.toList := by
    refine List.filter_eq_self.2 fun c hc => ?_
    have hbounds := plain_bounds (plain_of_shaped h hc)
    refine decide_eq_true fun hunderscore => ?_
    rw [hunderscore] at hbounds
    exact absurd hbounds (by decide)
  have hascii : amount.toList.map asciiOf = amount.toList := by
    conv_rhs => rw [← List.map_id amount.toList]
    exact List.map_congr_left fun c hc => asciiOf_plain (plain_of_shaped h hc)
  rw [decimalOfText, hstrip, hfilter, hascii]
  have hsign (c : Char) (hc : c.toNat < 46) (cs : List Char) : amount.toList ≠ c :: cs := by
    intro hcons
    have hbounds := plain_bounds (plain_of_shaped h (hcons ▸ List.mem_cons_self))
    omega
  split
  case h_1 cs hcons => exact absurd hcons (hsign '-' (by decide) cs)
  case h_2 cs hcons => exact absurd hcons (hsign '+' (by decide) cs)
  case h_3 => exact unsignedDecimal_shaped h

end Reading

/-! ## What the two languages make of an amount -/

/-- The base units of an amount. -/
def unitsOf (whole frac : List Char) : ℕ :=
  Nat.ofDigitChars 10 (whole ++ frac) 0 * 10 ^ (6 - frac.length)

theorem natOfDigits_eq {cs : List Char} (hcs : ∀ c ∈ cs, c.isDigit = true) (n : ℕ) :
    cs.foldl (fun n c => 10 * n + JavaScript.digitValue c) n = Nat.ofDigitChars 10 cs n := by
  induction cs generalizing n with
  | nil => rfl
  | cons c cs ih =>
      have hc : JavaScript.digitValue c = c.toNat - '0'.toNat := if_pos (hcs c List.mem_cons_self)
      rw [List.foldl_cons, Nat.ofDigitChars_cons, hc,
        ih fun x hx => hcs x (List.mem_cons_of_mem _ hx)]

/-- The data seller scales every amount of the schema exactly. -/
theorem typescript_units {amount : String} {whole frac : List Char} (h : Shaped amount whole frac) :
    DataSeller.usdcBaseUnits amount = .ok (unitsOf whole frac) := by
  have hzero : ∀ c ∈ List.replicate (6 - frac.length) '0', c.isDigit = true := by
    intro c hc
    rw [List.eq_of_mem_replicate hc]
    rfl
  have hpadded : ∀ c ∈ frac ++ List.replicate (6 - frac.length) '0', c.isDigit = true := by
    intro c hc
    exact (List.mem_append.1 hc).elim (h.frac_digits c) (hzero c)
  have hlength : (frac ++ List.replicate (6 - frac.length) '0').length = 6 := by
    have := h.frac_length
    simp
    omega
  have hunits : unitsOf whole frac = Nat.ofDigitChars 10 whole 0 * 1000000 +
      Nat.ofDigitChars 10 (frac ++ List.replicate (6 - frac.length) '0') 0 := by
    rw [unitsOf, ← ofDigitChars_append_zeros, List.append_assoc, Nat.ofDigitChars_append,
      Nat.ofDigitChars_eq_ofDigitChars_zero, hlength]
    ring
  obtain ⟨c, cs, hwhole⟩ := List.exists_cons_of_ne_nil h.whole_ne
  have hwholeDigits := natOfDigits_eq h.whole_digits 0
  have hfracDigits := natOfDigits_eq hpadded 0
  unfold DataSeller.usdcBaseUnits
  rw [h.span, hunits]
  by_cases hfrac : frac = []
  · subst hfrac
    simp only [hwhole, JavaScript.natOfDigits] at hwholeDigits ⊢
    rw [hwholeDigits]
    simp
    rfl
  · have hshort : 1 ≤ frac.length ∧ frac.length ≤ 6 ∧ frac.all Char.isDigit :=
      ⟨List.length_pos_iff.2 hfrac, h.frac_length, List.all_eq_true.2 h.frac_digits⟩
    simp only [hwhole, if_neg hfrac, if_pos hshort, JavaScript.natOfDigits] at hwholeDigits ⊢
    rw [hwholeDigits, hfracDigits]
    push_cast
    rfl

/-- The exact product `usdc_base_units` rounds. -/
def product (whole frac : List Char) : Decimal where
  negative := false
  coefficient := 10 ^ 6 * Nat.ofDigitChars 10 (whole ++ frac) 0
  exponent := -frac.length

theorem toRat_product {whole frac : List Char} (hfrac : frac.length ≤ 6) :
    (product whole frac).toRat = unitsOf whole frac := by
  have hsix : (10 : ℕ) ^ 6 = 10 ^ (6 - frac.length) * 10 ^ frac.length := by
    rw [← pow_add, Nat.sub_add_cancel hfrac]
  have hpow : (10 : ℚ) ^ frac.length ≠ 0 := pow_ne_zero _ (by norm_num)
  rw [Decimal.toRat, product, unitsOf, hsix]
  push_cast
  rw [zpow_neg, zpow_natCast]
  field_simp

/-- Python returns the exact units where rounding the product changes nothing. -/
theorem python_units_iff [Interpreter] {amount : String} {whole frac : List Char}
    (h : Shaped amount whole frac) (hpos : 0 < unitsOf whole frac) :
    usdcBaseUnits amount = .ok (unitsOf whole frac) ↔
      ∃ r, defaultContext.fix (product whole frac) = some r ∧
        r.toRat = (product whole frac).toRat := by
  have hmul : defaultContext.mul
      ⟨false, Nat.ofDigitChars 10 (whole ++ frac) 0, -frac.length⟩ ⟨false, 10 ^ 6, 0⟩ =
      defaultContext.fix (product whole frac) := by
    rw [DecimalContext.mul, product, add_zero, Bool.false_xor]
  rw [toRat_product h.frac_length, usdcBaseUnits, decimalOfText_shaped h]
  simp only [hmul]
  cases defaultContext.fix (product whole frac) with
  | none => simp
  | some r =>
      simp only [Option.some.injEq, exists_eq_left']
      constructor
      · intro hok
        split at hok
        · cases hok
        · rename_i hunits
          rw [not_or, not_not] at hunits
          rw [hunits.1, Except.ok.inj hok, Int.cast_natCast]
      · intro hr
        have htrunc : r.trunc = unitsOf whole frac := Decimal.trunc_of_eq hr
        have hpos' : (0 : ℚ) < unitsOf whole frac := by exact_mod_cast hpos
        rw [if_neg, htrunc]
        rw [htrunc, hr, not_or, not_not]
        exact ⟨rfl, not_le.2 hpos'⟩

/-- The digits of an admitted amount are not all zeros. -/
theorem significant_ne_nil {ds : List Char} (h : ds.any (· ≠ '0') = true) : significant ds ≠ [] := by
  intro hnil
  obtain ⟨m, n, hds⟩ := exists_zeros ds
  rw [hnil, List.append_nil] at hds
  obtain ⟨c, hc, hne⟩ := List.any_eq_true.1 h
  rw [hds, List.mem_append] at hc
  have hzero : c = '0' := hc.elim List.eq_of_mem_replicate List.eq_of_mem_replicate
  simp [hzero] at hne

/-- How far the product reaches: the exponent of its first digit. -/
theorem adjusted_product_iff {amount : String} {whole frac : List Char}
    (h : Shaped amount whole frac)
    (hne : Nat.ofDigitChars 10 (whole ++ frac) 0 ≠ 0) :
    (product whole frac).adjusted ≤ defaultContext.emax ↔ whole.length ≤ 999994 := by
  have hdigits : ∀ c ∈ whole ++ frac, c.isDigit = true := fun c hc =>
    (List.mem_append.1 hc).elim (h.whole_digits c) (h.frac_digits c)
  have hfrac := h.frac_length
  unfold Decimal.adjusted product defaultContext
  simp only
  rw [mul_comm, digitCount_mul_pow hne]
  rcases h.whole_head with hzero | hhead
  · have hlt : digitCount (Nat.ofDigitChars 10 (whole ++ frac) 0) ≤ frac.length := by
      rw [digitCount_le_iff, hzero]
      have hlt := ofDigitChars_lt h.frac_digits
      simpa [Nat.ofDigitChars_cons] using hlt
    have hone : whole.length = 1 := by rw [hzero, List.length_singleton]
    omega
  · have hhead' : (whole ++ frac).head? ≠ some '0' := by
      rw [List.head?_append_of_ne_nil _ h.whole_ne]
      exact hhead
    rw [digitCount_ofDigitChars hdigits hhead', List.length_append]
    omega

/-! ## Where they agree -/

/-- The units of an amount are its value times `10 ^ 6`. -/
theorem unitsOf_eq {whole frac : List Char} (hfrac : frac.length ≤ 6) :
    (unitsOf whole frac : ℚ) =
      (Nat.ofDigitChars 10 (whole ++ frac) 0 : ℚ) / 10 ^ frac.length * 10 ^ 6 := by
  have hpow : (10 : ℚ) ^ frac.length ≠ 0 := pow_ne_zero _ (by norm_num)
  have hsix : (10 : ℚ) ^ 6 = 10 ^ (6 - frac.length) * 10 ^ frac.length := by
    rw [← pow_add, Nat.sub_add_cancel hfrac]
  rw [unitsOf, hsix]
  push_cast
  field_simp

theorem ofDigitChars_ne_zero {ds : List Char} (hds : ∀ c ∈ ds, c.isDigit = true)
    (hne : significant ds ≠ []) : Nat.ofDigitChars 10 ds 0 ≠ 0 := by
  obtain ⟨m, n, hzeros⟩ := exists_zeros ds
  have hdigits : ∀ c ∈ significant ds, c.isDigit = true := by
    intro c hc
    refine hds c ?_
    rw [hzeros]
    simp [hc]
  obtain ⟨n, hn⟩ := ofDigitChars_significant ds
  have hten := not_ten_dvd hdigits hne (significant_getLast? ds)
  rw [hn]
  refine Nat.mul_ne_zero (fun hzero => hten ?_) (by positivity)
  rw [hzero]
  exact dvd_zero 10

/-- Both languages make the exact base units of an admitted amount where its significant
digits fit 28 and its whole part 999994 digits, and only there. -/
theorem baseUnits_alike_iff [Interpreter] {amount : String} (h : admittedAmount amount = true) :
    (∃ n : ℤ, DataSeller.usdcBaseUnits amount = .ok n ∧ usdcBaseUnits amount = .ok n ∧
      n = amountValue amount * 10 ^ 6) ↔
    (significantDigits amount).length ≤ 28 ∧ (amountParts amount).1.length ≤ 999994 := by
  obtain ⟨hmatches, hany⟩ := of_decide_eq_true h
  have hshape := shaped_of_matches hmatches
  unfold significantDigits amountValue
  generalize (amountParts amount).1 = whole at hany hshape ⊢
  generalize (amountParts amount).2 = frac at hany hshape ⊢
  have hdigits : ∀ c ∈ whole ++ frac, c.isDigit = true := fun c hc =>
    (List.mem_append.1 hc).elim (hshape.whole_digits c) (hshape.frac_digits c)
  have hsignificant := significant_ne_nil hany
  have hne := ofDigitChars_ne_zero hdigits hsignificant
  have hnonzero : (product whole frac).coefficient ≠ 0 := Nat.mul_ne_zero (by norm_num) hne
  have hetiny : defaultContext.etiny ≤ (product whole frac).exponent := by
    have := hshape.frac_length
    simp only [DecimalContext.etiny, defaultContext, product]
    omega
  have hexact := DecimalContext.fix_exact_iff (by decide) hnonzero hetiny
  have hcoefficient : (product whole frac).coefficient =
      Nat.ofDigitChars 10 (whole ++ frac) 0 * 10 ^ 6 := mul_comm _ _
  rw [adjusted_product_iff hshape hne, hcoefficient] at hexact
  have hpos : 0 < unitsOf whole frac := Nat.mul_pos (Nat.pos_of_ne_zero hne) (by positivity)
  rw [← pow_dvd_iff_significant hdigits hsignificant 28 6]
  refine Iff.trans ?_ ((python_units_iff hshape hpos).trans hexact)
  rw [← unitsOf_eq hshape.frac_length, typescript_units hshape]
  constructor
  · rintro ⟨n, hts, hpy, _⟩
    rw [hpy, ← Except.ok.inj hts]
  · intro hpy
    exact ⟨unitsOf whole frac, rfl, hpy, rfl⟩

section Demo

attribute [local instance] Interpreter.ascii

theorem baseUnits_alike_demo : ∃ n : ℤ, DataSeller.usdcBaseUnits "25.00" = .ok n ∧
    usdcBaseUnits "25.00" = .ok n ∧ n = amountValue "25.00" * 10 ^ 6 := by
  have hadmitted : admittedAmount "25.00" = true := by decide +kernel
  have hshort : (significantDigits "25.00").length ≤ 28 ∧
      (amountParts "25.00").1.length ≤ 999994 := by decide +kernel
  exact (baseUnits_alike_iff hadmitted).2 hshort

/-- An amount of 29 digits is admitted, and Python rounds it. -/
theorem baseUnits_not_alike :
    ¬ ∀ amount, admittedAmount amount = true →
      ∃ n : ℤ, DataSeller.usdcBaseUnits amount = .ok n ∧ usdcBaseUnits amount = .ok n ∧
        n = amountValue amount * 10 ^ 6 := by
  intro h
  obtain ⟨n, hts, hpy, _⟩ := h "12345678901234567890123456789" (by decide +kernel)
  have hunits : DataSeller.usdcBaseUnits "12345678901234567890123456789" =
      .ok 12345678901234567890123456789000000 := by decide +kernel
  have hrounded : usdcBaseUnits "12345678901234567890123456789" =
      .ok 12345678901234567890123456790000000 := by decide +kernel
  have hexact := Except.ok.inj (hunits.symm.trans hts)
  have hlost := Except.ok.inj (hrounded.symm.trans hpy)
  exact absurd (hexact.trans hlost.symm) (by decide)

end Demo

end SellerAgent

end Coordination
