import Coordination.DataSeller.Answerable
import Coordination.JavaScript.Exact
import Coordination.SellerAgent.Amounts

/-!
# The price, exactly

`priceQuery` over any arithmetic; over binary64 numbers it is the one of the engine. Over exact
numbers the price is the published formula, rounded half-up twice: it depends on the columns
through their set, and grows with the tracts and the columns. The amount that goes into the terms
and the contract is its text with two decimals. That text has an exponent once the price is
`10 ^ 23` cents, and then it is no amount.
-/

namespace Coordination

namespace DataSeller

namespace Engine

open JavaScript Library

/-! ## `priceQuery` over an arithmetic -/

/-- `RateCardTerms`. -/
structure RateCardOver (ν : Type) where
  baseCents : ν
  perTractMicroCents : ν
  perStandardColumnCents : ν
  perPremiumColumnCents : ν
  vintageMultiplierBps : ν

structure BreakdownOver (ν : Type) where
  base : ν
  tracts : ν
  standardColumns : ν
  premiumColumns : ν
  subtotal : ν

/-- `Price`. -/
structure PriceOver (ν : Type) where
  tractCount : ℕ
  breakdownCents : BreakdownOver ν
  listCents : ν
  listAmountMinor : String
  listAmountDisplay : String

section Over

variable {ν : Type} [Arithmetic ν]

open Arithmetic

/-- `roundHalfUp`. -/
def roundHalfUpOver (x : ν) : ν :=
  Arithmetic.floor (x + half)

/-- `BigInt(x)`. -/
def bigIntOver (x : ν) : Except Failure ℤ :=
  match value x with
  | some q => if q.den = 1 then .ok q.num else .error .rangeError
  | none => .error .rangeError

/-- `(cents / 100).toFixed(2)`. -/
def dollarsOver (cents : ν) : String :=
  toFixed (cents / ofNat 100) 2

/-- `priceQuery`. -/
def priceQueryOver (tractCount : ℕ) (columns : List String) (terms : RateCardOver ν) :
    Except Failure (PriceOver ν) := do
  let tiers ← (distinct columns).mapM tierOf
  let premium : ν := ofNat (tiers.count .premium)
  let standard : ν := ofNat (tiers.count .standard)
  let tractsCents := roundHalfUpOver (ofNat tractCount * terms.perTractMicroCents / ofNat 1000)
  let standardColumns := standard * terms.perStandardColumnCents
  let premiumColumns := premium * terms.perPremiumColumnCents
  let subtotal := terms.baseCents + tractsCents + standardColumns + premiumColumns
  let listCents := roundHalfUpOver (subtotal * terms.vintageMultiplierBps / ofNat 10000)
  let cents ← bigIntOver listCents
  return {
    tractCount
    breakdownCents := {
      base := terms.baseCents, tracts := tractsCents, standardColumns, premiumColumns, subtotal }
    listCents
    listAmountMinor := toString (cents * 10000)
    listAmountDisplay := "$" ++ dollarsOver listCents }

end Over

def RateCardTerms.over (terms : RateCardTerms) : RateCardOver Number where
  baseCents := terms.baseCents
  perTractMicroCents := terms.perTractMicroCents
  perStandardColumnCents := terms.perStandardColumnCents
  perPremiumColumnCents := terms.perPremiumColumnCents
  vintageMultiplierBps := terms.vintageMultiplierBps

def PriceOver.price (p : PriceOver Number) : Price where
  tractCount := p.tractCount
  breakdownCents := {
    base := p.breakdownCents.base
    tracts := p.breakdownCents.tracts
    standardColumns := p.breakdownCents.standardColumns
    premiumColumns := p.breakdownCents.premiumColumns
    subtotal := p.breakdownCents.subtotal }
  listCents := p.listCents
  listAmountMinor := p.listAmountMinor
  listAmountDisplay := p.listAmountDisplay

theorem dollarsOver_number (cents : Number) : dollarsOver cents = (cents / 100).toFixed 2 :=
  Arithmetic.toFixed_number (cents / 100) 2

theorem bind_pure_eq_map {α β γ : Type} (x : Except Failure α) (f : α → β) (g : α → γ) (h : γ → β)
    (hfg : ∀ a, f a = h (g a)) :
    (x >>= fun a => pure (f a)) = (x >>= fun a => pure (g a)).map h := by
  cases x with
  | error e => rfl
  | ok a => exact congrArg Except.ok (hfg a)

/-- Over binary64 numbers this is the engine's. -/
theorem priceQuery_eq (tractCount : ℕ) (columns : List String) (terms : RateCardTerms) :
    priceQuery tractCount columns terms =
      (priceQueryOver tractCount columns terms.over).map PriceOver.price := by
  unfold priceQuery priceQueryOver
  cases (distinct columns).mapM tierOf with
  | error e => rfl
  | ok tiers =>
      rw [ok_bind, ok_bind]
      refine bind_pure_eq_map _ _ _ _ fun cents => ?_
      simp only [PriceOver.price, dollarsOver_number]
      rfl

/-! ## The published formula -/

/-- A rate card of whole amounts, to compute with exactly. -/
def RateCardOver.exact (terms : RateCardOver ℕ) : RateCardOver ℚ where
  baseCents := terms.baseCents
  perTractMicroCents := terms.perTractMicroCents
  perStandardColumnCents := terms.perStandardColumnCents
  perPremiumColumnCents := terms.perPremiumColumnCents
  vintageMultiplierBps := terms.vintageMultiplierBps

/-- `n` is `q` rounded to the nearest, ties up. -/
def IsHalfUp (q : ℚ) (n : ℕ) : Prop :=
  (n : ℚ) - 1 / 2 ≤ q ∧ q < n + 1 / 2

/-- The quotient, rounded half-up. -/
def halfUp (a b : ℕ) : ℕ :=
  (2 * a + b) / (2 * b)

/-- The columns of a tier. -/
def columnsOf (tier : Tier) (columns : List String) : Finset String :=
  columns.toFinset.filter fun c => (measureOf c).map soldMeasures = some tier

section Formula

variable (tractCount : ℕ) (columns : List String) (terms : RateCardOver ℕ)

def tractCharge : ℕ :=
  halfUp (tractCount * terms.perTractMicroCents) 1000

def subtotalCents : ℕ :=
  terms.baseCents + tractCharge tractCount terms +
    (columnsOf .standard columns).card * terms.perStandardColumnCents +
    (columnsOf .premium columns).card * terms.perPremiumColumnCents

def publishedCents : ℕ :=
  halfUp (subtotalCents tractCount columns terms * terms.vintageMultiplierBps) 10000

end Formula

theorem roundHalfUp_exact (a : ℕ) {b : ℕ} (hb : 0 < b) :
    roundHalfUpOver ((a : ℚ) / b) = halfUp a b := by
  have hne : (b : ℚ) ≠ 0 := by exact_mod_cast hb.ne'
  have hsum : (a : ℚ) / b + 1 / 2 = (2 * a + b : ℕ) / (2 * b : ℕ) := by
    push_cast
    field_simp
  show ((⌊(a : ℚ) / b + 1 / 2⌋ : ℤ) : ℚ) = _
  rw [hsum, Rat.floor_natCast_div_natCast]
  rfl

theorem isHalfUp_halfUp (a : ℕ) {b : ℕ} (hb : 0 < b) : IsHalfUp (a / b) (halfUp a b) := by
  have hfloor := roundHalfUp_exact a hb
  have hvalue : ((⌊(a : ℚ) / b + 1 / 2⌋ : ℤ) : ℚ) = halfUp a b := hfloor
  have hlower := Int.floor_le ((a : ℚ) / b + 1 / 2)
  have hupper := Int.lt_floor_add_one ((a : ℚ) / b + 1 / 2)
  rw [hvalue] at hlower hupper
  constructor <;> linarith

theorem halfUp_le_halfUp {a a' : ℕ} (h : a ≤ a') (b : ℕ) : halfUp a b ≤ halfUp a' b :=
  Nat.div_le_div_right (by omega)

theorem nodup_distinct {α : Type} [DecidableEq α] (xs : List α) : (distinct xs).Nodup := by
  suffices h : ∀ (xs ys : List α), ys.Nodup →
      (xs.foldl (fun ys x => if x ∈ ys then ys else ys ++ [x]) ys).Nodup from
    h xs [] List.nodup_nil
  intro xs
  induction xs with
  | nil => exact fun ys h => h
  | cons x xs ih =>
      intro ys h
      rw [List.foldl_cons]
      refine ih _ ?_
      split_ifs with hx
      · exact h
      · refine List.nodup_append'.2 ⟨h, List.nodup_singleton x, ?_⟩
        exact List.disjoint_singleton.2 hx

/-- The tiers of the columns count each column once. -/
theorem count_tiers (tier : Tier) (columns : List String) :
    ((distinct columns).filterMap fun c => (measureOf c).map soldMeasures).count tier =
      (columnsOf tier columns).card := by
  have hset : columnsOf tier columns =
      ((distinct columns).filter fun c => (measureOf c).map soldMeasures = some tier).toFinset := by
    ext c
    simp [columnsOf, mem_distinct]
  rw [hset, List.toFinset_card_of_nodup ((nodup_distinct columns).filter _), List.count_filterMap,
    List.countP_eq_length_filter]
  congr 1
  exact List.filter_congr fun c _ => beq_eq_decide _ _

section Formula

variable (tractCount : ℕ) (columns : List String) (terms : RateCardOver ℕ)

/-- The price by the published formula. -/
def publishedPrice : PriceOver ℚ where
  tractCount
  breakdownCents := {
    base := terms.baseCents
    tracts := tractCharge tractCount terms
    standardColumns := (columnsOf .standard columns).card * terms.perStandardColumnCents
    premiumColumns := (columnsOf .premium columns).card * terms.perPremiumColumnCents
    subtotal := subtotalCents tractCount columns terms }
  listCents := publishedCents tractCount columns terms
  listAmountMinor := toString ((publishedCents tractCount columns terms : ℤ) * 10000)
  listAmountDisplay := "$" ++ dollarsOver (publishedCents tractCount columns terms : ℚ)

variable {tractCount columns terms}

/-- Over exact numbers the price is the published one. -/
theorem priceQuery_published (hsold : ∀ c ∈ columns, isSoldMeasure c = true) :
    priceQueryOver tractCount columns terms.exact =
      .ok (publishedPrice tractCount columns terms) := by
  have htiers := mapM_tierOf fun c hc => hsold c (mem_distinct.1 hc)
  have htracts : roundHalfUpOver (Arithmetic.ofNat tractCount * terms.exact.perTractMicroCents /
      Arithmetic.ofNat 1000 : ℚ) = tractCharge tractCount terms := by
    rw [tractCharge, ← roundHalfUp_exact _ (by decide), Nat.cast_mul]
    rfl
  have hsubtotal : terms.exact.baseCents + (tractCharge tractCount terms : ℚ) +
      Arithmetic.ofNat (columnsOf .standard columns).card * terms.exact.perStandardColumnCents +
      Arithmetic.ofNat (columnsOf .premium columns).card * terms.exact.perPremiumColumnCents =
        subtotalCents tractCount columns terms := by
    unfold subtotalCents
    push_cast
    rfl
  have hlist : roundHalfUpOver ((subtotalCents tractCount columns terms : ℚ) *
      terms.exact.vintageMultiplierBps / Arithmetic.ofNat 10000) =
        publishedCents tractCount columns terms := by
    rw [publishedCents, ← roundHalfUp_exact _ (by decide), Nat.cast_mul]
    rfl
  have hcents : bigIntOver (publishedCents tractCount columns terms : ℚ) =
      .ok (publishedCents tractCount columns terms : ℤ) := rfl
  unfold priceQueryOver
  rw [htiers, ok_bind]
  simp only [count_tiers, htracts, hsubtotal, hlist, hcents]
  rfl

theorem columnsOf_congr {columns' : List String} (h : ∀ c, c ∈ columns' ↔ c ∈ columns)
    (tier : Tier) : columnsOf tier columns' = columnsOf tier columns := by
  ext c
  simp [columnsOf, h]

theorem columnsOf_subset {columns' : List String} (h : columns ⊆ columns') (tier : Tier) :
    columnsOf tier columns ⊆ columnsOf tier columns' := by
  intro c hc
  rw [columnsOf, Finset.mem_filter, List.mem_toFinset] at hc ⊢
  exact ⟨h hc.1, hc.2⟩

/-- The price depends on the columns through their set. -/
theorem publishedPrice_congr {columns' : List String} (h : ∀ c, c ∈ columns' ↔ c ∈ columns) :
    publishedPrice tractCount columns' terms = publishedPrice tractCount columns terms := by
  unfold publishedPrice publishedCents subtotalCents
  simp only [columnsOf_congr h]

/-- More tracts and more columns never cost less. -/
theorem publishedCents_mono {tractCount' : ℕ} {columns' : List String}
    (htracts : tractCount ≤ tractCount') (hcolumns : columns ⊆ columns') :
    publishedCents tractCount columns terms ≤ publishedCents tractCount' columns' terms := by
  have hcharge : tractCharge tractCount terms ≤ tractCharge tractCount' terms :=
    halfUp_le_halfUp (Nat.mul_le_mul_right _ htracts) _
  have hsubtotal : subtotalCents tractCount columns terms ≤
      subtotalCents tractCount' columns' terms := by
    unfold subtotalCents
    gcongr <;> exact columnsOf_subset hcolumns _
  exact halfUp_le_halfUp (Nat.mul_le_mul_right _ hsubtotal) _

end Formula

/-! ## The amount -/

open Arithmetic

/-- What is an amount consists of digits and a point. -/
theorem plain_of_usdcBaseUnits {amount : String} {n : ℤ} (h : usdcBaseUnits amount = .ok n)
    {c : Char} (hc : c ∈ amount.toList) : c.isDigit = true ∨ c = '.' := by
  have hsplit := List.takeWhile_append_dropWhile (p := Char.isDigit) (l := amount.toList)
  have hwhole := List.all_takeWhile (p := Char.isDigit) (l := amount.toList)
  unfold usdcBaseUnits at h
  rw [List.span_eq_takeWhile_dropWhile] at h
  rw [← hsplit, List.mem_append] at hc
  rcases hc with hc | hc
  · exact Or.inl (List.all_eq_true.1 hwhole c hc)
  · generalize amount.toList.takeWhile Char.isDigit = whole at h
    generalize amount.toList.dropWhile Char.isDigit = rest at h hc
    dsimp only at h
    split at h
    · cases h
    · cases hc
    · split_ifs at h with hfrac
      · rcases List.mem_cons.1 hc with rfl | hc
        · exact Or.inr rfl
        · exact Or.inl (List.all_eq_true.1 hfrac.2.2 c hc)
      · cases h
    · cases h

/-- The two decimals of a price are an amount of the contract. -/
theorem shaped_dollars {n : ℕ} (hn : n < 10 ^ 23) :
    SellerAgent.Shaped (dollarsOver (n : ℚ)) (Number.digits (n / 100))
      [(n / 10 % 10).digitChar, (n % 10).digitChar] := by
  have htext : (dollarsOver (n : ℚ)).toList = Number.digits (n / 100) ++
      '.' :: [(n / 10 % 10).digitChar, (n % 10).digitChar] := toFixed_hundredths hn
  have hdigits {m : ℕ} {c : Char} (hc : c ∈ Number.digits m) : c.isDigit = true :=
    Nat.isDigit_of_mem_toDigits (by decide) (by decide) hc
  have hdigit {m : ℕ} (hm : m < 10) : m.digitChar.isDigit = true :=
    hdigits (by rw [digits_of_lt hm]; exact List.mem_singleton_self _)
  refine ⟨htext, fun c => hdigits, ?_, Nat.toDigits_ne_nil, ?_, by simp, ?_⟩
  · refine List.forall_mem_cons.2 ⟨hdigit (Nat.mod_lt _ (by decide)), ?_⟩
    exact List.forall_mem_singleton.2 (hdigit (Nat.mod_lt _ (by decide)))
  · rcases Nat.eq_zero_or_pos (n / 100) with hzero | hpos
    · rw [hzero]
      exact Or.inl rfl
    · exact Or.inr (digits_head? hpos)
  · rw [htext]
    refine SellerAgent.span_append (fun c => hdigits) fun c hc => ?_
    cases hc
    rfl

/-- The two decimals of a price are its base units, up to `10 ^ 23` cents. -/
theorem usdcBaseUnits_dollars (n : ℕ) :
    usdcBaseUnits (dollarsOver (n : ℚ)) = .ok ((n : ℤ) * 10000) ↔ n < 10 ^ 23 := by
  constructor
  · intro h
    refine lt_of_not_ge fun hle => ?_
    have hlarge : (10 : ℚ) ^ 21 ≤ n / 100 := by
      rw [le_div_iff₀ (by norm_num)]
      exact_mod_cast hle
    rcases plain_of_usdcBaseUnits h (exponent_mem_toFixed hlarge 2) with hdigit | hpoint
    · exact absurd hdigit (by decide)
    · exact absurd hpoint (by decide)
  · intro hn
    rw [SellerAgent.typescript_units (shaped_dollars hn)]
    have hunits : SellerAgent.unitsOf (Number.digits (n / 100))
        [(n / 10 % 10).digitChar, (n % 10).digitChar] = n * 10000 := by
      rw [SellerAgent.unitsOf, ← padded_two, Library.ofDigitChars_zeros_append]
      exact congrArg (· * 10000) (Nat.ofDigitChars_toDigits (b := 10) (by decide) (by decide))
    rw [hunits]
    push_cast
    rfl

/-! ## Quote, contract and escrow -/

/-- The published formula stays below `10 ^ 23` cents. -/
def BelowExponent (tractCount : ℕ) (columns : List String) (terms : RateCardOver ℕ) : Prop :=
  subtotalCents tractCount columns terms * terms.vintageMultiplierBps + 5000 < 10 ^ 27

theorem publishedCents_lt_iff {tractCount : ℕ} {columns : List String} {terms : RateCardOver ℕ} :
    publishedCents tractCount columns terms < 10 ^ 23 ↔
      BelowExponent tractCount columns terms := by
  rw [publishedCents, halfUp, Nat.div_lt_iff_lt_mul (by decide), BelowExponent]
  omega

/-- What the rate card promises of a price of `listCents` cents. -/
structure AsPublished (tractCount : ℕ) (columns : List String) (terms : RateCardOver ℕ)
    (price : PriceOver ℚ) (tractsCents listCents : ℕ) : Prop where
  tracts : price.breakdownCents.tracts = tractsCents
  list : price.listCents = listCents
  tracts_rounded : IsHalfUp ((tractCount * terms.perTractMicroCents : ℕ) / 1000) tractsCents
  list_rounded : IsHalfUp (((terms.baseCents + tractsCents +
    (columnsOf .standard columns).card * terms.perStandardColumnCents +
    (columnsOf .premium columns).card * terms.perPremiumColumnCents) *
      terms.vintageMultiplierBps : ℕ) / 10000) listCents
  minor : price.listAmountMinor = toString ((listCents : ℤ) * 10000)
  set : ∀ columns' : List String, (∀ c, c ∈ columns' ↔ c ∈ columns) →
    priceQueryOver tractCount columns' terms.exact = .ok price
  monotone : ∀ (tractCount' : ℕ) (columns' : List String) (price' : PriceOver ℚ),
    tractCount ≤ tractCount' → columns ⊆ columns' →
      (∀ c ∈ columns', isSoldMeasure c = true) →
        priceQueryOver tractCount' columns' terms.exact = .ok price' →
          price.listCents ≤ price'.listCents

/-- The rate card of the worked example. -/
def workedCard : RateCardOver ℕ where
  baseCents := 500
  perTractMicroCents := 200
  perStandardColumnCents := 5000
  perPremiumColumnCents := 12000
  vintageMultiplierBps := 10000

example : publishedCents 362 ["DIABETES", "BPHIGH", "OBESITY", "ACCESS2"] workedCard = 34572 := by
  decide +kernel

/-- A card whose base price has an exponent when it is written in dollars. -/
def hugeCard : RateCardOver ℕ where
  baseCents := 2 ^ 80
  perTractMicroCents := 0
  perStandardColumnCents := 0
  perPremiumColumnCents := 0
  vintageMultiplierBps := 10000

/-- The same card, in binary64 numbers. -/
def hugeTerms : RateCardTerms :=
  ⟨1208925819614629174706176, 0, 0, 0, 10000⟩

theorem publishedCents_huge : publishedCents 1 ["SLEEP"] hugeCard = 2 ^ 80 := by
  decide +kernel

theorem priceQuery_huge : (priceQuery 1 ["SLEEP"] hugeTerms).toOption.map
      (fun price => (price.listAmountMinor, (price.listCents / 100).toFixed 2)) =
    some ("12089258196146291747061760000", "1.2089258196146292e+22") := by
  decide +kernel

end Engine

end DataSeller

end Coordination
