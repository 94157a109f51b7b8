import Mathlib.Data.List.TakeWhile
import Mathlib.Data.Nat.Digits.Lemmas
import Mathlib.Data.Rat.Floor
import Mathlib.Tactic.Linarith
import Mathlib.Tactic.Ring
import Mathlib.Tactic.FieldSimp
import Mathlib.Tactic.Positivity

/-!
# Decimal arithmetic

Decimal floating point: a coefficient and a power of ten. The result of an operation
is the exact one rounded, half to even, to the precision of a context; it overflows
where its adjusted exponent exceeds the context's. `fix_exact_iff` says when rounding
changes nothing: the digits that are dropped are zeros.
-/

namespace Coordination

namespace Library

/-- A finite decimal number. -/
structure Decimal where
  negative : Bool
  coefficient : ℕ
  exponent : ℤ
  deriving DecidableEq

/-- The precision and the exponents of results. -/
structure DecimalContext where
  precision : ℕ
  emin : ℤ
  emax : ℤ

/-- How many decimal digits a number has; zero has none. -/
def digitCount (n : ℕ) : ℕ :=
  (Nat.digits 10 n).length

/-- `c / 10 ^ k`, rounded to the nearest natural number and half to even. -/
def halfEven (c k : ℕ) : ℕ :=
  if 2 * (c % 10 ^ k) < 10 ^ k ∨ 2 * (c % 10 ^ k) = 10 ^ k ∧ c / 10 ^ k % 2 = 0 then c / 10 ^ k
  else c / 10 ^ k + 1

namespace Decimal

def toRat (d : Decimal) : ℚ :=
  (if d.negative then -1 else 1) * d.coefficient * 10 ^ d.exponent

/-- The integer part, rounded towards zero. -/
def trunc (d : Decimal) : ℤ :=
  if 0 ≤ d.toRat then ⌊d.toRat⌋ else ⌈d.toRat⌉

theorem trunc_of_eq {d : Decimal} {n : ℤ} (h : d.toRat = n) : d.trunc = n := by
  unfold trunc
  rw [h, Int.floor_intCast, Int.ceil_intCast, ite_self]

end Decimal

namespace DecimalContext

variable (ctx : DecimalContext)

/-- The least exponent of a result. -/
def etiny : ℤ :=
  ctx.emin - ctx.precision + 1

/-- How many digits of a result are dropped. -/
def excess (d : Decimal) : ℕ :=
  max (digitCount d.coefficient - ctx.precision) (ctx.etiny - d.exponent).toNat

/-- The rounded coefficient; a carry into one more digit is divided out. -/
def rounded (d : Decimal) : Decimal :=
  let c := halfEven d.coefficient (ctx.excess d)
  let e := d.exponent + ctx.excess d
  if ctx.precision < digitCount c then ⟨d.negative, c / 10, e + 1⟩ else ⟨d.negative, c, e⟩

/-- The result of an operation whose exact result is `d`; `none` for an overflow. -/
def fix (d : Decimal) : Option Decimal :=
  if d.coefficient = 0 then some ⟨d.negative, 0, max ctx.etiny (min d.exponent ctx.emax)⟩
  else
    let r := ctx.rounded d
    if r.coefficient ≠ 0 ∧ ctx.emax < r.exponent + digitCount r.coefficient - 1 then none
    else some r

def mul (a b : Decimal) : Option Decimal :=
  -- `Nat.mul` recurses on its second factor, which a caller may give as a literal
  ctx.fix ⟨a.negative ^^ b.negative, b.coefficient * a.coefficient, a.exponent + b.exponent⟩

end DecimalContext

/-! ## Counting digits -/

theorem digitCount_le_iff {n k : ℕ} : digitCount n ≤ k ↔ n < 10 ^ k :=
  Nat.digits_length_le_iff (by norm_num) n

theorem lt_digitCount_iff {n k : ℕ} : k < digitCount n ↔ 10 ^ k ≤ n :=
  Nat.lt_digits_length_iff (by norm_num) n

theorem lt_pow_digitCount (n : ℕ) : n < 10 ^ digitCount n :=
  digitCount_le_iff.1 le_rfl

theorem digitCount_pos {n : ℕ} (hn : n ≠ 0) : 0 < digitCount n :=
  lt_digitCount_iff.2 (by rw [pow_zero]; omega)

theorem digitCount_mul_pow {n : ℕ} (hn : n ≠ 0) (k : ℕ) :
    digitCount (n * 10 ^ k) = digitCount n + k := by
  refine le_antisymm ?_ ?_
  · rw [digitCount_le_iff, pow_add]
    exact Nat.mul_lt_mul_of_pos_right (lt_pow_digitCount n) (by positivity)
  · have hlow : 10 ^ (digitCount n - 1) ≤ n := lt_digitCount_iff.1 (by
      have := digitCount_pos hn
      omega)
    have hpos := digitCount_pos hn
    have hlt : digitCount n - 1 + k < digitCount (n * 10 ^ k) := by
      rw [lt_digitCount_iff, pow_add]
      exact Nat.mul_le_mul_right _ hlow
    omega

/-! ## Rounding -/

/-- Rounding keeps the number where the dropped digits are zeros, and only there. -/
theorem halfEven_mul_eq_iff {c k : ℕ} : halfEven c k * 10 ^ k = c ↔ 10 ^ k ∣ c := by
  have hdiv := Nat.div_add_mod' c (10 ^ k)
  have hpos : 0 < 10 ^ k := by positivity
  constructor
  · intro h
    exact ⟨halfEven c k, by rw [mul_comm, h]⟩
  · intro h
    have hmod : c % 10 ^ k = 0 := Nat.mod_eq_zero_of_dvd h
    rw [halfEven, if_pos (Or.inl (by rw [hmod]; omega))]
    omega

theorem halfEven_le {c k p : ℕ} (h : c < 10 ^ (p + k)) : halfEven c k ≤ 10 ^ p := by
  have hq : c / 10 ^ k < 10 ^ p := by
    rw [Nat.div_lt_iff_lt_mul (by positivity), ← pow_add]
    exact h
  unfold halfEven
  split <;> omega

/-- The adjusted exponent: the exponent of the first digit. -/
def Decimal.adjusted (d : Decimal) : ℤ :=
  d.exponent + digitCount d.coefficient - 1

namespace DecimalContext

variable {ctx : DecimalContext}

theorem excess_eq {d : Decimal} (he : ctx.etiny ≤ d.exponent) :
    ctx.excess d = digitCount d.coefficient - ctx.precision := by
  unfold excess
  omega

theorem halfEven_excess_le (d : Decimal) :
    halfEven d.coefficient (ctx.excess d) ≤ 10 ^ ctx.precision := by
  refine halfEven_le (digitCount_le_iff.1 ?_)
  have : digitCount d.coefficient - ctx.precision ≤ ctx.excess d := le_max_left _ _
  omega

/-- The carry, where there is one, is to the next power of ten. -/
theorem rounded_eq (hp : 0 < ctx.precision) (d : Decimal) :
    let c := halfEven d.coefficient (ctx.excess d)
    c < 10 ^ ctx.precision ∧ ctx.rounded d = ⟨d.negative, c, d.exponent + ctx.excess d⟩ ∨
      c = 10 ^ ctx.precision ∧ ctx.rounded d =
        ⟨d.negative, 10 ^ (ctx.precision - 1), d.exponent + ctx.excess d + 1⟩ := by
  intro c
  have hc : c ≤ 10 ^ ctx.precision := halfEven_excess_le d
  rcases lt_or_eq_of_le hc with hlt | heq
  · have hcount : ¬ ctx.precision < digitCount c := not_lt.2 (digitCount_le_iff.2 hlt)
    exact Or.inl ⟨hlt, if_neg hcount⟩
  · have hcount : ctx.precision < digitCount c := lt_digitCount_iff.2 heq.ge
    have hdiv : c / 10 = 10 ^ (ctx.precision - 1) := by
      rw [heq]
      conv_lhs => rw [← Nat.sub_add_cancel hp, pow_succ]
      exact Nat.mul_div_cancel _ (by norm_num)
    refine Or.inr ⟨heq, ?_⟩
    rw [← hdiv]
    exact if_pos hcount

/-- What the rounded result stands for. -/
theorem toRat_rounded (hp : 0 < ctx.precision) (d : Decimal) :
    (ctx.rounded d).toRat = (if d.negative then -1 else 1) *
      (halfEven d.coefficient (ctx.excess d) * 10 ^ ctx.excess d : ℕ) * 10 ^ d.exponent := by
  have hten : (10 : ℚ) ≠ 0 := by norm_num
  rcases rounded_eq hp d with ⟨_, hrounded⟩ | ⟨hc, hrounded⟩
  · rw [hrounded, Decimal.toRat, zpow_add₀ hten, zpow_natCast]
    push_cast
    ring
  · rw [hrounded, Decimal.toRat, hc, zpow_add₀ hten, zpow_add₀ hten, zpow_natCast, zpow_one]
    obtain ⟨p, hp⟩ := Nat.exists_eq_succ_of_ne_zero hp.ne'
    rw [hp, Nat.succ_sub_one, Nat.succ_eq_add_one, pow_succ]
    push_cast
    ring

theorem toRat_rounded_iff (hp : 0 < ctx.precision) (d : Decimal) :
    (ctx.rounded d).toRat = d.toRat ↔ 10 ^ ctx.excess d ∣ d.coefficient := by
  rw [toRat_rounded hp, Decimal.toRat, ← halfEven_mul_eq_iff]
  have hten : (10 : ℚ) ^ d.exponent ≠ 0 := zpow_ne_zero _ (by norm_num)
  have hsign : (if d.negative then (-1 : ℚ) else 1) ≠ 0 := by split <;> norm_num
  rw [mul_left_inj' hten, mul_right_inj' hsign, Nat.cast_inj]

/-- Where rounding keeps the number it keeps the adjusted exponent. -/
theorem adjusted_rounded (hp : 0 < ctx.precision) {d : Decimal} (hd : d.coefficient ≠ 0)
    (h : 10 ^ ctx.excess d ∣ d.coefficient) :
    (ctx.rounded d).coefficient ≠ 0 ∧ (ctx.rounded d).adjusted = d.adjusted := by
  have hkept := halfEven_mul_eq_iff.2 h
  have hnonzero : halfEven d.coefficient (ctx.excess d) ≠ 0 := by
    intro hzero
    rw [hzero, zero_mul] at hkept
    exact hd hkept.symm
  have hcount := digitCount_mul_pow hnonzero (ctx.excess d)
  rw [hkept] at hcount
  rcases rounded_eq hp d with ⟨_, hrounded⟩ | ⟨hc, hrounded⟩
  · rw [hrounded]
    refine ⟨hnonzero, ?_⟩
    simp only [Decimal.adjusted]
    omega
  · rw [hrounded]
    refine ⟨by positivity, ?_⟩
    have hone : digitCount 1 = 1 := by norm_num [digitCount]
    have hcarry := digitCount_mul_pow one_ne_zero ctx.precision
    have hless := digitCount_mul_pow one_ne_zero (ctx.precision - 1)
    rw [one_mul, hone] at hcarry hless
    rw [hc, hcarry] at hcount
    simp only [Decimal.adjusted]
    omega

/-- The result of an operation is exact where the digits that do not fit are zeros and
the exponent is in range, and only there. -/
theorem fix_exact_iff (hp : 0 < ctx.precision) {d : Decimal} (hd : d.coefficient ≠ 0)
    (he : ctx.etiny ≤ d.exponent) :
    (∃ r, ctx.fix d = some r ∧ r.toRat = d.toRat) ↔
      10 ^ (digitCount d.coefficient - ctx.precision) ∣ d.coefficient ∧ d.adjusted ≤ ctx.emax := by
  rw [← excess_eq he]
  have hfix (r : Decimal) : ctx.fix d = some r ↔ ctx.rounded d = r ∧
      ¬ ((ctx.rounded d).coefficient ≠ 0 ∧ ctx.emax < (ctx.rounded d).adjusted) := by
    unfold fix Decimal.adjusted
    rw [if_neg hd]
    simp only
    split_ifs with hover
    · simp [hover]
    · simp [hover]
  constructor
  · rintro ⟨r, hr, hexact⟩
    obtain ⟨rfl, hrange⟩ := (hfix r).1 hr
    have hdvd := (toRat_rounded_iff hp d).1 hexact
    obtain ⟨hnonzero, hadjusted⟩ := adjusted_rounded hp hd hdvd
    refine ⟨hdvd, not_lt.1 fun hover => hrange ⟨hnonzero, ?_⟩⟩
    rw [hadjusted]
    exact hover
  · rintro ⟨hdvd, hrange⟩
    obtain ⟨_, hadjusted⟩ := adjusted_rounded hp hd hdvd
    refine ⟨ctx.rounded d, (hfix _).2 ⟨rfl, ?_⟩, (toRat_rounded_iff hp d).2 hdvd⟩
    rw [hadjusted]
    exact fun h => absurd h.2 (not_lt.2 hrange)

end DecimalContext

/-! ## Digit texts -/

/-- Digits without the zeros before and after them. -/
def significant (ds : List Char) : List Char :=
  ((ds.dropWhile (· = '0')).reverse.dropWhile (· = '0')).reverse

section Digits

variable {cs : List Char}

theorem digit_bounds {c : Char} (hc : c.isDigit = true) : 48 ≤ c.toNat ∧ c.toNat ≤ 57 :=
  Char.isDigit_iff_toNat.1 hc

theorem digit_ne_zero {c : Char} (hne : c ≠ '0') : c.toNat ≠ 48 :=
  fun h => hne (Char.toNat_inj.1 h)

theorem ofDigitChars_lt (hcs : ∀ c ∈ cs, c.isDigit = true) :
    Nat.ofDigitChars 10 cs 0 < 10 ^ cs.length := by
  induction cs with
  | nil => simp
  | cons c cs ih =>
      have hd := digit_bounds (hcs c List.mem_cons_self)
      have ih := ih fun x hx => hcs x (List.mem_cons_of_mem _ hx)
      rw [Nat.ofDigitChars_cons, Nat.ofDigitChars_eq_ofDigitChars_zero, List.length_cons, pow_succ]
      have hle : 10 ^ cs.length * (10 * 0 + (c.toNat - 48)) ≤ 10 ^ cs.length * 9 :=
        Nat.mul_le_mul_left _ (by omega)
      have hzero : '0'.toNat = 48 := rfl
      rw [hzero]
      omega

/-- Digit texts of one length are ordered as the numbers they spell. -/
theorem map_toNat_lt {ds : List Char} (hcs : ∀ c ∈ cs, c.isDigit = true)
    (hds : ∀ d ∈ ds, d.isDigit = true) (hlength : cs.length = ds.length)
    (hlt : Nat.ofDigitChars 10 cs 0 < Nat.ofDigitChars 10 ds 0) :
    cs.map Char.toNat < ds.map Char.toNat := by
  induction cs generalizing ds with
  | nil =>
      rw [List.length_eq_zero_iff.1 hlength.symm] at hlt
      exact absurd hlt (lt_irrefl _)
  | cons c cs ih =>
      cases ds with
      | nil => cases hlength
      | cons d ds =>
          rw [List.forall_mem_cons] at hcs hds
          have hlength := Nat.succ.inj hlength
          have hc := digit_bounds hcs.1
          have hd := digit_bounds hds.1
          have hrest := ofDigitChars_lt hcs.2
          have hrest' := ofDigitChars_lt hds.2
          have hzero : '0'.toNat = 48 := rfl
          rw [Nat.ofDigitChars_cons, Nat.ofDigitChars_cons, Nat.ofDigitChars_eq_ofDigitChars_zero,
            Nat.ofDigitChars_eq_ofDigitChars_zero (l := ds), hzero, hlength] at hlt
          rw [hlength] at hrest
          rw [List.map_cons, List.map_cons, List.cons_lt_cons_iff]
          rcases lt_trichotomy c.toNat d.toNat with hcd | hcd | hcd
          · exact Or.inl hcd
          · rw [hcd] at hlt
            exact Or.inr ⟨hcd, ih hcs.2 hds.2 hlength (by omega)⟩
          · -- a greater first digit outweighs all that follow
            have hle : 10 ^ ds.length * (10 * 0 + (d.toNat - 48) + 1) ≤
                10 ^ ds.length * (10 * 0 + (c.toNat - 48)) := Nat.mul_le_mul_left _ (by omega)
            rw [Nat.mul_add, Nat.mul_one] at hle
            omega

/-- Digits without a leading zero count as many as they are. -/
theorem digitCount_ofDigitChars (hcs : ∀ c ∈ cs, c.isDigit = true) (hhead : cs.head? ≠ some '0') :
    digitCount (Nat.ofDigitChars 10 cs 0) = cs.length := by
  cases cs with
  | nil => simp [digitCount]
  | cons c cs =>
      refine le_antisymm (digitCount_le_iff.2 (ofDigitChars_lt hcs)) ?_
      have hc := digit_bounds (hcs c List.mem_cons_self)
      have hne : c.toNat ≠ 48 := digit_ne_zero fun h => hhead (by rw [h]; rfl)
      rw [List.length_cons, Nat.succ_le_iff, lt_digitCount_iff, Nat.ofDigitChars_cons,
        Nat.ofDigitChars_eq_ofDigitChars_zero]
      have hzero : '0'.toNat = 48 := rfl
      have hle : 10 ^ cs.length * 1 ≤ 10 ^ cs.length * (10 * 0 + (c.toNat - '0'.toNat)) :=
        Nat.mul_le_mul_left _ (by omega)
      omega

theorem ofDigitChars_zeros_append (n : ℕ) :
    Nat.ofDigitChars 10 (List.replicate n '0' ++ cs) 0 = Nat.ofDigitChars 10 cs 0 := by
  rw [Nat.ofDigitChars_append, Nat.ofDigitChars_replicate_zero, Nat.mul_zero]

theorem ofDigitChars_append_zeros (n : ℕ) :
    Nat.ofDigitChars 10 (cs ++ List.replicate n '0') 0 = Nat.ofDigitChars 10 cs 0 * 10 ^ n := by
  rw [Nat.ofDigitChars_append, Nat.ofDigitChars_replicate_zero, mul_comm]

/-- Digits that do not end in a zero are no multiple of ten. -/
theorem not_ten_dvd (hcs : ∀ c ∈ cs, c.isDigit = true) (hne : cs ≠ [])
    (hlast : cs.getLast? ≠ some '0') : ¬ 10 ∣ Nat.ofDigitChars 10 cs 0 := by
  rcases List.eq_nil_or_concat cs with hnil | ⟨ds, c, rfl⟩
  · exact absurd hnil hne
  · rw [List.concat_eq_append] at hcs hlast ⊢
    have hc := digit_bounds (hcs c (by simp))
    have hcz : c.toNat ≠ 48 := digit_ne_zero fun h => hlast (by simp [h])
    have hzero : '0'.toNat = 48 := rfl
    rw [Nat.ofDigitChars_append, Nat.ofDigitChars_cons, Nat.ofDigitChars_nil, hzero]
    omega

theorem takeWhile_zeros (ds : List Char) :
    ds.takeWhile (· = '0') = List.replicate (ds.takeWhile (· = '0')).length '0' := by
  refine List.eq_replicate_iff.2 ⟨rfl, fun c hc => ?_⟩
  simpa using List.mem_takeWhile_imp hc

/-- What is left of the digits when the zeros behind them are put back. -/
theorem exists_zeros_behind (ds : List Char) : ∃ n,
    ds.dropWhile (· = '0') = significant ds ++ List.replicate n '0' := by
  have hback := List.takeWhile_append_dropWhile (p := (· = '0'))
    (l := (ds.dropWhile (· = '0')).reverse)
  have hback := congrArg List.reverse hback
  rw [List.reverse_append, List.reverse_reverse, takeWhile_zeros, List.reverse_replicate] at hback
  exact ⟨_, hback.symm⟩

/-- The zeros around the significant digits. -/
theorem exists_zeros (ds : List Char) : ∃ m n,
    ds = List.replicate m '0' ++ significant ds ++ List.replicate n '0' := by
  obtain ⟨n, hn⟩ := exists_zeros_behind ds
  refine ⟨(ds.takeWhile (· = '0')).length, n, ?_⟩
  rw [← takeWhile_zeros, List.append_assoc, ← hn, List.takeWhile_append_dropWhile]

theorem significant_getLast? (ds : List Char) : (significant ds).getLast? ≠ some '0' := by
  intro h
  rw [significant, List.getLast?_reverse] at h
  have hne := List.head?_dropWhile_not (· = '0') (ds.dropWhile (· = '0')).reverse
  rw [h] at hne
  simp at hne

theorem significant_head? (ds : List Char) : (significant ds).head? ≠ some '0' := by
  intro h
  obtain ⟨n, hn⟩ := exists_zeros_behind ds
  have hne := List.head?_dropWhile_not (· = '0') ds
  rw [hn, List.head?_append, h] at hne
  simp at hne

/-- The number that digits spell is the number of the significant ones and a power of ten. -/
theorem ofDigitChars_significant (ds : List Char) : ∃ n,
    Nat.ofDigitChars 10 ds 0 = Nat.ofDigitChars 10 (significant ds) 0 * 10 ^ n := by
  obtain ⟨m, n, h⟩ := exists_zeros ds
  refine ⟨n, ?_⟩
  conv_lhs => rw [h, ofDigitChars_append_zeros, ofDigitChars_zeros_append]

/-- A number times a power of ten that covers what is dropped loses no digit, exactly where
its significant digits fit. -/
theorem pow_dvd_iff_significant {ds : List Char} (hds : ∀ c ∈ ds, c.isDigit = true)
    (hne : significant ds ≠ []) (p j : ℕ) :
    10 ^ (digitCount (Nat.ofDigitChars 10 ds 0 * 10 ^ j) - p) ∣ Nat.ofDigitChars 10 ds 0 * 10 ^ j ↔
      (significant ds).length ≤ p := by
  obtain ⟨m, n', hzeros⟩ := exists_zeros ds
  have hdigits : ∀ c ∈ significant ds, c.isDigit = true := by
    intro c hc
    refine hds c ?_
    rw [hzeros]
    simp [hc]
  obtain ⟨n, hn⟩ := ofDigitChars_significant ds
  have hcount := digitCount_ofDigitChars hdigits (significant_head? ds)
  have hten := not_ten_dvd hdigits hne (significant_getLast? ds)
  generalize Nat.ofDigitChars 10 (significant ds) 0 = c at hn hcount hten
  have hc : c ≠ 0 := fun h => hten (h ▸ dvd_zero 10)
  rw [hn, mul_assoc, ← pow_add, digitCount_mul_pow hc, hcount]
  constructor
  · intro h
    by_contra hlong
    refine hten (Nat.dvd_of_mul_dvd_mul_right (k := 10 ^ (n + j)) (by positivity) ?_)
    refine dvd_trans ?_ h
    rw [← pow_succ']
    exact pow_dvd_pow 10 (by omega)
  · intro h
    exact (pow_dvd_pow 10 (by omega)).mul_left c

end Digits

/-! ## The notation of an integer -/

theorem digit_of_repr {n : ℕ} {c : Char} (hc : c ∈ n.repr.toList) : c.isDigit = true := by
  rw [Nat.repr_eq_ofList_toDigits, String.toList_ofList] at hc
  exact Nat.isDigit_of_mem_toDigits (by decide) (by decide) hc

theorem digit_or_minus {n : ℤ} {c : Char} (hc : c ∈ (toString n).toList) :
    c.isDigit = true ∨ c = '-' := by
  rw [Int.toString_eq_repr, Int.repr_eq_if] at hc
  split_ifs at hc
  · exact Or.inl (digit_of_repr hc)
  · rw [String.toList_append, List.mem_append] at hc
    rcases hc with hc | hc
    · exact Or.inr (by simpa using hc)
    · exact Or.inl (digit_of_repr hc)

theorem natRepr_injective {m n : ℕ} (h : m.repr = n.repr) : m = n := by
  rw [Nat.repr_eq_ofList_toDigits, Nat.repr_eq_ofList_toDigits] at h
  rw [← Nat.ofDigitChars_ten_toDigits (n := m), String.ofList_injective h,
    Nat.ofDigitChars_ten_toDigits]

theorem minus_ne_repr (m n : ℕ) : "-" ++ m.repr ≠ n.repr := by
  intro h
  have hminus : '-' ∈ n.repr.toList := by
    rw [← h, String.toList_append]
    exact List.mem_append_left _ (by decide)
  exact absurd (digit_of_repr hminus) (by decide)

theorem toString_injective {m n : ℤ} (h : toString m = toString n) : m = n := by
  rw [Int.toString_eq_repr, Int.toString_eq_repr, Int.repr_eq_if, Int.repr_eq_if] at h
  split_ifs at h with hm hn hn
  · have := natRepr_injective h
    omega
  · exact absurd h.symm (minus_ne_repr _ _)
  · exact absurd h (minus_ne_repr _ _)
  · have htails : (-m).toNat.repr = (-n).toNat.repr := by
      have hlist := congrArg String.toList h
      rw [String.toList_append, String.toList_append] at hlist
      exact String.toList_inj.1 (List.append_cancel_left hlist)
    have := natRepr_injective htails
    omega

end Library

end Coordination
