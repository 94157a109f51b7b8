import Mathlib.Algebra.Order.Floor.Ring
import Coordination.JavaScript.IntegerText

/-!
# Exact arithmetic

The operations a price is computed with, over binary64 numbers and over exact ones. The text of
an exact number has all its digits, laid out as `Number::toString` lays out those of a number:
from `10 ^ 21` on, with an exponent.
-/

namespace Coordination

namespace JavaScript

/-- Numbers to compute with, `half` being `0.5`. -/
class Arithmetic (ν : Type) extends Add ν, Mul ν, Div ν where
  ofNat : ℕ → ν
  half : ν
  /-- `Math.floor`. -/
  floor : ν → ν
  /-- The exact value of a finite number. -/
  value : ν → Option ℚ
  /-- `String(x)`. -/
  text : ν → String

namespace Arithmetic

variable {ν : Type} [Arithmetic ν]

/-- The digits of a multiple of `10 ^ -d`, given in that unit, with `d` of them after the point. -/
def fixedDigits (n d : ℕ) : List Char :=
  let ds := Number.digits n
  let padded := List.replicate (d + 1 - ds.length) '0' ++ ds
  let point := if d = 0 then [] else ['.']
  padded.take (padded.length - d) ++ point ++ padded.drop (padded.length - d)

/-- `toFixed`. -/
def toFixed (x : ν) (d : ℕ) : String :=
  match value x with
  | some q =>
    if 10 ^ 21 ≤ |q| then text x
    else String.ofList ((if q < 0 then ['-'] else []) ++
      fixedDigits (Number.fixedUnits d q).natAbs d)
  | none => text x

end Arithmetic

instance : Arithmetic Number where
  ofNat := Float.ofNat
  half := 0.5
  floor := Number.floor
  value := Number.toRat?
  text := Number.toText

/-- The digits of an exact decimal `q > 0`, as few as stand for it, how many there are, and the
decimal exponent. A fraction that is no decimal is cut off. -/
def exactDigits (q : ℚ) : ℕ × ℕ × ℤ :=
  let n := Number.decimalExponent q
  let scaled (k : ℕ) : ℚ := q * Number.decimalExponent.tenPow (k - n)
  let limit := n.toNat + q.den
  let k := ((List.range limit).find? fun k => (scaled (k + 1)).den = 1).getD limit + 1
  (⌊scaled k⌋.toNat, k, n)

/-- The text of an exact number. -/
def exactText (q : ℚ) : String :=
  let layout (q : ℚ) : List Char :=
    let (s, k, n) := exactDigits q
    Number.layout s k n
  String.ofList (if q = 0 then ['0'] else if q < 0 then '-' :: layout (-q) else layout q)

instance : Arithmetic ℚ where
  ofNat := Nat.cast
  half := 1 / 2
  floor q := ⌊q⌋
  value := some
  text := exactText

namespace Arithmetic

theorem toFixed_number (x : Number) (d : ℕ) : toFixed x d = Number.toFixed x d := by
  unfold toFixed Number.toFixed
  simp only [fixedDigits, List.append_assoc]
  rfl

/-! ## Texts with an exponent -/

theorem tenPow_eq (e : ℤ) : Number.decimalExponent.tenPow e = (10 : ℚ) ^ e := by
  unfold Number.decimalExponent.tenPow
  split_ifs with he
  · obtain ⟨n, rfl⟩ := Int.eq_ofNat_of_zero_le he
    rfl
  · obtain ⟨n, hn⟩ := Int.eq_ofNat_of_zero_le (by omega : 0 ≤ -e)
    rw [hn, show e = -(n : ℤ) by omega, zpow_neg, zpow_natCast, one_div]
    rfl

theorem lt_tenPow_decimalExponent {q : ℚ} (hq : 0 < q) :
    q < (10 : ℚ) ^ Number.decimalExponent q := by
  have hnum : 0 < q.num.toNat := by
    have := Rat.num_pos.2 hq
    omega
  have hupper : (q.num.toNat : ℚ) < 10 ^ (Number.digits q.num.toNat).length := by
    exact_mod_cast (Number.length_digits hnum).2
  have hlower : (10 : ℚ) ^ ((Number.digits q.den).length - 1) ≤ q.den := by
    exact_mod_cast (Number.length_digits q.den_pos).1
  unfold Number.decimalExponent
  simp only [tenPow_eq]
  split_ifs with hle
  · have hcast : (q.num.toNat : ℚ) = q.num := by
      rw [← Int.cast_natCast, Int.toNat_of_nonneg (Rat.num_nonneg.2 hq.le)]
    have hvalue : q = q.num.toNat / q.den := by
      rw [hcast, Rat.num_div_den]
    have hlength : 0 < (Number.digits q.den).length := Nat.length_toDigits_pos
    have hden : (0 : ℚ) < q.den := by exact_mod_cast q.den_pos
    calc q = q.num.toNat / q.den := hvalue
      _ < 10 ^ (Number.digits q.num.toNat).length / q.den := by gcongr
      _ ≤ 10 ^ (Number.digits q.num.toNat).length / 10 ^ ((Number.digits q.den).length - 1) := by
        gcongr
      _ = 10 ^ (((Number.digits q.num.toNat).length : ℤ) - (Number.digits q.den).length + 1) := by
        rw [← zpow_natCast, ← zpow_natCast, ← zpow_sub₀ (by norm_num)]
        congr 1
        omega
  · exact not_le.1 hle

theorem exponent_mem_layout {s k : ℕ} {n : ℤ} (hn : 21 < n) : 'e' ∈ Number.layout s k n := by
  unfold Number.layout
  rw [if_neg (by omega), if_neg (by omega), if_neg (by omega)]
  exact List.mem_append_right _ List.mem_cons_self

/-- An exact number from `10 ^ 21` on is written with an exponent. -/
theorem exponent_mem_toFixed {q : ℚ} (hq : 10 ^ 21 ≤ q) (d : ℕ) :
    'e' ∈ (toFixed q d).toList := by
  have hpos : 0 < q := lt_of_lt_of_le (by positivity) hq
  have hexponent : 21 < Number.decimalExponent q := by
    have hlt : (10 : ℚ) ^ (21 : ℤ) < 10 ^ Number.decimalExponent q :=
      lt_of_le_of_lt (by exact_mod_cast hq) (lt_tenPow_decimalExponent hpos)
    exact (zpow_lt_zpow_iff_right₀ (by norm_num)).1 hlt
  show 'e' ∈ (if 10 ^ 21 ≤ |q| then exactText q else _).toList
  rw [abs_of_pos hpos, if_pos hq, exactText, String.toList_ofList, if_neg hpos.ne',
    if_neg (not_lt.2 hpos.le)]
  exact exponent_mem_layout hexponent

/-! ## Two decimals -/

theorem digits_of_lt {n : ℕ} (hn : n < 10) : Number.digits n = [n.digitChar] :=
  Nat.toDigits_of_lt_base hn

theorem digits_of_le {n : ℕ} (hn : 10 ≤ n) :
    Number.digits n = Number.digits (n / 10) ++ [(n % 10).digitChar] :=
  Nat.toDigits_of_base_le (by decide) hn

/-- The digits of a positive number do not begin with a zero. -/
theorem digits_head? {n : ℕ} (hn : 0 < n) : (Number.digits n).head? ≠ some '0' := by
  induction n using Nat.strong_induction_on with
  | _ n ih =>
    by_cases hten : n < 10
    · rw [digits_of_lt hten]
      interval_cases n <;> decide
    · have hne : Number.digits (n / 10) ≠ [] := Nat.toDigits_ne_nil
      rw [digits_of_le (by omega), List.head?_append_of_ne_nil _ hne]
      exact ih (n / 10) (by omega) (by omega)

/-- The last two of at least three digits. -/
theorem padded_two (n : ℕ) :
    List.replicate (2 + 1 - (Number.digits n).length) '0' ++ Number.digits n =
      Number.digits (n / 100) ++ [(n / 10 % 10).digitChar, (n % 10).digitChar] := by
  by_cases hten : n < 10
  · rw [digits_of_lt hten, Nat.div_eq_of_lt (by omega : n < 100), Nat.div_eq_of_lt hten,
      Nat.mod_eq_of_lt hten]
    rfl
  · rw [digits_of_le (by omega : 10 ≤ n)]
    by_cases hhundred : n < 100
    · rw [digits_of_lt (by omega : n / 10 < 10), Nat.div_eq_of_lt hhundred,
        Nat.mod_eq_of_lt (by omega : n / 10 < 10)]
      rfl
    · have hlength : 0 < (Number.digits (n / 100)).length := Nat.length_toDigits_pos
      rw [digits_of_le (by omega : 10 ≤ n / 10), Nat.div_div_eq_div_mul]
      simp [show 2 + 1 - ((Number.digits (n / 100)).length + 1 + 1) = 0 by omega]

theorem fixedDigits_two (n : ℕ) : fixedDigits n 2 =
    Number.digits (n / 100) ++ '.' :: [(n / 10 % 10).digitChar, (n % 10).digitChar] := by
  unfold fixedDigits
  simp only [padded_two]
  simp

/-- What `toFixed(2)` writes of a whole number of hundredths below `10 ^ 21`. -/
theorem toFixed_hundredths {n : ℕ} (hn : n < 10 ^ 23) : (toFixed ((n : ℚ) / 100) 2).toList =
    Number.digits (n / 100) ++ '.' :: [(n / 10 % 10).digitChar, (n % 10).digitChar] := by
  have hnonneg : (0 : ℚ) ≤ n / 100 := by positivity
  have hsmall : (n : ℚ) / 100 < 10 ^ 21 := by
    rw [div_lt_iff₀ (by norm_num)]
    exact_mod_cast hn
  have hunits : Number.fixedUnits 2 ((n : ℚ) / 100) = n := by
    have hscaled : (n : ℚ) / 100 * 10 ^ 2 + 1 / 2 = (n : ℤ) + 1 / 2 := by
      push_cast
      ring
    rw [Number.fixedUnits, if_neg (not_lt.2 hnonneg), hscaled, Int.floor_intCast_add]
    norm_num
  show (if 10 ^ 21 ≤ |(n : ℚ) / 100| then exactText ((n : ℚ) / 100) else _).toList = _
  rw [abs_of_nonneg hnonneg, if_neg (not_le.2 hsmall), if_neg (not_lt.2 hnonneg), hunits,
    Int.natAbs_natCast, String.toList_ofList, List.nil_append, fixedDigits_two]

end Arithmetic

end JavaScript

end Coordination
