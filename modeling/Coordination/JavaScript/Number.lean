import Mathlib.Algebra.Field.Rat
import Mathlib.Data.Rat.Floor
import Coordination.Library.JsonText

/-!
# JavaScript numbers

A JavaScript number is a binary64 value, so it is Lean's `Float`: the arithmetic
operators, comparison and square root are the ones of `Float` and round the same
way. The remaining operations of the language are defined here from the exact
rational a finite value stands for: `Math.floor`, `Math.round`, `toFixed` and the
shortest decimal text.
-/

namespace Coordination

namespace JavaScript

/-- A JavaScript number. -/
abbrev Number := Float

namespace Number

/-- The exact rational a finite number stands for. -/
def toRat? (x : Number) : Option ℚ :=
  match x.toModel.unpack with
  | .zero _ => some 0
  | .finite .negative m e _ => some (-(m * scale e))
  | .finite .positive m e _ => some (m * scale e)
  | _ => none
where
  scale (e : ℤ) : ℚ := if 0 ≤ e then 2 ^ e.toNat else 1 / 2 ^ (-e).toNat

/-- `Math.floor`. -/
def floor (x : Number) : Number :=
  match toRat? x with
  | some q => if q = 0 then x else Float.ofInt ⌊q⌋
  | none => x

/-- `Math.round`: ties go up. -/
def round (x : Number) : Number :=
  match toRat? x with
  | some q => if q = 0 then x else Float.ofInt ⌊q + 1 / 2⌋
  | none => x

/-- `Number.isInteger`. -/
def isInteger (x : Number) : Bool :=
  match toRat? x with
  | some q => q.den = 1
  | none => false

/-- `Number.isSafeInteger`. -/
def isSafeInteger (x : Number) : Bool :=
  match toRat? x with
  | some q => q.den = 1 ∧ |q| ≤ 9007199254740991
  | none => false

/-! ## Decimal texts -/

def digits (n : ℕ) : List Char :=
  Nat.toDigits 10 n

/-- The decimal exponent of a positive rational: `10 ^ (e - 1) ≤ q < 10 ^ e`. -/
def decimalExponent (q : ℚ) : ℤ :=
  let e : ℤ := (digits q.num.toNat).length - (digits q.den).length
  if tenPow e ≤ q then e + 1 else e
where
  tenPow (e : ℤ) : ℚ := if 0 ≤ e then 10 ^ e.toNat else 1 / 10 ^ (-e).toNat

/-- The number with the decimal digits `s` scaled by `10 ^ e`. -/
def ofDecimal (s : ℕ) (e : ℤ) : Number :=
  Float.ofScientific s (decide (e < 0)) e.natAbs

/-- The shortest digits that read back as `x`, whose exact value is `q > 0`: the
digits as a natural number, how many there are, and the decimal exponent. -/
def shortest (x : Number) (q : ℚ) : ℕ × ℕ × ℤ :=
  let n := decimalExponent q
  let pick (k : ℕ) : Option ℕ :=
    let scaled := q * (decimalExponent.tenPow (k - n))
    let low := ⌊scaled⌋.toNat
    let near := if scaled - low ≤ 1 / 2 then [low, low + 1] else [low + 1, low]
    near.find? fun s => (ofDecimal s (n - k)).beq x
  match (List.range 17).findSome? fun k => (pick (k + 1)).map fun s => (s, k + 1) with
  | some (s, k) => if s = 10 ^ k then (1, 1, n + 1) else (s, k, n)
  | none => (0, 1, 1)

/-- Lay decimal digits out the way `Number::toString` does. -/
def layout (s k : ℕ) (n : ℤ) : List Char :=
  let ds := digits s
  if (k : ℤ) ≤ n ∧ n ≤ 21 then ds ++ List.replicate (n - k).toNat '0'
  else if 0 < n ∧ n ≤ 21 then ds.take n.toNat ++ '.' :: ds.drop n.toNat
  else if -6 < n ∧ n ≤ 0 then '0' :: '.' :: (List.replicate (-n).toNat '0' ++ ds)
  else
    let mantissa := if k = 1 then ds else ds.take 1 ++ '.' :: ds.drop 1
    let sign := if 0 ≤ n - 1 then '+' else '-'
    mantissa ++ 'e' :: sign :: digits (n - 1).natAbs

/-- The text of a finite number, by its exact value. -/
def finiteText (x : Number) (q : ℚ) : List Char :=
  if q = 0 then ['0']
  else if q < 0 then
    let (s, k, n) := shortest (-x) (-q)
    '-' :: layout s k n
  else
    let (s, k, n) := shortest x q
    layout s k n

/-- `Number::toString`. -/
def toText (x : Number) : String :=
  match toRat? x with
  | some q => String.ofList (finiteText x q)
  | none => if x.isNaN then "NaN" else if x < 0 then "-Infinity" else "Infinity"

/-- The nearest multiple of `10 ^ -d`, ties away from zero, in units of `10 ^ -d`. -/
def fixedUnits (d : ℕ) (q : ℚ) : ℤ :=
  if q < 0 then -⌊-q * 10 ^ d + 1 / 2⌋ else ⌊q * 10 ^ d + 1 / 2⌋

/-- `toFixed`. -/
def toFixed (x : Number) (d : ℕ) : String :=
  match toRat? x with
  | some q =>
    if 10 ^ 21 ≤ |q| then toText x
    else
      let n := (fixedUnits d q).natAbs
      let ds := digits n
      let padded := List.replicate (d + 1 - ds.length) '0' ++ ds
      let point := if d = 0 then [] else ['.']
      String.ofList ((if q < 0 then ['-'] else []) ++ padded.take (padded.length - d) ++ point ++
        padded.drop (padded.length - d))
  | none => toText x

/-- `Number(x.toFixed(d))`. -/
def fixed (x : Number) (d : ℕ) : Number :=
  match toRat? x with
  | some q =>
    if 10 ^ 21 ≤ |q| then x
    else
      let r := ofDecimal (fixedUnits d q).natAbs (-d)
      if q < 0 then -r else r
  | none => x

/-- `Math.max`. -/
def max (x y : Number) : Number :=
  if x.isNaN || y.isNaN then 0 / 0 else if x < y then y else x

/-- `Math.min`. -/
def min (x y : Number) : Number :=
  if x.isNaN || y.isNaN then 0 / 0 else if y < x then y else x

end Number

/-- The bits of a number determine it. -/
theorem eq_of_toBits {x y : Number}
    (h : x.toModel.toBits.toNat = y.toModel.toBits.toNat) : x = y := by
  cases x with
  | ofModel x =>
      cases y with
      | ofModel y =>
          cases x
          cases y
          obtain rfl := UInt64.toNat_inj.1 h
          rfl

/-! ## Exact values -/

/-- A number by its exact value, for the places where the program only compares
and counts: rounding plays no part there. -/
inductive Exact where
  | nan
  | inf (negative : Bool)
  | fin (q : ℚ)
  deriving DecidableEq

namespace Exact

def ofNumber (x : Number) : Exact :=
  match Number.toRat? x with
  | some q => fin q
  | none => if x.isNaN then nan else inf (decide (x < 0))

/-- The number with a given exact value; a finite one is a fraction over a power
of two. -/
def toNumber : Exact → Number
  | nan => 0 / 0
  | inf true => -1 / 0
  | inf false => 1 / 0
  | fin q =>
    let k := Nat.log2 q.den
    let r := Number.ofDecimal (q.num.natAbs * 5 ^ k) (-k)
    if q < 0 then -r else r

instance : NatCast Exact := ⟨fun n => fin n⟩

/-- `x > n`. -/
def above (x : Exact) (n : ℕ) : Bool :=
  match x with
  | nan => false
  | inf negative => !negative
  | fin q => n < q

/-- `x < n`. -/
def below (x : Exact) (n : ℕ) : Bool :=
  match x with
  | nan => false
  | inf negative => negative
  | fin q => q < n

/-- How many natural numbers `i` satisfy `i < x`, for an `x` below infinity. -/
def count : Exact → ℕ
  | fin q => ⌈q⌉.toNat
  | _ => 0

@[simp] theorem above_natCast (m n : ℕ) : above (m : Exact) n = decide (n < m) := by
  show decide ((n : ℚ) < (m : ℚ)) = decide (n < m)
  simp

@[simp] theorem below_natCast (m n : ℕ) : below (m : Exact) n = decide (m < n) := by
  show decide ((m : ℚ) < (n : ℚ)) = decide (m < n)
  simp

@[simp] theorem count_natCast (n : ℕ) : count (n : Exact) = n := by
  show ⌈(n : ℚ)⌉.toNat = n
  simp

end Exact

end JavaScript

end Coordination
