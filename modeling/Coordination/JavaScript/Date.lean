import Mathlib.Data.Nat.Notation
import Mathlib.Data.List.Basic

/-!
# Dates

A moment is the number of milliseconds since the epoch, as `Date.now()` reports
it; `toISOString` is its text.
-/

namespace Coordination

namespace JavaScript

namespace Date

/-- A number in decimal, padded with zeros. -/
def padded (width n : ℕ) : String :=
  let ds := Nat.toDigits 10 n
  String.ofList (List.replicate (width - ds.length) '0' ++ ds)

/-- Year, month and day of a day counted from the epoch. -/
def civil (days : ℕ) : ℕ × ℕ × ℕ :=
  -- Days are counted from 1 March of the year 0, so that the leap day is the last of its year.
  let z := days + 719468
  let era := z / 146097
  let day := z % 146097
  let yearOfEra := (day - day / 1460 + day / 36524 - day / 146096) / 365
  let dayOfYear := day - (365 * yearOfEra + yearOfEra / 4 - yearOfEra / 100)
  let shifted := (5 * dayOfYear + 2) / 153
  let month := if shifted < 10 then shifted + 3 else shifted - 9
  let year := yearOfEra + era * 400
  (if month ≤ 2 then year + 1 else year, month, dayOfYear - (153 * shifted + 2) / 5 + 1)

/-- The text up to the seconds. -/
def toSeconds (ms : ℕ) : String :=
  let (year, month, day) := civil (ms / 86400000)
  let years := if year < 10000 then padded 4 year else "+" ++ padded 6 year
  let seconds := ms / 1000 % 86400
  years ++ "-" ++ padded 2 month ++ "-" ++ padded 2 day ++ "T" ++ padded 2 (seconds / 3600) ++ ":" ++
    padded 2 (seconds / 60 % 60) ++ ":" ++ padded 2 (seconds % 60)

/-- `new Date(ms).toISOString()`. -/
def toISOString (ms : ℕ) : String :=
  toSeconds ms ++ "." ++ padded 3 (ms % 1000) ++ "Z"

example : toISOString 1735689600000 = "2025-01-01T00:00:00.000Z" := by decide

end Date

end JavaScript

end Coordination
