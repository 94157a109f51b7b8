import Mathlib.Order.Bounds.Basic
import Mathlib.Order.Nat

/-!
# Bisection

The search for the first index with a property that, once it holds, holds of every later index.
The interval is halved until one index is left.
-/

namespace Coordination

namespace Library

variable (p : ℕ → Bool)

/-- Halve the interval from `lo` to `hi` until it is one index. -/
def bisect (lo hi : ℕ) : ℕ :=
  if lo < hi then
    let mid := (lo + hi) / 2
    if p mid then bisect lo mid else bisect (mid + 1) hi
  else lo
termination_by hi - lo

variable {p}

/-- What is left of the interval is where the property begins. -/
theorem bisect_spec (lo hi : ℕ) (hle : lo ≤ hi)
    (hp : ∀ {i j}, i ≤ j → j ≤ hi → p i = true → p j = true) (hhi : p hi = true)
    (hlo : ∀ i < lo, p i = false) :
    p (bisect p lo hi) = true ∧ (∀ i < bisect p lo hi, p i = false) ∧ bisect p lo hi ≤ hi := by
  fun_induction bisect p lo hi with
  | case1 lo hi hlt mid hmid ih =>
      obtain ⟨hholds, hbefore, hupper⟩ :=
        ih (by omega) (fun hij hj => hp hij (by omega)) hmid hlo
      exact ⟨hholds, hbefore, hupper.trans (by omega)⟩
  | case2 lo hi hlt mid hmid ih =>
      refine ih (by omega) hp hhi fun i hi => ?_
      -- were it to hold before the middle, it would hold in the middle
      exact Bool.eq_false_iff.2 fun hholds => hmid (hp (by omega) (by omega) hholds)
  | case3 lo hi hlt =>
      obtain rfl : lo = hi := by omega
      exact ⟨hhi, hlo, le_rfl⟩

/-- Bisection from the start finds the least index with the property. -/
theorem isLeast_bisect {hi : ℕ} (hp : ∀ {i j}, i ≤ j → j ≤ hi → p i = true → p j = true)
    (hhi : p hi = true) : IsLeast {i | i ≤ hi ∧ p i = true} (bisect p 0 hi) := by
  obtain ⟨hholds, hbefore, hupper⟩ :=
    bisect_spec 0 hi (Nat.zero_le _) hp hhi fun i hi => by omega
  refine ⟨⟨hupper, hholds⟩, fun i hi => ?_⟩
  by_contra hlt
  have hfalse := hbefore i (not_le.1 hlt)
  rw [hi.2] at hfalse
  cases hfalse

end Library

end Coordination
