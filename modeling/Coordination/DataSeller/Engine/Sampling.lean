import Coordination.DataSeller.Engine.Synth
import Coordination.JavaScript.Printed
import Coordination.Library.Bisection

/-!
# The tract of a row

`buildSampler` and `pickTract` over any arithmetic; over binary64 numbers they are the ones of the
generator. Over exact numbers the tract that is picked is the first whose cumulative weight
exceeds the draw's part of the total. A tract without adults does not move the sum, so it is never
picked.
-/

namespace Coordination

namespace DataSeller

namespace Engine

open JavaScript Library

/-! ## The sampler over an arithmetic -/

/-- `TractSampler`. -/
structure TractSampler (ν : Type) where
  tracts : List Tract
  cumulative : List ν
  totalWeight : ν

section Over

variable {ν : Type} [OfNat ν 0] [Add ν] [Mul ν] [LE ν] [DecidableLE ν]

omit [Mul ν] [LE ν] [DecidableLE ν] in
/-- `buildSampler`, given what each tract weighs. -/
def buildSampler (weight : Tract → ν) (tracts : List Tract) : TractSampler ν where
  tracts
  cumulative := ((tracts.map weight).scanl (· + ·) 0).tail
  totalWeight := (tracts.map weight).foldl (· + ·) 0

omit [Add ν] [Mul ν] in
/-- The binary search of `pickTract`. -/
def searchOver (cumulative : List ν) (target : ν) (lo hi : ℕ) : ℕ :=
  if lo < hi then
    let mid := (lo + hi) / 2
    if cumulative.getD mid 0 ≤ target then searchOver cumulative target (mid + 1) hi
    else searchOver cumulative target lo mid
  else lo
termination_by hi - lo

omit [Add ν] in
/-- `pickTract`. -/
def pickTractOver (sampler : TractSampler ν) (u : ν) : Except Failure Tract :=
  let found :=
    if sampler.totalWeight ≤ 0 then sampler.tracts.head?
    else sampler.tracts[searchOver sampler.cumulative (u * sampler.totalWeight) 0
      (sampler.cumulative.length - 1)]?
  match found with
  | some t => .ok t
  | none => synthError "Cannot generate from an empty slice."

omit [Add ν] [Mul ν] in
/-- The search bisects for the first sum above the target. -/
theorem searchOver_eq (cumulative : List ν) (target : ν) (lo hi : ℕ) :
    searchOver cumulative target lo hi =
      bisect (fun i => !decide (cumulative.getD i 0 ≤ target)) lo hi := by
  fun_induction searchOver cumulative target lo hi with
  | case1 lo hi hlt mid hle ih =>
      rw [bisect, if_pos hlt, ih]
      exact (if_neg (by simpa using hle)).symm
  | case2 lo hi hlt mid hle ih =>
      rw [bisect, if_pos hlt, ih]
      exact (if_pos (by simpa using hle)).symm
  | case3 lo hi hlt => rw [bisect, if_neg hlt]

end Over

/-- What a tract weighs. -/
def adultWeight (t : Tract) : Number :=
  match t.totalPop18plus with
  | some pop => if pop.isFinite && 0 < pop then pop else 0
  | none => 0

theorem searchOver_number (cumulative : List Number) (target : Number) (lo hi : ℕ) :
    searchOver cumulative target lo hi = searchWeights cumulative target lo hi := by
  fun_induction searchOver cumulative target lo hi with
  | case1 lo hi hlt mid hle ih => rw [searchWeights, if_pos hlt, ih, if_pos hle]
  | case2 lo hi hlt mid hle ih => rw [searchWeights, if_pos hlt, ih, if_neg hle]
  | case3 lo hi hlt => rw [searchWeights, if_neg hlt]

theorem getLastD_tail_scanl {ν : Type} [Add ν] (ws : List ν) (w : ν) :
    (ws.scanl (· + ·) w).tail.getLastD w = ws.foldl (· + ·) w := by
  cases ws with
  | nil => rfl
  | cons w' ws =>
      have hne : ws.scanl (· + ·) (w + w') ≠ [] := by simp
      rw [List.scanl_cons, List.tail_cons, List.getLastD_eq_getLast?,
        List.getLast?_eq_some_getLast hne, List.getLast_scanl]
      rfl

/-- Over binary64 numbers this is the generator's. -/
theorem pickTract_eq (tracts : List Tract) (u : Number) :
    pickTract tracts u = pickTractOver (buildSampler adultWeight tracts) u := by
  have htotal : (cumulativeWeights tracts).getLastD 0 =
      (buildSampler adultWeight tracts).totalWeight :=
    getLastD_tail_scanl (tracts.map adultWeight) 0
  unfold pickTract pickTractOver
  simp only [htotal, searchOver_number]
  rfl

/-! ## Exact weights -/

/-- The exact weight of a tract: its adult population, where it is known and positive. -/
def exactWeight (t : Tract) : ℚ :=
  match t.totalPop18plus.bind Number.toRat? with
  | some pop => if 0 < pop then pop else 0
  | none => 0

/-- The generator weighs a tract exactly. -/
theorem toRat?_adultWeight (t : Tract) : Number.toRat? (adultWeight t) = some (exactWeight t) := by
  have hzero : Number.toRat? 0 = some 0 := by decide +kernel
  unfold adultWeight exactWeight
  cases t.totalPop18plus with
  | none => exact hzero
  | some pop =>
      cases hpop : Number.toRat? pop with
      | none =>
          have hfinite : pop.isFinite = false := by
            refine Bool.eq_false_iff.2 fun hfinite => ?_
            obtain ⟨q, hq⟩ := isFinite_iff.1 hfinite
            rw [hpop] at hq
            cases hq
          simp [hfinite, hpop, hzero]
      | some q =>
          have hfinite : pop.isFinite = true := isFinite_iff.2 ⟨q, hpop⟩
          have hpositive : 0 < pop ↔ 0 < q := Number.lt_iff hzero hpop
          by_cases hq : 0 < q <;> simp [hfinite, hpositive, hpop, hq, hzero]

theorem exactWeight_nonneg (t : Tract) : 0 ≤ exactWeight t := by
  unfold exactWeight
  split
  · split_ifs with h
    · exact h.le
    · exact le_rfl
  · exact le_rfl

/-- The weight of the first `i` tracts. -/
def weightBefore (tracts : List Tract) (i : ℕ) : ℚ :=
  ((tracts.take i).map exactWeight).sum

theorem weightBefore_succ {tracts : List Tract} {i : ℕ} (hi : i < tracts.length) :
    weightBefore tracts (i + 1) = weightBefore tracts i + exactWeight tracts[i] := by
  unfold weightBefore
  rw [List.take_add_one, List.map_append, List.sum_append, List.getElem?_eq_getElem hi]
  simp

theorem weightBefore_mono (tracts : List Tract) : Monotone (weightBefore tracts) := by
  refine monotone_nat_of_le_succ fun i => ?_
  rcases Nat.lt_or_ge i tracts.length with hi | hi
  · rw [weightBefore_succ hi]
    exact le_add_of_nonneg_right (exactWeight_nonneg _)
  · unfold weightBefore
    rw [List.take_of_length_le hi, List.take_of_length_le (Nat.le_succ_of_le hi)]

theorem foldl_add_exact (ws : List ℚ) : ws.foldl (· + ·) 0 = ws.sum :=
  List.sum_eq_foldl.symm

/-- What `buildSampler` has summed up. -/
theorem getD_cumulative {tracts : List Tract} {i : ℕ} (hi : i < tracts.length) :
    (buildSampler exactWeight tracts).cumulative.getD i 0 = weightBefore tracts (i + 1) := by
  have hlength : i + 1 ≤ (tracts.map exactWeight).length := by
    rw [List.length_map]
    exact hi
  unfold buildSampler weightBefore
  rw [List.getD_eq_getElem?_getD, List.getElem?_tail, List.getElem?_scanl, if_pos hlength,
    Option.getD_some, ← List.map_take]
  exact foldl_add_exact _

theorem totalWeight_eq (tracts : List Tract) :
    (buildSampler exactWeight tracts).totalWeight = weightBefore tracts tracts.length := by
  unfold weightBefore
  rw [List.take_length]
  exact foldl_add_exact _

theorem length_cumulative (tracts : List Tract) :
    (buildSampler exactWeight tracts).cumulative.length = tracts.length := by
  simp [buildSampler]

/-! ## The tract that is picked -/

/-- Below the total, the search ends at the first sum above the target. -/
theorem isLeast_searchOver {tracts : List Tract} {target : ℚ}
    (htarget : target < weightBefore tracts tracts.length) (hne : tracts ≠ []) :
    IsLeast {i | i < tracts.length ∧ target < weightBefore tracts (i + 1)}
      (searchOver (buildSampler exactWeight tracts).cumulative target 0 (tracts.length - 1)) := by
  have hlength : 0 < tracts.length := List.length_pos_iff.2 hne
  have hexceeds {i : ℕ} (hi : i ≤ tracts.length - 1) :
      (!decide ((buildSampler exactWeight tracts).cumulative.getD i 0 ≤ target)) = true ↔
        target < weightBefore tracts (i + 1) := by
    rw [getD_cumulative (by omega)]
    simp
  have hset : {i | i < tracts.length ∧ target < weightBefore tracts (i + 1)} =
      {i | i ≤ tracts.length - 1 ∧
        (!decide ((buildSampler exactWeight tracts).cumulative.getD i 0 ≤ target)) = true} := by
    ext i
    simp only [Set.mem_ofPred_eq]
    constructor
    · rintro ⟨hi, hlt⟩
      exact ⟨by omega, (hexceeds (by omega)).2 hlt⟩
    · rintro ⟨hi, hlt⟩
      exact ⟨by omega, (hexceeds hi).1 hlt⟩
  rw [hset, searchOver_eq]
  refine isLeast_bisect (fun hij hj hi => (hexceeds hj).2 ?_) ((hexceeds le_rfl).2 ?_)
  · exact lt_of_lt_of_le ((hexceeds (hij.trans hj)).1 hi)
      (weightBefore_mono tracts (Nat.succ_le_succ hij))
  · rwa [Nat.sub_add_cancel hlength]

/-- The first tract whose sum exceeds the target is one that adds to the sum. -/
theorem exactWeight_pos_of_isLeast {tracts : List Tract} {target : ℚ} (htarget : 0 ≤ target)
    {i : ℕ} (hi : i < tracts.length)
    (h : IsLeast {i | i < tracts.length ∧ target < weightBefore tracts (i + 1)} i) :
    0 < exactWeight tracts[i] := by
  have hbefore : weightBefore tracts i ≤ target := by
    cases i with
    | zero => exact htarget
    | succ i =>
        by_contra hlt
        have hleast := h.2 ⟨(Nat.lt_succ_self i).trans hi, not_le.1 hlt⟩
        omega
  have hexceeds := h.1.2
  rw [weightBefore_succ hi] at hexceeds
  linarith

/-- For a draw from `[0, 1)` the tract that is picked stands at the first index whose cumulative
weight exceeds that part of the total, and it weighs something. -/
theorem pickTract_exact {tracts : List Tract} {u : ℚ}
    (hpositive : 0 < weightBefore tracts tracts.length) (hu : 0 ≤ u) (hu' : u < 1) :
    ∃ i t, tracts[i]? = some t ∧ pickTractOver (buildSampler exactWeight tracts) u = .ok t ∧
      IsLeast {i | i < tracts.length ∧
        u * weightBefore tracts tracts.length < weightBefore tracts (i + 1)} i ∧
      0 < exactWeight t := by
  have hne : tracts ≠ [] := by
    rintro rfl
    exact absurd hpositive (by simp [weightBefore])
  have htarget : u * weightBefore tracts tracts.length < weightBefore tracts tracts.length :=
    mul_lt_of_lt_one_left hpositive hu'
  have hleast := isLeast_searchOver htarget hne
  generalize hfound : searchOver (buildSampler exactWeight tracts).cumulative
    (u * weightBefore tracts tracts.length) 0 (tracts.length - 1) = i at hleast
  have hi : i < tracts.length := hleast.1.1
  refine ⟨i, tracts[i], List.getElem?_eq_getElem hi, ?_, hleast,
    exactWeight_pos_of_isLeast (mul_nonneg hu hpositive.le) hi hleast⟩
  have htract : (buildSampler exactWeight tracts).tracts[i]? = some tracts[i] :=
    List.getElem?_eq_getElem hi
  unfold pickTractOver
  rw [totalWeight_eq, length_cumulative, if_neg (not_le.2 hpositive), hfound, htract]

/-- Three tracts, the first two of them without adults. -/
def unevenTracts : List Tract :=
  [none, some 0, some 900].map fun pop => ⟨"CA", "", "", "", "", none, pop, fun _ => none⟩

/-- A draw of zero meets both of the first sums and passes them by. -/
theorem pickTract_exact_demo : ∃ i t, unevenTracts[i]? = some t ∧
    pickTractOver (buildSampler exactWeight unevenTracts) 0 = .ok t ∧
    IsLeast {i | i < unevenTracts.length ∧
      0 * weightBefore unevenTracts unevenTracts.length < weightBefore unevenTracts (i + 1)} i ∧
    0 < exactWeight t :=
  pickTract_exact (by decide +kernel) le_rfl one_pos

end Engine

end DataSeller

end Coordination
