import Mathlib.Algebra.Order.BigOperators.Group.List
import Coordination.DataSeller.Exclusion

/-!
# When a verification ends

`verifyDelivery` names what is wrong with a delivery, and on the way it runs the generator with
the numbers of the manifest and commits to the aggregates of the slice. Both have guards that
throw. It returns a verdict exactly when it stops before them or none of them is met.
-/

namespace Coordination

namespace DataSeller

open JavaScript Library Engine

namespace Engine

/-! ## Allocation -/

theorem sum_modify {xs : List ℕ} {i : ℕ} (hi : i < xs.length) :
    (xs.modify i (· + 1)).sum = xs.sum + 1 := by
  induction xs generalizing i with
  | nil => cases hi
  | cons x xs ih =>
      cases i with
      | zero =>
          rw [List.modify_zero_cons, List.sum_cons, List.sum_cons]
          omega
      | succ i =>
          rw [List.modify_succ_cons, List.sum_cons, List.sum_cons, ih (Nat.lt_of_succ_lt_succ hi)]
          omega

theorem length_addRemainder (order : List ℕ) (r k : ℕ) (alloc : List ℕ) :
    (addRemainder order r k alloc).length = alloc.length := by
  induction r generalizing k alloc with
  | zero => rfl
  | succ r ih => rw [addRemainder, ih, List.length_modify]

/-- Every row of the remainder goes to some tract. -/
theorem sum_addRemainder {order alloc : List ℕ} (horder : ∀ i ∈ order, i < alloc.length)
    (hne : alloc ≠ []) (r k : ℕ) : (addRemainder order r k alloc).sum = alloc.sum + r := by
  induction r generalizing k alloc with
  | zero => rfl
  | succ r ih =>
      have hindex : order.getD k 0 < alloc.length := by
        rw [List.getD_eq_getElem?_getD]
        cases hk : order[k]? with
        | none => exact List.length_pos_of_ne_nil hne
        | some i => exact horder i (List.mem_of_getElem? hk)
      have hlength : (alloc.modify (order.getD k 0) (· + 1)).length = alloc.length :=
        List.length_modify ..
      have hne' : alloc.modify (order.getD k 0) (· + 1) ≠ [] := by
        rw [← List.length_pos_iff, hlength]
        exact List.length_pos_of_ne_nil hne
      rw [addRemainder, ih (fun i hi => hlength ▸ horder i hi) hne', sum_modify hindex]
      omega

section Allocation

variable [HostLocale] {tracts : List Tract} {rowsPerTract : ℕ} {total : Exact}

theorem lt_of_mem_remainderOrder {i : ℕ} (hi : i ∈ remainderOrder tracts) :
    i < tracts.length := by
  obtain ⟨⟨t, j⟩, hmem, rfl⟩ := List.mem_map.1 hi
  rw [List.mem_insertionSort] at hmem
  simpa using (List.mem_zipIdx hmem).2.1

/-- The rows of each tract: its floor, and what it gets of the remainder. -/
def rowsAllocated (tracts : List Tract) (rowsPerTract : ℕ) (total : Exact) : List ℕ :=
  addRemainder (remainderOrder tracts) (total.count - rowsPerTract * tracts.length) 0
    (tracts.map fun _ => rowsPerTract)

/-- An allocation fails for a total above the cap or below the floor. -/
theorem allocateRows_eq_ok {alloc : List ℕ} (hrows : 1 ≤ rowsPerTract) :
    allocateRows tracts rowsPerTract (some total) = .ok alloc ↔
      total.above maxRows = false ∧ total.below (rowsPerTract * tracts.length) = false ∧
        alloc = rowsAllocated tracts rowsPerTract total := by
  have hpositive : ¬ rowsPerTract < 1 := not_lt.2 hrows
  unfold allocateRows
  simp only [if_neg hpositive, Option.getD_some]
  by_cases habove : total.above maxRows = true
  · simp only [if_pos habove]
    simp [habove, synthError]
  · by_cases hbelow : total.below (rowsPerTract * tracts.length) = true
    · simp only [if_neg habove, if_pos hbelow]
      simp [hbelow, synthError]
    · rw [Bool.not_eq_true] at habove hbelow
      simp only [habove, hbelow, Bool.false_eq_true, if_false, true_and]
      exact ⟨fun h => (Except.ok.inj h).symm, fun h => h ▸ rfl⟩

theorem length_rowsAllocated (tracts : List Tract) (rowsPerTract : ℕ) (total : Exact) :
    (rowsAllocated tracts rowsPerTract total).length = tracts.length := by
  rw [rowsAllocated, length_addRemainder, List.length_map]

/-- Every tract gets its floor, and the rest is handed out. -/
theorem sum_rowsAllocated (hne : tracts ≠ []) (rowsPerTract : ℕ) (total : Exact) :
    (rowsAllocated tracts rowsPerTract total).sum = rowsPerTract * tracts.length +
      (total.count - rowsPerTract * tracts.length) := by
  have hlength : (tracts.map fun _ => rowsPerTract).length = tracts.length := List.length_map _
  have hne' : (tracts.map fun _ => rowsPerTract) ≠ [] := by simpa using hne
  rw [rowsAllocated, sum_addRemainder (fun i hi => hlength ▸ lt_of_mem_remainderOrder hi) hne']
  simp [Nat.mul_comm]

end Allocation

/-! ## Generation -/

section Generation

variable [Digests] [HostLocale] {tracts : List Tract} {rowsPerTract : ℕ} {total : Exact}

omit [Digests] [HostLocale] in
theorem length_rows {alloc : List ℕ} (h : alloc.length = tracts.length) :
    ((alloc.zip tracts).flatMap fun (n, t) => List.replicate n t).length = alloc.sum := by
  induction alloc generalizing tracts with
  | nil => rfl
  | cons n alloc ih =>
      cases tracts with
      | nil => cases h
      | cons t tracts =>
          rw [List.zip_cons_cons, List.flatMap_cons, List.length_append, List.length_replicate,
            ih (Nat.succ.inj h), List.sum_cons]

omit [Digests] [HostLocale] in
/-- A total that is below no floor and above no cap is not a number, or it is finite. -/
theorem count_of_within {floor cap : ℕ} (habove : total.above cap = false)
    (hbelow : total.below floor = false) :
    total = .nan ∧ total.count = 0 ∨
      total ≠ .nan ∧ floor ≤ total.count ∧ total.count ≤ cap := by
  cases total with
  | nan => exact Or.inl ⟨rfl, rfl⟩
  | inf negative =>
      cases negative
      · cases habove
      · cases hbelow
  | fin q =>
      refine Or.inr ⟨nofun, ?_, ?_⟩
      · have hfloor : (floor : ℚ) ≤ q := by simpa [Exact.below] using hbelow
        have hceil : (floor : ℤ) ≤ ⌈q⌉ := by
          have hcast : (floor : ℚ) ≤ ⌈q⌉ := hfloor.trans (Int.le_ceil q)
          exact_mod_cast hcast
        show floor ≤ ⌈q⌉.toNat
        omega
      · have hcap : q ≤ (cap : ℚ) := by simpa [Exact.above] using habove
        have hceil : ⌈q⌉ ≤ (cap : ℤ) := Int.ceil_le.2 (by exact_mod_cast hcap)
        show ⌈q⌉.toNat ≤ cap
        omega

/-- What the generator asks of its total: it is neither above the cap nor below the floor, and
one that is not a number comes with a floor that an array holds. -/
structure Generable (tracts : List Tract) (rowsPerTract : ℕ) (total : Exact) : Prop where
  slice : tracts ≠ []
  cap : total.above maxRows = false
  floor : total.below (rowsPerTract * tracts.length) = false
  length : total = .nan → rowsPerTract ≤ maxArrayLength

omit [Digests] in
/-- The lengths that the generator makes arrays of are within an array for a total that is a
number. -/
theorem any_rowsAllocated (hne : tracts ≠ []) (habove : total.above maxRows = false)
    (hbelow : total.below (rowsPerTract * tracts.length) = false) :
    (rowsAllocated tracts rowsPerTract total).any (maxArrayLength < ·) = false ↔
      (total = .nan → rowsPerTract ≤ maxArrayLength) := by
  rcases count_of_within habove hbelow with ⟨hnan, hcount⟩ | ⟨hnumber, hfloor, hcap⟩
  · have hsame : rowsAllocated tracts rowsPerTract total = tracts.map fun _ => rowsPerTract := by
      rw [rowsAllocated, hcount, Nat.zero_sub]
      rfl
    obtain ⟨t, ht⟩ := List.exists_mem_of_ne_nil tracts hne
    rw [hsame, List.any_map, List.any_eq_false]
    simp only [hnan, Function.comp_apply, decide_eq_true_iff, not_lt, true_imp_iff]
    exact ⟨fun h => h t ht, fun h _ _ => h⟩
  · have hfits : ∀ n ∈ rowsAllocated tracts rowsPerTract total, n ≤ maxArrayLength := by
      intro n hn
      have hsum := List.single_le_sum (fun _ _ => Nat.zero_le _) n hn
      rw [sum_rowsAllocated hne, Nat.add_sub_cancel' hfloor] at hsum
      unfold maxRows at hcap
      unfold maxArrayLength
      omega
    rw [List.any_eq_false]
    simp only [decide_eq_true_iff, not_lt]
    exact ⟨fun _ h => absurd h hnumber, fun _ => hfits⟩

/-- The generator throws exactly where one of its guards is met. -/
theorem isOk_generateSyntheticPeople (hrows : 1 ≤ rowsPerTract) (seed : String)
    (columns : List String) :
    (generateSyntheticPeople tracts ⟨total, some rowsPerTract, seed, columns⟩).isOk = true ↔
      Generable tracts rowsPerTract total := by
  unfold generateSyntheticPeople
  by_cases hempty : tracts.length = 0
  · simp only [if_pos hempty]
    have hnot : ¬ Generable tracts rowsPerTract total := fun h =>
      h.slice (List.length_eq_zero_iff.1 hempty)
    simp [hnot, synthError, Except.isOk, Except.toBool]
  · have hne : tracts ≠ [] := fun h => hempty (List.length_eq_zero_iff.2 h)
    simp only [if_neg hempty]
    by_cases habove : total.above maxRows = true
    · simp only [if_pos habove]
      have hnot : ¬ Generable tracts rowsPerTract total := fun h =>
        Bool.false_ne_true (h.cap.symm.trans habove)
      simp [hnot, synthError, Except.isOk, Except.toBool]
    · simp only [if_neg habove]
      rw [Bool.not_eq_true] at habove
      constructor
      · intro hok
        obtain ⟨assigned, hassigned, _⟩ := isOk_bind.1 hok
        obtain ⟨alloc, halloc, hguard⟩ := bind_eq_ok.1 hassigned
        obtain ⟨_, hbelow, rfl⟩ := (allocateRows_eq_ok hrows).1 halloc
        refine ⟨hne, habove, hbelow, (any_rowsAllocated hne habove hbelow).1 ?_⟩
        by_contra hlong
        rw [Bool.not_eq_false] at hlong
        simp only [if_pos hlong] at hguard
        cases hguard
      · intro h
        have halloc : allocateRows tracts rowsPerTract (some total) =
            .ok (rowsAllocated tracts rowsPerTract total) :=
          (allocateRows_eq_ok hrows).2 ⟨h.cap, h.floor, rfl⟩
        have hassigned : assignedTracts tracts ⟨total, some rowsPerTract, seed, columns⟩ =
            .ok (some (((rowsAllocated tracts rowsPerTract total).zip tracts).flatMap
              fun (n, t) => List.replicate n t)) := by
          unfold assignedTracts
          simp only [halloc, ok_bind, (any_rowsAllocated hne h.cap h.floor).2 h.length]
          rfl
        rw [hassigned, ok_bind, isOk_mapM]
        intro i hi
        have hcount : total.count ≤ (rowsAllocated tracts rowsPerTract total).sum := by
          rw [sum_rowsAllocated hne]
          omega
        obtain ⟨t, ht⟩ : ∃ t, (((rowsAllocated tracts rowsPerTract total).zip tracts).flatMap
            fun (n, t) => List.replicate n t)[i]? = some t := by
          refine ⟨_, List.getElem?_eq_getElem ?_⟩
          rw [length_rows (length_rowsAllocated tracts rowsPerTract total)]
          exact (List.mem_range.1 hi).trans_le hcount
        simp only [tractOfRow, ht]
        rfl

end Generation

/-! ## The verdict -/

section Verdict

variable [Digests] [HostLocale]

/-- The density block of a manifest, whatever value stands there; only its floor is read. -/
def densityOf : Option Value → Option Density
  | some (.obj ms) =>
    match ms.lookup "rowsPerTract" with
    | some (.num x) => some ⟨x, 0, 0, 0, []⟩
    | _ => none
  | _ => none

/-- A slice can be generated again from the numbers of a manifest and committed to. -/
structure Regenerable (manifest : DeliveryManifest) (rowsPerTract : ℕ) (slice : List Tract)
    (query : Query) : Prop where
  generable : Generable slice rowsPerTract (Exact.ofNumber manifest.rowCount)
  stats : CommittableStats (aggregateStats slice manifest.columns)
  population : committable (orNull query.minPopulation) = true
  thresholds : committableThresholds query.thresholds = true

omit [Digests] [HostLocale] in
theorem one_le_of_validRows {density : Option Density} {rowsPerTract : ℕ}
    (h : validRows density = some rowsPerTract) : 1 ≤ rowsPerTract := by
  unfold validRows at h
  split at h
  · next q _ =>
      split_ifs at h with hq
      · cases h
        have hone : (1 : ℚ) ≤ q.num := by
          rw [Rat.coe_int_num_of_den_eq_one hq.1]
          exact hq.2
        have hnum : 1 ≤ q.num := by exact_mod_cast hone
        omega
  · cases h

/-- A verification returns a verdict unless it gets as far as generating the slice and cannot. -/
theorem verifyDelivery_answers_iff (manifest : DeliveryManifest) (density : Option Value)
    (received : Bytes) (corpus : Corpus) (query : Query) :
    (verifyDelivery { manifest with density := densityOf density } received corpus query).isOk =
        true ↔
      (manifest.generator.algorithm = generatorAlgorithm →
        ∀ rowsPerTract, validRows (densityOf density) = some rowsPerTract →
          Regenerable manifest rowsPerTract (evaluateQuery query corpus).tracts query) := by
  by_cases halgorithm : manifest.generator.algorithm = generatorAlgorithm
  · cases hrows : validRows (densityOf density) with
    | none =>
        unfold verifyDelivery
        simp [halgorithm, hrows]
    | some rowsPerTract =>
        have hpeople : (generateSyntheticPeople (evaluateQuery query corpus).tracts
            ⟨Exact.ofNumber manifest.rowCount, some rowsPerTract, manifest.seed,
              manifest.columns⟩).isOk = true ↔ _ :=
          isOk_generateSyntheticPeople (one_le_of_validRows hrows) manifest.seed manifest.columns
        have hcommitment : (statsCommitment (aggregateStats (evaluateQuery query corpus).tracts
            manifest.columns) query).isOk = true ↔ _ := isOk_statsCommitment
        unfold verifyDelivery
        simp only [halgorithm, hrows, decide_true, regenerationOptions, isOk_bind, isOk_pure,
          and_true, true_imp_iff, Option.some_inj, forall_eq']
        constructor
        · rintro ⟨people, hgenerated, commitment, hcommitted⟩
          obtain ⟨hstats, hpopulation, hthresholds⟩ := hcommitment.1 (by rw [hcommitted]; rfl)
          exact ⟨hpeople.1 (by rw [hgenerated]; rfl), hstats, hpopulation, hthresholds⟩
        · intro h
          obtain ⟨people, hgenerated⟩ := exists_of_isOk (hpeople.2 h.generable)
          obtain ⟨commitment, hcommitted⟩ :=
            exists_of_isOk (hcommitment.2 ⟨h.stats, h.population, h.thresholds⟩)
          exact ⟨people, hgenerated, commitment, hcommitted⟩
  · unfold verifyDelivery
    simp [halgorithm]

end Verdict

/-! ## A row count above the cap -/

section Cap

attribute [local instance] Digests.ideal HostLocale.ascii

/-- A manifest that claims a million rows makes the verifier throw. -/
theorem verifyDelivery_throws :
    ¬ ∀ (path : String) (lines : List String) (corpus : Corpus) (manifest : DeliveryManifest)
      (density : Option Value) (received : Bytes) (query : Query),
      loadPlaces path lines = .ok corpus → validateQuery query corpus = [] →
        (verifyDelivery { manifest with density := densityOf density } received corpus
          query).isOk = true := by
  intro h
  obtain ⟨corpus, hload, _, hstates, _⟩ := exists_gapCorpus
  have hok := h _ _ corpus { narrowManifest with rowCount := 1000000 }
    (some (.obj [("rowsPerTract", .num 1)])) [] gapQuery hload (validateQuery_gapQuery hstates)
  have hregenerable := (verifyDelivery_answers_iff _ _ _ _ _).1 hok rfl 1 (by decide +kernel)
  have habove : (Exact.ofNumber 1000000).above maxRows = true := by decide +kernel
  exact Bool.false_ne_true (hregenerable.generable.cap.symm.trans habove)

end Cap

end Engine

end DataSeller

end Coordination
