import Mathlib.Data.Int.CardIntervalMod
import Coordination.JavaScript.Order
import Coordination.JavaScript.Sorting
import Coordination.DataSeller.Regeneration

/-!
# Who gets how many rows

Every tract gets the floor, and what remains is dealt out one row at a time around the tracts in
the order of their adult populations. So the surpluses differ by one row at most, and where they
differ the earlier tract in that order has the larger one.
-/

namespace Coordination

namespace DataSeller

namespace Engine

open JavaScript Library

/-! ## Dealing out -/

/-- A place of the order is served whenever the round comes to it. -/
theorem getElem?_addRemainder {order : List ℕ} (hnodup : order.Nodup) {p i : ℕ}
    (hp : order[p]? = some i) (r k : ℕ) (hk : k < order.length) (alloc : List ℕ) :
    (addRemainder order r k alloc)[i]? =
      alloc[i]?.map (· + Nat.count (fun t => (k + t) % order.length = p) r) := by
  induction r generalizing k alloc with
  | zero => simp [addRemainder]
  | succ r ih =>
      have hpos : 0 < order.length := Nat.zero_lt_of_lt hk
      have hserved : order.getD k 0 = i ↔ k = p := by
        rw [List.getD_eq_getElem?_getD, List.getElem?_eq_getElem hk, Option.getD_some]
        obtain ⟨hlt, rfl⟩ := List.getElem?_eq_some_iff.1 hp
        exact hnodup.getElem_inj_iff
      have hnext : (fun t => (k + (t + 1)) % order.length = p) =
          fun t => ((k + 1) % order.length + t) % order.length = p := by
        funext t
        rw [Nat.mod_add_mod, add_assoc, add_comm 1 t]
      rw [addRemainder, ih _ (Nat.mod_lt _ hpos), List.getElem?_modify, Nat.count_succ']
      simp only [hserved, hnext, add_zero, Nat.mod_eq_of_lt hk, Option.map_eq_map, Option.map_map]
      congr 1
      funext n
      by_cases hkp : k = p
      · simp only [Function.comp_apply, if_pos hkp]
        omega
      · simp only [Function.comp_apply, if_neg hkp, add_zero]

/-- After `r` rows, the first `r % n` places have had one row more than the others. -/
theorem count_turns {n p : ℕ} (hp : p < n) (r : ℕ) :
    Nat.count (fun t => (0 + t) % n = p) r = r / n + if p < r % n then 1 else 0 := by
  have hturn : (fun t => (0 + t) % n = p) = (· ≡ p [MOD n]) := by
    funext t
    rw [Nat.ModEq, zero_add, Nat.mod_eq_of_lt hp]
  simp only [hturn, Nat.count_modEq_card r (Nat.zero_lt_of_lt hp) p, Nat.mod_eq_of_lt hp]

/-! ## The order -/

/-- The adult population by its exact value; a suppressed one counts as zero. -/
def adults (t : Tract) : ℚ :=
  (Number.toRat? (t.totalPop18plus.getD 0)).getD 0

section Order

variable [HostLocale] {tracts : List Tract}

/-- The comparison of `allocateRows`, for tracts with their positions. -/
def ServedFirst (a b : Tract × ℕ) : Prop :=
  b.1.totalPop18plus.getD 0 < a.1.totalPop18plus.getD 0 ∨
    (a.1.totalPop18plus.getD 0 == b.1.totalPop18plus.getD 0) = true ∧
      HostLocale.compare a.1.tractFips b.1.tractFips ≠ .gt

instance : DecidableRel ServedFirst := fun _ _ => inferInstanceAs (Decidable (_ ∨ _))

theorem remainderOrder_eq (tracts : List Tract) :
    remainderOrder tracts = (tracts.zipIdx.insertionSort ServedFirst).map Prod.snd :=
  rfl

/-- Tract `a` comes before tract `b`: it has more adults, or as many and the smaller FIPS code,
or both are equal and it stands first. -/
def ComesBefore (a b : Tract × ℕ) : Prop :=
  adults b.1 < adults a.1 ∨ adults a.1 = adults b.1 ∧
    (HostLocale.compare a.1.tractFips b.1.tractFips = .lt ∨
      HostLocale.compare a.1.tractFips b.1.tractFips = .eq ∧ a.2 < b.2)

/-- The population of every tract is an integer or suppressed. -/
def IntegerPopulations (tracts : List Tract) : Prop :=
  ∀ t ∈ tracts, ∀ p, t.totalPop18plus = some p → p.isInteger = true

omit [HostLocale] in
theorem toRat?_population (h : IntegerPopulations tracts) {t : Tract} (ht : t ∈ tracts) :
    Number.toRat? (t.totalPop18plus.getD 0) = some (adults t) := by
  have hfinite : ∃ q, Number.toRat? (t.totalPop18plus.getD 0) = some q := by
    cases hpop : t.totalPop18plus with
    | none => exact ⟨0, by decide +kernel⟩
    | some p =>
        have hinteger := h t ht p hpop
        unfold Number.isInteger at hinteger
        cases hq : Number.toRat? p with
        | none => simp [hq] at hinteger
        | some q => exact ⟨q, hq⟩
  obtain ⟨q, hq⟩ := hfinite
  rw [adults, hq, Option.getD_some]

theorem servedFirst_iff (h : IntegerPopulations tracts) {a b : Tract × ℕ} (ha : a.1 ∈ tracts)
    (hb : b.1 ∈ tracts) : ServedFirst a b ↔ adults b.1 < adults a.1 ∨
      adults a.1 = adults b.1 ∧ (HostLocale.compare a.1.tractFips b.1.tractFips).isLE = true := by
  rw [ServedFirst, Number.lt_iff (toRat?_population h hb) (toRat?_population h ha),
    Number.beq_iff (toRat?_population h ha) (toRat?_population h hb)]
  cases HostLocale.compare a.1.tractFips b.1.tractFips <;> simp

theorem servedFirst_total (hlocale : Std.TransCmp HostLocale.compare) (h : IntegerPopulations tracts)
    (a b : Tract × ℕ) (ha : a.1 ∈ tracts) (hb : b.1 ∈ tracts) : ServedFirst a b ∨ ServedFirst b a := by
  rw [servedFirst_iff h ha hb, servedFirst_iff h hb ha]
  rcases lt_trichotomy (adults a.1) (adults b.1) with hlt | heq | hgt
  · exact Or.inr (Or.inl hlt)
  · have hswap := hlocale.eq_swap (a := b.1.tractFips) (b := a.1.tractFips)
    cases hcompare : HostLocale.compare a.1.tractFips b.1.tractFips with
    | lt => exact Or.inl (Or.inr ⟨heq, rfl⟩)
    | eq => exact Or.inl (Or.inr ⟨heq, rfl⟩)
    | gt => exact Or.inr (Or.inr ⟨heq.symm, by rw [hswap, hcompare]; rfl⟩)
  · exact Or.inl (Or.inl hgt)

theorem servedFirst_trans (hlocale : Std.TransCmp HostLocale.compare) (h : IntegerPopulations tracts)
    (a b c : Tract × ℕ) (ha : a.1 ∈ tracts) (hb : b.1 ∈ tracts) (hc : c.1 ∈ tracts)
    (hab : ServedFirst a b) (hbc : ServedFirst b c) : ServedFirst a c := by
  rw [servedFirst_iff h ha hb] at hab
  rw [servedFirst_iff h hb hc] at hbc
  rw [servedFirst_iff h ha hc]
  rcases hab with hab | ⟨hab, hleft⟩ <;> rcases hbc with hbc | ⟨hbc, hright⟩
  · exact Or.inl (hbc.trans hab)
  · exact Or.inl (hbc ▸ hab)
  · exact Or.inl (hab ▸ hbc)
  · exact Or.inr ⟨hab.trans hbc, hlocale.isLE_trans hleft hright⟩

/-- Tracts that are served in turn come before one another. -/
theorem comesBefore_of_inTurn (hlocale : Std.TransCmp HostLocale.compare)
    (h : IntegerPopulations tracts) {a b : Tract × ℕ} (ha : a.1 ∈ tracts) (hb : b.1 ∈ tracts)
    (hturn : InTurn ServedFirst (fun a b : Tract × ℕ => a.2 < b.2) a b) : ComesBefore a b := by
  obtain ⟨hab, hstable⟩ := hturn
  rw [servedFirst_iff h ha hb] at hab
  rw [servedFirst_iff h hb ha] at hstable
  rcases hab with hmore | ⟨heq, hle⟩
  · exact Or.inl hmore
  · have hswap := hlocale.eq_swap (a := b.1.tractFips) (b := a.1.tractFips)
    cases hcompare : HostLocale.compare a.1.tractFips b.1.tractFips with
    | lt => exact Or.inr ⟨heq, Or.inl hcompare⟩
    | eq =>
        refine Or.inr ⟨heq, Or.inr ⟨hcompare, hstable (Or.inr ⟨heq.symm, ?_⟩)⟩⟩
        rw [hswap, hcompare]
        rfl
    | gt => rw [hcompare] at hle; cases hle

/-! ## Places -/

/-- The tracts with their positions, in the order they are served. -/
abbrev served (tracts : List Tract) : List (Tract × ℕ) :=
  tracts.zipIdx.insertionSort ServedFirst

theorem mem_served {x : Tract × ℕ} : x ∈ served tracts ↔ tracts[x.2]? = some x.1 := by
  rw [List.mem_insertionSort, List.mem_zipIdx_iff_getElem?]

theorem length_served (tracts : List Tract) : (served tracts).length = tracts.length := by
  rw [List.length_insertionSort, List.length_zipIdx]

theorem nodup_remainderOrder (tracts : List Tract) : (remainderOrder tracts).Nodup := by
  rw [remainderOrder_eq, (((List.perm_insertionSort _ _).map Prod.snd).nodup_iff),
    List.zipIdx_map_snd]
  exact List.nodup_range'

/-- The earlier of two served tracts comes before the later one. -/
theorem comesBefore_of_served (hlocale : Std.TransCmp HostLocale.compare)
    (h : IntegerPopulations tracts) {p q : ℕ} (hpq : p < q) {x y : Tract × ℕ}
    (hp : (served tracts)[p]? = some x) (hq : (served tracts)[q]? = some y) : ComesBefore x y := by
  have hpositions : tracts.zipIdx.Pairwise fun a b => a.2 < b.2 := by
    rw [← List.pairwise_map (f := Prod.snd) (R := (· < ·)), List.zipIdx_map_snd]
    exact List.pairwise_lt_range'
  have hsorted : (served tracts).Pairwise (InTurn ServedFirst fun a b => a.2 < b.2) :=
    pairwise_insertionSort (servedFirst_total hlocale h) (servedFirst_trans hlocale h)
      (fun _ ha => List.mem_of_getElem? (List.mem_zipIdx_iff_getElem?.1 ha)) hpositions
  have hmem {n : ℕ} {z : Tract × ℕ} (hn : (served tracts)[n]? = some z) : z.1 ∈ tracts :=
    List.mem_of_getElem? (mem_served.1 (List.mem_of_getElem? hn))
  refine comesBefore_of_inTurn hlocale h (hmem hp) (hmem hq) ?_
  obtain ⟨hltp, rfl⟩ := List.getElem?_eq_some_iff.1 hp
  obtain ⟨hltq, rfl⟩ := List.getElem?_eq_some_iff.1 hq
  exact List.pairwise_iff_getElem.1 hsorted p q hltp hltq hpq

/-- What the tract at place `p` gets of a remainder `r` among `n`. -/
def surplus (n r p : ℕ) : ℕ :=
  r / n + if p < r % n then 1 else 0

theorem getElem?_rowsAllocated (rowsPerTract : ℕ) (total : Exact) {p : ℕ} {x : Tract × ℕ}
    (hp : (served tracts)[p]? = some x) : (rowsAllocated tracts rowsPerTract total)[x.2]? =
      some (rowsPerTract + surplus tracts.length (total.count - rowsPerTract * tracts.length) p) := by
  have hlength : (remainderOrder tracts).length = tracts.length := by
    rw [remainderOrder_eq, List.length_map, length_served]
  have hplace : p < tracts.length := by
    rw [← length_served tracts]
    exact (List.getElem?_eq_some_iff.1 hp).1
  have horder : (remainderOrder tracts)[p]? = some x.2 := by
    rw [remainderOrder_eq, List.getElem?_map, hp]
    rfl
  have htract := mem_served.1 (List.mem_of_getElem? hp)
  rw [rowsAllocated, getElem?_addRemainder (nodup_remainderOrder tracts) horder _ _
    (hlength ▸ Nat.zero_lt_of_lt hplace), hlength, count_turns hplace, List.getElem?_map, htract]
  rfl

end Order

/-! ## Allocation -/

/-- The allocation the floor and the order of the tracts call for. -/
structure Fair [HostLocale] (tracts : List Tract) (rowsPerTract : ℕ) (total : ℤ) (alloc : List ℕ) :
    Prop where
  length : alloc.length = tracts.length
  floor : ∀ n ∈ alloc, rowsPerTract ≤ n
  sum : (alloc.sum : ℤ) = total
  even : ∀ m ∈ alloc, ∀ n ∈ alloc, m ≤ n + 1
  turn : ∀ {i j : ℕ} {a b : Tract}, tracts[i]? = some a → tracts[j]? = some b →
    alloc.getD j 0 < alloc.getD i 0 → ComesBefore (a, i) (b, j)

section Allocation

variable [HostLocale] {tracts : List Tract} {rowsPerTract : ℕ}

theorem fair_rowsAllocated (hlocale : Std.TransCmp HostLocale.compare) (hne : tracts ≠ [])
    (hpopulations : IntegerPopulations tracts) {total : ℤ}
    (hfloor : (rowsPerTract * tracts.length : ℕ) ≤ total) :
    Fair tracts rowsPerTract total (rowsAllocated tracts rowsPerTract (.fin total)) := by
  have hcount : (Exact.fin total).count = total.toNat := by simp [Exact.count]
  have hlength := length_rowsAllocated tracts rowsPerTract (.fin total)
  -- every position has a place in the order
  have hplace {i : ℕ} {a : Tract} (ha : tracts[i]? = some a) :
      ∃ p, (served tracts)[p]? = some (a, i) :=
    List.mem_iff_getElem?.1 (mem_served.2 ha)
  have hentry {m : ℕ} (hm : m ∈ rowsAllocated tracts rowsPerTract (.fin total)) :
      ∃ p, m = rowsPerTract +
        surplus tracts.length ((Exact.fin total).count - rowsPerTract * tracts.length) p := by
    obtain ⟨i, hi⟩ := List.mem_iff_getElem?.1 hm
    obtain ⟨hlt, _⟩ := List.getElem?_eq_some_iff.1 hi
    obtain ⟨p, hp⟩ := hplace (List.getElem?_eq_getElem (hlength ▸ hlt))
    have hrows := getElem?_rowsAllocated rowsPerTract (.fin total) hp
    exact ⟨p, Option.some_inj.1 (hi.symm.trans hrows)⟩
  refine ⟨hlength, ?_, ?_, ?_, ?_⟩
  · intro n hn
    obtain ⟨p, rfl⟩ := hentry hn
    exact Nat.le_add_right _ _
  · rw [sum_rowsAllocated hne, hcount]
    omega
  · intro m hm n hn
    obtain ⟨p, rfl⟩ := hentry hm
    obtain ⟨q, rfl⟩ := hentry hn
    unfold surplus
    split_ifs <;> omega
  · intro i j a b ha hb hless
    obtain ⟨p, hp⟩ := hplace ha
    obtain ⟨q, hq⟩ := hplace hb
    refine comesBefore_of_served hlocale hpopulations ?_ hp hq
    rw [List.getD_eq_getElem?_getD, List.getD_eq_getElem?_getD,
      getElem?_rowsAllocated rowsPerTract (.fin total) hp,
      getElem?_rowsAllocated rowsPerTract (.fin total) hq, Option.getD_some, Option.getD_some] at hless
    unfold surplus at hless
    split_ifs at hless <;> omega

/-- `allocateRows` is exact and fair where the total is within its bounds, and throws elsewhere. -/
theorem allocateRows_exact (hlocale : Std.TransCmp HostLocale.compare) (hne : tracts ≠ [])
    (hpopulations : IntegerPopulations tracts) (hrows : 1 ≤ rowsPerTract) (total : ℤ) :
    if (rowsPerTract * tracts.length : ℕ) ≤ total ∧ total ≤ maxRows then
      ∃ alloc, allocateRows tracts rowsPerTract (some (.fin total)) = .ok alloc ∧
        Fair tracts rowsPerTract total alloc
    else
      ∃ message, allocateRows tracts rowsPerTract (some (.fin total)) = synthError message := by
  have habove : (Exact.fin total).above maxRows = decide ((maxRows : ℤ) < total) := by
    simp only [Exact.above]
    norm_cast
  have hbelow : (Exact.fin total).below (rowsPerTract * tracts.length) =
      decide (total < (rowsPerTract * tracts.length : ℕ)) := by
    simp only [Exact.below]
    norm_cast
  split_ifs with hwithin
  · refine ⟨_, (allocateRows_eq_ok hrows).2 ⟨?_, ?_, rfl⟩,
      fair_rowsAllocated hlocale hne hpopulations hwithin.1⟩
    · rw [habove, decide_eq_false_iff_not]
      omega
    · rw [hbelow, decide_eq_false_iff_not]
      omega
  · unfold allocateRows
    simp only [if_neg (not_lt.2 hrows), Option.getD_some]
    by_cases hcap : (maxRows : ℤ) < total
    · rw [if_pos (habove.trans (decide_eq_true hcap))]
      exact ⟨_, rfl⟩
    · rw [if_neg (by rw [habove, decide_eq_true_iff]; exact hcap),
        if_pos (hbelow.trans (decide_eq_true (by omega)))]
      exact ⟨_, rfl⟩

end Allocation

section Demo

attribute [local instance] HostLocale.ascii

/-- Three tracts, one with a suppressed population. -/
def demoSlice : List Tract :=
  [⟨"CA", "California", "Alameda", "06001", "06001400100", none, some 900, fun _ => none⟩,
    ⟨"CA", "California", "Alameda", "06001", "06001400200", none, none, fun _ => none⟩,
    ⟨"CA", "California", "Alameda", "06001", "06001400300", none, some 2500, fun _ => none⟩]

theorem allocateRows_exact_demo :
    ∃ alloc, allocateRows demoSlice 1 (some (.fin 5)) = .ok alloc ∧ Fair demoSlice 1 5 alloc := by
  have hpopulations : IntegerPopulations demoSlice := by
    intro t ht p hp
    simp only [demoSlice, List.mem_cons, List.not_mem_nil, or_false] at ht
    rcases ht with rfl | rfl | rfl <;> cases hp <;> decide +kernel
  have h := allocateRows_exact HostLocale.ascii_transCmp (List.cons_ne_nil _ _) hpopulations
    (le_refl 1) 5
  rwa [if_pos (by decide)] at h

end Demo

end Engine

end DataSeller

end Coordination
