import Mathlib.Algebra.Order.BigOperators.Group.List
import Coordination.DataSeller.Engine.Refusals

/-!
# The size of a refusal

The cap of `validateQuery` counts refusals, and the text of two of them lists names of the
request. The text of a refusal stays below one bound for every query exactly when those lists
do, and the number of defects the last line counts.
-/

namespace Coordination

namespace DataSeller

namespace Engine

open JavaScript Library

/-! ## Lengths of texts -/

/-- `s.length`. -/
def textLength (s : String) : ℕ :=
  (utf16 s).length

@[simp] theorem textLength_append (s t : String) :
    textLength (s ++ t) = textLength s + textLength t := by
  simp [textLength, utf16, String.toList_append]

@[simp] theorem textLength_toString (s : String) : textLength (toString s) = textLength s := rfl

theorem textLength_comma : textLength ", " = 2 := by decide

theorem textLength_commaList_cons (x : String) (xs : List String) :
    textLength (commaList (x :: xs)) =
      textLength x + (xs.map fun y => 2 + textLength y).sum := by
  induction xs generalizing x with
  | nil => simp [commaList]
  | cons y ys ih =>
      have htail := ih y
      unfold commaList at htail ⊢
      rw [String.intercalate_cons_cons, textLength_append, textLength_append, htail,
        textLength_comma, List.map_cons, List.sum_cons]
      omega

/-- A list of short names is short. -/
theorem textLength_commaList_le {L : ℕ} : ∀ {xs : List String},
    (∀ x ∈ xs, textLength x ≤ L) → textLength (commaList xs) ≤ xs.length * (2 + L)
  | [], _ => by simp [commaList, textLength, utf16]
  | x :: xs, h => by
      have hsum : (xs.map fun y => 2 + textLength y).sum ≤ xs.length * (2 + L) := by
        have hbound : ∀ n ∈ xs.map fun y => 2 + textLength y, n ≤ 2 + L := by
          intro n hn
          obtain ⟨y, hy, rfl⟩ := List.mem_map.1 hn
          have hshort := h y (List.mem_cons_of_mem _ hy)
          omega
        exact (List.sum_le_card_nsmul _ _ hbound).trans_eq (by rw [List.length_map]; rfl)
      have hx := h x List.mem_cons_self
      rw [textLength_commaList_cons, List.length_cons, Nat.add_mul, Nat.one_mul]
      omega

/-- A list of names is as long as it has names. -/
theorem length_le_textLength_commaList : ∀ xs : List String,
    xs.length ≤ textLength (commaList xs) + 1
  | [] => Nat.zero_le _
  | x :: xs => by
      have hsum : xs.length * 1 ≤ (xs.map fun y => 2 + textLength y).sum := by
        have hbound : ∀ n ∈ xs.map fun y => 2 + textLength y, 1 ≤ n := by
          intro n hn
          obtain ⟨y, _, rfl⟩ := List.mem_map.1 hn
          omega
        exact le_of_eq_of_le (by rw [List.length_map]; rfl) (List.card_nsmul_le_sum _ _ hbound)
      rw [textLength_commaList_cons, List.length_cons]
      omega

theorem textLength_toString_nat (n : ℕ) :
    textLength (toString n) = (Nat.toDigits 10 n).length := by
  have hdigit : ∀ c ∈ (toString n).toList, c.toNat < 65536 := by
    intro c hc
    rw [show toString n = n.repr from rfl, Nat.toList_repr] at hc
    have hbounds := Char.isDigit_iff_toNat.1
      (Nat.isDigit_of_mem_toDigits (by decide) (by decide) hc)
    have hnine : '9'.toNat = 57 := rfl
    omega
  rw [textLength, length_utf16 hdigit, show toString n = n.repr from rfl, Nat.toList_repr]

theorem textLength_toString_le (n : ℕ) : textLength (toString n) ≤ n + 1 := by
  rw [textLength_toString_nat, Nat.length_toDigits_le_iff (by decide) (Nat.succ_pos n)]
  exact (Nat.lt_succ_self n).trans (Nat.lt_pow_self (by decide))

theorem lt_pow_of_textLength {n B : ℕ} (h : textLength (toString n) ≤ B) : n < 10 ^ B := by
  rw [textLength_toString_nat] at h
  have hpos : 0 < B := (Nat.length_toDigits_pos (b := 10) (n := n)).trans_le h
  exact (Nat.length_toDigits_le_iff (by decide) hpos).1 h

/-! ## Lengths of refusals -/

def RejectionCode.name : RejectionCode → String
  | NO_COLUMNS_REQUESTED => "NO_COLUMNS_REQUESTED"
  | UNKNOWN_COLUMN => "UNKNOWN_COLUMN"
  | STATE_NOT_AVAILABLE => "STATE_NOT_AVAILABLE"
  | COUNTY_FILTER_UNSUPPORTED => "COUNTY_FILTER_UNSUPPORTED"
  | POPULATION_FILTER_UNSUPPORTED => "POPULATION_FILTER_UNSUPPORTED"
  | THRESHOLD_FILTER_UNSUPPORTED => "THRESHOLD_FILTER_UNSUPPORTED"
  | THRESHOLD_ON_UNREQUESTED_COLUMN => "THRESHOLD_ON_UNREQUESTED_COLUMN"
  | THRESHOLD_RANGE_EMPTY => "THRESHOLD_RANGE_EMPTY"

/-- The length of the code and the detail. -/
def Rejection.size (r : Rejection) : ℕ :=
  textLength r.code.name + textLength r.detail

/-- The length of all codes and details of the answer. -/
def refusalSize (q : Query) (corpus : Corpus) : ℕ :=
  ((validateQuery q corpus).map Rejection.size).sum

/-- Every name of the query has at most `L` code units. -/
structure NamesWithin (L : ℕ) (q : Query) : Prop where
  columns : ∀ c ∈ q.columns, textLength c ≤ L
  states : ∀ st ∈ q.states.getD [], textLength st ≤ L
  counties : ∀ c ∈ q.counties.getD [], textLength c ≤ L
  thresholds : ∀ m ∈ entriesOf q.thresholds, textLength m.1 ≤ L

def unsoldColumns (q : Query) : List String :=
  q.columns.filter fun c => !isSoldMeasure c

def unlistedStates (q : Query) (corpus : Corpus) : List String :=
  (q.states.getD []).filter fun st => st ∉ corpus.states

def unknownCounties (q : Query) (corpus : Corpus) : List String :=
  (q.counties.getD []).filter (isUnknownCounty (q.states.getD []) corpus)

/-- The counties are among what is listed: there are states, and the defects before are fewer
than the cap. -/
def AreCountiesListed (q : Query) (corpus : Corpus) : Prop :=
  q.states.getD [] ≠ [] ∧
    (if q.columns = [] then 1 else 0) + (if q.columns.all isSoldMeasure then 0 else 1) +
      (unlistedStates q corpus).length < maxProblems

section Sizes

variable {q : Query} {corpus : Corpus} {L : ℕ}

theorem size_le_of_columns : ∃ K, ∀ q, NamesWithin L q → ∀ r ∈ columnProblems q.columns,
    r.size ≤ K + (unsoldColumns q).length * (2 + L) := by
  refine ⟨textLength "NO_COLUMNS_REQUESTED" + textLength "At least one measure must be purchased." +
    (textLength "UNKNOWN_COLUMN" + textLength "Not sold: " + textLength ". Available: " +
      textLength (commaList (measureKeys.map MeasureKey.name)) + textLength "."), ?_⟩
  intro q hq r hr
  have hshort : ∀ c ∈ unsoldColumns q, textLength c ≤ L := fun c hc =>
    hq.columns c (List.mem_of_mem_filter hc)
  have hnames := textLength_commaList_le hshort
  unfold columnProblems at hr
  simp only [List.mem_append] at hr
  rcases hr with hr | hr
  · split_ifs at hr
    · cases List.mem_singleton.1 hr
      simp only [Rejection.size, RejectionCode.name]
      omega
    · cases hr
  · split_ifs at hr
    · cases List.mem_singleton.1 hr
      unfold unsoldColumns at hnames ⊢
      simp only [Rejection.size, RejectionCode.name, textLength_append, textLength_toString]
      omega
    · cases hr

theorem size_le_of_states (corpus : Corpus) : ∃ K, ∀ q, NamesWithin L q →
    ∀ r ∈ stateProblems (q.states.getD []) corpus, r.size ≤ K + L := by
  refine ⟨textLength "STATE_NOT_AVAILABLE" + textLength "\"" +
    textLength "\" is not in the 2025 release. The release covers " +
    textLength (toString corpus.states.length) +
    textLength " states and DC; US territories are not covered.", ?_⟩
  intro q hq r hr
  obtain ⟨st, hst, rfl⟩ := List.mem_map.1 hr
  have hname := hq.states st (List.mem_of_mem_filter hst)
  simp only [Rejection.size, RejectionCode.name, textLength_append, textLength_toString]
  omega

theorem size_le_of_counties (corpus : Corpus) : ∃ K, ∀ q, NamesWithin L q →
    ∀ r ∈ countyProblems (q.states.getD []) q.counties corpus, r.size ≤ K ∨
      q.states.getD [] ≠ [] ∧ r.size ≤ K + (unknownCounties q corpus).length * (2 + L) := by
  refine ⟨textLength "COUNTY_FILTER_UNSUPPORTED" +
    textLength "A county filter requires at least one state: county names " +
    textLength "are not unique nationally." +
    textLength "No such county in the selected states: " + textLength ".", ?_⟩
  intro q hq r hr
  have hshort : ∀ c ∈ unknownCounties q corpus, textLength c ≤ L := fun c hc =>
    hq.counties c (List.mem_of_mem_filter hc)
  have hnames := textLength_commaList_le hshort
  unfold unknownCounties at hnames ⊢
  rcases hcounties : q.counties with _ | _ | ⟨c, cs⟩
  · rw [hcounties] at hr
    cases hr
  · rw [hcounties] at hr
    cases hr
  · rw [hcounties, countyProblems_cons] at hr
    rw [hcounties, Option.getD_some] at hnames
    split_ifs at hr with hstates hmissing
    · cases List.mem_singleton.1 hr
      refine Or.inl ?_
      simp only [Rejection.size, RejectionCode.name, textLength_append]
      omega
    · cases List.mem_singleton.1 hr
      refine Or.inr ⟨fun hnone => hstates (by rw [hnone]; rfl), ?_⟩
      simp only [Rejection.size, RejectionCode.name, textLength_append, Option.getD_some]
      omega
    · cases hr

theorem size_le_of_population : ∃ K, ∀ v : Option Value, ∀ r ∈ populationProblems v,
    r.size ≤ K := by
  refine ⟨textLength "POPULATION_FILTER_UNSUPPORTED" +
    textLength "minPopulation must be a non-negative integer.", ?_⟩
  intro v r hr
  rw [populationProblems_eq] at hr
  split_ifs at hr
  · cases hr
  · cases List.mem_singleton.1 hr
    exact le_rfl

/-- The detail of a threshold's problem spells its name once. -/
theorem size_le_of_threshold : ∃ K, ∀ (columns : List String) (key : String) (t : Value)
    (r : Rejection), thresholdProblem columns key t = some r → r.size ≤ K + textLength key := by
  refine ⟨textLength "THRESHOLD_FILTER_UNSUPPORTED" +
    textLength "THRESHOLD_ON_UNREQUESTED_COLUMN" + textLength "THRESHOLD_RANGE_EMPTY" +
    textLength "Threshold on " + textLength " must use numeric min/max." +
    textLength " sets neither min nor max." + textLength " is not an object." +
    textLength " is not being purchased, so it cannot be filtered on." +
    textLength " has min > max.", ?_⟩
  intro columns key t r h
  by_cases ht : isObject t = true
  · rw [thresholdProblem_eq ht] at h
    rcases boundProblem_eq_some h with ⟨rfl | rfl, _⟩ | ⟨rfl, _⟩ | ⟨rfl, _⟩
    all_goals
      simp only [Rejection.size, RejectionCode.name, textLength_append, textLength_toString]
      omega
  · cases t with
    | obj | arr => exact absurd rfl ht
    | null | bool | num | str =>
        cases h
        simp only [Rejection.size, RejectionCode.name, textLength_append, textLength_toString]
        omega

theorem size_le_of_thresholds : ∃ K, ∀ q, NamesWithin L q →
    ∀ r ∈ thresholdProblems q.columns q.thresholds, r.size ≤ K + L := by
  obtain ⟨K, hK⟩ := size_le_of_threshold
  refine ⟨K + (⟨.THRESHOLD_FILTER_UNSUPPORTED,
    s!"At most {measureKeys.length} thresholds — one per sold measure."⟩ : Rejection).size, ?_⟩
  intro q hq r hr
  unfold thresholdProblems at hr
  simp only [List.mem_append] at hr
  rcases hr with hr | hr
  · split_ifs at hr
    · cases List.mem_singleton.1 hr
      omega
    · cases hr
  · obtain ⟨⟨key, t⟩, hm, hproblem⟩ := List.mem_filterMap.1 hr
    have hsize : r.size ≤ K + textLength key := hK _ _ _ _ hproblem
    have hkey : textLength key ≤ L := hq.thresholds _ (List.mem_of_mem_take hm)
    omega

/-- The last line is as long as the number of what it does not list. -/
theorem size_further : ∃ K, ∀ n, (further n).size = K + textLength (toString n) := by
  refine ⟨textLength "NO_COLUMNS_REQUESTED" + textLength "…and " +
    textLength " further problems, not " + textLength "listed. Fix these first.", ?_⟩
  intro n
  simp only [further, Rejection.size, RejectionCode.name, textLength_append, textLength_toString]
  omega

/-! ## What is listed -/

theorem size_le_refusalSize {r : Rejection} (hr : r ∈ validateQuery q corpus) :
    r.size ≤ refusalSize q corpus :=
  List.single_le_sum (fun _ _ => Nat.zero_le _) _ (List.mem_map_of_mem hr)

theorem length_validateQuery_le : (validateQuery q corpus).length ≤ maxProblems + 1 := by
  rw [validateQuery_eq]
  split_ifs with hmany
  · rw [List.length_append, List.length_take, List.length_singleton]
    omega
  · omega

/-- What stands before the cap is listed. -/
theorem mem_validateQuery {i : ℕ} {r : Rejection} (hr : (problemsOf q corpus)[i]? = some r)
    (hi : i < maxProblems) : r ∈ validateQuery q corpus := by
  rw [validateQuery_eq]
  split_ifs with hmany
  · refine List.mem_append_left _ (List.mem_of_getElem? (i := i) ?_)
    rw [List.getElem?_take_of_lt hi, hr]
  · exact List.mem_of_getElem? hr

/-- The unsold columns are always listed. -/
theorem length_unsoldColumns_le (q : Query) (corpus : Corpus) :
    (unsoldColumns q).length ≤ refusalSize q corpus + 1 := by
  rcases Nat.eq_zero_or_pos (unsoldColumns q).length with hnone | hpos
  · omega
  · have hcolumns : q.columns ≠ [] := by
      intro hnil
      simp [unsoldColumns, hnil] at hpos
    have hfirst : (problemsOf q corpus)[0]? = some ⟨.UNKNOWN_COLUMN,
        s!"Not sold: {commaList (unsoldColumns q)}. Available: " ++
          s!"{commaList (measureKeys.map MeasureKey.name)}."⟩ := by
      have hlength : ¬ q.columns.length = 0 := fun h => hcolumns (List.length_eq_zero_iff.1 h)
      unfold problemsOf columnProblems
      simp only [if_neg hlength, List.nil_append]
      have hunsold : 0 < (q.columns.filter fun c => !isSoldMeasure c).length := hpos
      rw [if_pos hunsold]
      rfl
    have hsize := size_le_refusalSize (mem_validateQuery hfirst (by decide))
    have hnames := length_le_textLength_commaList (unsoldColumns q)
    simp only [Rejection.size, textLength_append, textLength_toString] at hsize
    omega

/-- The counties are listed where the states before leave room for them. -/
theorem length_unknownCounties_le (hlisted : AreCountiesListed q corpus) :
    (unknownCounties q corpus).length ≤ refusalSize q corpus + 1 := by
  rcases Nat.eq_zero_or_pos (unknownCounties q corpus).length with hnone | hpos
  · omega
  · obtain ⟨hstates, hroom⟩ := hlisted
    obtain ⟨r, hproblem, hlong⟩ : ∃ r, countyProblems (q.states.getD []) q.counties corpus = [r] ∧
        textLength (commaList (unknownCounties q corpus)) ≤ r.size := by
      unfold unknownCounties at hpos ⊢
      rcases hcounties : q.counties with _ | _ | ⟨c, cs⟩
      · simp [hcounties] at hpos
      · simp [hcounties] at hpos
      · rw [hcounties, Option.getD_some] at hpos
        refine ⟨_, by rw [countyProblems_cons, if_neg fun h => hstates (List.length_eq_zero_iff.1 h),
          if_pos hpos], ?_⟩
        simp only [Rejection.size, textLength_append, Option.getD_some]
        omega
    have hr : (problemsOf q corpus)[(columnProblems q.columns).length +
        (stateProblems (q.states.getD []) corpus).length]? = some r := by
      unfold problemsOf
      rw [hproblem]
      simp
    have hindex : (columnProblems q.columns).length +
        (stateProblems (q.states.getD []) corpus).length < maxProblems := by
      rw [length_columnProblems, stateProblems, List.length_map]
      exact hroom
    have hsize := size_le_refusalSize (mem_validateQuery hr hindex)
    have hnames := length_le_textLength_commaList (unknownCounties q corpus)
    omega

/-- The defects that are not listed are counted in the last line. -/
theorem length_unlistedStates_le (q : Query) (corpus : Corpus) :
    (unlistedStates q corpus).length ≤ 10 ^ refusalSize q corpus + maxProblems := by
  have hstates : (unlistedStates q corpus).length ≤ (problemsOf q corpus).length := by
    unfold problemsOf
    simp only [List.length_append]
    have hlength : (stateProblems (q.states.getD []) corpus).length =
        (unlistedStates q corpus).length := List.length_map _
    omega
  by_cases hmany : maxProblems < (problemsOf q corpus).length
  · have hmem : further ((problemsOf q corpus).length - maxProblems) ∈ validateQuery q corpus := by
      rw [validateQuery_eq, if_pos hmany]
      exact List.mem_append_right _ (List.mem_singleton_self _)
    have hsize := size_le_refusalSize hmem
    have hlong : textLength (toString ((problemsOf q corpus).length - maxProblems)) ≤
        refusalSize q corpus := by
      obtain ⟨K, hK⟩ := size_further
      rw [hK] at hsize
      omega
    have hlt := lt_pow_of_textLength hlong
    omega
  · exact hstates.trans ((not_lt.1 hmany).trans (Nat.le_add_left _ _))

/-- What is not a state is at most a dozen problems. -/
theorem length_problemsOf_le (q : Query) (corpus : Corpus) :
    (problemsOf q corpus).length ≤ (unlistedStates q corpus).length + 13 := by
  have hthresholds : ((entriesOf q.thresholds).take measureKeys.length).countP
      (isFaulty q.columns) ≤ 8 :=
    List.countP_le_length.trans (List.length_take_le _ _)
  have hstates : (q.states.getD []).countP (· ∉ corpus.states) =
      (unlistedStates q corpus).length := List.countP_eq_length_filter
  rw [length_problemsOf, defectCount, hstates]
  split_ifs <;> omega

/-- What is listed comes from one of the checks, from the counties only where those before
leave room. -/
theorem mem_take_problemsOf {r : Rejection} (hr : r ∈ (problemsOf q corpus).take maxProblems) :
    r ∈ columnProblems q.columns ∨ r ∈ stateProblems (q.states.getD []) corpus ∨
      (r ∈ countyProblems (q.states.getD []) q.counties corpus ∧
        (columnProblems q.columns).length + (stateProblems (q.states.getD []) corpus).length <
          maxProblems) ∨
      r ∈ populationProblems q.minPopulation ∨ r ∈ thresholdProblems q.columns q.thresholds := by
  unfold problemsOf at hr
  rw [List.take_append, List.take_append, List.take_append, List.take_append] at hr
  simp only [List.mem_append, List.length_append] at hr
  rcases hr with (((h | h) | h) | h) | h
  · exact Or.inl (List.mem_of_mem_take h)
  · exact Or.inr (Or.inl (List.mem_of_mem_take h))
  · refine Or.inr (Or.inr (Or.inl ⟨List.mem_of_mem_take h, ?_⟩))
    by_contra hroom
    rw [Nat.sub_eq_zero_of_le (not_lt.1 hroom)] at h
    cases h
  · exact Or.inr (Or.inr (Or.inr (Or.inl (List.mem_of_mem_take h))))
  · exact Or.inr (Or.inr (Or.inr (Or.inr (List.mem_of_mem_take h))))

theorem mem_validateQuery_cases {r : Rejection} (hr : r ∈ validateQuery q corpus) :
    r ∈ (problemsOf q corpus).take maxProblems ∨
      r = further ((problemsOf q corpus).length - maxProblems) := by
  rw [validateQuery_eq] at hr
  split_ifs at hr with hmany
  · rcases List.mem_append.1 hr with hr | hr
    · exact Or.inl hr
    · exact Or.inr (List.mem_singleton.1 hr)
  · rw [← List.take_of_length_le (not_lt.1 hmany)] at hr
    exact Or.inl hr

/-- For short names the answer is as long as its lists of names and its last line. -/
theorem exists_refusalSize_le (corpus : Corpus) (L : ℕ) : ∃ K, ∀ q N, NamesWithin L q →
    (unsoldColumns q).length ≤ N → (unlistedStates q corpus).length ≤ N →
    (AreCountiesListed q corpus → (unknownCounties q corpus).length ≤ N) →
    refusalSize q corpus ≤ (maxProblems + 1) * (K + N * (2 + L) + N) := by
  obtain ⟨K₁, hcolumns⟩ := size_le_of_columns (L := L)
  obtain ⟨K₂, hstates⟩ := size_le_of_states (L := L) corpus
  obtain ⟨K₃, hcounties⟩ := size_le_of_counties (L := L) corpus
  obtain ⟨K₄, hpopulation⟩ := size_le_of_population
  obtain ⟨K₅, hthresholds⟩ := size_le_of_thresholds (L := L)
  obtain ⟨K₆, hfurther⟩ := size_further
  refine ⟨K₁ + (K₂ + L) + K₃ + K₄ + (K₅ + L) + (K₆ + 14), ?_⟩
  intro q N hq hunsold hunlisted hunknown
  have hnames {n : ℕ} (hn : n ≤ N) : n * (2 + L) ≤ N * (2 + L) := Nat.mul_le_mul_right _ hn
  have heach : ∀ n ∈ (validateQuery q corpus).map Rejection.size,
      n ≤ K₁ + (K₂ + L) + K₃ + K₄ + (K₅ + L) + (K₆ + 14) + N * (2 + L) + N := by
    intro n hn
    obtain ⟨r, hr, rfl⟩ := List.mem_map.1 hn
    rcases mem_validateQuery_cases hr with hr | rfl
    · rcases mem_take_problemsOf hr with h | h | ⟨h, hroom⟩ | h | h
      · have hsize := hcolumns q hq r h
        have hmany := hnames hunsold
        omega
      · have hsize := hstates q hq r h
        omega
      · rcases hcounties q hq r h with hsize | ⟨hgiven, hsize⟩
        · omega
        · rw [length_columnProblems, stateProblems, List.length_map] at hroom
          have hmany := hnames (hunknown ⟨hgiven, hroom⟩)
          omega
      · have hsize := hpopulation _ r h
        omega
      · have hsize := hthresholds q hq r h
        omega
    · have hsize := hfurther ((problemsOf q corpus).length - maxProblems)
      have hdigits := textLength_toString_le ((problemsOf q corpus).length - maxProblems)
      have hcount := length_problemsOf_le q corpus
      omega
  have hsum := List.sum_le_card_nsmul _ _ heach
  rw [List.length_map] at hsum
  exact hsum.trans (Nat.mul_le_mul_right _ length_validateQuery_le)

end Sizes

/-! ## Many names -/

/-- A query for `n` columns that are not sold. -/
def unsoldQuery (n : ℕ) : Query where
  columns := List.replicate n "x"
  states := none
  counties := none
  minPopulation := none
  thresholds := none

theorem namesWithin_unsoldQuery (n : ℕ) : NamesWithin 1 (unsoldQuery n) where
  columns c hc := by
    rw [List.eq_of_mem_replicate hc]
    decide
  states st hst := by cases hst
  counties c hc := by cases hc
  thresholds m hm := by cases hm

theorem length_unsoldColumns_unsoldQuery (n : ℕ) :
    (unsoldColumns (unsoldQuery n)).length = n := by
  have hunsold : (!isSoldMeasure "x") = true := by decide
  unfold unsoldColumns unsoldQuery
  rw [List.filter_replicate, if_pos hunsold, List.length_replicate]

end Engine

end DataSeller

end Coordination
