import Coordination.DataSeller.Engine.Query

/-!
# The refusals of a query

`validateQuery` collects the defects of a query under one cap. What each code says is stated
here as a property of the query; a list that fits under the cap is truthful, and the line
that stands for the rest of a longer one borrows a code of its own. The details of two codes
echo names of the request, as many as it has.
-/

namespace Coordination

namespace DataSeller

namespace Engine

open JavaScript Library

/-! ## Defects -/

/-- Numeric bounds, at least one of them. -/
def areBounds (min max : Option Value) : Bool :=
  (min.isNone || isNumber min) && (max.isNone || isNumber max) && (min.isSome || max.isSome)

/-- Bounds that no number is between. -/
def areCrossed (min max : Option Value) : Bool :=
  match min, max with
  | some (.num lo), some (.num hi) => hi < lo
  | _, _ => false

/-- `typeof v === "object" && v !== null`. -/
def isObject : Value → Bool
  | .obj _ | .arr _ => true
  | _ => false

/-- A threshold as the card has it: an object with numeric bounds. -/
def isRange (t : Value) : Bool :=
  isObject t && areBounds (boundOf t "min") (boundOf t "max")

/-- A threshold that nothing passes. -/
def isEmptyRange (t : Value) : Bool :=
  areCrossed (boundOf t "min") (boundOf t "max")

/-- A county that is in none of the states. -/
def isUnknownCounty (states : List String) (corpus : Corpus) (county : String) : Bool :=
  county ∉ states.flatMap fun st => (corpus.counties.lookup st).getD []

/-- A minimal population: a whole number that is not negative. -/
def isPopulation : Value → Bool
  | .num x => x.isInteger && !(x < 0)
  | _ => false

/-- What a code says of a query. -/
def HasDefect (q : Query) (corpus : Corpus) : RejectionCode → Prop
  | .NO_COLUMNS_REQUESTED => q.columns = []
  | .UNKNOWN_COLUMN => ∃ c ∈ q.columns, isSoldMeasure c = false
  | .STATE_NOT_AVAILABLE => ∃ st ∈ q.states.getD [], st ∉ corpus.states
  | .COUNTY_FILTER_UNSUPPORTED => q.counties.getD [] ≠ [] ∧ (q.states.getD [] = [] ∨
      ∃ c ∈ q.counties.getD [], isUnknownCounty (q.states.getD []) corpus c = true)
  | .POPULATION_FILTER_UNSUPPORTED => ∃ v ∈ q.minPopulation, isPopulation v = false
  | .THRESHOLD_FILTER_UNSUPPORTED => measureKeys.length < (entriesOf q.thresholds).length ∨
      ∃ m ∈ entriesOf q.thresholds, isRange m.2 = false
  | .THRESHOLD_ON_UNREQUESTED_COLUMN => ∃ m ∈ entriesOf q.thresholds, m.1 ∉ q.columns
  | .THRESHOLD_RANGE_EMPTY => ∃ m ∈ entriesOf q.thresholds, isEmptyRange m.2 = true

/-- Every code of the answer is a defect of the query, and no answer is empty while the query
has one. -/
structure Truthful (q : Query) (corpus : Corpus) : Prop where
  code : ∀ r ∈ validateQuery q corpus, HasDefect q corpus r.code
  empty : validateQuery q corpus = [] → ∀ code, ¬ HasDefect q corpus code

/-! ## One check after the other -/

section Checks

variable {q : Query} {corpus : Corpus} {r : Rejection}

theorem mem_columnProblems (hr : r ∈ columnProblems q.columns) : HasDefect q corpus r.code := by
  unfold columnProblems at hr
  simp only [List.mem_append] at hr
  rcases hr with hr | hr
  · split_ifs at hr with hnone
    · cases List.mem_singleton.1 hr
      exact List.length_eq_zero_iff.1 hnone
    · cases hr
  · split_ifs at hr with hunknown
    · cases List.mem_singleton.1 hr
      obtain ⟨c, hc⟩ := List.exists_mem_of_length_pos hunknown
      obtain ⟨hmem, hsold⟩ := List.mem_filter.1 hc
      exact ⟨c, hmem, by simpa using hsold⟩
    · cases hr

theorem mem_stateProblems (hr : r ∈ stateProblems (q.states.getD []) corpus) :
    HasDefect q corpus r.code := by
  obtain ⟨st, hst, rfl⟩ := List.mem_map.1 hr
  obtain ⟨hmem, habsent⟩ := List.mem_filter.1 hst
  exact ⟨st, hmem, by simpa using habsent⟩

/-- What is checked of a county filter that is there. -/
theorem countyProblems_cons {states : List String} {c : String} {cs : List String} :
    countyProblems states (some (c :: cs)) corpus =
      if states.length = 0 then
        [⟨.COUNTY_FILTER_UNSUPPORTED, "A county filter requires at least one state: county names " ++
          "are not unique nationally."⟩]
      else if 0 < ((c :: cs).filter (isUnknownCounty states corpus)).length then
        [⟨.COUNTY_FILTER_UNSUPPORTED, "No such county in the selected states: " ++
          commaList ((c :: cs).filter (isUnknownCounty states corpus)) ++ "."⟩]
      else [] := rfl

theorem mem_countyProblems (hr : r ∈ countyProblems (q.states.getD []) q.counties corpus) :
    HasDefect q corpus r.code := by
  rcases hcounties : q.counties with _ | cs
  · rw [hcounties] at hr
    cases hr
  · cases cs with
    | nil =>
        rw [hcounties] at hr
        cases hr
    | cons c cs =>
        rw [hcounties, countyProblems_cons] at hr
        have hgiven : q.counties.getD [] = c :: cs := by rw [hcounties]; rfl
        have hne : q.counties.getD [] ≠ [] := by rw [hgiven]; exact List.cons_ne_nil _ _
        split_ifs at hr with hstates hmissing
        · cases List.mem_singleton.1 hr
          exact ⟨hne, Or.inl (List.length_eq_zero_iff.1 hstates)⟩
        · cases List.mem_singleton.1 hr
          obtain ⟨d, hd⟩ := List.exists_mem_of_length_pos hmissing
          obtain ⟨hmem, hunknown⟩ := List.mem_filter.1 hd
          exact ⟨hne, Or.inr ⟨d, by rw [hgiven]; exact hmem, hunknown⟩⟩
        · cases hr

theorem populationProblems_eq {v : Option Value} :
    populationProblems v = if v.all isPopulation then [] else populationProblems.refusal := by
  cases v with
  | none => rfl
  | some v => cases v <;> rfl

theorem isPopulation_of_validated {v : Option Value} (h : populationProblems v = []) :
    v.all isPopulation = true := by
  rw [populationProblems_eq] at h
  split_ifs at h with hv
  · exact hv
  · cases h

theorem mem_populationProblems (hr : r ∈ populationProblems q.minPopulation) :
    HasDefect q corpus r.code := by
  rw [populationProblems_eq] at hr
  split_ifs at hr with hpopulation
  · cases hr
  · cases List.mem_singleton.1 hr
    cases hv : q.minPopulation with
    | none => simp [hv] at hpopulation
    | some v => exact ⟨v, hv, by simpa [hv] using hpopulation⟩

/-- The checks of a threshold that is an object, as one case distinction. -/
def boundProblem (bought : Bool) (min max : Option Value)
    (notNumeric noBound notBought crossed : Rejection) : Option Rejection :=
  if (min.isSome && !isNumber min) || (max.isSome && !isNumber max) then some notNumeric
  else if min.isNone && max.isNone then some noBound
  else if bought = false then some notBought
  else if areCrossed min max then some crossed else none

theorem thresholdProblem_eq {columns : List String} {key : String} {t : Value}
    (ht : isObject t = true) :
    thresholdProblem columns key t = boundProblem (key ∈ columns) (boundOf t "min")
      (boundOf t "max")
      ⟨.THRESHOLD_FILTER_UNSUPPORTED, s!"Threshold on {key} must use numeric min/max."⟩
      ⟨.THRESHOLD_FILTER_UNSUPPORTED, s!"Threshold on {key} sets neither min nor max."⟩
      ⟨.THRESHOLD_ON_UNREQUESTED_COLUMN,
        s!"{key} is not being purchased, so it cannot be filtered on."⟩
      ⟨.THRESHOLD_RANGE_EMPTY, s!"Threshold on {key} has min > max."⟩ := by
  have hcrossed (min max : Option Value) (crossed : Rejection) :
      (match min, max with
        | some (.num lo), some (.num hi) => if hi < lo then some crossed else none
        | _, _ => none) = if areCrossed min max then some crossed else none := by
    unfold areCrossed
    split <;> simp
  unfold boundProblem
  simp only [decide_eq_false_iff_not]
  rw [← hcrossed]
  cases t with
  | obj ms => rfl
  | arr xs => rfl
  | null | bool | num | str => cases ht

theorem boundProblem_eq_some {bought : Bool} {min max : Option Value}
    {notNumeric noBound notBought crossed : Rejection}
    (h : boundProblem bought min max notNumeric noBound notBought crossed = some r) :
    (r = notNumeric ∨ r = noBound) ∧ areBounds min max = false ∨
      r = notBought ∧ bought = false ∨ r = crossed ∧ areCrossed min max = true := by
  unfold boundProblem at h
  split_ifs at h with hnumeric hnone hbought hcrossed
  · refine Or.inl ⟨Or.inl (Option.some.inj h).symm, Bool.eq_false_iff.2 fun hbounds => ?_⟩
    cases min <;> cases max <;> simp_all [areBounds]
  · refine Or.inl ⟨Or.inr (Option.some.inj h).symm, Bool.eq_false_iff.2 fun hbounds => ?_⟩
    cases min <;> cases max <;> simp_all [areBounds]
  · exact Or.inr (Or.inl ⟨(Option.some.inj h).symm, hbought⟩)
  · exact Or.inr (Or.inr ⟨(Option.some.inj h).symm, hcrossed⟩)

theorem isSome_boundProblem {bought : Bool} {min max : Option Value}
    {notNumeric noBound notBought crossed : Rejection} :
    (boundProblem bought min max notNumeric noBound notBought crossed).isSome =
      (!areBounds min max || !bought || areCrossed min max) := by
  unfold boundProblem
  split_ifs with hnumeric hnone hbought hcrossed <;>
    cases min <;> cases max <;> simp_all [areBounds]

/-- The problem of a threshold is one it has. -/
theorem thresholdProblem_eq_some {columns : List String} {key : String} {t : Value}
    (h : thresholdProblem columns key t = some r) :
    r.code = .THRESHOLD_FILTER_UNSUPPORTED ∧ isRange t = false ∨
      r.code = .THRESHOLD_ON_UNREQUESTED_COLUMN ∧ key ∉ columns ∨
      r.code = .THRESHOLD_RANGE_EMPTY ∧ isEmptyRange t = true := by
  by_cases ht : isObject t = true
  · rw [thresholdProblem_eq ht] at h
    unfold isRange
    rw [ht, Bool.true_and]
    rcases boundProblem_eq_some h with ⟨rfl | rfl, hbounds⟩ | ⟨rfl, hbought⟩ | ⟨rfl, hcrossed⟩
    · exact Or.inl ⟨rfl, hbounds⟩
    · exact Or.inl ⟨rfl, hbounds⟩
    · exact Or.inr (Or.inl ⟨rfl, of_decide_eq_false hbought⟩)
    · exact Or.inr (Or.inr ⟨rfl, hcrossed⟩)
  · cases t with
    | obj | arr => exact absurd rfl ht
    | null | bool | num | str =>
        cases h
        exact Or.inl ⟨rfl, rfl⟩

/-- Whether a threshold has a problem. -/
def isFaulty (columns : List String) (m : String × Value) : Bool :=
  !isRange m.2 || m.1 ∉ columns || isEmptyRange m.2

theorem isSome_thresholdProblem {columns : List String} {key : String} {t : Value} :
    (thresholdProblem columns key t).isSome = isFaulty columns (key, t) := by
  unfold isFaulty
  by_cases ht : isObject t = true
  · rw [thresholdProblem_eq ht, isSome_boundProblem, isRange, ht, Bool.true_and, decide_not]
    rfl
  · cases t with
    | obj | arr => exact absurd rfl ht
    | null | bool | num | str => rfl

theorem mem_thresholdProblems (hr : r ∈ thresholdProblems q.columns q.thresholds) :
    HasDefect q corpus r.code := by
  unfold thresholdProblems at hr
  simp only [List.mem_append] at hr
  rcases hr with hr | hr
  · split_ifs at hr with hmany
    · cases List.mem_singleton.1 hr
      exact Or.inl hmany
    · cases hr
  · obtain ⟨⟨key, t⟩, hm, hproblem⟩ := List.mem_filterMap.1 hr
    have hmem := List.mem_of_mem_take hm
    rcases thresholdProblem_eq_some hproblem with ⟨hcode, ht⟩ | ⟨hcode, ht⟩ | ⟨hcode, ht⟩
    · rw [hcode]
      exact Or.inr ⟨_, hmem, ht⟩
    · rw [hcode]
      exact ⟨_, hmem, ht⟩
    · rw [hcode]
      exact ⟨_, hmem, ht⟩

/-! ## All of them -/

/-- Every problem of the query, before the cap. -/
def problemsOf (q : Query) (corpus : Corpus) : List Rejection :=
  columnProblems q.columns ++ stateProblems (q.states.getD []) corpus ++
    countyProblems (q.states.getD []) q.counties corpus ++ populationProblems q.minPopulation ++
    thresholdProblems q.columns q.thresholds

/-- The line for what is not listed. -/
def further (n : ℕ) : Rejection :=
  ⟨.NO_COLUMNS_REQUESTED, s!"…and {n} further problems, not " ++ "listed. Fix these first."⟩

theorem validateQuery_eq : validateQuery q corpus =
    if maxProblems < (problemsOf q corpus).length then
      (problemsOf q corpus).take maxProblems ++ [further ((problemsOf q corpus).length - maxProblems)]
    else problemsOf q corpus := by
  unfold validateQuery problemsOf further
  rfl

theorem hasDefect_of_mem (hr : r ∈ problemsOf q corpus) : HasDefect q corpus r.code := by
  unfold problemsOf at hr
  simp only [List.mem_append] at hr
  rcases hr with (((hr | hr) | hr) | hr) | hr
  · exact mem_columnProblems hr
  · exact mem_stateProblems hr
  · exact mem_countyProblems hr
  · exact mem_populationProblems hr
  · exact mem_thresholdProblems hr

/-- Whether the county filter has a problem. -/
def isCountyFaulty (q : Query) (corpus : Corpus) : Bool :=
  q.counties.getD [] ≠ [] && (q.states.getD [] = [] ||
    (q.counties.getD []).any (isUnknownCounty (q.states.getD []) corpus))

/-- How many defects of the query are reported on their own. -/
def defectCount (q : Query) (corpus : Corpus) : ℕ :=
  (if q.columns = [] then 1 else 0) + (if q.columns.all isSoldMeasure then 0 else 1) +
    (q.states.getD []).countP (· ∉ corpus.states) + (if isCountyFaulty q corpus then 1 else 0) +
    (if q.minPopulation.all isPopulation then 0 else 1) +
    ((if measureKeys.length < (entriesOf q.thresholds).length then 1 else 0) +
      ((entriesOf q.thresholds).take measureKeys.length).countP (isFaulty q.columns))

theorem length_columnProblems : (columnProblems q.columns).length =
    (if q.columns = [] then 1 else 0) + (if q.columns.all isSoldMeasure then 0 else 1) := by
  have hunknown : 0 < (q.columns.filter fun c => !isSoldMeasure c).length ↔
      ¬ q.columns.all isSoldMeasure = true := by
    simp [List.length_pos_iff_exists_mem]
  unfold columnProblems
  rw [List.length_append]
  congr 1
  · simp only [List.length_eq_zero_iff]
    split_ifs <;> rfl
  · simp only [hunknown]
    split_ifs <;> rfl

theorem length_countyProblems : (countyProblems (q.states.getD []) q.counties corpus).length =
    if isCountyFaulty q corpus then 1 else 0 := by
  unfold isCountyFaulty
  rcases q.counties with _ | _ | ⟨c, cs⟩
  · rfl
  · rfl
  · have hmissing : 0 < ((c :: cs).filter (isUnknownCounty (q.states.getD []) corpus)).length ↔
        (c :: cs).any (isUnknownCounty (q.states.getD []) corpus) = true := by
      simp [List.length_pos_iff_exists_mem]
    rw [countyProblems_cons]
    simp only [List.length_eq_zero_iff, hmissing, Option.getD_some, ne_eq, reduceCtorEq,
      not_false_eq_true, decide_true, Bool.true_and, Bool.or_eq_true, decide_eq_true_eq]
    by_cases hstates : q.states.getD [] = []
    · rw [if_pos hstates, if_pos (Or.inl hstates)]
      rfl
    · by_cases hany : (c :: cs).any (isUnknownCounty (q.states.getD []) corpus) = true
      · rw [if_neg hstates, if_pos hany, if_pos (Or.inr hany)]
        rfl
      · rw [if_neg hstates, if_neg hany, if_neg (not_or.2 ⟨hstates, hany⟩)]
        rfl

theorem length_problemsOf : (problemsOf q corpus).length = defectCount q corpus := by
  have hstates : (stateProblems (q.states.getD []) corpus).length =
      (q.states.getD []).countP (· ∉ corpus.states) := by
    rw [stateProblems, List.length_map, List.countP_eq_length_filter]
  have hpopulation : (populationProblems q.minPopulation).length =
      if q.minPopulation.all isPopulation then 0 else 1 := by
    rw [populationProblems_eq]
    split_ifs <;> rfl
  have hthresholds : (thresholdProblems q.columns q.thresholds).length =
      (if measureKeys.length < (entriesOf q.thresholds).length then 1 else 0) +
        ((entriesOf q.thresholds).take measureKeys.length).countP (isFaulty q.columns) := by
    unfold thresholdProblems
    simp only
    rw [List.length_append, List.length_filterMap_eq_countP]
    congr 1
    · split_ifs <;> rfl
    · exact List.countP_congr fun m _ => by rw [isSome_thresholdProblem]
  unfold problemsOf defectCount
  simp only [List.length_append]
  rw [length_columnProblems, hstates, length_countyProblems, hpopulation, hthresholds]

/-- A query without problems has none of the defects. -/
theorem not_hasDefect_of_nil (h : problemsOf q corpus = []) (code : RejectionCode) :
    ¬ HasDefect q corpus code := by
  have hcount : defectCount q corpus = 0 := by rw [← length_problemsOf, h]; rfl
  unfold defectCount at hcount
  obtain ⟨hhead, hthresholds⟩ := Nat.add_eq_zero_iff.1 hcount
  obtain ⟨hmany, hfaulty⟩ := Nat.add_eq_zero_iff.1 hthresholds
  have hsmall : ¬ measureKeys.length < (entriesOf q.thresholds).length := by
    intro hlength
    rw [if_pos hlength] at hmany
    cases hmany
  rw [List.take_of_length_le (not_lt.1 hsmall), List.countP_eq_zero] at hfaulty
  have hfine : ∀ m ∈ entriesOf q.thresholds,
      isRange m.2 = true ∧ m.1 ∈ q.columns ∧ isEmptyRange m.2 = false := by
    intro m hm
    have h := hfaulty m hm
    simp only [isFaulty, Bool.or_eq_true, not_or, Bool.not_eq_true', Bool.not_eq_false,
      decide_eq_true_eq, not_not, Bool.not_eq_true] at h
    exact ⟨h.1.1, h.1.2, h.2⟩
  simp only [Nat.add_eq_zero_iff] at hhead
  obtain ⟨⟨⟨⟨hcolumns, hsold⟩, hstates⟩, hcounties⟩, hpopulation⟩ := hhead
  cases code with
  | NO_COLUMNS_REQUESTED =>
      intro hnone
      have hnone : q.columns = [] := hnone
      rw [if_pos hnone] at hcolumns
      cases hcolumns
  | UNKNOWN_COLUMN =>
      rintro ⟨c, hc, hunsold⟩
      have hall : ¬ q.columns.all isSoldMeasure = true := fun h => by
        rw [List.all_eq_true.1 h c hc] at hunsold
        cases hunsold
      rw [if_neg hall] at hsold
      cases hsold
  | STATE_NOT_AVAILABLE =>
      rintro ⟨st, hst, habsent⟩
      exact List.countP_eq_zero.1 hstates st hst (decide_eq_true habsent)
  | COUNTY_FILTER_UNSUPPORTED =>
      rintro ⟨hgiven, hfault⟩
      have hfaulty : isCountyFaulty q corpus = true := by
        rcases hfault with hnone | ⟨c, hc, hunknown⟩
        · simp [isCountyFaulty, hgiven, hnone]
        · simp only [isCountyFaulty, ne_eq, hgiven, not_false_eq_true, decide_true, Bool.true_and,
            Bool.or_eq_true]
          exact Or.inr (List.any_eq_true.2 ⟨c, hc, hunknown⟩)
      rw [if_pos hfaulty] at hcounties
      cases hcounties
  | POPULATION_FILTER_UNSUPPORTED =>
      rintro ⟨v, hv, hnot⟩
      rw [Option.mem_def.1 hv, Option.all_some, hnot] at hpopulation
      cases hpopulation
  | THRESHOLD_FILTER_UNSUPPORTED =>
      rintro (hlength | ⟨m, hm, hrange⟩)
      · exact hsmall hlength
      · rw [(hfine m hm).1] at hrange
        cases hrange
  | THRESHOLD_ON_UNREQUESTED_COLUMN =>
      rintro ⟨m, hm, hbought⟩
      exact hbought (hfine m hm).2.1
  | THRESHOLD_RANGE_EMPTY =>
      rintro ⟨m, hm, hempty⟩
      rw [(hfine m hm).2.2] at hempty
      cases hempty

/-- The line for what is not listed says that no columns are requested. -/
theorem not_truthful (hmany : maxProblems < (problemsOf q corpus).length)
    (hcolumns : q.columns ≠ []) : ¬ Truthful q corpus := by
  intro htruthful
  have hmem : further ((problemsOf q corpus).length - maxProblems) ∈ validateQuery q corpus := by
    rw [validateQuery_eq, if_pos hmany]
    exact List.mem_append_right _ (List.mem_singleton_self _)
  exact hcolumns (htruthful.code _ hmem)

/-- The answer is truthful when it lists every defect, or when no columns are requested, so
that the line for the rest says so; and only then. -/
theorem truthful_iff : Truthful q corpus ↔ defectCount q corpus ≤ maxProblems ∨ q.columns = [] := by
  rw [← length_problemsOf]
  constructor
  · intro htruthful
    by_contra hnot
    obtain ⟨hmany, hcolumns⟩ := not_or.1 hnot
    exact not_truthful (not_le.1 hmany) hcolumns htruthful
  · intro hfew
    refine ⟨fun r hr => ?_, fun hempty => ?_⟩
    · rw [validateQuery_eq] at hr
      split_ifs at hr with hmany
      · rcases List.mem_append.1 hr with hr | hr
        · exact hasDefect_of_mem (List.mem_of_mem_take hr)
        · cases List.mem_singleton.1 hr
          exact hfew.resolve_left (not_le.2 hmany)
      · exact hasDefect_of_mem hr
    · rw [validateQuery_eq] at hempty
      split_ifs at hempty with hmany
      · simp at hempty
      · exact not_hasDefect_of_nil hempty

end Checks

/-- A corpus of one state without counties. -/
def californiaCorpus : Corpus where
  tracts := []
  states := ["CA"]
  unavailableStates _ := []
  availabilityIsExhaustiveAtStateLevel := true
  counties := []
  totals := ⟨0, 1, 0, 0, 0⟩
  sourcePath := ""

/-- A query for one measure in 25 places that are no states. -/
def manyStates : Query where
  columns := ["DIABETES"]
  states := some ((List.range 25).map toString)
  counties := none
  minPopulation := none
  thresholds := none

/-- A query that requests a column is refused for requesting none. -/
theorem validateQuery_untruthful :
    ¬ ∀ (q : Query) (corpus : Corpus), Truthful q corpus := by
  intro h
  have hmany : maxProblems < (problemsOf manyStates californiaCorpus).length := by
    rw [length_problemsOf]
    decide +kernel
  exact not_truthful hmany (by decide) (h _ _)

end Engine

end DataSeller

end Coordination
