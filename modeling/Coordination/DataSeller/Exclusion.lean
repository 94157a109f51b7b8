import Coordination.DataSeller.Engine.Availability
import Coordination.DataSeller.Engine.Refusals
import Coordination.DataSeller.Filters
import Coordination.JavaScript.Integer

/-!
# What the evaluator excludes

A query buys measures, and the evaluator drops every tract without a value of one of them. In
an accepted file whose suppression is by whole states this is the same as dropping the states
listed as unavailable. The slice is then what the filters of the query and those lists say.
-/

namespace Coordination

namespace DataSeller

namespace Engine

open JavaScript Library

/-- The tract meets the filters of the query. -/
structure MeetsFilters (q : Query) (t : Tract) : Prop where
  states : q.states.getD [] = [] ∨ t.stateAbbr ∈ q.states.getD []
  counties : q.counties.getD [] = [] ∨ t.countyName ∈ q.counties.getD []
  population : ∀ v ∈ q.minPopulation, ∃ least n, v = .num least ∧ t.totalPopulation = some n ∧
    ¬ n < least
  thresholds : ∀ m ∈ entriesOf q.thresholds, MeetsThreshold t m.1 m.2

/-- The state is listed as unavailable for a measure that is purchased. -/
def IsUnavailable (q : Query) (corpus : Corpus) (st : String) : Prop :=
  ∃ m : MeasureKey, m.name ∈ q.columns ∧ st ∈ corpus.unavailableStates m

instance (q : Query) (corpus : Corpus) : DecidablePred (IsUnavailable q corpus) := fun st =>
  decidable_of_iff (∃ m ∈ measureKeys, m.name ∈ q.columns ∧ st ∈ corpus.unavailableStates m)
    ⟨fun ⟨m, _, h⟩ => ⟨m, h⟩, fun ⟨m, h⟩ => ⟨m, mem_measureKeys m, h⟩⟩

/-! ## Filters -/

/-- A least population that is validated is met by published populations only. -/
theorem population_iff {v : Option Value} (hv : populationProblems v = []) (n : Option Number) :
    v.any (lessThan (n.getD (-1))) = false ↔
      ∀ w ∈ v, ∃ least p, w = .num least ∧ n = some p ∧ ¬ p < least := by
  cases v with
  | none => simp
  | some w =>
      cases w with
      | num least =>
          have hleast : least.isInteger = true ∧ ¬ least < 0 := by
            simpa [isPopulation] using isPopulation_of_validated hv
          have hany (x : Number) : (some (Json.num least : Value)).any (lessThan x) = x.lt least := rfl
          rw [hany]
          cases n with
          | none =>
              -- a suppressed population counts as minus one
              have hbelow := Number.neg_one_lt hleast.1 hleast.2
              constructor
              · intro h
                rw [Option.getD_none, hbelow] at h
                cases h
              · intro h
                obtain ⟨_, _, _, hnone, _⟩ := h _ rfl
                cases hnone
          | some p =>
              constructor
              · rintro h _ ⟨⟩
                exact ⟨least, p, rfl, rfl, fun hlt => by
                  rw [Option.getD_some] at h
                  exact Bool.false_ne_true (h.symm.trans hlt)⟩
              · intro h
                obtain ⟨least', p', hleast', hp, hge⟩ := h _ rfl
                cases hleast'
                cases hp
                exact Bool.eq_false_iff.2 hge
      | null | bool | str | arr | obj => cases hv

/-- A tract that meets a threshold passes it. -/
theorem within_of_meetsThreshold {t : Tract} {key : String} {th : Value}
    (h : MeetsThreshold t key th) : withinThreshold (t.value key) th = true := by
  obtain ⟨x, hx, hmin, hmax⟩ := h.published
  have hlo : (boundOf th "min").any (lessThan x) = false := by
    cases hbound : boundOf th "min" with
    | none => rfl
    | some v =>
        obtain ⟨lo, rfl, hlo⟩ := hmin v hbound
        exact Bool.eq_false_iff.2 hlo
  have hhi : (boundOf th "max").any (greaterThan x) = false := by
    cases hbound : boundOf th "max" with
    | none => rfl
    | some v =>
        obtain ⟨hi, rfl, hhi⟩ := hmax v hbound
        exact Bool.eq_false_iff.2 hhi
  rw [hx, withinThreshold, hlo, hhi]
  rfl

section Evaluate

variable {q : Query} {corpus : Corpus}

/-- A validated query is met by the tracts that survive it, but for their missing values. -/
theorem survives_iff_meetsFilters (hq : validateQuery q corpus = []) {t : Tract} :
    survives q t = true ↔
      MeetsFilters q t ∧ ∀ m : MeasureKey, m.name ∈ q.columns → t.values m ≠ none := by
  obtain ⟨_, _, _, hpopulation, hthresholds⟩ := validateQuery_eq_nil.1 hq
  have hcolumns : (∀ c ∈ q.columns, t.value c ≠ some none) ↔
      ∀ m : MeasureKey, m.name ∈ q.columns → t.values m ≠ none := by
    constructor
    · intro h m hm hnone
      refine h _ hm ?_
      rw [Tract.value, measureOf_name, Option.map_some, hnone]
    · intro h c hc hnone
      obtain ⟨m, hm⟩ := Option.isSome_iff_exists.1 (isSold_of_validateQuery hq c hc)
      obtain rfl := measureOf_eq_some.1 hm
      rw [Tract.value, hm, Option.map_some, Option.some_inj] at hnone
      exact h m hc hnone
  rw [survives_iff, hcolumns, population_iff hpopulation]
  constructor
  · rintro ⟨hstates, hcounties, hmin, hpublished, hwithin⟩
    refine ⟨⟨hstates, hcounties, hmin, fun m hm => ?_⟩, hpublished⟩
    have hproblem := thresholdProblem_of_mem hthresholds hm
    exact meetsThreshold_of_within
      (isSold_of_validateQuery hq _ (thresholdProblem_eq_none hproblem).1) hproblem (hwithin m hm)
  · rintro ⟨h, hpublished⟩
    exact ⟨h.states, h.counties, h.population, hpublished,
      fun m hm => within_of_meetsThreshold (h.thresholds m hm)⟩

/-! ## States without a yield -/

/-- A loop over the columns adds the state when one of them asks for it. -/
theorem foldl_addTo {α : Type} (p : α → Bool) (st : String) (columns : List α)
    (found : List String) :
    columns.foldl (fun found c => if p c then addTo found st else found) found =
      if columns.any p then addTo found st else found := by
  have hagain (found : List String) : addTo (addTo found st) st = addTo found st :=
    if_pos (mem_addTo.2 (Or.inr rfl))
  induction columns generalizing found with
  | nil => rfl
  | cons c columns ih =>
      rw [List.foldl_cons, List.any_cons]
      by_cases hc : p c = true
      · rw [if_pos hc, ih, hc, Bool.true_or, if_pos rfl, hagain, ite_self]
      · rw [if_neg hc, ih, Bool.eq_false_iff.2 hc, Bool.false_or]

/-- The states reported are the requested ones that are unavailable, each once. -/
theorem zeroYieldStates_eq (q : Query) (corpus : Corpus) :
    (evaluateQuery q corpus).zeroYieldStates =
      distinct ((q.states.getD []).filter (IsUnavailable q corpus)) := by
  have hcolumns (st : String) : (q.columns.any fun c =>
      (measureOf c).any fun m => decide (st ∈ corpus.unavailableStates m)) =
        decide (IsUnavailable q corpus st) := by
    rw [Bool.eq_iff_iff, List.any_eq_true, decide_eq_true_iff]
    constructor
    · rintro ⟨c, hc, hany⟩
      cases hm : measureOf c with
      | none =>
          rw [hm] at hany
          cases hany
      | some m =>
          rw [hm, Option.any_some, decide_eq_true_iff] at hany
          exact ⟨m, measureOf_eq_some.1 hm ▸ hc, hany⟩
    · rintro ⟨m, hm, hst⟩
      exact ⟨m.name, hm, by rw [measureOf_name, Option.any_some, decide_eq_true hst]⟩
  unfold evaluateQuery distinct
  simp only [List.foldl_filter, decide_eq_true_iff]
  congr 1
  funext found st
  calc
    _ = q.columns.foldl (fun found c =>
          if (measureOf c).any fun m => decide (st ∈ corpus.unavailableStates m) then
            addTo found st else found) found := by
        refine congrArg (fun f => q.columns.foldl f found) ?_
        funext found c
        cases measureOf c with
        | none => rfl
        | some m => simp only [Option.any_some, decide_eq_true_iff]
    _ = if IsUnavailable q corpus st then addTo found st else found := by
        rw [foldl_addTo, hcolumns]
        simp only [decide_eq_true_iff]

/-! ## The slice -/

open Classical in
/-- In an accepted file whose suppression is by whole states, a validated query gets the tracts
that meet its filters and lie in no state that is unavailable for a measure it buys. -/
theorem evaluateQuery_exact {path : String} {lines : List String}
    (hload : loadPlaces path lines = .ok corpus)
    (hexhaustive : corpus.availabilityIsExhaustiveAtStateLevel = true)
    (hq : validateQuery q corpus = []) :
    (evaluateQuery q corpus).tracts =
        corpus.tracts.filter (fun t => MeetsFilters q t ∧ ¬ IsUnavailable q corpus t.stateAbbr) ∧
      (evaluateQuery q corpus).zeroYieldStates =
        distinct ((q.states.getD []).filter (IsUnavailable q corpus)) ∧
      ∀ t ∈ (evaluateQuery q corpus).tracts, ∀ c ∈ q.columns, ∃ x, t.value c = some (some x) := by
  have hpublished {t : Tract} (ht : t ∈ corpus.tracts) :
      (∀ m : MeasureKey, m.name ∈ q.columns → t.values m ≠ none) ↔
        ¬ IsUnavailable q corpus t.stateAbbr := by
    simp only [IsUnavailable, not_exists, not_and, ne_eq,
      values_eq_none_iff hload hexhaustive ht]
  refine ⟨?_, ?_, ?_⟩
  · refine List.filter_congr fun t ht => ?_
    rw [Bool.eq_iff_iff, decide_eq_true_iff, survives_iff_meetsFilters hq, hpublished ht]
  · exact zeroYieldStates_eq q corpus
  · intro t ht c hc
    obtain ⟨m, hm⟩ := Option.isSome_iff_exists.1 (isSold_of_validateQuery hq c hc)
    obtain rfl := measureOf_eq_some.1 hm
    have hvalue := ((survives_iff_meetsFilters hq).1 (List.of_mem_filter ht)).2 m hc
    obtain ⟨x, hx⟩ := Option.ne_none_iff_exists'.1 hvalue
    exact ⟨x, by rw [Tract.value, hm, Option.map_some, hx]⟩

end Evaluate

/-! ## A release with a gap -/

/-- A file of two tracts; one measure is missing in Pennsylvania. -/
def gapRelease : List String :=
  [wideHeader, "CA,Kern,06029000101,900,12.5,0,0,0,0,0,0,0",
    "PA,Erie,42049000100,800,,0,0,0,0,0,0,0"]

/-- A query for that measure in both states. -/
def gapQuery : Query where
  columns := ["DIABETES"]
  states := some ["CA", "PA"]
  counties := none
  minPopulation := some (.num 500)
  thresholds := some (.obj [("DIABETES", .obj [("min", .num 10)])])

theorem exists_gapCorpus : ∃ corpus, loadPlaces "places.csv" gapRelease = .ok corpus ∧
    corpus.availabilityIsExhaustiveAtStateLevel = true ∧ corpus.states = ["CA", "PA"] ∧
      corpus.unavailableStates .DIABETES = ["PA"] := by
  have hread : (loadPlaces "places.csv" gapRelease).toOption.map (fun corpus =>
      (corpus.availabilityIsExhaustiveAtStateLevel, corpus.states,
        corpus.unavailableStates .DIABETES)) = some (true, ["CA", "PA"], ["PA"]) := by
    decide +kernel
  cases hcorpus : loadPlaces "places.csv" gapRelease with
  | error e =>
      rw [hcorpus] at hread
      cases hread
  | ok corpus =>
      rw [hcorpus] at hread
      obtain ⟨hflag, hrest⟩ := Prod.mk.inj (Option.some.inj hread)
      obtain ⟨hstates, hgaps⟩ := Prod.mk.inj hrest
      exact ⟨corpus, rfl, hflag, hstates, hgaps⟩

theorem validateQuery_gapQuery {corpus : Corpus} (hstates : corpus.states = ["CA", "PA"]) :
    validateQuery gapQuery corpus = [] := by
  refine validateQuery_eq_nil.2 ⟨by decide, ?_, rfl, by decide +kernel, by decide +kernel⟩
  rw [stateProblems, hstates]
  decide

open Classical in
/-- The query gets the tract of California. -/
theorem gapQuery_exact : ∃ corpus, loadPlaces "places.csv" gapRelease = .ok corpus ∧
    (evaluateQuery gapQuery corpus).tracts = corpus.tracts.filter (fun t =>
      MeetsFilters gapQuery t ∧ ¬ IsUnavailable gapQuery corpus t.stateAbbr) := by
  obtain ⟨corpus, hload, hexhaustive, hstates, _⟩ := exists_gapCorpus
  have hq := validateQuery_gapQuery hstates
  exact ⟨corpus, hload, (evaluateQuery_exact hload hexhaustive hq).1⟩

end Engine

end DataSeller

end Coordination
