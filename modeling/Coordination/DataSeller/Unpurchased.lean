import Coordination.DataSeller.Engine.Soundness
import Coordination.DataSeller.Product

/-!
# What a quote reads

A quote reads the corpus through the columns that the body requests. The visible
part of a corpus leaves out everything the other measures contribute; every stage
of `composeQuote` gives the same result over it.
-/

namespace Coordination

namespace DataSeller

open JavaScript Library Engine

/-- A tract without the measures that are not purchased. -/
def visibleTract (columns : List String) (t : Tract) : Tract :=
  { t with values := fun m => if m.name ∈ columns then t.values m else none }

/-- A corpus without the measures that are not purchased and without what is
derived from them. -/
def visible (columns : List String) (corpus : Corpus) : Corpus :=
  { corpus with
    tracts := corpus.tracts.map (visibleTract columns)
    unavailableStates := fun m => if m.name ∈ columns then corpus.unavailableStates m else []
    availabilityIsExhaustiveAtStateLevel := true }

theorem value_visibleTract {columns : List String} {key : String} (hkey : key ∈ columns)
    (t : Tract) : (visibleTract columns t).value key = t.value key := by
  unfold Tract.value
  cases hm : measureOf key with
  | none => rfl
  | some m =>
      have hname : m.name ∈ columns := measureOf_eq_some.1 hm ▸ hkey
      simp [visibleTract, hname]

/-! ## Evaluation -/

/-- The keys of the thresholds of a validated query are columns of it. -/
theorem thresholdKey_mem {columns : List String} {thresholds : Option Value}
    (h : thresholdProblems columns thresholds = []) {key : String} {th : Value}
    (hkey : (key, th) ∈ entriesOf thresholds) : key ∈ columns := by
  unfold thresholdProblems at h
  simp only [List.append_eq_nil_iff, List.filterMap_eq_nil_iff] at h
  obtain ⟨hcount, hproblems⟩ := h
  have hall : (entriesOf thresholds).take measureKeys.length = entriesOf thresholds := by
    refine List.take_of_length_le ?_
    by_contra hmany
    simp [not_le.1 hmany] at hcount
  rw [hall] at hproblems
  have hproblem := hproblems (key, th) hkey
  by_contra hmem
  unfold thresholdProblem at hproblem
  split at hproblem
  · simp only at hproblem
    split_ifs at hproblem
  · simp only at hproblem
    split_ifs at hproblem
  · cases hproblem

theorem survives_visibleTract {q : Query} (hq : thresholdProblems q.columns q.thresholds = [])
    (t : Tract) : survives q (visibleTract q.columns t) = survives q t := by
  have hcolumns : (q.columns.all fun c => (visibleTract q.columns t).value c != some none) =
      q.columns.all fun c => t.value c != some none := by
    rw [Bool.eq_iff_iff, List.all_eq_true, List.all_eq_true]
    exact forall₂_congr fun c hc => by rw [value_visibleTract hc]
  have hthresholds : ((entriesOf q.thresholds).all fun e =>
      withinThreshold ((visibleTract q.columns t).value e.1) e.2) =
        (entriesOf q.thresholds).all fun e => withinThreshold (t.value e.1) e.2 := by
    rw [Bool.eq_iff_iff, List.all_eq_true, List.all_eq_true]
    refine forall₂_congr fun e he => ?_
    rw [value_visibleTract (thresholdKey_mem hq he)]
  unfold survives
  simp only [hcolumns, hthresholds]
  rfl

theorem evaluateQuery_visible {q : Query} (hq : thresholdProblems q.columns q.thresholds = [])
    (corpus : Corpus) :
    evaluateQuery q (visible q.columns corpus) =
      ⟨(evaluateQuery q corpus).tracts.map (visibleTract q.columns),
        (evaluateQuery q corpus).zeroYieldStates⟩ := by
  unfold evaluateQuery
  congr 1
  · show (corpus.tracts.map (visibleTract q.columns)).filter (survives q) =
      (corpus.tracts.filter (survives q)).map (visibleTract q.columns)
    rw [List.filter_map]
    congr 1
    exact List.filter_congr fun t _ => survives_visibleTract hq t
  · congr 1
    funext zeroYield st
    refine List.foldl_ext _ _ _ fun zeroYield c hc => ?_
    cases hm : measureOf c with
    | none => rfl
    | some m =>
        have hname : m.name ∈ q.columns := measureOf_eq_some.1 hm ▸ hc
        simp [visible, hname]

/-! ## Aggregates and samples -/

theorem aggregateStats_visible (columns : List String) (matched : List Tract) :
    aggregateStats (matched.map (visibleTract columns)) columns =
      aggregateStats matched columns := by
  unfold aggregateStats
  simp only [List.length_map, List.map_map, List.filterMap_map]
  congr 1
  refine List.foldl_ext _ _ _ fun ms c hc => ?_
  have hvals : ((fun t : Tract => (t.value c).join.filter Float.isFinite) ∘ visibleTract columns) =
      fun t => (t.value c).join.filter Float.isFinite := by
    funext t
    simp only [Function.comp_apply, value_visibleTract hc]
  rw [hvals]

theorem sampleRows_visible (columns : List String) (matched : List Tract) (n : ℕ) :
    sampleRows (matched.map (visibleTract columns)) columns n = sampleRows matched columns n := by
  unfold sampleRows
  rw [← List.map_take, List.map_map]
  refine List.map_congr_left fun t _ => ?_
  simp only [Function.comp_apply]
  congr 1
  refine List.foldl_ext _ _ _ fun row c hc => ?_
  rw [value_visibleTract hc]

theorem validateQuery_visible (columns : List String) (q : Query) (corpus : Corpus) :
    validateQuery q (visible columns corpus) = validateQuery q corpus := rfl

/-! ## The quote -/

section Quote

variable [Digests] [HostLocale]

theorem commitmentOf_visible (matched : List Tract) (q : Query) :
    commitmentOf (matched.map (visibleTract q.columns)) q = commitmentOf matched q := by
  unfold commitmentOf
  rw [aggregateStats_visible, List.length_map]

/-- Every stage of a quote reads the visible part of the corpus only. -/
theorem composeQuote_visible (corpus : Corpus) (body : Value) (rateCard : RateCardTerms)
    (density : DensityTerms) :
    composeQuote (visible (readQuery body).columns corpus) body rateCard density =
      composeQuote corpus body rateCard density := by
  have hsame := validateQuery_visible (readQuery body).columns (readQuery body) corpus
  unfold composeQuote
  by_cases hrejected : 0 < (validateQuery (readQuery body) corpus).length
  · simp only [if_pos hrejected, hsame]
  · have hrejected' : ¬ 0 < (validateQuery (readQuery body)
        (visible (readQuery body).columns corpus)).length := hsame ▸ hrejected
    have hvalid : validateQuery (readQuery body) corpus = [] :=
      List.eq_nil_of_length_eq_zero (by omega)
    obtain ⟨_, _, _, _, hthresholds⟩ := validateQuery_eq_nil.1 hvalid
    simp only [if_neg hrejected, if_neg hrejected', evaluateQuery_visible hthresholds,
      List.length_map, aggregateStats_visible, commitmentOf_visible, sampleRows_visible]

/-- Two corpora with the same visible part get the same quote. -/
theorem composeQuote_eq_of_visible {corpus corpus' : Corpus} {body : Value}
    (rateCard : RateCardTerms) (density : DensityTerms)
    (h : visible (readQuery body).columns corpus = visible (readQuery body).columns corpus') :
    composeQuote corpus body rateCard density = composeQuote corpus' body rateCard density := by
  rw [← composeQuote_visible corpus, ← composeQuote_visible corpus', h]

end Quote

section Witness

attribute [local instance] Digests.ideal HostLocale.ascii

/-- The one tract with other values of everything but diabetes. -/
def otherCorpus : Corpus :=
  { oneTractCorpus with
    tracts := [{ publishedTract with
      values := fun m => if m = .DIABETES then some 12.5 else some 99 }]
    unavailableStates := fun m => if m = .DIABETES then [] else ["CA"] }

/-- An order of diabetes does not tell the two corpora apart. -/
theorem oneMeasure_same_quote :
    composeQuote oneTractCorpus (.obj [("columns", .arr [.str "DIABETES"])])
        ⟨100, 0, 500, 500, 10000⟩ ⟨25, 1, 100⟩ =
      composeQuote otherCorpus (.obj [("columns", .arr [.str "DIABETES"])])
        ⟨100, 0, 500, 500, 10000⟩ ⟨25, 1, 100⟩ := by
  refine composeQuote_eq_of_visible _ _ ?_
  have hcolumns : (readQuery (.obj [("columns", .arr [.str "DIABETES"])])).columns =
      ["DIABETES"] := rfl
  rw [hcolumns]
  have htract : visibleTract ["DIABETES"] publishedTract = visibleTract ["DIABETES"]
      { publishedTract with values := fun m => if m = .DIABETES then some 12.5 else some 99 } := by
    simp only [visibleTract, publishedTract, Tract.mk.injEq, true_and]
    funext m
    cases m <;> rfl
  simp only [visible, oneTractCorpus, otherCorpus, Corpus.mk.injEq, List.map_cons, List.map_nil,
    true_and, and_true]
  refine ⟨congrArg (fun t => [t]) htract, ?_⟩
  funext m
  cases m <;> rfl

end Witness

end DataSeller

end Coordination
