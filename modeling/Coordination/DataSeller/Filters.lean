import Coordination.DataSeller.Answerable

/-!
# The filters of a quote

A body narrows its slice by states, counties and thresholds. The reader coerces
each of them, the validator checks what is left and the evaluator takes an absent
filter for no filter. The slice of an accepted body meets the filters as they were
written when the reader had nothing to coerce, and only then is the slice as narrow
as the body says.
-/

namespace Coordination

namespace DataSeller

open JavaScript Library Engine

/-- A filter that is there: not null and not empty. -/
def isGiven : Value → Bool
  | .null | .arr [] | .obj [] => false
  | .str s => s ≠ ""
  | _ => true

/-- The tracts a quote is computed from. -/
def sliceOf (corpus : Corpus) (body : Value) : List Tract :=
  (evaluateQuery (readQuery body) corpus).tracts

/-- A tract has a published value within the bounds of a threshold as written. -/
structure MeetsThreshold (t : Tract) (key : String) (th : Value) : Prop where
  published : ∃ x, t.value key = some (some x) ∧
    (∀ v ∈ boundOf th "min", ∃ lo, v = .num lo ∧ ¬ x < lo) ∧
    (∀ v ∈ boundOf th "max", ∃ hi, v = .num hi ∧ ¬ hi < x)

/-- Every filter of the body has the type it must have, and the slice meets it. -/
structure Honoured (corpus : Corpus) (body : Value) : Prop where
  states : ∀ v ∈ bodyMember body "states", isGiven v = true →
    ∃ xs, v = textList xs ∧ ∀ t ∈ sliceOf corpus body, t.stateAbbr ∈ xs
  counties : ∀ v ∈ bodyMember body "counties", isGiven v = true →
    ∃ xs, v = textList xs ∧ ∀ t ∈ sliceOf corpus body, t.countyName ∈ xs
  thresholds : ∀ v ∈ bodyMember body "thresholds", isGiven v = true →
    ∃ ms, v = .obj ms ∧ ∀ m ∈ ms, ∀ t ∈ sliceOf corpus body, MeetsThreshold t m.1 m.2

/-- The filters of the body are lists of texts and an object, where they are there. -/
structure WellTyped (body : Value) : Prop where
  states : ∀ v ∈ bodyMember body "states", isGiven v = true → ∃ xs, v = textList xs
  counties : ∀ v ∈ bodyMember body "counties", isGiven v = true → ∃ xs, v = textList xs
  thresholds : ∀ v ∈ bodyMember body "thresholds", isGiven v = true → ∃ ms, v = .obj ms

/-! ## Reading a filter -/

theorem strArray_textList (xs : List String) :
    strArray (some (textList xs)) = some (distinct xs) := by
  simp only [strArray, textList, List.filterMap_map]
  congr 2
  exact List.filterMap_some

/-- A filter that lists texts is met by what it lets through. -/
theorem mem_of_textFilter {v : Value} {xs ys : List String} {x : String}
    (hgiven : isGiven v = true) (hv : v = textList xs) (hread : strArray (some v) = some ys)
    (hx : ys = [] ∨ x ∈ ys) : x ∈ xs := by
  subst hv
  rw [strArray_textList] at hread
  cases hread
  rcases hx with hnone | hx
  · cases xs with
    | nil => simp [textList, isGiven] at hgiven
    | cons y ys =>
        have hy : y ∈ distinct (y :: ys) := mem_distinct.2 List.mem_cons_self
        rw [hnone] at hy
        cases hy
  · exact mem_distinct.1 hx

/-- What the evaluator has checked of a tract it lets through. -/
theorem survives_iff {q : Query} {t : Tract} :
    survives q t = true ↔
      (q.states.getD [] = [] ∨ t.stateAbbr ∈ q.states.getD []) ∧
      (q.counties.getD [] = [] ∨ t.countyName ∈ q.counties.getD []) ∧
      q.minPopulation.any (lessThan (t.totalPopulation.getD (-1))) = false ∧
      (∀ c ∈ q.columns, t.value c ≠ some none) ∧
      ∀ m ∈ entriesOf q.thresholds, withinThreshold (t.value m.1) m.2 = true := by
  have hvalue (v : Option (Option Number)) : (v != some none) = true ↔ v ≠ some none := by
    rcases v with _ | _ | x
    · exact ⟨fun _ => nofun, fun _ => rfl⟩
    · exact ⟨nofun, fun h => absurd rfl h⟩
    · exact ⟨fun _ => nofun, fun _ => rfl⟩
  simp [survives, and_assoc, hvalue]

/-! ## Thresholds -/

/-- What is left of a threshold once its problems are ruled out. -/
theorem bounds_of_checks {columns : List String} {key : String} {min max : Option Value}
    {notNumeric noBound notBought : Rejection} {rest : Option Rejection}
    (h : (if (min.isSome && !isNumber min) || (max.isSome && !isNumber max) then some notNumeric
      else if min.isNone && max.isNone then some noBound
      else if key ∉ columns then some notBought
      else rest) = none) :
    key ∈ columns ∧ (∀ v ∈ min, ∃ lo, v = .num lo) ∧ ∀ v ∈ max, ∃ hi, v = .num hi := by
  have hnumber {b : Option Value} (hb : ¬ (b.isSome && !isNumber b) = true) :
      ∀ v ∈ b, ∃ x, v = .num x := by
    rintro v rfl
    cases v with
    | num x => exact ⟨x, rfl⟩
    | null | bool | str | arr | obj => exact absurd rfl hb
  split_ifs at h with hnumeric hsome hbought
  rw [Bool.or_eq_true, not_or] at hnumeric
  exact ⟨hbought, hnumber hnumeric.1, hnumber hnumeric.2⟩

/-- A threshold without problems has numeric bounds on a column. -/
theorem thresholdProblem_eq_none {columns : List String} {key : String} {th : Value}
    (h : thresholdProblem columns key th = none) :
    key ∈ columns ∧ (∀ v ∈ boundOf th "min", ∃ lo, v = .num lo) ∧
      ∀ v ∈ boundOf th "max", ∃ hi, v = .num hi := by
  cases th with
  | obj ms => exact bounds_of_checks h
  | null | bool | num | str | arr => cases h

/-- The thresholds of a validated query have no problems. -/
theorem thresholdProblem_of_mem {columns : List String} {thresholds : Option Value}
    (h : thresholdProblems columns thresholds = []) {m : String × Value}
    (hm : m ∈ entriesOf thresholds) : thresholdProblem columns m.1 m.2 = none := by
  unfold thresholdProblems at h
  simp only [List.append_eq_nil_iff, List.filterMap_eq_nil_iff] at h
  obtain ⟨hcount, hproblems⟩ := h
  have hall : (entriesOf thresholds).take measureKeys.length = entriesOf thresholds := by
    refine List.take_of_length_le ?_
    by_contra hmany
    simp [not_le.1 hmany] at hcount
  rw [hall] at hproblems
  exact hproblems m hm

/-- A tract that passes a threshold without problems meets it as written. -/
theorem meetsThreshold_of_within {columns : List String} {t : Tract} {key : String} {th : Value}
    (hsold : isSoldMeasure key = true) (hth : thresholdProblem columns key th = none)
    (hwithin : withinThreshold (t.value key) th = true) : MeetsThreshold t key th := by
  obtain ⟨_, hmin, hmax⟩ := thresholdProblem_eq_none hth
  obtain ⟨m, hm⟩ := Option.isSome_iff_exists.1 hsold
  have hvalue : t.value key = some (t.values m) := by rw [Tract.value, hm]; rfl
  rw [hvalue] at hwithin
  rcases hx : t.values m with _ | x
  · rw [hx] at hwithin
    cases hwithin
  · rw [hx] at hwithin
    simp only [withinThreshold, Bool.and_eq_true, Bool.not_eq_true'] at hwithin
    refine ⟨x, by rw [hvalue, hx], ?_, ?_⟩
    · intro v hv
      obtain ⟨lo, rfl⟩ := hmin v hv
      refine ⟨lo, rfl, ?_⟩
      rw [Option.mem_def.1 hv] at hwithin
      show ¬ Float.lt x lo = true
      simpa [lessThan, toNumber] using hwithin.1
    · intro v hv
      obtain ⟨hi, rfl⟩ := hmax v hv
      refine ⟨hi, rfl, ?_⟩
      rw [Option.mem_def.1 hv] at hwithin
      show ¬ Float.lt hi x = true
      simpa [greaterThan, toNumber] using hwithin.2

/-! ## The slice of a validated body -/

section Slice

variable {corpus : Corpus} {body : Value}

theorem survives_of_mem_sliceOf {t : Tract} (ht : t ∈ sliceOf corpus body) :
    survives (readQuery body) t = true :=
  List.of_mem_filter ht

/-- The slice of a validated body meets the filters that are of the right type. -/
theorem honoured_of_wellTyped (hvalid : validateQuery (readQuery body) corpus = [])
    (htyped : WellTyped body) : Honoured corpus body := by
  obtain ⟨_, _, _, _, hthresholds⟩ := validateQuery_eq_nil.1 hvalid
  constructor
  · intro v hv hgiven
    obtain ⟨xs, rfl⟩ := htyped.states v hv hgiven
    refine ⟨xs, rfl, fun t ht => ?_⟩
    obtain ⟨hstates, _⟩ := survives_iff.1 (survives_of_mem_sliceOf ht)
    refine mem_of_textFilter hgiven rfl (strArray_textList xs) ?_
    simpa [readQuery, Option.mem_def.1 hv, strArray_textList] using hstates
  · intro v hv hgiven
    obtain ⟨xs, rfl⟩ := htyped.counties v hv hgiven
    refine ⟨xs, rfl, fun t ht => ?_⟩
    obtain ⟨_, hcounties, _⟩ := survives_iff.1 (survives_of_mem_sliceOf ht)
    refine mem_of_textFilter hgiven rfl (strArray_textList xs) ?_
    simpa [readQuery, Option.mem_def.1 hv, strArray_textList] using hcounties
  · intro v hv hgiven
    obtain ⟨ms, rfl⟩ := htyped.thresholds v hv hgiven
    refine ⟨ms, rfl, fun m hm t ht => ?_⟩
    obtain ⟨_, _, _, _, hwithin⟩ := survives_iff.1 (survives_of_mem_sliceOf ht)
    have hentry : m ∈ entriesOf (readQuery body).thresholds := by
      rw [entriesOf_readQuery, Option.mem_def.1 hv]
      exact hm
    have hproblem := thresholdProblem_of_mem hthresholds hentry
    exact meetsThreshold_of_within
      (isSold_of_validateQuery hvalid _ (thresholdProblem_eq_none hproblem).1) hproblem
      (hwithin m hentry)

/-- The slice of an accepted body meets every filter as written exactly when the
reader had nothing to coerce. -/
theorem honoured_iff_wellTyped [Digests] [HostLocale] {rateCard : RateCardTerms}
    {density : DensityTerms} {facts : QuoteAccepted}
    (h : composeQuote corpus body rateCard density = .ok (.accepted facts)) :
    Honoured corpus body ↔ WellTyped body := by
  constructor
  · intro hhonoured
    refine ⟨fun v hv hgiven => ?_, fun v hv hgiven => ?_, fun v hv hgiven => ?_⟩
    · obtain ⟨xs, hxs, _⟩ := hhonoured.states v hv hgiven
      exact ⟨xs, hxs⟩
    · obtain ⟨xs, hxs, _⟩ := hhonoured.counties v hv hgiven
      exact ⟨xs, hxs⟩
    · obtain ⟨ms, hms, _⟩ := hhonoured.thresholds v hv hgiven
      exact ⟨ms, hms⟩
  · exact honoured_of_wellTyped (composeQuote_accepted h).1

end Slice

/-! ## A state filter that is lost -/

section Lost

attribute [local instance] Digests.ideal HostLocale.ascii

/-- An order of the tracts of one county. -/
def countyOrder : Value :=
  .obj [("columns", .arr [.str "DIABETES"]), ("states", textList ["CA"]),
    ("counties", textList ["Kern"]),
    ("thresholds", .obj [("DIABETES", .obj [("max", .num 13)])])]

/-- An order whose state filter is a text instead of a list. -/
def textStateOrder : Value :=
  .obj [("columns", .arr [.str "DIABETES"]), ("states", .str "NY")]

/-- A validated order whose aggregates and criteria are integers is accepted. -/
theorem exists_accepted {corpus : Corpus} {body : Value} {rateCard : RateCardTerms}
    {density : DensityTerms} (hvalid : validateQuery (readQuery body) corpus = [])
    (hanswerable : Answerable corpus body rateCard) :
    ∃ facts, composeQuote corpus body rateCard density = .ok (.accepted facts) := by
  have hok : (composeQuote corpus body rateCard density).isOk = true :=
    (isOk_composeQuote_answerable hvalid).2 hanswerable
  obtain ⟨quote, hquote⟩ := exists_of_isOk hok
  cases quote with
  | accepted facts => exact ⟨facts, hquote⟩
  | refused rejections =>
      have hnone : ¬ 0 < (validateQuery (readQuery body) corpus).length := by simp [hvalid]
      unfold composeQuote at hquote
      simp only [if_neg hnone] at hquote
      obtain ⟨_, _, h₁⟩ := bind_eq_ok.1 hquote
      obtain ⟨_, _, h₂⟩ := bind_eq_ok.1 h₁
      obtain ⟨_, _, h₃⟩ := bind_eq_ok.1 h₂
      obtain ⟨_, _, h₄⟩ := bind_eq_ok.1 h₃
      cases h₄

/-- What one tract answers. -/
theorem answerable_oneTract {body : Value} (hcolumns : (readQuery body).columns = ["DIABETES"])
    (hsurvives : survives (readQuery body) publishedTract = true)
    (hlists : ((bodyMember body "rowsPerTract").all hasText &&
      (["columns", "states", "counties"].all fun k => sortable (bodyMember body k)) &&
      committable (orNull (bodyMember body "minPopulation")) &&
      committableThresholds (bodyMember body "thresholds")) = true) :
    Answerable oneTractCorpus body ⟨100, 0, 500, 500, 10000⟩ := by
  have hslice : (evaluateQuery (readQuery body) oneTractCorpus).tracts = [publishedTract] := by
    simp [evaluateQuery, oneTractCorpus, hsurvives]
  have hstats : CommittableStats (aggregateStats [publishedTract] ["DIABETES"]) :=
    committable_committedStats.1 (by decide +kernel)
  simp only [List.all_cons, List.all_nil, Bool.and_true, Bool.and_eq_true] at hlists
  obtain ⟨⟨⟨hdensity, hcolumn, hstates, hcounties⟩, hpopulation⟩, hthresholds⟩ := hlists
  refine ⟨hdensity, hcolumn, hstates, hcounties, fun _ => ?_⟩
  rw [hslice, hcolumns]
  exact ⟨by decide +kernel, hstats, hpopulation, hthresholds⟩

theorem exists_countyOrder_quote : ∃ facts,
    composeQuote oneTractCorpus countyOrder ⟨100, 0, 500, 500, 10000⟩ ⟨25, 1, 100⟩ =
      .ok (.accepted facts) :=
  exists_accepted (validateQuery_eq_nil.2 ⟨by decide +kernel, by decide +kernel,
    by decide +kernel, by decide +kernel, by decide +kernel⟩)
    (answerable_oneTract (by decide +kernel) (by decide +kernel) (by decide +kernel))

theorem exists_textStateOrder_quote : ∃ facts,
    composeQuote oneTractCorpus textStateOrder ⟨100, 0, 500, 500, 10000⟩ ⟨25, 1, 100⟩ =
      .ok (.accepted facts) :=
  exists_accepted (validateQuery_eq_nil.2 ⟨by decide +kernel, by decide +kernel,
    by decide +kernel, by decide +kernel, by decide +kernel⟩)
    (answerable_oneTract (by decide +kernel) (by decide +kernel) (by decide +kernel))

/-- The order of one county gets what it says. -/
theorem countyOrder_honoured : ∃ facts,
    composeQuote oneTractCorpus countyOrder ⟨100, 0, 500, 500, 10000⟩ ⟨25, 1, 100⟩ =
      .ok (.accepted facts) ∧ Honoured oneTractCorpus countyOrder := by
  obtain ⟨facts, hfacts⟩ := exists_countyOrder_quote
  refine ⟨facts, hfacts, (honoured_iff_wellTyped hfacts).2 ⟨?_, ?_, ?_⟩⟩
  · rintro v hv _
    exact ⟨["CA"], (Option.some.inj hv).symm⟩
  · rintro v hv _
    exact ⟨["Kern"], (Option.some.inj hv).symm⟩
  · rintro v hv _
    exact ⟨_, (Option.some.inj hv).symm⟩

/-- An order of New York is quoted over a tract of California. -/
theorem composeQuote_widens :
    ¬ ∀ (corpus : Corpus) (body : Value) (rateCard : RateCardTerms) (density : DensityTerms)
      (facts : QuoteAccepted),
      composeQuote corpus body rateCard density = .ok (.accepted facts) →
        Honoured corpus body := by
  intro hhonoured
  obtain ⟨facts, hfacts⟩ := exists_textStateOrder_quote
  obtain ⟨xs, hxs, _⟩ := (hhonoured _ _ _ _ facts hfacts).states (.str "NY") rfl (by decide)
  cases hxs

end Lost

end DataSeller

end Coordination
