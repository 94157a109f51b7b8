import Coordination.DataSeller.Limits

/-!
# When a quote is answered

`composeQuote` answers a body with a refusal or with a quote, unless one of its
stages throws. A validated body still goes through three readers with ideas of
their own: the density is converted to a number, the lists of the raw body are
spread and sorted for the criteria hash, and the commitment takes safe integers
only.
-/

namespace Coordination

namespace DataSeller

open JavaScript Library Engine

/-! ## The stages -/

/-- Whether `[...xs].sort()` is defined: a list, of whose items each has a text when
there is more than one. -/
def sortable : Option Value → Bool
  | none | some .null | some (.str _) => true
  | some (.arr xs) => decide (xs.length < 2) || xs.all hasText
  | some _ => false

/-- Every bound of every threshold is one the engine commits to. -/
def committableThresholds (thresholds : Option Value) : Bool :=
  (entriesOf thresholds).all fun (_, th) =>
    committable (orNull (boundOf th "min")) && committable (orNull (boundOf th "max"))

/-- Whether a figure is a safe integer once it is scaled. -/
def scales (x : Number) : Bool :=
  isCommittable (Number.round (x * scale))

/-- The aggregates of a slice are safe integers once the published figures are
scaled. -/
structure CommittableStats (stats : AggregateStats) : Prop where
  tractCount : isCommittable (Float.ofNat stats.tractCount) = true
  totalPopulation : isCommittable stats.totalPopulation = true
  totalPop18plus : isCommittable stats.totalPop18plus = true
  perMeasure : ∀ m ∈ stats.perMeasure, scales m.2.min = true ∧ scales m.2.max = true ∧
    scales m.2.mean = true ∧ scales m.2.median = true ∧
    isCommittable (Float.ofNat m.2.n) = true

/-- The list price of a slice, in cents. -/
def listCentsOf (tractCount : ℕ) (columns : List String) (terms : RateCardTerms) : Number :=
  let tiers := (distinct columns).filterMap fun c => (measureOf c).map soldMeasures
  let subtotal := terms.baseCents +
    roundHalfUp (Float.ofNat tractCount * terms.perTractMicroCents / 1000) +
    Float.ofNat (tiers.count .standard) * terms.perStandardColumnCents +
    Float.ofNat (tiers.count .premium) * terms.perPremiumColumnCents
  roundHalfUp (subtotal * terms.vintageMultiplierBps / 10000)

/-- What the later stages of `composeQuote` ask of a validated body. -/
structure Answerable (corpus : Corpus) (body : Value) (rateCard : RateCardTerms) : Prop where
  density : (bodyMember body "rowsPerTract").all hasText = true
  columns : sortable (bodyMember body "columns") = true
  states : sortable (bodyMember body "states") = true
  counties : sortable (bodyMember body "counties") = true
  slice : (evaluateQuery (readQuery body) corpus).tracts ≠ [] →
    Number.isInteger (listCentsOf (evaluateQuery (readQuery body) corpus).tracts.length
      (readQuery body).columns rateCard) = true ∧
    CommittableStats (aggregateStats (evaluateQuery (readQuery body) corpus).tracts
      (readQuery body).columns) ∧
    committable (orNull (bodyMember body "minPopulation")) = true ∧
    committableThresholds (bodyMember body "thresholds") = true

theorem isOk_densityAsked {body : Value} {density : DensityTerms} :
    (densityAsked body density).isOk = (bodyMember body "rowsPerTract").all hasText := by
  unfold densityAsked
  cases bodyMember body "rowsPerTract" with
  | none => rfl
  | some v =>
      cases v with
      | null => rfl
      | bool | num | str | arr | obj =>
          simp only [orElse, isOk_bind_pure, isOk_map, isOk_toNumber, Option.all_some]

theorem isOk_sortValues {xs : List Value} :
    (sortValues xs).isOk = (decide (xs.length < 2) || xs.all hasText) := by
  unfold sortValues
  split_ifs with hshort
  · simp [hshort, Except.isOk, Except.toBool]
  · rw [isOk_bind_pure, Bool.eq_iff_iff, isOk_mapM]
    simp only [isOk_bind_pure, isOk_textOf, hshort, decide_false, Bool.false_or, List.all_eq_true]

theorem isOk_sortedMember {body : Value} {k : String} :
    (sortedMember body k).isOk = sortable (bodyMember body k) := by
  have hspread (xs : List Value) (hxs : spread (bodyMember body k) = .ok xs) :
      (sortedMember body k).isOk = (decide (xs.length < 2) || xs.all hasText) := by
    rw [sortedMember, hxs, ok_bind, isOk_bind_pure, isOk_sortValues]
  cases h : bodyMember body k with
  | none => rw [hspread [] (by rw [h]; rfl)]; rfl
  | some v =>
      cases v with
      | null => rw [hspread [] (by rw [h]; rfl)]; rfl
      | arr xs => rw [hspread xs (by rw [h]; rfl)]; rfl
      | str s =>
          rw [hspread _ (by rw [h]; rfl)]
          simp [sortable, hasText]
      | bool | num | obj =>
          rw [sortedMember, h]
          rfl

theorem isOk_statedCriteria {body : Value} :
    (statedCriteria body).isOk = (sortable (bodyMember body "columns") &&
      sortable (bodyMember body "states") && sortable (bodyMember body "counties")) := by
  simp only [← isOk_sortedMember, statedCriteria]
  cases sortedMember body "columns" with
  | error e => rfl
  | ok columns =>
      cases sortedMember body "states" with
      | error e => rfl
      | ok states => cases sortedMember body "counties" <;> rfl

/-- A validated body is an object, so its criteria are the stated ones. -/
theorem isOk_criteriaHashOf [Digests] {body : Value} (hbody : bodyMember body "columns" ≠ none) :
    (criteriaHashOf body).isOk = (sortable (bodyMember body "columns") &&
      sortable (bodyMember body "states") && sortable (bodyMember body "counties")) := by
  cases body with
  | obj ms => rw [criteriaHashOf, isOk_bind_pure, isOk_statedCriteria]
  | null | bool | num | str | arr => exact absurd rfl hbody

/-- A text names a sold measure, so its price is found. -/
theorem tierOf_sold {c : String} (hc : isSoldMeasure c = true) :
    ∃ m, measureOf c = some m ∧ tierOf c = .ok (soldMeasures m) := by
  obtain ⟨m, hm⟩ := Option.isSome_iff_exists.1 hc
  exact ⟨m, hm, by rw [tierOf, hm]⟩

theorem mapM_tierOf {columns : List String} (h : ∀ c ∈ columns, isSoldMeasure c = true) :
    columns.mapM tierOf = .ok (columns.filterMap fun c => (measureOf c).map soldMeasures) := by
  induction columns with
  | nil => rfl
  | cons c columns ih =>
      obtain ⟨m, hm, htier⟩ := tierOf_sold (h c List.mem_cons_self)
      rw [List.mapM_cons, htier, ok_bind, ih fun c hc => h c (List.mem_cons_of_mem _ hc), ok_bind,
        List.filterMap_cons, hm]
      rfl

theorem isOk_bigInt (x : Number) : (bigInt x).isOk = Number.isInteger x := by
  unfold bigInt Number.isInteger
  cases Number.toRat? x with
  | none => rfl
  | some q => by_cases hq : q.den = 1 <;> simp [hq, Except.isOk, Except.toBool]

/-- The price of a slice is found when it is a whole number of cents. -/
theorem isOk_priceQuery {tractCount : ℕ} {columns : List String} {terms : RateCardTerms}
    (h : ∀ c ∈ columns, isSoldMeasure c = true) :
    (priceQuery tractCount columns terms).isOk =
      Number.isInteger (listCentsOf tractCount columns terms) := by
  unfold priceQuery
  rw [mapM_tierOf fun c hc => h c (mem_distinct.1 hc), ok_bind]
  simp only [isOk_bind_pure, isOk_bigInt]
  rfl

theorem isOk_priceOf {tractCount : ℕ} {columns : List String} {rateCard : RateCardTerms}
    (h : ∀ c ∈ columns, isSoldMeasure c = true) :
    (priceOf tractCount columns rateCard).isOk = true ↔
      (tractCount ≠ 0 → Number.isInteger (listCentsOf tractCount columns rateCard) = true) := by
  unfold priceOf
  split_ifs with hempty
  · simp [hempty, Except.isOk, Except.toBool]
  · rw [isOk_map, isOk_priceQuery h]
    simp [hempty]

theorem isOk_sha256 [Digests] (v : Value) : (Engine.sha256 v).isOk = committable v := by
  rw [Engine.sha256, isOk_map, encode, isOk_map, isOk_canonical]

theorem committable_committedStats [HostLocale] {stats : AggregateStats} :
    committable (committedStats stats) = true ↔ CommittableStats stats := by
  have hscale : isCommittable scale = true := by decide +kernel
  unfold committedStats
  simp only [committable_obj, List.all_cons, List.all_nil, Bool.and_true, committable_num, hscale,
    Bool.true_and, Bool.and_eq_true, List.all_map, List.all_eq_true, sortByLocale,
    List.mem_insertionSort, Function.comp_apply]
  constructor
  · rintro ⟨h₁, h₂, h₃, h₄⟩
    exact ⟨h₁, h₂, h₃, h₄⟩
  · rintro ⟨h₁, h₂, h₃, h₄⟩
    exact ⟨h₁, h₂, h₃, h₄⟩

theorem committable_committedCriteria [HostLocale] {q : Query} :
    committable (committedCriteria q) = true ↔
      committable (orNull q.minPopulation) = true ∧ committableThresholds q.thresholds = true := by
  have htexts (xs : List String) : committable (textList xs) = true := by
    simp [textList]
  unfold committedCriteria committableThresholds
  simp only [committable_obj, List.all_cons, List.all_nil, Bool.and_true, htexts, Bool.true_and,
    Bool.and_eq_true, List.all_map, List.all_eq_true, sortByLocale, List.mem_insertionSort,
    Function.comp_apply]

theorem isOk_statsCommitment [Digests] [HostLocale] {stats : AggregateStats} {q : Query} :
    (statsCommitment stats q).isOk = true ↔
      CommittableStats stats ∧ committable (orNull q.minPopulation) = true ∧
        committableThresholds q.thresholds = true := by
  rw [← committable_committedStats, ← committable_committedCriteria, ← isOk_sha256, ← isOk_sha256]
  unfold statsCommitment
  cases Engine.sha256 (committedStats stats) with
  | error e => simp [Except.isOk, Except.toBool]
  | ok statsHash => rw [ok_bind, isOk_bind_pure]; simp [Except.isOk, Except.toBool]

/-! ## The quote -/

/-- A validated body requests columns. -/
theorem columns_of_validateQuery {body : Value} {corpus : Corpus}
    (hvalid : validateQuery (readQuery body) corpus = []) :
    bodyMember body "columns" ≠ none := by
  intro hcolumns
  obtain ⟨hproblems, _⟩ := validateQuery_eq_nil.1 hvalid
  simp [readQuery, hcolumns, strArray, columnProblems] at hproblems

theorem entriesOf_readQuery (body : Value) :
    entriesOf (readQuery body).thresholds = entriesOf (bodyMember body "thresholds") := by
  unfold readQuery
  cases bodyMember body "thresholds" with
  | none => rfl
  | some v => cases v <;> rfl

section Quote

variable [Digests] [HostLocale] {corpus : Corpus} {body : Value} {rateCard : RateCardTerms}
  {density : DensityTerms}

theorem isOk_commitmentOf {matched : List Tract} {q : Query} :
    (commitmentOf matched q).isOk = true ↔
      (matched ≠ [] → CommittableStats (aggregateStats matched q.columns) ∧
        committable (orNull q.minPopulation) = true ∧
        committableThresholds q.thresholds = true) := by
  unfold commitmentOf
  simp only [List.length_eq_zero_iff]
  split_ifs with hempty
  · simp [hempty, Except.isOk, Except.toBool]
  · rw [isOk_map, isOk_statsCommitment]
    simp [hempty]

/-- The stages that may throw, one by one. -/
theorem isOk_composeQuote_valid (hvalid : validateQuery (readQuery body) corpus = []) :
    (composeQuote corpus body rateCard density).isOk = true ↔
      (densityAsked body density).isOk = true ∧
      (priceOf (evaluateQuery (readQuery body) corpus).tracts.length (readQuery body).columns
        rateCard).isOk = true ∧
      (commitmentOf (evaluateQuery (readQuery body) corpus).tracts (readQuery body)).isOk = true ∧
      (criteriaHashOf body).isOk = true := by
  have hnone : ¬ 0 < (validateQuery (readQuery body) corpus).length := by simp [hvalid]
  unfold composeQuote
  simp only [if_neg hnone]
  cases densityAsked body density with
  | error e => simp [Except.isOk, Except.toBool]
  | ok rowsPerTract =>
      cases priceOf _ _ rateCard with
      | error e => simp [Except.isOk, Except.toBool]
      | ok price =>
          cases commitmentOf _ (readQuery body) with
          | error e => simp [Except.isOk, Except.toBool]
          | ok statsHash =>
              cases criteriaHashOf body <;> simp [Except.isOk, Except.toBool]

theorem isOk_composeQuote_answerable (hvalid : validateQuery (readQuery body) corpus = []) :
    (composeQuote corpus body rateCard density).isOk = true ↔
      Answerable corpus body rateCard := by
  rw [isOk_composeQuote_valid hvalid, isOk_densityAsked,
    isOk_priceOf (isSold_of_validateQuery hvalid), isOk_commitmentOf,
    isOk_criteriaHashOf (columns_of_validateQuery hvalid), Bool.and_eq_true, Bool.and_eq_true,
    committableThresholds, entriesOf_readQuery, Ne, List.length_eq_zero_iff]
  constructor
  · rintro ⟨hdensity, hprice, hcommits, ⟨hcolumns, hstates⟩, hcounties⟩
    exact ⟨hdensity, hcolumns, hstates, hcounties, fun hslice => ⟨hprice hslice, hcommits hslice⟩⟩
  · rintro ⟨hdensity, hcolumns, hstates, hcounties, hslice⟩
    exact ⟨hdensity, fun h => (hslice h).1, fun h => (hslice h).2, ⟨hcolumns, hstates⟩, hcounties⟩

/-- A body is refused by name, or it is answered, exactly when no later stage meets
what it cannot read. -/
theorem composeQuote_answers_iff :
    (composeQuote corpus body rateCard density).isOk = true ↔
      validateQuery (readQuery body) corpus ≠ [] ∨ Answerable corpus body rateCard := by
  by_cases hvalid : validateQuery (readQuery body) corpus = []
  · rw [isOk_composeQuote_answerable hvalid]
    simp [hvalid]
  · have hrejected : 0 < (validateQuery (readQuery body) corpus).length :=
      List.length_pos_of_ne_nil hvalid
    unfold composeQuote
    simp only [if_pos hrejected]
    simp [hvalid]

end Quote

/-! ## A fractional threshold -/

section Fraction

attribute [local instance] Digests.ideal HostLocale.ascii

/-- An order of the tracts with at most 7.5 percent. -/
def fractionalOrder : Value :=
  .obj [("columns", .arr [.str "DIABETES"]),
    ("thresholds", .obj [("DIABETES", .obj [("max", .num 7.5)])])]

/-- A validated order with a fractional threshold is neither refused nor answered. -/
theorem composeQuote_throws :
    ¬ ∀ (path : String) (lines : List String) (corpus : Corpus) (body : Value)
      (rateCard : RateCardTerms) (density : DensityTerms),
      loadPlaces path lines = .ok corpus →
        (∀ t ∈ corpus.tracts, ∀ x ∈ t.totalPopulation, Number.isInteger x = true) →
          (composeQuote corpus body rateCard density).isOk = true := by
  intro hanswers
  obtain ⟨corpus, hcorpus, htracts⟩ := exists_wideCorpus
  have hpopulation : ∀ t ∈ corpus.tracts, ∀ x ∈ t.totalPopulation, Number.isInteger x = true := by
    intro t ht x hx
    rw [htracts] at ht
    rw [List.eq_of_mem_replicate ht, (by decide +kernel : wideTract.totalPopulation = some 0)] at hx
    cases hx
    decide +kernel
  have hfilters : (readQuery fractionalOrder).states = none ∧
      (readQuery fractionalOrder).counties = none := by decide +kernel
  have hvalid : validateQuery (readQuery fractionalOrder) corpus = [] := by
    refine validateQuery_eq_nil.2 ⟨by decide +kernel, ?_, ?_, by decide +kernel,
      by decide +kernel⟩
    · rw [hfilters.1]
      rfl
    · rw [hfilters.2]
      rfl
  have hslice : (evaluateQuery (readQuery fractionalOrder) corpus).tracts ≠ [] := by
    have hsurvives : survives (readQuery fractionalOrder) wideTract = true := by decide +kernel
    simp only [evaluateQuery, htracts]
    rw [List.filter_replicate, if_pos hsurvives]
    exact List.ne_nil_of_length_pos (List.length_replicate ▸ Nat.succ_pos 9999)
  have hanswer := (isOk_composeQuote_answerable hvalid).1
    (hanswers "places.csv" _ corpus fractionalOrder ⟨100, 0, 500, 500, 10000⟩ ⟨25, 1, 100⟩ hcorpus
      hpopulation)
  have hthresholds := (hanswer.slice hslice).2.2.2
  exact absurd hthresholds (by decide +kernel)

end Fraction

end DataSeller

end Coordination
