import Coordination.DataSeller.Quotes

/-!
# The size of a sold quote

A quote bounds the density it sells and the generator bounds the rows it will
produce. The two limits are stated over different quantities; this file says
when a quote that satisfies the first satisfies the second.
-/

namespace Coordination

namespace DataSeller

open JavaScript Library Engine

section Generator

variable [HostLocale]

/-- Within the limits every tract gets the rows it was promised. -/
theorem allocateRows_ok {tracts : List Tract} {rowsPerTract : ℕ} (hrows : 1 ≤ rowsPerTract)
    (hmax : rowsPerTract * tracts.length ≤ maxRows) :
    allocateRows tracts rowsPerTract (some (rowsPerTract * tracts.length : ℕ)) =
      .ok (tracts.map fun _ => rowsPerTract) := by
  have hpositive : ¬ rowsPerTract < 1 := by omega
  have habove : ¬ (maxRows < rowsPerTract * tracts.length) := by omega
  unfold allocateRows
  simp [hpositive, habove, addRemainder]
  rfl

/-- An allocation that succeeds is within the limits. -/
theorem limits_of_allocateRows {tracts : List Tract} {rowsPerTract : ℕ} {total : Exact}
    {alloc : List ℕ} (h : allocateRows tracts rowsPerTract (some total) = .ok alloc) :
    1 ≤ rowsPerTract ∧ total.above maxRows = false := by
  unfold allocateRows at h
  by_cases hrows : rowsPerTract < 1
  · simp only [if_pos hrows] at h
    cases h
  · simp only [if_neg hrows] at h
    refine ⟨by omega, ?_⟩
    by_contra habove
    have habove : total.above maxRows = true := by simpa using habove
    simp only [Option.getD_some, if_pos habove] at h
    cases h

omit [HostLocale] in
theorem length_assigned {tracts : List Tract} {rowsPerTract : ℕ} :
    (((tracts.map fun _ => rowsPerTract).zip tracts).flatMap fun (n, t) =>
      List.replicate n t).length = rowsPerTract * tracts.length := by
  induction tracts with
  | nil => rfl
  | cons t tracts ih =>
      rw [List.map_cons, List.zip_cons_cons, List.flatMap_cons, List.length_append, ih,
        List.length_replicate, List.length_cons, Nat.mul_succ, Nat.add_comm]

omit [HostLocale] in
/-- Within the limits no tract has more rows than an array holds. -/
theorem any_rows_eq_false {tracts : List Tract} {rowsPerTract : ℕ}
    (hmax : rowsPerTract * tracts.length ≤ maxRows) :
    (tracts.map fun _ => rowsPerTract).any (maxArrayLength < ·) = false := by
  rw [List.any_map, List.any_eq_false]
  intro t ht
  have hone : rowsPerTract * 1 ≤ rowsPerTract * tracts.length :=
    Nat.mul_le_mul_left _ (List.length_pos_of_mem ht)
  have hrows : rowsPerTract ≤ maxArrayLength := by
    unfold maxRows at hmax
    unfold maxArrayLength
    omega
  simpa using hrows

/-- Within the limits every row is generated. -/
theorem generateSyntheticPeople_ok [Digests] {tracts : List Tract} {rowsPerTract : ℕ}
    (hne : tracts.length ≠ 0) (hrows : 1 ≤ rowsPerTract)
    (hmax : rowsPerTract * tracts.length ≤ maxRows) (seed : String) (columns : List String) :
    ∃ people, generateSyntheticPeople tracts
      ⟨(rowsPerTract * tracts.length : ℕ), some rowsPerTract, seed, columns⟩ = .ok people := by
  have habove : ¬ (Exact.above (rowsPerTract * tracts.length : ℕ) maxRows = true) := by
    simpa using hmax
  have hassigned : assignedTracts tracts
      ⟨(rowsPerTract * tracts.length : ℕ), some rowsPerTract, seed, columns⟩ =
        .ok (some (((tracts.map fun _ => rowsPerTract).zip tracts).flatMap fun (n, t) =>
          List.replicate n t)) := by
    unfold assignedTracts
    simp only [allocateRows_ok hrows hmax, ok_bind, any_rows_eq_false hmax]
    rfl
  unfold generateSyntheticPeople
  simp only [if_neg hne, if_neg habove, hassigned, ok_bind, Exact.count_natCast]
  refine exists_of_isOk (isOk_mapM.2 fun i hi => ?_)
  obtain ⟨t, ht⟩ : ∃ t, (((tracts.map fun _ => rowsPerTract).zip tracts).flatMap fun (n, t) =>
      List.replicate n t)[i]? = some t := by
    refine ⟨_, List.getElem?_eq_getElem ?_⟩
    rw [length_assigned]
    exact List.mem_range.1 hi
  simp only [tractOfRow, ht]
  rfl

end Generator

section Quote

variable [Digests] [Canonicalize] [HostLocale] {seller : Seller} {body : Option Value}
  {record : QuoteRecord}

/-- The quote fits the generator: the rows it sells are within the row cap, every
tract gets its floor, and no delivery of it is refused for its size. -/
structure Fits (seller : Seller) (record : QuoteRecord) : Prop where
  rows : record.termsDocument.rowsPerTract * record.termsDocument.tractCount ≤ maxRows
  floor : ∃ alloc,
    allocateRows (evaluateQuery (readQuery record.queryBody) seller.corpus).tracts
      record.termsDocument.rowsPerTract
      (some (record.termsDocument.rowsPerTract * record.termsDocument.tractCount : ℕ)) =
        .ok alloc ∧ ∀ n ∈ alloc, record.termsDocument.rowsPerTract ≤ n
  generates : ∀ dealId cap now message,
    generateDelivery (deliveryInputFor seller record dealId cap now) ≠
      .error (.raised .SynthError message)

/-- A delivery whose generation succeeds is not refused for its size. -/
theorem generateDelivery_ne_synthError {input : DeliveryInput} {message : String}
    (hcommitted : ∃ commitment, statsCommitment (aggregateStats
      (evaluateQuery input.query input.corpus).tracts input.query.columns) input.query =
        .ok commitment)
    (hgenerated : ∃ people, generateSyntheticPeople
      (evaluateQuery input.query input.corpus).tracts (deliveryOptions input) = .ok people) :
    generateDelivery input ≠ .error (.raised .SynthError message) := by
  obtain ⟨commitment, hcommitment⟩ := hcommitted
  obtain ⟨people, hpeople⟩ := hgenerated
  intro h
  unfold generateDelivery at h
  by_cases hempty : (evaluateQuery input.query input.corpus).tracts.length = 0
  · simp only [if_pos hempty] at h
    cases h
  · simp only [if_neg hempty, hcommitment, ok_bind] at h
    by_cases hchanged : input.quotedStatsHash.getD commitment.statsHash ≠ commitment.statsHash
    · simp only [if_pos hchanged] at h
      cases h
    · simp only [if_neg hchanged, hpeople, ok_bind] at h
      split at h
      · cases h
      · rcases bind_eq_error.1 h with hjcs | ⟨_, _, hpure⟩
        · obtain ⟨_, he⟩ := jcs_error hjcs
          cases he
        · cases hpure

theorem Issued.fits_iff (h : Issued seller body record) :
    Fits seller record ↔ ∃ rowsPerTract,
      densityAsked (queryBodyOf body) seller.density = .ok rowsPerTract ∧ 1 ≤ rowsPerTract ∧
        rowsPerTract * (selectedTracts seller body).length ≤ maxRows := by
  obtain ⟨hrows, hcount, hne, commitment, hcommitment, _⟩ := h.size
  constructor
  · intro hfits
    obtain ⟨alloc, halloc, _⟩ := hfits.floor
    refine ⟨_, hrows, (limits_of_allocateRows halloc).1, ?_⟩
    rw [← hcount]
    exact hfits.rows
  · rintro ⟨rowsPerTract, hasked, hpositive, hmax⟩
    have hsame : rowsPerTract = record.termsDocument.rowsPerTract :=
      Except.ok.inj (hasked.symm.trans hrows)
    subst hsame
    refine ⟨hcount ▸ hmax, ?_, ?_⟩
    · rw [hcount, h.queryBody]
      refine ⟨_, allocateRows_ok hpositive hmax, ?_⟩
      intro n hn
      obtain ⟨_, _, rfl⟩ := List.mem_map.1 hn
      exact le_rfl
    · intro dealId cap now message
      obtain ⟨people, hpeople⟩ := generateSyntheticPeople_ok hne hpositive hmax
        (deliverableSeed seller.config.seedSecret dealId) (readQuery (queryBodyOf body)).columns
      have hsliced : (deliveryInputFor seller record dealId cap now).query =
          readQuery (queryBodyOf body) := congrArg readQuery h.queryBody
      refine generateDelivery_ne_synthError ?_ ?_
      · rw [hsliced]
        exact ⟨commitment, hcommitment⟩
      · rw [deliveryOptions, hsliced]
        exact ⟨people, hpeople⟩

/-- A quote fits the generator exactly when the density it asks for, clamped to the
bounds of the card, times the number of tracts it selects is within the row cap. -/
theorem quote_fits_iff {buyerAgentId : String} {s s' : Stores} {result : QuoteResult}
    (hquote : (quote seller buyerAgentId body).run s = (.ok result, s'))
    (hrecord : result.record = some record) :
    Fits seller record ↔ ∃ rowsPerTract,
      densityAsked (queryBodyOf body) seller.density = .ok rowsPerTract ∧ 1 ≤ rowsPerTract ∧
        rowsPerTract * seller.corpus.tracts.countP (survives (readQuery (queryBodyOf body))) ≤
          maxRows := by
  rw [List.countP_eq_length_filter]
  exact (quote_issued hquote hrecord).fits_iff

end Quote

section OneTract

attribute [local instance] Digests.ideal HostLocale.ascii Canonicalize.plain

/-- The order of one tract fits. -/
theorem oneMeasure_fits : ∃ record,
    issuedRecord ((quote (demoSeller oneTractCorpus) demoBuyer (some oneMeasure)).run
      Stores.empty) = some record ∧ Fits (demoSeller oneTractCorpus) record := by
  obtain ⟨result, s', record, _, hquote, hrecord, _⟩ := exists_oneMeasure_delivery
  refine ⟨record, ?_, (quote_fits_iff hquote hrecord).2 ⟨1, by decide +kernel, le_rfl,
    by decide +kernel⟩⟩
  rw [hquote]
  exact hrecord

end OneTract

/-! ## A file of equal lines -/

section Replicate

variable {path header row : String} {idx : List (String × ℕ)}

/-- A line `loadPlaces` takes as it is. -/
def isPlainLine (line : String) : Bool :=
  (utf16 line).length ≤ maxLine ∧ trim line ≠ ""

theorem readLine_plain {line : String} (hline : isPlainLine line = true) (l : Loading) :
    readLine path l line =
      match l.header with
      | none => (readHeader path (splitCsvLine line)).map fun idx => { l with header := some idx }
      | some idx => .ok (readRow idx (splitCsvLine line) l) := by
  obtain ⟨hlength, hblank⟩ := of_decide_eq_true hline
  unfold readLine
  rw [if_neg (not_lt.2 hlength), if_neg hblank]
  cases l.header with
  | none => simp only; cases readHeader path (splitCsvLine line) <;> rfl
  | some idx => rfl

theorem readRow_tracts {cells : List String} {l : Loading}
    (hstate : (readTract idx cells).stateAbbr ≠ "") :
    (readRow idx cells l).tracts = l.tracts ++ [readTract idx cells] ∧
      (readRow idx cells l).header = l.header := by
  have hread : readRow idx cells l = _ := if_neg hstate
  rw [hread]
  exact ⟨rfl, rfl⟩

theorem foldlM_readLine (path : String) (hline : isPlainLine row = true)
    (hstate : (readTract idx (splitCsvLine row)).stateAbbr ≠ "") (n : ℕ) :
    ∀ l : Loading, l.header = some idx →
      ∃ l', (List.replicate n row).foldlM (readLine path) l = .ok l' ∧
        l'.tracts = l.tracts ++ List.replicate n (readTract idx (splitCsvLine row)) := by
  induction n with
  | zero =>
      intro l _
      exact ⟨l, rfl, by simp⟩
  | succ n ih =>
      intro l hl
      obtain ⟨htracts, hheader⟩ : (readRow idx (splitCsvLine row) l).tracts =
          l.tracts ++ [readTract idx (splitCsvLine row)] ∧ _ := readRow_tracts hstate
      obtain ⟨l', hl', htracts'⟩ := ih (readRow idx (splitCsvLine row) l) (hheader.trans hl)
      refine ⟨l', ?_, ?_⟩
      · rw [List.replicate_succ, List.foldlM_cons, readLine_plain hline, hl]
        exact hl'
      · rw [htracts', htracts, List.append_assoc]
        rfl

/-- The corpus of a file that repeats one line. -/
theorem loadPlaces_replicate {n : ℕ} (hheader : isPlainLine header = true)
    (hrow : isPlainLine row = true)
    (hidx : readHeader path (splitCsvLine header) = .ok idx)
    (hstate : (readTract idx (splitCsvLine row)).stateAbbr ≠ "") (hn : n ≠ 0) :
    ∃ corpus, loadPlaces path (header :: List.replicate n row) = .ok corpus ∧
      corpus.tracts = List.replicate n (readTract idx (splitCsvLine row)) := by
  obtain ⟨l, hl, htracts⟩ := foldlM_readLine path hrow hstate n
    { Loading.start with header := some idx } rfl
  have hlines : (header :: List.replicate n row).foldlM (readLine path) Loading.start = .ok l := by
    rw [List.foldlM_cons, readLine_plain hheader, Loading.start]
    simp only [hidx]
    exact hl
  have htracts : l.tracts = List.replicate n (readTract idx (splitCsvLine row)) := htracts
  have hne : ¬ l.tracts.length = 0 := by
    rw [htracts, List.length_replicate]
    exact hn
  unfold loadPlaces
  simp only [hlines, ok_bind, if_neg hne]
  exact ⟨_, rfl, htracts⟩

end Replicate

/-! ## An oversold quote -/

section Wide

attribute [local instance] Digests.ideal HostLocale.ascii Canonicalize.plain

theorem sumOf_replicate {x : Number} (hx : (0 : Number) + x = 0) (n : ℕ) :
    sumOf (List.replicate n x) = 0 := by
  induction n with
  | zero => rfl
  | succ n ih =>
      show (List.replicate n x).foldl (· + ·) ((0 : Number) + x) = 0
      rw [hx]
      exact ih

theorem getD_replicate {x : Number} (n i : ℕ) : (List.replicate n x).getD i x = x := by
  rw [List.getD_eq_getElem?_getD, List.getElem?_replicate]
  split_ifs <;> rfl

/-- The aggregates of a measure every tract publishes as zero. -/
theorem measureStats_zeros {n : ℕ} (hn : n ≠ 0) (heven : n % 2 = 0) :
    measureStats (List.replicate n 0) =
      ⟨0, 0, (0 / Float.ofNat n : Number).fixed 4, ((0 + 0) / 2 : Number).fixed 4, n⟩ := by
  have hodd : ¬ (n % 2 = 1) := by omega
  unfold measureStats
  simp only [List.length_replicate, if_neg hn, if_neg hodd, getD_replicate,
    sumOf_replicate (by decide +kernel : (0 : Number) + 0 = 0)]

theorem aggregateStats_replicate {n : ℕ} {t : Tract} {c : String} {x : Number}
    (hpopulation : (0 : Number) + t.totalPopulation.getD 0 = 0)
    (hpop18 : (0 : Number) + t.totalPop18plus.getD 0 = 0)
    (hvalue : t.value c = some (some x)) (hfinite : x.isFinite = true) (hle : x ≤ x) :
    aggregateStats (List.replicate n t) [c] =
      ⟨n, 0, 0, assign c (measureStats (List.replicate n x)) []⟩ := by
  have hread : (t.value c).join.filter Float.isFinite = some x := by
    simp [hvalue, hfinite]
  have hvals : ((List.replicate n t).filterMap fun t => (t.value c).join.filter Float.isFinite) =
      List.replicate n x := List.filterMap_replicate_of_some hread
  have hsorted : (List.replicate n x).insertionSort (· ≤ ·) = List.replicate n x :=
    List.Pairwise.insertionSort_eq (List.pairwise_replicate.2 (Or.inr hle))
  simp only [aggregateStats, List.length_replicate, List.map_replicate,
    sumOf_replicate hpopulation, sumOf_replicate hpop18, List.foldl_cons, List.foldl_nil, hvals,
    hsorted]

def wideHeader : String :=
  "StateAbbr,CountyName,TractFIPS,TotalPopulation,DIABETES_CrudePrev,BPHIGH_CrudePrev," ++
    "CHD_CrudePrev,DEPRESSION_CrudePrev,OBESITY_CrudePrev,CSMOKING_CrudePrev,ACCESS2_CrudePrev," ++
    "SLEEP_CrudePrev"

def wideRow : String :=
  "CA,Kern,06029000101,0,0,0,0,0,0,0,0,0"

def wideIndex : List (String × ℕ) :=
  [("StateAbbr", 0), ("CountyName", 1), ("TractFIPS", 2), ("TotalPopulation", 3),
    ("DIABETES_CrudePrev", 4), ("BPHIGH_CrudePrev", 5), ("CHD_CrudePrev", 6),
    ("DEPRESSION_CrudePrev", 7), ("OBESITY_CrudePrev", 8), ("CSMOKING_CrudePrev", 9),
    ("ACCESS2_CrudePrev", 10), ("SLEEP_CrudePrev", 11)]

def wideTract : Tract :=
  readTract wideIndex (splitCsvLine wideRow)

/-- An order of the highest density on the card. -/
def wideOrder : Value :=
  .obj [("columns", .arr [.str "DIABETES"]), ("rowsPerTract", .num 100)]

def wideQuery : Query :=
  readQuery (queryBodyOf (some wideOrder))


theorem exists_wideCorpus : ∃ corpus,
    loadPlaces "places.csv" (wideHeader :: List.replicate 10000 wideRow) = .ok corpus ∧
      corpus.tracts = List.replicate 10000 wideTract := by
  have hcells : splitCsvLine wideHeader = wideIndex.map Prod.fst := by decide +kernel
  refine loadPlaces_replicate (by decide +kernel) (by decide +kernel) ?_ (by decide +kernel)
    (by decide)
  rw [hcells]
  decide +kernel

theorem evaluate_wide {corpus : Corpus} (h : corpus.tracts = List.replicate 10000 wideTract) :
    (evaluateQuery wideQuery corpus).tracts = List.replicate 10000 wideTract := by
  have hsurvives : survives wideQuery wideTract = true := by decide +kernel
  simp only [evaluateQuery, h]
  rw [List.filter_replicate, if_pos hsurvives]

/-- The aggregates of the wide slice. -/
def wideStats : AggregateStats :=
  ⟨10000, 0, 0, assign "DIABETES"
    ⟨0, 0, (0 / Float.ofNat 10000 : Number).fixed 4, ((0 + 0) / 2 : Number).fixed 4, 10000⟩ []⟩

theorem aggregate_wide :
    aggregateStats (List.replicate 10000 wideTract) wideQuery.columns = wideStats := by
  have hcolumns : wideQuery.columns = ["DIABETES"] := by decide +kernel
  rw [hcolumns, aggregateStats_replicate (by decide +kernel) (by decide +kernel)
    (by decide +kernel : wideTract.value "DIABETES" = some (some 0)) (by decide +kernel)
    (by decide +kernel), measureStats_zeros (by decide) (by decide)]
  rfl

/-- A seller issues a quote when the query is valid and its numbers are finite. -/
theorem exists_priced_quote (seller : Seller) (body : Option Value) (q : Query)
    (stats : AggregateStats) (rowsPerTract n : ℕ) {buyerAgentId : String} {price : Price}
    (hq : readQuery (queryBodyOf body) = q) (hbuyer : isBuyerDid buyerAgentId = true)
    (hvalid : validateQuery q seller.corpus = [])
    (hcount : (evaluateQuery q seller.corpus).tracts.length = n) (hn : n ≠ 0)
    (hstats : aggregateStats (evaluateQuery q seller.corpus).tracts q.columns = stats)
    (hrows : densityAsked (queryBodyOf body) seller.density = .ok rowsPerTract)
    (hprice : priceQuery n q.columns seller.rateCard = .ok price)
    (hcommits : (statsCommitment stats q).isOk = true)
    (hcriteria : (criteriaHashOf (queryBodyOf body)).isOk = true)
    (hcounts : ([rowsPerTract, rowsPerTract * n, n, 365].all fun n => (Float.ofNat n).isFinite) =
      true)
    (hprecision : (maxOf ((standardErrors stats q.columns rowsPerTract).map Prod.snd)).isFinite =
      true)
    (hbreakdown : ([price.breakdownCents.base, price.breakdownCents.tracts,
      price.breakdownCents.standardColumns, price.breakdownCents.premiumColumns,
      price.breakdownCents.subtotal].all Float.isFinite) = true) (s : Stores) :
    (issuedRecord ((quote seller buyerAgentId body).run s)).isSome = true := by
  subst hq hcount hstats
  obtain ⟨commitment, hcommitment⟩ := exists_of_isOk hcommits
  obtain ⟨criteriaHash, hcriteria⟩ := exists_of_isOk hcriteria
  have hpriceOf : priceOf (evaluateQuery (readQuery (queryBodyOf body)) seller.corpus).tracts.length
      (readQuery (queryBodyOf body)).columns seller.rateCard = .ok (some price) := by
    rw [priceOf, if_neg hn, hprice]
    rfl
  have hcommitted : commitmentOf (evaluateQuery (readQuery (queryBodyOf body)) seller.corpus).tracts
      (readQuery (queryBodyOf body)) = .ok (some commitment.statsHash) := by
    rw [commitmentOf, if_neg hn, hcommitment]
    rfl
  obtain ⟨facts, hfacts, hstatsHash, hprice', hcount, hrows', htotal, hdeliverable⟩ :=
    composeQuote_ok hvalid hrows hpriceOf hcommitted hcriteria hn
  refine quote_ok hbuyer hfacts hstatsHash (hcount ▸ hn) hprice' hdeliverable ?_ s
  have hfinite : allFinite (termsDocumentOf seller facts commitment.statsHash price
      (deliverableBlock (aggregateStats (evaluateQuery (readQuery (queryBodyOf body))
        seller.corpus).tracts (readQuery (queryBodyOf body)).columns)
        (readQuery (queryBodyOf body)).columns rowsPerTract
        (evaluateQuery (readQuery (queryBodyOf body)) seller.corpus).tracts.length)).toValue =
        true := by
    refine TermsDocument.allFinite_toValue.2 ⟨?_, hprecision, hbreakdown⟩
    simp only [termsDocumentOf, hrows', htotal, hcount]
    exact hcounts
  rw [termsDocumentHashOf, jcs_plain hfinite]
  rfl

/-- The quote of the wide order is issued. -/
theorem exists_wide_quote {corpus : Corpus}
    (h : corpus.tracts = List.replicate 10000 wideTract) :
    (issuedRecord ((quote (demoSeller corpus) demoBuyer (some wideOrder)).run
      Stores.empty)).isSome = true := by
  have htracts : (evaluateQuery wideQuery corpus).tracts = List.replicate 10000 wideTract :=
    evaluate_wide h
  have hfilters : wideQuery.states = none ∧ wideQuery.counties = none := by decide +kernel
  have hvalid : validateQuery wideQuery corpus = [] := by
    refine validateQuery_eq_nil.2 ⟨by decide +kernel, ?_, ?_, by decide +kernel,
      by decide +kernel⟩
    · rw [hfilters.1]
      rfl
    · rw [hfilters.2]
      rfl
  have hpriced : (match priceQuery 10000 wideQuery.columns ⟨100, 0, 500, 500, 10000⟩ with
      | .ok price => [price.breakdownCents.base, price.breakdownCents.tracts,
          price.breakdownCents.standardColumns, price.breakdownCents.premiumColumns,
          price.breakdownCents.subtotal].all Float.isFinite
      | .error _ => false) = true := by decide +kernel
  rcases hprice : priceQuery 10000 wideQuery.columns ⟨100, 0, 500, 500, 10000⟩ with _ | price
  · rw [hprice] at hpriced
    cases hpriced
  · rw [hprice] at hpriced
    refine exists_priced_quote (demoSeller corpus) (some wideOrder) wideQuery wideStats 100 10000
      rfl (by decide +kernel) hvalid ?_ (by decide) ?_ ?_ hprice (by decide +kernel)
      (by decide +kernel) (by decide +kernel) (by decide +kernel) hpriced _
    · show (evaluateQuery wideQuery corpus).tracts.length = 10000
      rw [htracts, List.length_replicate]
    · show aggregateStats (evaluateQuery wideQuery corpus).tracts _ = _
      rw [htracts, aggregate_wide]
    · show densityAsked (queryBodyOf (some wideOrder)) ⟨25, 1, 100⟩ = .ok 100
      decide +kernel

/-- The card lets a buyer order more rows than the generator makes. -/
theorem quote_not_fits :
    ¬ ∀ (path : String) (lines : List String) (seller : Seller) (buyerAgentId : String)
      (body : Option Value) (s s' : Stores) (result : QuoteResult) (record : QuoteRecord),
      loadPlaces path lines = .ok seller.corpus →
        (quote seller buyerAgentId body).run s = (.ok result, s') →
        result.record = some record → Fits seller record := by
  intro hfits
  obtain ⟨corpus, hcorpus, htracts⟩ := exists_wideCorpus
  obtain ⟨result, s', record, hquote, hrecord⟩ := exists_issued (exists_wide_quote htracts)
  obtain ⟨hrows, hcount, _⟩ := (quote_issued hquote hrecord).size
  have hasked : densityAsked (queryBodyOf (some wideOrder)) (demoSeller corpus).density =
      .ok 100 := by
    show densityAsked (queryBodyOf (some wideOrder)) ⟨25, 1, 100⟩ = .ok 100
    decide +kernel
  rw [hasked] at hrows
  have hrows := Except.ok.inj hrows
  have hselected : selectedTracts (demoSeller corpus) (some wideOrder) =
      List.replicate 10000 wideTract := evaluate_wide htracts
  have hmax := (hfits "places.csv" _ (demoSeller corpus) demoBuyer (some wideOrder) Stores.empty s'
    result record hcorpus hquote hrecord).rows
  rw [← hrows, hcount, hselected, List.length_replicate] at hmax
  exact absurd hmax (by decide)

end Wide

end DataSeller

end Coordination
