import Coordination.DataSeller.Engine.Deliver
import Coordination.Library.Fallible
import Coordination.Library.Separated

/-!
# What a verified delivery is worth

`verifyDelivery` ties the received bytes to the manifest's own columns. They are
the columns the query bought exactly when the manifest names the same columns as
the query, which nothing in the check compares.
-/

namespace Coordination

namespace DataSeller

namespace Engine

open JavaScript Library

/-! ## The header names the columns -/

theorem syntheticColumn_injective : Function.Injective syntheticColumn := by
  intro m n h
  cases m <;> cases n <;> first | rfl | exact absurd h (by decide)

theorem syntheticColumn_plain (m : MeasureKey) :
    ',' ∉ (syntheticColumn m).toList ∧ '\n' ∉ (syntheticColumn m).toList := by
  cases m <;> decide

section Header

variable [HostLocale]

theorem columnName_of_sold {c : String} (hc : isSoldMeasure c = true) :
    ∃ m : MeasureKey, c = m.name ∧ columnName c = syntheticColumn m := by
  obtain ⟨m, hm⟩ := Option.isSome_iff_exists.1 hc
  exact ⟨m, measureOf_eq_some.1 hm, by simp [columnName, hm]⟩

theorem columnName_inj {c d : String} (hc : isSoldMeasure c = true) (hd : isSoldMeasure d = true)
    (h : columnName c = columnName d) : c = d := by
  obtain ⟨m, rfl, hm⟩ := columnName_of_sold hc
  obtain ⟨n, rfl, hn⟩ := columnName_of_sold hd
  rw [hm, hn] at h
  rw [syntheticColumn_injective h]

/-- The names of a header over sold measures contain no comma and no line end. -/
theorem deliverableHeader_plain {columns : List String}
    (hsold : ∀ c ∈ columns, isSoldMeasure c = true) :
    ∀ name ∈ (deliverableHeader columns).map String.toList, ',' ∉ name ∧ '\n' ∉ name := by
  have hfixed : ∀ s ∈ ["synthetic_person_id", "source_tract_fips", "source_county_name",
      "source_state_abbr", "age_band"] ++ ["is_synthetic"],
      ',' ∉ s.toList ∧ '\n' ∉ s.toList := by decide
  intro name hname
  obtain ⟨s, hs, rfl⟩ := List.mem_map.1 hname
  simp only [deliverableHeader, List.mem_append, List.mem_map] at hs
  rcases hs with (hs | ⟨c, hc, rfl⟩) | hs
  · exact hfixed s (List.mem_append_left _ hs)
  · obtain ⟨m, _, hm⟩ := columnName_of_sold (hsold c hc)
    rw [hm]
    exact syntheticColumn_plain m
  · exact hfixed s (List.mem_append_right _ hs)

/-- The header line of a file is the text before its first line end. -/
theorem header_eq_of_serializeCsv {people people' : List SyntheticPerson} {cs ds : List String}
    (hcs : ∀ c ∈ cs, isSoldMeasure c = true) (hds : ∀ d ∈ ds, isSoldMeasure d = true)
    (h : serializeCsv people cs = serializeCsv people' ds) :
    deliverableHeader cs = deliverableHeader ds := by
  have htext := congrArg String.toList (utf8_injective h)
  simp only [String.toList_append, String.toList_intercalate, List.map_cons] at htext
  obtain ⟨rest, hrest⟩ := exists_intercalate_cons (c := '\n')
    (",".toList.intercalate ((deliverableHeader cs).map String.toList))
    ((people.map (csvRow cs)).map String.toList)
  obtain ⟨rest', hrest'⟩ := exists_intercalate_cons (c := '\n')
    (",".toList.intercalate ((deliverableHeader ds).map String.toList))
    ((people'.map (csvRow ds)).map String.toList)
  have hlines := hrest.symm.trans (htext.trans hrest')
  have hplain {columns : List String} (hsold : ∀ c ∈ columns, isSoldMeasure c = true) :
      '\n' ∉ [','].intercalate ((deliverableHeader columns).map String.toList) :=
    notMem_intercalate (by decide) fun name hname => (deliverableHeader_plain hsold name hname).2
  obtain ⟨hheader, _⟩ := append_separator_cancel (hplain hcs) (hplain hds) hlines
  have hnames := intercalate_inj (by simp [deliverableHeader]) (by simp [deliverableHeader])
    (fun name hname => (deliverableHeader_plain hcs name hname).1)
    (fun name hname => (deliverableHeader_plain hds name hname).1) hheader
  exact List.map_injective_iff.2 (fun _ _ => String.toList_inj.1) hnames

theorem map_columnName_inj : ∀ {cs ds : List String},
    (∀ c ∈ cs, isSoldMeasure c = true) → (∀ d ∈ ds, isSoldMeasure d = true) →
      cs.map columnName = ds.map columnName → cs = ds
  | [], [], _, _, _ => rfl
  | [], d :: ds, _, _, h => nomatch h
  | c :: cs, [], _, _, h => nomatch h
  | c :: cs, d :: ds, hcs, hds, h => by
      obtain ⟨hhead, htail⟩ := List.cons.inj h
      rw [columnName_inj (hcs c List.mem_cons_self) (hds d List.mem_cons_self) hhead,
        map_columnName_inj (fun x hx => hcs x (List.mem_cons_of_mem _ hx))
          (fun x hx => hds x (List.mem_cons_of_mem _ hx)) htail]

/-- Over sold measures, the bytes of a file determine its columns. -/
theorem columns_eq_of_serializeCsv {people people' : List SyntheticPerson} {cs ds : List String}
    (hcs : ∀ c ∈ cs, isSoldMeasure c = true) (hds : ∀ d ∈ ds, isSoldMeasure d = true)
    (h : serializeCsv people cs = serializeCsv people' ds) : cs = ds := by
  have hheader := header_eq_of_serializeCsv hcs hds h
  simp only [deliverableHeader, List.append_cancel_left_eq, List.append_cancel_right_eq] at hheader
  exact map_columnName_inj hcs hds hheader

end Header

/-! ## Verification -/

theorem problemUnless_eq_nil {check : Bool} {problem : String} :
    problemUnless check problem = [] ↔ check = true := by
  cases check <;> simp [problemUnless]

section Verification

variable [Digests] [HostLocale]

/-- The received bytes are a generation over the tracts the query selects, with a
flag column for every column of the query and for no other one, under the
manifest's seed, density and row count. -/
def DeliversQuery (manifest : DeliveryManifest) (received : Bytes) (corpus : Corpus)
    (query : Query) : Prop :=
  ∃ columns rowsPerTract people, (∀ c, c ∈ columns ↔ c ∈ query.columns) ∧
    validRows manifest.density = some rowsPerTract ∧
    generateSyntheticPeople (evaluateQuery query corpus).tracts
      { regenerationOptions manifest rowsPerTract with columns } = .ok people ∧
    received = serializeCsv people columns

/-- `verifyDelivery` reports ok. -/
def Verified (manifest : DeliveryManifest) (received : Bytes) (corpus : Corpus) (query : Query) :
    Prop :=
  ∃ v, verifyDelivery manifest received corpus query = .ok v ∧ v.ok = true

/-- A manifest that passes every comparison has no problems. -/
theorem verifyDelivery_eq_ok {manifest : DeliveryManifest} {received : Bytes} {corpus : Corpus}
    {query : Query} {rowsPerTract : ℕ} {people : List SyntheticPerson}
    {commitment : StatsCommitment} (hsupported : manifest.generator.algorithm = generatorAlgorithm)
    (hrows : validRows manifest.density = some rowsPerTract)
    (hpeople : generateSyntheticPeople (evaluateQuery query corpus).tracts
      (regenerationOptions manifest rowsPerTract) = .ok people)
    (hcommitment : statsCommitment (aggregateStats (evaluateQuery query corpus).tracts
      manifest.columns) query = .ok commitment)
    (hreceived : sha256Bytes received = manifest.artifact.contentHash)
    (hregenerated : sha256Bytes (serializeCsv people manifest.columns) =
      manifest.artifact.contentHash)
    (hstats : commitment.statsHash = manifest.sourceStatsHash)
    (hquoted : manifest.quotedStatsHash.all (· = manifest.sourceStatsHash) = true)
    (hcalibrated : manifest.calibrated = true) :
    verifyDelivery manifest received corpus query =
      .ok ⟨true, [], some (sha256Bytes (serializeCsv people manifest.columns))⟩ := by
  simp [verifyDelivery, hsupported, hrows, hpeople, hcommitment, hreceived,
    hregenerated, hstats, hquoted, hcalibrated, problemUnless]

/-- Everything a successful verification has compared. -/
theorem verified_iff {manifest : DeliveryManifest} {received : Bytes} {corpus : Corpus}
    {query : Query} :
    Verified manifest received corpus query ↔
      ∃ rowsPerTract people commitment,
        manifest.generator.algorithm = generatorAlgorithm ∧
        validRows manifest.density = some rowsPerTract ∧
        generateSyntheticPeople (evaluateQuery query corpus).tracts
          (regenerationOptions manifest rowsPerTract) = .ok people ∧
        statsCommitment (aggregateStats (evaluateQuery query corpus).tracts manifest.columns)
          query = .ok commitment ∧
        sha256Bytes received = manifest.artifact.contentHash ∧
        sha256Bytes (serializeCsv people manifest.columns) = manifest.artifact.contentHash ∧
        commitment.statsHash = manifest.sourceStatsHash ∧
        manifest.quotedStatsHash.all (· = manifest.sourceStatsHash) = true ∧
        manifest.calibrated = true := by
  constructor
  · rintro ⟨v, hv, hok⟩
    unfold verifyDelivery at hv
    simp only at hv
    split at hv
    · rename_i rowsPerTract hsupported hrows
      obtain ⟨people, hpeople, hv⟩ := bind_eq_ok.1 hv
      obtain ⟨commitment, hcommitment, hv⟩ := bind_eq_ok.1 hv
      cases hv
      simp only [decide_eq_true_eq, List.length_eq_zero_iff, List.append_eq_nil_iff,
        problemUnless_eq_nil] at hok
      obtain ⟨⟨⟨⟨hreceived, hregenerated⟩, hstats⟩, hquoted⟩, hcalibrated⟩ := hok
      exact ⟨rowsPerTract, people, commitment, of_decide_eq_true hsupported, hrows, hpeople,
        hcommitment, hreceived, hregenerated, hstats, hquoted, hcalibrated⟩
    · cases hv
      simp at hok
  · rintro ⟨rowsPerTract, people, commitment, hsupported, hrows, hpeople, hcommitment, hreceived,
      hregenerated, hstats, hquoted, hcalibrated⟩
    exact ⟨_, verifyDelivery_eq_ok hsupported hrows hpeople hcommitment hreceived hregenerated
      hstats hquoted hcalibrated, rfl⟩

/-- Verified bytes are the serialisation under the manifest's own columns. -/
theorem received_eq_of_verified (hsha : Function.Injective (Digests.sha256 : Bytes → Bytes))
    {manifest : DeliveryManifest} {received : Bytes} {corpus : Corpus} {query : Query}
    (hv : Verified manifest received corpus query) :
    ∃ rowsPerTract people, validRows manifest.density = some rowsPerTract ∧
      generateSyntheticPeople (evaluateQuery query corpus).tracts
        (regenerationOptions manifest rowsPerTract) = .ok people ∧
      received = serializeCsv people manifest.columns := by
  obtain ⟨rowsPerTract, people, _, _, hrows, hpeople, _, hreceived, hregenerated, _⟩ :=
    verified_iff.1 hv
  exact ⟨rowsPerTract, people, hrows, hpeople,
    (Digests.sha256Ref_inj hsha).1 (hreceived.trans hregenerated.symm)⟩

/-- A verified delivery is the one the query bought when the manifest names the
columns of the query; for a manifest that names sold measures, only then. -/
theorem deliversQuery_iff_columns
    (hsha : Function.Injective (Digests.sha256 : Bytes → Bytes))
    {manifest : DeliveryManifest} {received : Bytes} {corpus : Corpus} {query : Query}
    (hq : validateQuery query corpus = []) (hv : Verified manifest received corpus query) :
    ((∀ c, c ∈ manifest.columns ↔ c ∈ query.columns) →
        DeliversQuery manifest received corpus query) ∧
      ((∀ c ∈ manifest.columns, isSoldMeasure c = true) →
        DeliversQuery manifest received corpus query →
          ∀ c, c ∈ manifest.columns ↔ c ∈ query.columns) := by
  obtain ⟨rowsPerTract, people, hrows, hpeople, hreceived⟩ := received_eq_of_verified hsha hv
  constructor
  · intro hcolumns
    exact ⟨manifest.columns, rowsPerTract, people, hcolumns, hrows, hpeople, hreceived⟩
  · rintro hsold ⟨columns, _, people', hcolumns, _, _, hreceived'⟩ c
    have hsold' : ∀ c ∈ columns, isSoldMeasure c = true := fun c hc =>
      isSold_of_validateQuery hq c ((hcolumns c).1 hc)
    rw [columns_eq_of_serializeCsv hsold hsold' (hreceived.symm.trans hreceived')]
    exact hcolumns c

end Verification

/-! ## A narrower file that verifies -/

section Narrow

/-- One tract with every measure published. -/
def publishedTract : Tract where
  stateAbbr := "CA"
  stateDesc := "California"
  countyName := "Kern"
  countyFips := "06029"
  tractFips := "06029000101"
  totalPopulation := some 4000
  totalPop18plus := some 3000
  values _ := some 12.5

def oneTractCorpus : Corpus where
  tracts := [publishedTract]
  states := ["CA"]
  unavailableStates _ := []
  availabilityIsExhaustiveAtStateLevel := true
  counties := [("CA", ["Kern"])]
  totals := ⟨1, 1, 1, 4000, 3000⟩
  sourcePath := "places.csv"

/-- The buyer orders two measures. -/
def twoMeasures : Query where
  columns := ["DIABETES", "BPHIGH"]
  states := none
  counties := none
  minPopulation := none
  thresholds := none

attribute [local instance] Digests.ideal HostLocale.ascii

/-- The seller generates one of them. -/
def narrowOptions : SynthesisOptions :=
  ⟨Exact.ofNumber 1, some 1, "seed", ["DIABETES"]⟩

def narrowBytes : Bytes :=
  match generateSyntheticPeople [publishedTract] narrowOptions with
  | .ok people => serializeCsv people ["DIABETES"]
  | .error _ => []

def narrowManifest : DeliveryManifest where
  dealId := "deal_0"
  productId := "synthetic-individuals"
  criteria := .null
  criteriaHash := "sha256:"
  sourceStatsHash :=
    match statsCommitment (aggregateStats [publishedTract] ["DIABETES"]) twoMeasures with
    | .ok commitment => commitment.statsHash
    | .error _ => "sha256:"
  quotedStatsHash := none
  statsMatchQuote := true
  rowCount := 1
  density := some ⟨1, 1, 1, 1, []⟩
  columns := ["DIABETES"]
  header := deliverableHeader ["DIABETES"]
  seed := "seed"
  generator := generatorBlock 1
  calibration := []
  calibrated := true
  artifact := ⟨sha256Bytes narrowBytes, narrowBytes.length, "memory:deal_0/deal_0.csv"⟩
  generatedAt := "2025-01-01T00:00:00.000Z"

theorem narrow_verified : Verified narrowManifest narrowBytes oneTractCorpus twoMeasures := by
  obtain ⟨people, hpeople⟩ : ∃ people,
      generateSyntheticPeople [publishedTract] narrowOptions = .ok people :=
    exists_of_isOk (by decide +kernel)
  obtain ⟨commitment, hcommitment⟩ : ∃ commitment,
      statsCommitment (aggregateStats [publishedTract] ["DIABETES"]) twoMeasures =
        .ok commitment :=
    exists_of_isOk (by decide +kernel)
  have htracts : (evaluateQuery twoMeasures oneTractCorpus).tracts = [publishedTract] := by
    have hsurvives : survives twoMeasures publishedTract = true := by decide +kernel
    simp [evaluateQuery, oneTractCorpus, hsurvives]
  have hbytes : narrowBytes = serializeCsv people ["DIABETES"] := by
    rw [narrowBytes, hpeople]
  have hstats : commitment.statsHash = narrowManifest.sourceStatsHash := by
    simp only [narrowManifest, hcommitment]
  refine verified_iff.2 ⟨1, people, commitment, rfl, by decide +kernel, ?_, ?_, rfl, ?_, hstats,
    rfl, rfl⟩
  · rw [htracts]
    exact hpeople
  · rw [htracts]
    exact hcommitment
  · exact congrArg sha256Bytes hbytes.symm

/-- A seller passes verification with fewer columns than the query bought. -/
theorem verifyDelivery_not_sound :
    ¬ ∀ (manifest : DeliveryManifest) (received : Bytes) (corpus : Corpus) (query : Query),
      validateQuery query corpus = [] → Verified manifest received corpus query →
        DeliversQuery manifest received corpus query := by
  intro hsound
  have hvalid : validateQuery twoMeasures oneTractCorpus = [] := by decide +kernel
  obtain ⟨columns, _, people, hcolumns, _, _, hreceived⟩ :=
    hsound narrowManifest narrowBytes oneTractCorpus twoMeasures hvalid narrow_verified
  obtain ⟨_, people', _, _, hreceived'⟩ :=
    received_eq_of_verified Function.injective_id narrow_verified
  have hsold : ∀ c ∈ columns, isSoldMeasure c = true := fun c hc =>
    isSold_of_validateQuery hvalid c ((hcolumns c).1 hc)
  have heq : narrowManifest.columns = columns :=
    columns_eq_of_serializeCsv (by decide) hsold (hreceived'.symm.trans hreceived)
  have hbphigh : "BPHIGH" ∈ narrowManifest.columns := by
    rw [heq]
    exact (hcolumns "BPHIGH").2 (by decide)
  exact absurd hbphigh (by decide)

/-- The narrower file is verified, and it is not what the query bought. -/
theorem narrow_not_delivered :
    ¬ DeliversQuery narrowManifest narrowBytes oneTractCorpus twoMeasures := by
  intro hdelivers
  have hcolumns := (deliversQuery_iff_columns Function.injective_id
    (by decide +kernel : validateQuery twoMeasures oneTractCorpus = []) narrow_verified).2
    (by decide) hdelivers
  exact absurd ((hcolumns "BPHIGH").2 (by decide)) (by decide)

end Narrow

end Engine

end DataSeller

end Coordination
