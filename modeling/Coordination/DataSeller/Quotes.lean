import Coordination.DataSeller.Engine.Soundness
import Coordination.DataSeller.Seller

/-!
# What a quote promises

A quote that issues a terms document fixes the criteria hash and the size of the
delivery it stands for. The delivery computes both again, from the query it
executes; this file compares the two.
-/

namespace Coordination

namespace DataSeller

open JavaScript Library Engine

section Quotes

variable [Digests] [Canonicalize] [HostLocale] [RecoverableEcdsa] {seller : Seller}

/-- What an issued quote record was computed from. -/
structure Issued (seller : Seller) (body : Option Value) (record : QuoteRecord) : Prop where
  queryBody : record.queryBody = queryBodyOf body
  priced : ∃ facts statsHash price deliverable,
    composeFor seller (queryBodyOf body) = .ok (.accepted facts) ∧
    facts.statsHash = some statsHash ∧ facts.tractCount ≠ 0 ∧
    record.termsDocument = termsDocumentOf seller facts statsHash price deliverable

omit [HostLocale] [RecoverableEcdsa] in
theorem issueQuote_issued {facts : QuoteAccepted} {negotiation : NegotiationRecord}
    {statsHash : String} {s s' : Stores} {result : QuoteResult} {record : QuoteRecord}
    (h : (issueQuote seller facts negotiation statsHash).run s = (.ok result, s'))
    (hrecord : result.record = some record) :
    record.queryBody = negotiation.queryBody ∧ ∃ price deliverable,
      record.termsDocument = termsDocumentOf seller facts statsHash price deliverable := by
  unfold issueQuote at h
  split at h
  · rename_i price deliverable _ _
    obtain ⟨hash, t, _, h₁⟩ := Prog.run_bind_eq_ok.1 h
    obtain ⟨answer, t₁, _, h₂⟩ := Prog.run_bind_eq_ok.1 h₁
    obtain ⟨_, t₂, _, h₃⟩ := Prog.run_bind_eq_ok.1 h₂
    obtain ⟨_, t₃, _, h₄⟩ := Prog.run_bind_eq_ok.1 h₃
    cases h₄
    cases hrecord
    exact ⟨rfl, price, deliverable, rfl⟩
  · cases h

omit [Digests] [Canonicalize] [HostLocale] [RecoverableEcdsa] in
theorem closeNegotiation_record {facts : QuoteFacts} {negotiation : NegotiationRecord}
    {summary : String} {s s' : Stores} {result : QuoteResult}
    (h : (closeNegotiation facts negotiation summary).run s = (.ok result, s')) :
    result.record = none := by
  unfold closeNegotiation at h
  obtain ⟨answer, t, _, h₁⟩ := Prog.run_bind_eq_ok.1 h
  obtain ⟨_, t₁, _, h₂⟩ := Prog.run_bind_eq_ok.1 h₁
  obtain ⟨_, t₂, _, h₃⟩ := Prog.run_bind_eq_ok.1 h₂
  cases h₃
  rfl

omit [RecoverableEcdsa] in
/-- A quote record is issued for an accepted, priced query only. -/
theorem quote_issued {buyerAgentId : String} {body : Option Value} {s s' : Stores}
    {result : QuoteResult} {record : QuoteRecord}
    (h : (quote seller buyerAgentId body).run s = (.ok result, s'))
    (hrecord : result.record = some record) : Issued seller body record := by
  unfold quote at h
  obtain ⟨_, t₀, _, h₀⟩ := Prog.run_bind_eq_ok.1 h
  obtain ⟨suffix, t₁, _, h₁⟩ := Prog.run_bind_eq_ok.1 h₀
  obtain ⟨queryEntry, t₂, _, h₂⟩ := Prog.run_bind_eq_ok.1 h₁
  obtain ⟨facts, t₃, hfacts, h₃⟩ := Prog.run_bind_eq_ok.1 h₂
  have hcompose : composeFor seller (queryBodyOf body) = .ok facts :=
    (Prog.run_lift_eq.1 hfacts).1
  have hclosed {facts : QuoteFacts} {negotiation : NegotiationRecord} {summary : String}
      {t : Stores} (h : (closeNegotiation facts negotiation summary).run t = (.ok result, s')) :
      False := by
    rw [closeNegotiation_record h] at hrecord
    cases hrecord
  cases facts with
  | refused rejections => exact (hclosed h₃).elim
  | accepted facts =>
      simp only at h₃
      cases hstats : facts.statsHash with
      | none =>
          rw [hstats] at h₃
          exact (hclosed h₃).elim
      | some statsHash =>
          rw [hstats] at h₃
          simp only at h₃
          split_ifs at h₃ with hempty
          · exact (hclosed h₃).elim
          · obtain ⟨hbody, price, deliverable, hdoc⟩ := issueQuote_issued h₃ hrecord
            exact ⟨hbody, facts, statsHash, price, deliverable, hcompose, hstats, hempty, hdoc⟩

omit [RecoverableEcdsa] [Canonicalize] in
/-- What an accepted quote was computed from. -/
theorem composeQuote_accepted {corpus : Corpus} {body : Value} {rateCard : RateCardTerms}
    {density : DensityTerms} {facts : QuoteAccepted}
    (h : composeQuote corpus body rateCard density = .ok (.accepted facts)) :
    validateQuery (readQuery body) corpus = [] ∧
    facts.tractCount = (evaluateQuery (readQuery body) corpus).tracts.length ∧
    densityAsked body density = .ok facts.rowsPerTract ∧
    facts.deliverableRowCount = facts.rowsPerTract * facts.tractCount ∧
    criteriaHashOf body = .ok facts.criteriaHash ∧
    commitmentOf (evaluateQuery (readQuery body) corpus).tracts (readQuery body) =
      .ok facts.statsHash := by
  unfold composeQuote at h
  by_cases hrejected : 0 < (validateQuery (readQuery body) corpus).length
  · simp only [if_pos hrejected] at h
    cases h
  · simp only [if_neg hrejected] at h
    obtain ⟨rowsPerTract, hrows, h₁⟩ := bind_eq_ok.1 h
    obtain ⟨price, _, h₂⟩ := bind_eq_ok.1 h₁
    obtain ⟨statsHash, hstats, h₃⟩ := bind_eq_ok.1 h₂
    obtain ⟨criteriaHash, hcriteria, h₄⟩ := bind_eq_ok.1 h₃
    cases h₄
    exact ⟨List.eq_nil_of_length_eq_zero (by omega), rfl, hrows, rfl, hcriteria, hstats⟩

/-- The tracts a body selects. -/
def selectedTracts (seller : Seller) (body : Option Value) : List Tract :=
  (evaluateQuery (readQuery (queryBodyOf body)) seller.corpus).tracts

omit [Canonicalize] [RecoverableEcdsa] in
/-- The size and the commitment of an issued quote. -/
theorem Issued.size {body : Option Value} {record : QuoteRecord}
    (h : Issued seller body record) :
    densityAsked (queryBodyOf body) seller.density = .ok record.termsDocument.rowsPerTract ∧
    record.termsDocument.tractCount = (selectedTracts seller body).length ∧
    (selectedTracts seller body).length ≠ 0 ∧
    ∃ commitment, statsCommitment (aggregateStats (selectedTracts seller body)
        (readQuery (queryBodyOf body)).columns) (readQuery (queryBodyOf body)) = .ok commitment ∧
      record.termsDocument.statsHash = commitment.statsHash := by
  obtain ⟨facts, statsHash, price, deliverable, hcompose, hstats, hne, hdoc⟩ := h.priced
  obtain ⟨_, hcount, hrows, _, _, hcommitment⟩ := composeQuote_accepted hcompose
  rw [hdoc]
  refine ⟨hrows, hcount, fun hzero => hne (hcount.trans hzero), ?_⟩
  unfold commitmentOf at hcommitment
  rw [if_neg (fun hzero => hne (hcount.trans hzero)), hstats] at hcommitment
  obtain ⟨commitment, hc, heq⟩ := map_eq_ok.1 hcommitment
  exact ⟨commitment, hc, (Option.some.inj heq).symm⟩

/-! ## The criteria hash -/

omit [Digests] [Canonicalize] [RecoverableEcdsa] in
/-- The names in the criteria `statsCommitment` hashes. -/
theorem committedCriteria_canonical {q : Query} {committed : Value}
    (h : canonical "$" (committedCriteria q) = .ok committed) :
    ∃ columns counties rest, committed =
      .obj (("columns", columns) :: ("counties", counties) :: rest) := by
  obtain ⟨entries, rfl, hkeys⟩ := canonical_obj h
  have hsorted : sortTexts ["columns", "states", "counties", "minPopulation", "thresholds"] =
      ["columns", "counties", "minPopulation", "states", "thresholds"] := by decide
  obtain ⟨⟨k₁, columns⟩, rest₁, rfl, hk₁, hrest⟩ :=
    List.map_eq_cons_iff.1 (hkeys.trans hsorted)
  obtain ⟨⟨k₂, counties⟩, rest, rfl, hk₂, _⟩ := List.map_eq_cons_iff.1 hrest
  simp only at hk₁ hk₂
  subst hk₁ hk₂
  exact ⟨columns, counties, rest, rfl⟩

omit [Canonicalize] [HostLocale] [RecoverableEcdsa] in
/-- The text `criteriaHashOf` hashes: five members, or none for a body that is no
object. -/
theorem criteriaHashOf_ok {query : Value} {criteriaHash : String}
    (h : criteriaHashOf query = .ok criteriaHash) :
    ∃ criteria, criteriaHash = Digests.sha256Ref (utf8 (stringify criteria)) ∧
      (criteria = .obj [] ∨ ∃ columns states rest,
        criteria = .obj (("columns", columns) :: ("states", states) :: rest)) := by
  have hstated (h : (do return Digests.sha256Ref (utf8 (stringify (← statedCriteria query)))) =
      Except.ok criteriaHash) : ∃ criteria,
      criteriaHash = Digests.sha256Ref (utf8 (stringify criteria)) ∧
        (criteria = .obj [] ∨ ∃ columns states rest,
          criteria = .obj (("columns", columns) :: ("states", states) :: rest)) := by
    obtain ⟨criteria, hcriteria, h₁⟩ := bind_eq_ok.1 h
    obtain ⟨columns, _, h₂⟩ := bind_eq_ok.1 hcriteria
    obtain ⟨states, _, h₃⟩ := bind_eq_ok.1 h₂
    obtain ⟨counties, _, h₄⟩ := bind_eq_ok.1 h₃
    cases h₁
    cases h₄
    exact ⟨_, rfl, Or.inr ⟨columns, states, _, rfl⟩⟩
  unfold criteriaHashOf at h
  split at h
  · exact hstated h
  · exact hstated h
  · cases h
    exact ⟨_, rfl, Or.inl rfl⟩

omit [Canonicalize] [RecoverableEcdsa] in
/-- The two criteria hashes never agree: after `columns`, the one text goes on with
`states` and the other with `counties`. -/
theorem criteriaHashOf_ne_statsCommitment
    (hsha : Function.Injective (Digests.sha256 : Bytes → Bytes)) {query : Value} {q : Query}
    {stats : AggregateStats} {criteriaHash : String} {commitment : StatsCommitment}
    (hcriteria : criteriaHashOf query = .ok criteriaHash)
    (hcommitment : statsCommitment stats q = .ok commitment) :
    commitment.criteriaHash ≠ criteriaHash := by
  obtain ⟨statsHash, _, h₁⟩ := bind_eq_ok.1 hcommitment
  obtain ⟨committedHash, hcommitted, h₂⟩ := bind_eq_ok.1 h₁
  cases h₂
  obtain ⟨text, htext, rfl⟩ := map_eq_ok.1 hcommitted
  obtain ⟨committed, hcanonical, rfl⟩ := map_eq_ok.1 htext
  obtain ⟨columns, counties, rest, rfl⟩ := committedCriteria_canonical hcanonical
  obtain ⟨criteria, rfl, hshape⟩ := criteriaHashOf_ok hcriteria
  intro heq
  have hbytes := (Digests.sha256Ref_inj hsha).1 heq
  have htexts := String.ofList_injective (utf8_injective hbytes)
  rcases hshape with rfl | ⟨columns', states, rest', rfl⟩
  · obtain ⟨_, hmembers⟩ := List.cons.inj htexts
    refine Json.membersText_cons_ne numberText true ("columns", columns)
      (("counties", counties) :: rest) [] [] ?_
    rw [List.append_nil]
    exact hmembers
  · obtain ⟨_, hmembers⟩ := List.cons.inj htexts
    obtain ⟨_, _, htail⟩ := Json.membersText_cons_cancel numberText hmembers
    have hname : "counties" = "states" := (Json.membersText_cons_cancel numberText htail).1
    exact absurd hname (by decide)

omit [RecoverableEcdsa] in
theorem Issued.criteriaHash_ne (hsha : Function.Injective (Digests.sha256 : Bytes → Bytes))
    {body : Option Value} {record : QuoteRecord} {dealId cap : String} {now : ℕ}
    {out : DeliveryResult} (h : Issued seller body record)
    (hout : generateDelivery (deliveryInputFor seller record dealId cap now) = .ok out) :
    out.manifest.criteriaHash ≠ record.termsDocument.criteriaHash := by
  obtain ⟨facts, statsHash, price, deliverable, hcompose, _, _, hdoc⟩ := h.priced
  obtain ⟨_, _, _, _, hcriteria, _⟩ := composeQuote_accepted hcompose
  obtain ⟨_, commitment, people, _, hcommitment, _, _, _, _, rfl⟩ := generateDelivery_eq_ok.1 hout
  rw [hdoc]
  exact criteriaHashOf_ne_statsCommitment hsha hcriteria hcommitment

omit [RecoverableEcdsa] in
/-- No delivery meets the criteria hash of the terms it is delivered under. -/
theorem delivered_criteriaHash_ne (hsha : Function.Injective (Digests.sha256 : Bytes → Bytes))
    {buyerAgentId : String} {body : Option Value} {s s' : Stores} {result : QuoteResult}
    {record : QuoteRecord} {dealId cap : String} {now : ℕ} {out : DeliveryResult}
    (hquote : (quote seller buyerAgentId body).run s = (.ok result, s'))
    (hrecord : result.record = some record)
    (hout : generateDelivery (deliveryInputFor seller record dealId cap now) = .ok out) :
    out.manifest.criteriaHash ≠ record.termsDocument.criteriaHash :=
  (quote_issued hquote hrecord).criteriaHash_ne hsha hout

/-! ## Issuing a quote -/

/-- The record a run has issued. -/
def issuedRecord (run : Except Failure QuoteResult × Stores) : Option QuoteRecord :=
  match run.1 with
  | .ok result => result.record
  | .error _ => none

omit [Digests] [Canonicalize] [HostLocale] [RecoverableEcdsa] in
theorem exists_issued {p : SellerProg QuoteResult} {s : Stores}
    (h : (issuedRecord (p.run s)).isSome = true) :
    ∃ result s' record, p.run s = (.ok result, s') ∧ result.record = some record := by
  obtain ⟨record, hrecord⟩ := Option.isSome_iff_exists.1 h
  rcases hrun : p.run s with ⟨_ | result, s'⟩
  · rw [hrun] at hrecord
    cases hrecord
  · rw [hrun] at hrecord
    exact ⟨result, s', record, rfl, hrecord⟩

omit [HostLocale] [RecoverableEcdsa] in
theorem issueQuote_ok {facts : QuoteAccepted} {negotiation : NegotiationRecord}
    {statsHash : String} {price : Price} {deliverable : Deliverable}
    (hprice : facts.body.price = some price)
    (hdeliverable : facts.body.deliverable = some deliverable)
    (hhash : (termsDocumentHashOf
      (termsDocumentOf seller facts statsHash price deliverable)).isOk = true) (s : Stores) :
    (issuedRecord ((issueQuote seller facts negotiation statsHash).run s)).isSome = true := by
  obtain ⟨hash, hhash⟩ := exists_of_isOk hhash
  unfold issueQuote
  rw [hprice, hdeliverable]
  simp only
  rw [Prog.run_bind_of_ok (by rw [Prog.run_lift, hhash])]
  rfl

omit [RecoverableEcdsa] in
/-- A priced query gets a quote. -/
theorem quote_ok {body : Option Value} {buyerAgentId statsHash : String} {facts : QuoteAccepted} {price : Price}
    {deliverable : Deliverable} (hbuyer : isBuyerDid buyerAgentId = true)
    (hcompose : composeFor seller (queryBodyOf body) = .ok (.accepted facts))
    (hstats : facts.statsHash = some statsHash) (hne : facts.tractCount ≠ 0)
    (hprice : facts.body.price = some price)
    (hdeliverable : facts.body.deliverable = some deliverable)
    (hhash : (termsDocumentHashOf
      (termsDocumentOf seller facts statsHash price deliverable)).isOk = true) (s : Stores) :
    (issuedRecord ((quote seller buyerAgentId body).run s)).isSome = true := by
  unfold quote
  have hdid : throwIf (isBuyerDid buyerAgentId = false)
      (.ok "query carries a valid `buyerAgentId` Kite DID") = .ok () := by
    simp [throwIf, hbuyer]
  simp only [hdid, hcompose, hstats, if_neg hne, randomHex, historyEntry, Prog.run_bind,
    Prog.run_lift, Prog.run_get, Prog.run_pure, Prog.run_modify]
  exact issueQuote_ok hprice hdeliverable hhash _

omit [Canonicalize] [RecoverableEcdsa] in
/-- A valid query that prices and commits is accepted. -/
theorem composeQuote_ok {corpus : Corpus} {body : Value} {rateCard : RateCardTerms}
    {density : DensityTerms} {rowsPerTract : ℕ} {price : Option Price}
    {statsHash : Option String} {criteriaHash : String}
    (hvalid : validateQuery (readQuery body) corpus = [])
    (hrows : densityAsked body density = .ok rowsPerTract)
    (hprice : priceOf (evaluateQuery (readQuery body) corpus).tracts.length (readQuery body).columns
      rateCard = .ok price)
    (hstats : commitmentOf (evaluateQuery (readQuery body) corpus).tracts (readQuery body) =
      .ok statsHash)
    (hcriteria : criteriaHashOf body = .ok criteriaHash)
    (hne : (evaluateQuery (readQuery body) corpus).tracts.length ≠ 0) :
    ∃ facts, composeQuote corpus body rateCard density = .ok (.accepted facts) ∧
      facts.statsHash = statsHash ∧ facts.body.price = price ∧
      facts.tractCount = (evaluateQuery (readQuery body) corpus).tracts.length ∧
      facts.rowsPerTract = rowsPerTract ∧
      facts.deliverableRowCount = rowsPerTract * facts.tractCount ∧
      facts.body.deliverable = some (deliverableBlock
        (aggregateStats (evaluateQuery (readQuery body) corpus).tracts (readQuery body).columns)
        (readQuery body).columns rowsPerTract
        (evaluateQuery (readQuery body) corpus).tracts.length) := by
  have hnone : ¬ 0 < (validateQuery (readQuery body) corpus).length := by
    rw [hvalid]
    decide
  unfold composeQuote
  simp only [if_neg hnone, hrows, hprice, hstats, hcriteria, ok_bind]
  refine ⟨_, rfl, rfl, rfl, rfl, rfl, rfl, if_neg hne⟩

end Quotes

/-! ## A quote of one tract -/

section OneTract

attribute [local instance] HostLocale.ascii Canonicalize.plain

/-- A seller of a corpus, on the terms of the published card. -/
def demoSeller (corpus : Corpus) : Seller where
  config := ⟨[1], "https://seller.example", "secret"⟩
  env := ⟨"did:kite:corp-kite:example-data-seller-agent",
    "0x3333333333333333333333333333333333333333", "https://passport.dev.gokite.ai/a2a/v1"⟩
  rateCard := ⟨100, 0, 500, 500, 10000⟩
  density := ⟨25, 1, 100⟩
  productId := "cdc-places-2025-synthetic-individuals"
  corpus
  corpusHash := "sha256:corpus"
  verifierHash := "sha256:verifier"

def demoBuyer : String :=
  "did:kite:corp-kite:buyer"

/-- An order of one measure, at one row a tract. -/
def oneMeasure : Value :=
  .obj [("columns", .arr [.str "DIABETES"]), ("rowsPerTract", .num 1)]

def oneMeasureQuery : Query :=
  readQuery (queryBodyOf (some oneMeasure))

theorem evaluate_oneMeasure :
    (evaluateQuery oneMeasureQuery oneTractCorpus).tracts = [publishedTract] := by
  have hsurvives : survives oneMeasureQuery publishedTract = true := by decide +kernel
  simp [evaluateQuery, oneTractCorpus, hsurvives]

section Delivery

variable [Digests]

def oneMeasureOptions (dealId : String) : SynthesisOptions :=
  ⟨(1 : ℕ), some 1, deliverableSeed "secret" dealId, oneMeasureQuery.columns⟩

/-- The file of the order is calibrated and its manifest has finite numbers only. -/
def deliverable (people : Except Failure (List SyntheticPerson)) : Bool :=
  match people with
  | .ok people =>
    let calibration := calibrate people [publishedTract] oneMeasureQuery.columns
    isCalibrated calibration && calibration.all (fun c => allFinite c.toValue) &&
      (Float.ofNat (serializeCsv people oneMeasureQuery.columns).length).isFinite &&
      (Float.ofNat
        (distinct (people.map SyntheticPerson.sourceTractFIPS)).length).isFinite
  | .error _ => false

/-- What a delivery of the order is generated from. -/
def oneMeasureInput (dealId cap : String) (now : ℕ) (statsHash : String) : DeliveryInput where
  dealId
  productId := (demoSeller oneTractCorpus).productId
  query := oneMeasureQuery
  corpus := oneTractCorpus
  rowsPerTract := 1
  seed := deliverableSeed "secret" dealId
  artifactLocator := some ((demoSeller oneTractCorpus).csvUrl dealId cap)
  quotedStatsHash := some statsHash
  now := Date.toISOString now

theorem deliveryInputFor_oneMeasure {record : QuoteRecord}
    (h : Issued (demoSeller oneTractCorpus) (some oneMeasure) record) :
    ∃ commitment, statsCommitment (aggregateStats [publishedTract] oneMeasureQuery.columns)
        oneMeasureQuery = .ok commitment ∧
      ∀ dealId cap now, deliveryInputFor (demoSeller oneTractCorpus) record dealId cap now =
        oneMeasureInput dealId cap now commitment.statsHash := by
  obtain ⟨hrows, _, _, commitment, hcommitment, hstats⟩ := h.size
  have hone : record.termsDocument.rowsPerTract = 1 := by
    have hasked : densityAsked (queryBodyOf (some oneMeasure))
        (demoSeller oneTractCorpus).density = .ok 1 := by decide +kernel
    exact Except.ok.inj (hrows.symm.trans hasked)
  have htracts : selectedTracts (demoSeller oneTractCorpus) (some oneMeasure) =
      [publishedTract] := evaluate_oneMeasure
  rw [htracts] at hcommitment
  refine ⟨commitment, hcommitment, fun dealId cap now => ?_⟩
  simp only [deliveryInputFor, oneMeasureInput, hone, hstats, h.queryBody]
  rfl

/-- Every delivery of the order succeeds. -/
theorem oneMeasure_delivered {record : QuoteRecord} {dealId : String}
    (hpeople : deliverable (generateSyntheticPeople [publishedTract] (oneMeasureOptions dealId)) =
      true)
    (hissued : Issued (demoSeller oneTractCorpus) (some oneMeasure) record) (cap : String)
    (now : ℕ) :
    ∃ out, generateDelivery (deliveryInputFor (demoSeller oneTractCorpus) record dealId cap now) =
      .ok out := by
  obtain ⟨commitment, hcommitment, hinput⟩ := deliveryInputFor_oneMeasure hissued
  rw [hinput]
  rcases hgenerated : generateSyntheticPeople [publishedTract] (oneMeasureOptions dealId) with
    _ | people
  · rw [hgenerated] at hpeople
    cases hpeople
  · rw [hgenerated] at hpeople
    simp only [deliverable, Bool.and_eq_true] at hpeople
    obtain ⟨⟨⟨hcalibrated, hfinite⟩, hlength⟩, htracts⟩ := hpeople
    have hmatched : (evaluateQuery (oneMeasureInput dealId cap now commitment.statsHash).query
        (oneMeasureInput dealId cap now commitment.statsHash).corpus).tracts = [publishedTract] :=
      evaluate_oneMeasure
    have hmanifest : allFinite (manifestFor (oneMeasureInput dealId cap now commitment.statsHash)
        commitment people).toValue = true := by
      refine DeliveryManifest.allFinite_toValue.2 ⟨?_, ?_, ?_, ?_, hlength⟩
      · simp only [manifestFor, oneMeasureInput, allFinite_obj, List.all_cons, List.all_nil,
          allFinite_textList, Bool.true_and, Bool.and_true]
        decide +kernel
      · simp only [manifestFor, hmatched]
        exact (by decide +kernel : (Float.ofNat (1 * 1)).isFinite = true)
      · intro d hd
        simp only [manifestFor, hmatched, Option.mem_def, Option.some.injEq] at hd
        subst hd
        refine Density.allFinite_toValue.2 ⟨?_, ?_, htracts, ?_, ?_⟩
        · exact (by decide +kernel : (Float.ofNat 1).isFinite = true)
        · exact (by decide +kernel : (Float.ofNat 1).isFinite = true)
        · exact (by decide +kernel : (Float.ofNat 1).isFinite = true)
        · exact (by decide +kernel : ((standardErrors (aggregateStats [publishedTract]
            oneMeasureQuery.columns) oneMeasureQuery.columns 1).all fun e => e.2.isFinite) = true)
      · simp only [manifestFor, hmatched]
        exact hfinite
    refine ⟨_, generateDelivery_eq_ok.2 ⟨?_, commitment, people, _, ?_, rfl, ?_, ?_,
      jcs_plain hmanifest, rfl⟩⟩
    · rw [hmatched]
      decide
    · rw [hmatched]
      exact hcommitment
    · rw [deliveryOptions, hmatched]
      exact hgenerated
    · rw [hmatched]
      exact hcalibrated

end Delivery

section Ideal

attribute [local instance] Digests.ideal

theorem exists_oneMeasure_delivery : ∃ result s' record out,
    (quote (demoSeller oneTractCorpus) demoBuyer (some oneMeasure)).run Stores.empty =
      (.ok result, s') ∧
    result.record = some record ∧
    generateDelivery (deliveryInputFor (demoSeller oneTractCorpus) record "deal_0" "cap" 0) =
      .ok out := by
  obtain ⟨result, s', record, hquote, hrecord⟩ := exists_issued (by decide +kernel :
    (issuedRecord ((quote (demoSeller oneTractCorpus) demoBuyer (some oneMeasure)).run
      Stores.empty)).isSome = true)
  obtain ⟨out, hout⟩ := oneMeasure_delivered (by decide +kernel :
    deliverable (generateSyntheticPeople [publishedTract] (oneMeasureOptions "deal_0")) = true)
    (quote_issued hquote hrecord) "cap" 0
  exact ⟨result, s', record, out, hquote, hrecord, hout⟩

/-- A delivery of the order misses the criteria hash of its terms. -/
theorem oneMeasure_criteriaHash_ne : ∃ record out,
    generateDelivery (deliveryInputFor (demoSeller oneTractCorpus) record "deal_0" "cap" 0) =
      .ok out ∧
    out.manifest.criteriaHash ≠ record.termsDocument.criteriaHash := by
  obtain ⟨result, s', record, out, hquote, hrecord, hout⟩ := exists_oneMeasure_delivery
  exact ⟨record, out, hout, delivered_criteriaHash_ne Function.injective_id hquote hrecord hout⟩

/-- The criteria hash of the terms is not the one of the delivery. -/
theorem criteriaHash_not_end_to_end :
    ¬ ∀ (seller : Seller) (buyerAgentId : String) (body : Option Value) (s s' : Stores)
      (result : QuoteResult) (record : QuoteRecord) (dealId cap : String) (now : ℕ)
      (out : DeliveryResult),
      (quote seller buyerAgentId body).run s = (.ok result, s') →
        result.record = some record →
        generateDelivery (deliveryInputFor seller record dealId cap now) = .ok out →
        out.manifest.criteriaHash = record.termsDocument.criteriaHash := by
  intro hsame
  obtain ⟨result, s', record, out, hquote, hrecord, hout⟩ := exists_oneMeasure_delivery
  exact (quote_issued hquote hrecord).criteriaHash_ne Function.injective_id hout
    (hsame _ _ _ _ _ _ _ _ _ _ _ hquote hrecord hout)

end Ideal

end OneTract

end DataSeller

end Coordination
