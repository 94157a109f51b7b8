import Coordination.DataSeller.Client
import Coordination.DataSeller.Stores

/-!
# The seller

The operations of `DataSeller`: it issues quotes, takes proposals against them,
countersigns, prepares deliveries behind a capability and hands out the artifacts.
Every operation runs without a wait, except that a delivery waits for the
artifact store.
-/

namespace Coordination

namespace DataSeller

open JavaScript Library Engine

structure SellerConfig where
  privateKey : Bytes
  publicUrl : String
  seedSecret : String

/-- What a booted seller works from. -/
structure Seller where
  config : SellerConfig
  env : Environment
  rateCard : RateCardTerms
  density : DensityTerms
  productId : String
  corpus : Corpus
  corpusHash : String
  verifierHash : String

def isLabelChar (c : Char) : Bool :=
  c.isLower || c.isDigit || c = '_' || c = '-'

/-- `[a-z0-9]([a-z0-9_-]*[a-z0-9])?`. -/
def isDidLabel (cs : List Char) : Bool :=
  let isEnd (c : Char) : Bool := c.isLower || c.isDigit
  cs.all isLabelChar && cs.head?.any isEnd && cs.getLast?.any isEnd

/-- `BUYER_DID_PATTERN`. -/
def isBuyerDid (s : String) : Bool :=
  match dropExact "did:kite:".toList s.toList with
  | none => false
  | some cs =>
    match cs.splitOn ':' with
    | [org, name] => isDidLabel org && isDidLabel name
    | _ => false

def generatorVersion : String :=
  "stratified-marginal-bernoulli/v2 (data-seller-agent 0.0.1)"

section Operations

variable [Digests] [Canonicalize] [HostLocale] [RecoverableEcdsa] (seller : Seller)

def Seller.keyId : String :=
  keyIdOf seller.env.sellerAgentId seller.config.privateKey

def Seller.address : String :=
  addressOfPrivateKey seller.config.privateKey

def Seller.base : String :=
  withoutSlash seller.config.publicUrl

/-! ## Quotes -/

/-- `Math.max(...xs)`. -/
def maxOf (xs : List Number) : Number :=
  xs.foldl Number.max (-1 / 0)

/-- The body a quote is computed from: a copy of what was sent. -/
def queryBodyOf : Option Value → Value
  | some (.obj ms) => jsonOf (.obj ms)
  | some (.arr xs) => jsonOf (.arr xs)
  | _ => .obj []

/-- The terms document of a priced quote. -/
def termsDocumentOf (facts : QuoteAccepted) (statsHash : String) (price : Price)
    (deliverable : Deliverable) : TermsDocument :=
  let limitation := "marginal prevalences are reproduced; the joint distribution is not"
  { format := "kite-example-data-deal-terms/v1"
    criteriaHash := facts.criteriaHash
    statsHash
    rowsPerTract := facts.rowsPerTract
    totalRows := facts.deliverableRowCount
    tractCount := facts.tractCount
    perTractStandardErrorPp := maxOf (deliverable.perTractStandardErrorPp.map Prod.snd)
    method := "stratified-marginal-bernoulli/v2"
    seedDisclosure := "seed published in the delivery manifest"
    generatorVersion
    corpusHash := seller.corpusHash
    verifierHash := seller.verifierHash
    usage := {
      resale := false
      retentionDays := 365
      prohibitedUse := "not for clinical, epidemiological, eligibility, or policy decisions " ++
        "about any real person"
      limitations := if deliverable.note = "" then [limitation] else [limitation, deliverable.note] }
    artifactAvailability := "served until 14 days after a seller-favour settlement; revoked on " ++
      "refund outcomes; demo-grade process-local storage"
    priceBreakdownCents := price.breakdownCents
    priceAmount := (price.listCents / 100).toFixed 2 }

/-- What `quote` returns. -/
structure QuoteResult where
  facts : QuoteFacts
  negotiation : NegotiationRecord
  record : Option QuoteRecord

def composeFor (queryBody : Value) : Except Failure QuoteFacts :=
  composeQuote seller.corpus queryBody seller.rateCard seller.density

/-- Keep a negotiation that issued no quote. -/
def closeNegotiation (facts : QuoteFacts) (negotiation : NegotiationRecord) (summary : String) :
    SellerProg QuoteResult := do
  let answer ← historyEntry ⟨.negotiation, .sellerToBuyer, "quote", summary, none⟩
  let negotiation := { negotiation with
    updatedAt := answer.at_, history := negotiation.history ++ [answer] }
  Prog.modify fun s =>
    { s with negotiations := s.negotiations.set negotiation.negotiationId negotiation }
  pruneNegotiations negotiation.negotiationId
  return { facts, negotiation, record := none }

/-- Issue a quote with its terms document. -/
def issueQuote (facts : QuoteAccepted) (negotiation : NegotiationRecord) (statsHash : String) :
    SellerProg QuoteResult := do
  match facts.body.price, facts.body.deliverable with
  | some price, some deliverable => do
    let termsDocument := termsDocumentOf seller facts statsHash price deliverable
    let termsDocumentHash ← Prog.lift (termsDocumentHashOf termsDocument)
    let answer ← historyEntry ⟨.negotiation, .sellerToBuyer, "quote",
      s!"Seller quoted {termsDocument.priceAmount} USDC for {termsDocument.totalRows} rows", none⟩
    let record : QuoteRecord := {
      negotiationId := negotiation.negotiationId
      buyerAgentId := negotiation.buyerAgentId
      termsDocument
      termsDocumentHash
      queryBody := negotiation.queryBody
      facts
      issuedAt := negotiation.createdAt
      history := negotiation.history ++ [answer] }
    let negotiation := { negotiation with
      state := .QUOTED
      termsDocumentHash := some termsDocumentHash
      updatedAt := answer.at_
      history := negotiation.history ++ [answer] }
    Prog.modify fun s => { s with
      negotiations := s.negotiations.set negotiation.negotiationId negotiation
      quotes := s.quotes.set negotiation.negotiationId record }
    pruneNegotiations negotiation.negotiationId
    return { facts := .accepted facts, negotiation, record := some record }
  | _, _ => Prog.throw .typeError

/-- `quote`. -/
def quote (buyerAgentId : String) (body : Option Value) : SellerProg QuoteResult := do
  Prog.lift (throwIf (isBuyerDid buyerAgentId = false)
    (.ok "query carries a valid `buyerAgentId` Kite DID"))
  let negotiationId := "neg_" ++ (← randomHex 8)
  let queryBody := queryBodyOf body
  let queryEntry ← historyEntry ⟨.negotiation, .buyerToSeller, "query",
    "Buyer requested a priced data slice", none⟩
  let negotiation : NegotiationRecord := {
    negotiationId
    buyerAgentId
    state := .REFUSED
    queryBody
    createdAt := queryEntry.at_
    updatedAt := queryEntry.at_
    termsDocumentHash := none
    dealIds := []
    history := [queryEntry] }
  match ← Prog.lift (composeFor seller queryBody) with
  | .refused rejections =>
    closeNegotiation (.refused rejections) negotiation
      "Seller refused the query with named rejection codes"
  | .accepted facts =>
    match facts.statsHash with
    | some statsHash =>
      if facts.tractCount = 0 then
        closeNegotiation (.accepted facts) negotiation
          "Seller returned an empty, unpriceable result without issuing a quote"
      else issueQuote seller facts negotiation statsHash
    | none =>
      closeNegotiation (.accepted facts) negotiation
        "Seller returned an empty, unpriceable result without issuing a quote"

/-- `selectedQuote`. -/
def selectedQuote (negotiationId : String) (contract : Value) : SellerProg QuoteRecord := do
  match (← Prog.get).quotes.get? negotiationId with
  | none => Prog.lift (error (s!"negotiation {negotiationId} has no accepted quote (or the " ++
      "process restarted — demo state is not durable)"))
  | some record => do
    let pinned ← Prog.lift (prop (some contract) "acceptanceCriteria")
    match parseAcceptanceCriteria (← Prog.lift (textOrEmpty pinned)) with
    | none => Prog.lift (error "acceptanceCriteria pins no terms document")
    | some commitment => do
      Prog.lift (throwIf (commitment.termsDocumentHash ≠ record.termsDocumentHash)
        (.ok s!"proposal does not select the quote issued by negotiation {negotiationId}"))
      let buyerAgentId ← Prog.lift (prop (some contract) "buyerAgentId")
      Prog.lift (throwIf (strictEq buyerAgentId (some (.str record.buyerAgentId)) = false)
        (.ok (s!"proposal buyerAgentId does not match negotiation {negotiationId} " ++
          s!"({record.buyerAgentId})")))
      return record

/-! ## Proposals -/

/-- `linkNegotiation`. -/
def linkNegotiation (negotiationId dealId : String) (at_ : ℕ) : SellerProg Unit := do
  match (← Prog.get).negotiations.get? negotiationId with
  | none => Prog.lift (error s!"unknown negotiation {negotiationId}")
  | some _ => Prog.modify fun s => { s with
      negotiations := s.negotiations.modify negotiationId fun negotiation => { negotiation with
        state := .AGREEMENT_STARTED
        updatedAt := at_
        dealIds := if dealId ∈ negotiation.dealIds then negotiation.dealIds
          else negotiation.dealIds ++ [dealId] } }

/-- The record of a deal just proposed. -/
def proposedDeal (dealId negotiationId : String) (record : QuoteRecord) (contract : Value)
    (buyerAddress : String) (now : ℕ) : DealRecord where
  dealId
  negotiationId
  state := .PROPOSED_LOCAL
  runtimeState := none
  runtimeRevision := none
  termsDocumentHash := record.termsDocumentHash
  buyerAddress
  contract
  createdAt := now
  updatedAt := now
  history := record.history
  capabilityToken := none
  capabilityRevoked := false
  manifest := none
  manifestBytes := none
  deliveryHash := none
  csvBytes := none

/-- Hold a new deal and link it to its negotiation. -/
def insertDeal (dealId negotiationId : String) (record : QuoteRecord) (contract : Value)
    (buyerAddress : String) : SellerProg ℕ := do
  let now := (← Prog.get).now
  let r ← createDeal (proposedDeal dealId negotiationId record contract buyerAddress now)
  linkNegotiation negotiationId dealId now
  return r

/-- `propose`. -/
def propose (negotiationId : String) (contract : Value) (buyerAddress : String) :
    SellerProg String := do
  pruneDeals
  let record ← selectedQuote negotiationId contract
  let dealId := "deal_" ++ (← randomHex 6)
  let _ ← insertDeal dealId negotiationId record contract buyerAddress
  recordInteraction dealId ⟨.formation, .buyerToSeller, "submit-proposal",
    "Buyer submitted a signed proposal based on the selected quote", some "PROPOSED_LOCAL"⟩
  let _ ← Prog.lift (termsHashOf contract)
  recordInteraction dealId ⟨.formation, .sellerToBuyer, "proposal-ack",
    "Seller validated the quote reference and acknowledged the proposal", some "PROPOSED_LOCAL"⟩
  return dealId

/-- `registerLiveDeal`: the record of the deal, the stored one where there is one. -/
def registerLiveDeal (dealId negotiationId : String) (contract : Value) (buyerAddress : String) :
    SellerProg ℕ := do
  pruneDeals
  let record ← selectedQuote negotiationId contract
  match (← Prog.get).deals.find? dealId with
  | some r => do
    let existing ← readDeal r
    Prog.lift (throwIf (existing.negotiationId ≠ negotiationId ∨
        existing.termsDocumentHash ≠ record.termsDocumentHash ∨
        HostLocale.toLowerCase existing.buyerAddress ≠ HostLocale.toLowerCase buyerAddress)
      (.ok s!"deal {dealId} retry does not match the proposal already observed"))
    return r
  | none => do
    let r ← insertDeal dealId negotiationId record contract buyerAddress
    recordInteraction dealId ⟨.formation, .buyerToRuntime, "proposal",
      "Buyer submitted the signed proposal to the Coordination Runtime", some "PROPOSED"⟩
    return r

/-! ## The Runtime's view -/

/-- `runtimeStatePhase`. -/
def runtimeStatePhase (state : String) : HistoryPhase :=
  if state ∈ ["PROPOSED", "COMMITTED"] then .formation
  else if state ∈ ["FUNDING", "FUNDED", "FULFILLING"] then .funding
  else if state = "DELIVERED" then .fulfillment
  else .settlement

/-- `observeRuntimeStatus`. -/
def observeRuntimeStatus (dealId : String) (status : Option Value) (summary : Option String) :
    SellerProg Unit := do
  let r ← dealOf dealId
  let state ← Prog.lift (do textOrEmpty (← prop status "state"))
  if state ≠ "" then
    let revision ← Prog.lift (do toNumber (← prop status "revision"))
    let deal ← readDeal r
    writeDeal r (fun deal => { deal with
      runtimeState := some state
      runtimeRevision := if revision.isFinite then some revision else deal.runtimeRevision })
      fun _ => rfl
    if deal.runtimeState ≠ some state then
      recordInteraction dealId ⟨runtimeStatePhase state, .runtimeToSeller, "runtime-state",
        summary.getD s!"Coordination Runtime reported {state}", some state⟩

/-! ## Countersigning -/

/-- `recomputeFor`. -/
def recomputeFor (record : QuoteRecord) : Except Failure Recomputed := do
  let refusal := "the quoted slice no longer prices — refusing to countersign"
  match ← composeFor seller record.queryBody with
  | .refused _ => error refusal
  | .accepted facts =>
    match facts.statsHash, facts.body.price with
    | some statsHash, some price => do
      return {
        priceAmount := (price.listCents / 100).toFixed 2
        criteriaHash := ← criteriaHashOf record.queryBody
        statsHash }
    | _, _ => error refusal

/-- `error.message`. -/
def messageOf : Failure → String
  | .raised _ message => message
  | .domainRejection code message _ => s!"{code}: {message}"
  | _ => ""

/-- The countersigning attempt of `accept`, with its signatures left out. -/
def countersignTerms (deal : DealRecord) (record : QuoteRecord) (proposal : Value)
    (buyerAgreementSig : String) (chainId : Option Number) : Except Failure Value := do
  let recomputed ← recomputeFor seller record
  (acceptTerms seller.env {
    contract := proposal
    buyerAddress := deal.buyerAddress
    dealId := deal.dealId
    buyerAgreementSig
    privateKey := seller.config.privateKey
    keyId := seller.keyId
    sellerAddress := seller.address
    chainId
    validation := { termsDocument := record.termsDocument, recomputed } }).run [] |>.1

/-- `accept`. -/
def accept (dealId buyerAgreementSig : String) (chainId : Option Number)
    (proposedContract : Option Value) : SellerProg Value := do
  let r ← dealOf dealId
  let deal ← readDeal r
  let proposal := (orElse proposedContract (some deal.contract)).getD .null
  match (← Prog.get).quotes.get? deal.negotiationId with
  | none => Prog.lift (error s!"quote for negotiation {deal.negotiationId} is unavailable")
  | some record => do
    recordInteraction dealId ⟨.formation, .buyerToSeller, "acceptance-request",
      "Buyer requested the seller's countersignature", some deal.stateText⟩
    let accepted ← (Prog.lift (countersignTerms seller deal record proposal buyerAgreementSig
      chainId)).onError fun e => do
        recordInteraction dealId ⟨.formation, .sellerToBuyer, "acceptance-refused", messageOf e,
          some deal.stateText⟩
        Prog.throw e
    writeDeal r (fun deal => { deal with contract := accepted, state := .ACCEPTED_LOCAL })
      fun _ => rfl
    recordInteraction dealId ⟨.formation, .sellerToBuyer, "acceptance-result",
      "Seller countersigned the agreement", some "ACCEPTED_LOCAL"⟩
    return accepted

/-! ## Delivery -/

def Seller.manifestUrl (dealId cap : String) : String :=
  s!"{seller.base}/deliveries/{dealId}/manifest.json?cap={cap}"

def Seller.csvUrl (dealId cap : String) : String :=
  s!"{seller.base}/deliveries/{dealId}/data.csv?cap={cap}"

/-- What `prepareDelivery` hands to the generator. -/
def deliveryInputFor (record : QuoteRecord) (dealId cap : String) (now : ℕ) : DeliveryInput where
  dealId
  productId := seller.productId
  query := readQuery record.queryBody
  corpus := seller.corpus
  rowsPerTract := record.termsDocument.rowsPerTract
  seed := deliverableSeed seller.config.seedSecret dealId
  artifactLocator := some (seller.csvUrl dealId cap)
  quotedStatsHash := some record.termsDocument.statsHash
  now := Date.toISOString now

structure PreparedDelivery where
  dealId : String
  termsHash : String
  manifestUrl : String
  csvUrl : String
  envelope : Value
  deliveryHash : String

/-- `prepareDelivery` up to the generation: the record it writes to, the quote it
delivers and the capability it has minted. -/
def beginDelivery (dealId : String) : SellerProg (ℕ × QuoteRecord × String) := do
  let r ← dealOf dealId
  let deal ← readDeal r
  Prog.lift (throwIf (deal.state = .PROPOSED_LOCAL) (.ok s!"deal {dealId} is not accepted yet"))
  match (← Prog.get).quotes.get? deal.negotiationId with
  | none => Prog.lift (error s!"quote for negotiation {deal.negotiationId} is unavailable")
  | some record => return (r, record, ← randomHex 16)

/-- `prepareDelivery` from the generation on. -/
def finishDelivery (dealId : String) (r : ℕ) (record : QuoteRecord) (cap : String) :
    SellerProg PreparedDelivery := do
  let now := (← Prog.get).now
  let out ← Prog.lift (generateDelivery (deliveryInputFor seller record dealId cap now))
  writeDeal r (fun deal => { deal with
    capabilityToken := some cap
    manifest := some out.manifest
    manifestBytes := some out.manifestBytes
    deliveryHash := some out.deliveryHash
    csvBytes := some out.bytes
    state := .DELIVERED_LOCAL }) fun _ => rfl
  recordInteraction dealId ⟨.fulfillment, .system, "delivery-prepared",
    s!"Seller generated {out.manifest.rowCount.toText} rows and committed the delivery hash",
    some "DELIVERED_LOCAL"⟩
  let deal ← readDeal r
  let termsHash ← Prog.lift (termsHashOf deal.contract)
  let envelope ← Prog.lift (evidenceEnvelope seller.env {
    dealId
    termsHash
    manifestHash := out.deliveryHash
    manifestUrl := seller.manifestUrl dealId cap
    manifestBytes := out.manifestBytes.length } seller.config.privateKey seller.keyId)
  return {
    dealId
    termsHash
    manifestUrl := seller.manifestUrl dealId cap
    csvUrl := seller.csvUrl dealId cap
    envelope
    deliveryHash := out.deliveryHash }

/-- `prepareDelivery`. -/
def prepareDelivery {κ : Type} (dealId : String) : Task Stores κ PreparedDelivery := do
  let (r, record, cap) ← Async.atomic (beginDelivery dealId)
  let _ ← call (.stored dealId)
  Async.atomic (finishDelivery seller dealId r record cap)

/-- `commandFor`. -/
def commandFor (dealId : String) (anchors : SettlementAnchors) (evidenceId : String)
    (expectedRevision : Number) : SellerProg Value := do
  let s ← Prog.get
  match (s.deals.get? dealId).bind fun deal => deal.deliveryHash.map fun hash => (deal, hash) with
  | none => Prog.lift (error s!"no prepared delivery for {dealId}")
  | some (deal, deliveryHash) => do
    let termsHash ← Prog.lift (termsHashOf deal.contract)
    Prog.lift (deliveredCommand seller.env ⟨s.random, s.now⟩
      { dealId, expectedRevision, termsHash, evidenceId, deliveryHash, anchors }
      seller.config.privateKey seller.keyId)

/-- `deliver`: a delivery over the anchors of the demo, unless others are given. -/
def deliver {κ : Type} (dealId : String) (anchors : Option SettlementAnchors)
    (evidenceId : Option String) : Task Stores κ (PreparedDelivery × Value) := do
  let prepared ← prepareDelivery seller dealId
  let command ← Async.atomic (commandFor seller dealId (anchors.getD (demoAnchors dealId))
    (evidenceId.getD s!"ev_demo_{dealId}") 2)
  Async.atomic (recordInteraction dealId ⟨.fulfillment, .sellerToBuyer, "delivery",
    "Seller returned the signed delivery and evidence artifacts", some "DELIVERED_LOCAL"⟩)
  return (prepared, command)

/-- `artifactFor`. -/
def Stores.artifactFor (s : Stores) (dealId file : String) (cap : Option String) : Option Bytes :=
  match s.deals.get? dealId with
  | none => none
  | some deal =>
    if deal.capabilityToken.isNone ∨ deal.capabilityRevoked ∨ cap.isNone ∨
        cap ≠ deal.capabilityToken then none
    else if file = "manifest.json" then deal.manifestBytes
    else if file = "data.csv" then deal.csvBytes
    else none

/-- `revokeCapability`. -/
def revokeCapability (dealId : String) : SellerProg Unit := do
  match (← Prog.get).deals.find? dealId with
  | none => return ()
  | some r => do
    let deal ← readDeal r
    if !deal.capabilityRevoked then
      writeDeal r (fun deal => { deal with capabilityRevoked := true }) fun _ => rfl
      recordInteraction dealId ⟨.settlement, .system, "capability-revoked",
        "Artifact access was revoked after a refund outcome", some deal.stateText⟩

end Operations

end DataSeller

end Coordination
