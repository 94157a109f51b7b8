import Mathlib.Data.Finset.Insert
import Mathlib.Data.Finset.Erase
import Coordination.DataSeller.Runs
import Coordination.Library.Discipline

/-!
# The live coordinator

The seller as a participant of a Coordination Runtime. `countersign` verifies a
deal against the Runtime before it signs; `coSignFunding` signs the Activation it
has read back; `handleNotification` starts the delivery loop of a deal; the loop,
`backgroundDelivery`, retries `runDelivery` until its limit; `watchOutcome` polls
until the deal is over; `rejectionResponse` answers a rejection.

Every function is a task that waits for the Runtime, and between two waits it runs
alone. The two loops restart by starting their job again.
-/

namespace Coordination

namespace DataSeller

open JavaScript Library Engine

/-! ## State -/

/-- What the coordinator does: the calls from outside and the two loops. -/
inductive LiveJob where
  | quote (buyerAgentId : String) (body : Option Value)
  | propose (negotiationId : String) (contract : Value) (buyerAddress : String)
  | countersign (dealId negotiationId : String) (contract : Value)
      (buyerAddress buyerAgreementSig : String)
  | funding (dealId : String)
  | notification (note : Value)
  | backgroundDelivery (dealId : String) (limit : Number)
  | watchOutcome (dealId : String)
  | refreshOutcome (dealId : String)
  | consentRefund (dealId : String)
  | appeal (dealId : String)

/-- A request of the coordinator, with what its task has exchanged before. -/
abbrev LiveCall := Call Request Reply LiveJob

/-- A vault signature: the deal, the domain, and the contract of the deal at that time. -/
structure VaultSignature where
  dealId : String
  domain : Eip712Domain
  contract : Option Value

/-- The seller's stores and the coordinator's own maps. `blocked` is what the
runtime binding says, `committed` holds the deals the Runtime has committed on an
acceptance submitted here. The last members are for the record: the requests sent,
the vault signatures made, the notifications acknowledged and the errors the
delivery loops have caught. -/
structure World where
  seller : Stores
  dealTerms : InsertionMap String String
  delivering : Finset String
  watching : Finset String
  blocked : Option String
  committed : List String
  calls : List LiveCall
  signed : List VaultSignature
  acknowledged : List Value
  caught : List (String × Failure)

def World.init : World :=
  ⟨Stores.empty, InsertionMap.empty, ∅, ∅, none, [], [], [], [], []⟩

abbrev LiveProg := Prog Failure World

abbrev LiveTask := Task World LiveJob

/-- `new LiveCoordinator(seller, runtime, privateKey, options)`. -/
structure LiveCoordinator where
  seller : Seller
  privateKey : Bytes
  deliveryRetrySeconds : ℕ
  outcomePollSeconds : ℕ

/-- `TERMINAL_STATES`. -/
def terminalStates : List String :=
  ["ACCEPTED", "RESOLVED", "CANCELLED", "DEFAULTED", "EXPIRED"]

def World.setSeller (s : Stores) (w : World) : World :=
  { w with seller := s }

/-- An operation of the seller. -/
def onSeller {α : Type} (p : SellerProg α) : LiveTask α :=
  .atomic (p.zoom World.seller World.setSeller)

def World.sign (w : World) (dealId : String) (domain : Eip712Domain) : World :=
  { w with signed := w.signed ++
    [⟨dealId, domain, (w.seller.deals.get? dealId).map DealRecord.contract⟩] }

/-- Note a vault signature that has been made. -/
def noteSigned (dealId : String) (domain : Eip712Domain) : LiveTask Unit :=
  .atomic (Prog.modify fun w => w.sign dealId domain)

/-! ## Shared checks -/

/-- `assertBindingActive`. -/
def assertBindingActive : LiveTask Unit :=
  .atomic do
    match (← Prog.get).blocked with
    | some reason => Prog.lift (error reason)
    | none => return ()

/-- `this.dealTerms.get(dealId)`, with the error of the callers that need it. -/
def termsOf (dealId : String) : LiveTask String :=
  .atomic do
    match (← Prog.get).dealTerms.get? dealId with
    | some termsRef => return termsRef
    | none => Prog.lift (error s!"unknown dealId {dealId} — nothing countersigned under it")

/-- `this.seller.deal(dealId)!`. -/
def dealRecord (dealId : String) : LiveTask DealRecord :=
  .atomic do
    match (← Prog.get).seller.deals.get? dealId with
    | some deal => return deal
    | none => Prog.throw .typeError

/-- The state a history entry of the coordinator names. -/
def World.dealState (w : World) (dealId : String) : String :=
  ((w.seller.deals.get? dealId).map DealRecord.stateText).getD "UNKNOWN"

/-- `this.seller.recordInteraction` with the deal's own state. -/
def recordState (dealId : String) (phase : HistoryPhase) (direction : HistoryDirection)
    (kind summary : String) : LiveTask Unit :=
  .read fun w => onSeller (recordInteraction dealId
    ⟨phase, direction, kind, summary, some (w.dealState dealId)⟩)

/-- `throw new Error(message)` unless `status["state"] === state`. -/
def requireState (status : Option Value) (state : String)
    (message : String → String) : Except Failure Unit := do
  let reported ← prop status "state"
  throwIf (strictEq reported (some (.str state)) = false) (do return message (← toText reported))

/-! ## Formation -/

section Coordinator

variable [Digests] [Canonicalize] [HostLocale] [RecoverableEcdsa] (live : LiveCoordinator)

/-- The checks of `countersign` on the status: the Runtime holds the terms of the
contract presented, and the deal is proposed or already committed under them. The
result says whether it is committed. -/
def reconciles (dealId : String) (status : Option Value) (computed : String) :
    Except Failure Bool := do
  let named ← prop status "termsHash"
  if truthy named then
    let held ← toText named
    throwIf (bytes32Equal held computed = false)
      (.ok ("the Runtime holds different terms for this dealId than the contract presented — " ++
        s!"refusing to countersign ({held} vs {computed})"))
  let state ← prop status "state"
  let reconcilingCommitted := strictEq state (some (.str "COMMITTED")) && truthy named
  throwIf (strictEq state (some (.str "PROPOSED")) = false ∧ reconcilingCommitted = false)
    (do return s!"deal {dealId} is {← toText state}, not PROPOSED — acceptance countersigns a " ++
      "proposal, nothing later")
  return reconcilingCommitted

/-- `countersign`. -/
def countersign (dealId negotiationId : String) (contract : Value)
    (buyerAddress buyerAgreementSig : String) : LiveTask Unit := do
  assertBindingActive
  let status ← call (.status .countersign dealId)
  let computed ← Async.ofExcept (termsHashOf contract)
  let reconcilingCommitted ← Async.ofExcept (reconciles dealId status computed)
  let card ← call (.runtimeCard dealId contract)
  let ctx ← Async.ofExcept (do
    let binding ← prop (some contract) "runtimeBinding"
    validateRuntimeCard (card.getD .null) (orElse binding (some (.obj []))))
  let _ ← onSeller (registerLiveDeal dealId negotiationId contract buyerAddress)
  onSeller (observeRuntimeStatus dealId status
    (some "Seller verified the buyer's proposal against the Coordination Runtime"))
  let accepted ← onSeller (accept live.seller dealId buyerAgreementSig (some ctx.chainId)
    (some contract))
  -- remembered before the submission, whose reply may be lost
  .atomic (Prog.modify fun w => { w with dealTerms := w.dealTerms.set dealId computed })
  if reconcilingCommitted then
    return ()
  else
    onSeller (recordInteraction dealId ⟨.formation, .sellerToRuntime, "acceptance",
      "Seller submitted the countersigned agreement to the Coordination Runtime",
      some "ACCEPTED_LOCAL"⟩)
    let result ← call (.acceptance dealId accepted)
    let acceptedStatus ← Async.ofExcept (prop result "status")
    onSeller (observeRuntimeStatus dealId (orElse acceptedStatus (some (.obj []))) none)

/-! ## Funding -/

/-- The domain of the vault's typed data. -/
def vaultDomainOf (chainId verifyingContract : Option Value) : Except Failure Eip712Domain := do
  return {
    name := "KiteEscrowVault"
    version := "1"
    chainId := ← toNumber chainId
    verifyingContract := some (← toText verifyingContract) }

/-- `String(activation[k] ?? "").toLowerCase()`. -/
def lowerMember (activation : Option Value) (k : String) : Except Failure String := do
  return HostLocale.toLowerCase (← textOrEmpty (← prop activation k))

/-- Where the Activation read back diverges from the accepted terms. -/
def activationProblems (activation : Option Value) (termsRef : String) (accepted : Value)
    (current : Option DealRecord) : Except Failure (List String) := do
  let termsHash ← prop activation "termsHash"
  let terms ← if bytes32Equal (← textOrEmpty termsHash) termsRef then pure []
    else do pure [s!"termsHash {← toText termsHash} is not the accepted {termsRef}"]
  let payout ← toText (← prop (← prop (some accepted) "escrow") "payoutAddress")
  let payouts ← if (← lowerMember activation "sellerPayout") = HostLocale.toLowerCase payout then
      pure []
    else do
      let named ← toText (← prop activation "sellerPayout")
      pure [s!"sellerPayout {named} is not the signed payout {payout}"]
  let agents ← if (← lowerMember activation "sellerAgent") = live.seller.address then pure []
    else do
      let named ← toText (← prop activation "sellerAgent")
      pure [s!"sellerAgent {named} is not this agent's key ({live.seller.address})"]
  let boundBuyer ← match current with
    | some deal => .ok (HostLocale.toLowerCase deal.buyerAddress)
    | none => .error .typeError
  let buyers ← if (← lowerMember activation "buyerAgent") = boundBuyer then pure []
    else do
      let named ← toText (← prop activation "buyerAgent")
      pure [s!"buyerAgent {named} is not the verified buyer ({boundBuyer})"]
  let amount ← toText (← prop activation "amount")
  let units ← bigIntOfText amount
  let signed ← toText (← prop (← prop (some accepted) "price") "amount")
  let amounts ← if units = (← usdcBaseUnits signed) then pure []
    else pure [s!"amount {amount} is not the signed {signed}"]
  return terms ++ payouts ++ agents ++ buyers ++ amounts

/-- The struct of the Activation read back. -/
def activationStruct (activation : Option Value) : Except Failure Struct := do
  let texts ← ["termsHash", "buyer", "buyerAgent", "sellerAgent", "sellerPayout",
    "arbiter"].mapM fun k => do return (k, Json.str (← toText (← prop activation k)))
  let amount ← toText (← prop activation "amount")
  let windows ← ["fundingDeadline", "deliveryWindow", "deliveryConfirmationWindow",
    "appealResponseWindow", "arbitrationWindow"].mapM fun k => do
      return (k, Json.num (← toNumber (← prop activation k)))
  return texts ++ [("amountBaseUnits", .str amount), ("amount", .str amount)] ++ windows

/-- `coSignFunding`: whether the Activation was still pending. -/
def coSignFunding (dealId : String) : LiveTask Bool := do
  assertBindingActive
  let termsRef ← termsOf dealId
  let deal ← dealRecord dealId
  recordState dealId .funding .sellerToRuntime "funding-context"
    "Seller requested the Runtime's current funding context"
  let ctx ← call (.funding dealId termsRef)
  let activation ← Async.ofExcept (do
    return orElse (← prop ctx "activation") (some (.obj [])))
  let buyer ← Async.ofExcept (prop activation "buyer")
  if truthy buyer = false then
    recordState dealId .funding .runtimeToSeller "funding-pending"
      "Runtime reported that the buyer's funding artifact is not ready"
    return true
  else
    let vaultAddress ← Async.ofExcept (prop ctx "vaultAddress")
    let chainId ← Async.ofExcept (prop ctx "chainId")
    Async.ofExcept (throwIf (truthy vaultAddress = false ∨ truthy chainId = false)
      (.ok ("funding context omits vaultAddress/chainId — the EIP-712 domain MUST come from " ++
        "this read (§6.2.1)")))
    let current ← .read fun w => .ret (w.seller.deals.get? dealId)
    let problems ← Async.ofExcept (activationProblems live activation termsRef deal.contract
      current)
    Async.ofExcept (throwIf (problems ≠ [])
      (.ok ("read-back Activation diverges from the accepted terms — refusing to co-sign: " ++
        String.intercalate "; " problems)))
    let domain ← Async.ofExcept (vaultDomainOf chainId vaultAddress)
    let sellerActivationSig ← Async.ofExcept (do
      signStruct live.privateKey domain .Activation (← activationStruct activation))
    noteSigned dealId domain
    recordState dealId .funding .sellerToRuntime "funding-signatures"
      "Seller co-signed the read-back escrow Activation"
    let status ← call (.fundingSignatures dealId termsRef
      (.obj [("sellerActivationSig", .str sellerActivationSig)]))
    onSeller (observeRuntimeStatus dealId status none)
    return false

/-- The executor's `funding-request`. -/
def fundingRequest (dealId : String) : LiveTask Unit := do
  recordState dealId .funding .buyerToSeller "funding-request"
    "Buyer asked the seller to co-sign the escrow funding context"
  if ← coSignFunding live dealId then
    recordState dealId .funding .sellerToBuyer "funding-state"
      "Seller reported that funding is not ready for co-signing"
  else
    recordState dealId .funding .sellerToBuyer "funding-result"
      "Seller returned the Runtime's funding result"

end Coordinator

/-! ## Delivery -/

/-- The anchors of a vault block with the newest proof, or the refusal to sign without them. -/
def vaultAnchors (status : Option Value) : Except Failure (Option Value × Option Value) := do
  let vault := orElse (← prop status "vault") (some (.obj []))
  let receiptHash ← prop status "latestProofHash"
  let dealId ← prop vault "dealId"
  let nonce ← prop vault "nonce"
  throwIf (truthy dealId = false ∨ nonce.isNone ∨ truthy receiptHash = false)
    (.ok ("status carries no vault block or proof anchor — a Delivery signature needs the vault " ++
      "dealId, the current nonce and latestProofHash (§4.4), and signing over invented ones " ++
      "fails only at broadcast"))
  return (vault, receiptHash)

/-- The anchors a delivery is signed over. -/
def deliveryAnchors (vault receiptHash chainId vaultAddress : Option Value) (now : ℕ) :
    Except Failure SettlementAnchors := do
  return {
    dealId32 := ← toText (← prop vault "dealId")
    receiptHash := ← toText receiptHash
    nonce := ← toNumber (← prop vault "nonce")
    expiry := Float.ofNat (now / 1000 + 3600)
    chainId := ← toNumber chainId
    vault := ← toText vaultAddress }

/-- The domain members for a delivery: the vault block's, or else the funding context's. -/
def deliveryDomain (dealId termsRef : String) (vault : Option Value) :
    LiveTask (Option Value × Option Value) := do
  let chainId ← Async.ofExcept (prop vault "chainId")
  let vaultAddress ← Async.ofExcept (prop vault "vaultAddress")
  if truthy chainId = false ∨ truthy vaultAddress = false then
    let ctx ← call (.funding dealId termsRef)
    let chainId ← Async.ofExcept (prop ctx "chainId")
    let vaultAddress ← Async.ofExcept (prop ctx "vaultAddress")
    return (chainId, vaultAddress)
  else return (chainId, vaultAddress)

/-- `watchOutcome`. -/
def watchOutcome (dealId : String) : LiveTask Unit :=
  .read fun w =>
    if dealId ∈ w.watching then .ret ()
    else .write { w with watching := insert dealId w.watching }
      (Async.start (.watchOutcome dealId))

section Coordinator

variable [Digests] [Canonicalize] [HostLocale] [RecoverableEcdsa] (live : LiveCoordinator)

/-- `runDelivery`. -/
def runDelivery (dealId : String) : LiveTask Unit := do
  assertBindingActive
  let termsRef ← termsOf dealId
  let status ← call (.status .delivery dealId)
  onSeller (observeRuntimeStatus dealId status none)
  Async.ofExcept (requireState status "FULFILLING" fun state =>
    s!"deal {dealId} is {state}, not FULFILLING — delivery starts on the Runtime's work-start")
  let (vault, receiptHash) ← Async.ofExcept (vaultAnchors status)
  let (chainId, vaultAddress) ← deliveryDomain dealId termsRef vault
  let prepared ← Async.within World.seller World.setSeller
    (prepareDelivery live.seller dealId)
  -- the capability exists from here on, and so does the watch on its outcome
  watchOutcome dealId
  let recorded ← call (.evidence dealId prepared.envelope)
  let evidenceId ← Async.ofExcept (toText recorded)
  onSeller (recordInteraction dealId ⟨.fulfillment, .sellerToRuntime, "evidence",
    "Seller registered the delivery manifest as evidence", some "DELIVERED_LOCAL"⟩)
  let now ← .read fun w => .ret w.seller.now
  let anchors ← Async.ofExcept (deliveryAnchors vault receiptHash chainId vaultAddress now)
  let revision ← Async.ofExcept (do toNumber (← prop status "revision"))
  let command ← onSeller (commandFor live.seller dealId anchors evidenceId revision)
  noteSigned dealId (vaultDomain anchors)
  onSeller (recordInteraction dealId ⟨.fulfillment, .sellerToRuntime, "kite.contract.delivered",
    "Seller submitted the signed delivery command", some "DELIVERED_LOCAL"⟩)
  let result ← call (.command dealId command)
  let reported ← Async.ofExcept (prop result "status")
  onSeller (observeRuntimeStatus dealId (orElse reported (some (.obj []))) none)

/-- `error instanceof DomainRejection && !error.retriable`. -/
def isFinal : Failure → Bool
  | .domainRejection _ _ retriable => !retriable
  | _ => false

/-- The read after a failed attempt: whether the deal is still to be delivered. -/
def stillFulfilling (dealId : String) : LiveTask Bool := do
  let status ← call (.status .retry dealId)
  onSeller (observeRuntimeStatus dealId status none)
  let state ← Async.ofExcept (prop status "state")
  return strictEq state (some (.str "FULFILLING"))

/-- One turn of the loop of `backgroundDelivery`: whether there is another one. -/
def deliveryTurn (dealId : String) (limit : Number) : LiveTask Bool := do
  let failed ← (do
    runDelivery live dealId
    return false).onError fun e => do
      .atomic (Prog.modify fun w => { w with caught := w.caught ++ [(dealId, e)] })
      return !isFinal e
  if failed then
    -- the probe failing is itself retriable
    if ← (stillFulfilling dealId).onError fun _ => return true then
      let now ← .read fun w => .ret w.seller.now
      if limit ≤ Float.ofNat now / 1000 then return false
      else .await (.sleep live.deliveryRetrySeconds) fun _ => return true
    else return false
  else return false

/-- `this.delivering.delete(dealId)`. -/
def releaseSlot (dealId : String) : LiveTask Unit :=
  .atomic (Prog.modify fun w => { w with delivering := w.delivering.erase dealId })

/-- `backgroundDelivery`, turn by turn. -/
def backgroundDelivery (dealId : String) (limit : Number) : LiveTask Unit := do
  let another ← (deliveryTurn live dealId limit).onError fun e => do
    releaseSlot dealId
    .fail e
  if another then Async.start (.backgroundDelivery dealId limit)
  else releaseSlot dealId

/-- `Number(note["delivery_deadline"] ?? 0) || undefined`. -/
def deadlineOf (note : Value) : Except Failure (Option Number) := do
  let deadline ← toNumber (orElse (← prop (some note) "delivery_deadline") (some (.num 0)))
  return if deadline.isNaN || deadline == 0 then none else some deadline

/-- `deadline ?? Math.floor(Date.now() / 1000) + 6 * 3600`. -/
def deliveryLimit (deadline : Option Number) (now : ℕ) : Number :=
  deadline.getD (Float.ofNat (now / 1000) + 6 * 3600)

/-- Take the slot of a deal and start its delivery loop, unless one is running. -/
def startDelivery (dealId : String) (note : Value) : LiveTask Unit :=
  .read fun w =>
    if dealId ∈ w.delivering then .ret ()
    else .write { w with delivering := insert dealId w.delivering } (do
      let deadline ← Async.ofExcept (deadlineOf note)
      Async.start (.backgroundDelivery dealId (deliveryLimit deadline w.seller.now)))

/-- `handleNotification`. -/
def handleNotification (note : Value) : LiveTask Unit := do
  let dealId ← Async.ofExcept (do textOrEmpty (← prop (some note) "deal_id"))
  let type ← Async.ofExcept (prop (some note) "type")
  Async.ofExcept (throwIf (strictEq type (some (.str "kite.contract.fulfill_started")) = false)
    (do return s!"unknown notification type {← toText type} — v1 defines exactly one (§6.5)"))
  let termsRef ← termsOf dealId
  Async.ofExcept (do
    let named ← prop (some note) "terms_hash"
    if truthy named then
      let held ← toText named
      throwIf (bytes32Equal held termsRef = false)
        (.ok s!"notification names terms {held}, not the accepted {termsRef}"))
  let status ← call (.status .notification dealId)
  Async.ofExcept (requireState status "FULFILLING" fun state =>
    s!"read-back says {dealId} is {state}, not FULFILLING — not acknowledging a work-start the " ++
      "Runtime does not report")
  onSeller (recordInteraction dealId ⟨.funding, .runtimeToSeller, "kite.contract.fulfill_started",
    "Runtime notified the seller to begin fulfillment", some "FULFILLING"⟩)
  onSeller (observeRuntimeStatus dealId status none)
  startDelivery dealId note
  .atomic (Prog.modify fun w => { w with acknowledged := w.acknowledged ++ [note] })

/-! ## Outcomes -/

/-- Whether a status says that the buyer is refunded. -/
def isRefund (status : Option Value) (state : String) : Except Failure Bool := do
  if state = "CANCELLED" then return true
  else if state = "RESOLVED" then
    let resolution := orElse (← prop status "resolution") (some (.obj []))
    let bps ← toNumber (orElse (← prop resolution "sellerBps") (some (.num 10000)))
    return bps == 0
  else return false

/-- `refreshOutcome`. -/
def refreshOutcome (dealId : String) : LiveTask String := do
  let status ← call (.status .outcome dealId)
  let state ← Async.ofExcept (do textOrEmpty (← prop status "state"))
  onSeller (observeRuntimeStatus dealId status none)
  if ← Async.ofExcept (isRefund status state) then
    onSeller (revokeCapability dealId)
  return state

/-- The loop of `watchOutcome`, turn by turn. -/
def outcomeTurn (dealId : String) : LiveTask Unit := do
  let ended ← (do
    let state ← refreshOutcome dealId
    return decide (state ∈ terminalStates)).onError fun _ => return false
  if ended then
    .atomic (Prog.modify fun w => { w with watching := w.watching.erase dealId })
  else
    .await (.sleep live.outcomePollSeconds) fun _ => Async.start (.watchOutcome dealId)

/-- `rejectionResponse`. -/
def rejectionResponse (dealId commandType : String) (struct : SettlementStruct)
    (sigMember : String) : LiveTask Unit := do
  assertBindingActive
  let termsRef ← termsOf dealId
  let status ← call (.status .rejection dealId)
  onSeller (observeRuntimeStatus dealId status none)
  Async.ofExcept (requireState status "REJECTED" fun state =>
    s!"deal {dealId} is {state}, not REJECTED — nothing to answer")
  let vault ← Async.ofExcept (do return orElse (← prop status "vault") (some (.obj [])))
  let receiptHash ← Async.ofExcept (prop status "latestProofHash")
  let vaultDealId ← Async.ofExcept (prop vault "dealId")
  let nonce ← Async.ofExcept (prop vault "nonce")
  let chainId ← Async.ofExcept (prop vault "chainId")
  let vaultAddress ← Async.ofExcept (prop vault "vaultAddress")
  Async.ofExcept (throwIf (truthy vaultDealId = false ∨ nonce.isNone ∨
      truthy receiptHash = false ∨ truthy chainId = false ∨ truthy vaultAddress = false)
    (.ok "status carries no complete vault block — nothing safe to sign over (§4.4)"))
  let now ← .read fun w => .ret w.seller.now
  let expiry : Number := Float.ofNat (now / 1000 + 3600)
  let domain ← Async.ofExcept (vaultDomainOf chainId vaultAddress)
  let sig ← Async.ofExcept (do
    signStruct live.privateKey domain struct [
      ("dealId", .str (← toText vaultDealId)),
      ("termsHash", .str termsRef),
      ("receiptHash", .str (← toText receiptHash)),
      ("nonce", .num (← toNumber nonce)),
      ("expiry", .num expiry)])
  noteSigned dealId domain
  let revision ← Async.ofExcept (do toNumber (← prop status "revision"))
  let random ← .read fun w => .ret w.seller.random
  let command ← Async.ofExcept (do
    signCommand (← buildCommand live.seller.env ⟨random, now⟩ {
      commandType
      dealId
      expectedRevision := revision
      termsHash := termsRef
      payload := .obj [(sigMember, .str sig), ("expiry", .num expiry)] })
      live.privateKey live.seller.keyId)
  onSeller (recordInteraction dealId ⟨.settlement, .sellerToRuntime, commandType,
    if commandType = "kite.contract.appealed" then "Seller appealed the buyer's rejection"
    else "Seller consented to refund the buyer", some "REJECTED"⟩)
  let result ← call (.command dealId command)
  let reported ← Async.ofExcept (prop result "status")
  onSeller (observeRuntimeStatus dealId (orElse reported (some (.obj []))) none)

/-- `consentRefund`. -/
def consentRefund (dealId : String) : LiveTask Unit :=
  rejectionResponse live dealId "kite.contract.refund_consented" .RefundConsent "sellerConsentSig"

/-- `appeal`. -/
def appeal (dealId : String) : LiveTask Unit :=
  rejectionResponse live dealId "kite.contract.appealed" .Appeal "sellerAppealSig"

/-! ## The system -/

/-- What a job does. -/
def liveBody : LiveJob → LiveTask Unit
  | .quote buyerAgentId body =>
    (onSeller (quote live.seller buyerAgentId body)).bind fun _ => .ret ()
  | .propose negotiationId contract buyerAddress =>
    (onSeller (propose negotiationId contract buyerAddress)).bind fun _ => .ret ()
  | .countersign dealId negotiationId contract buyerAddress sig =>
    countersign live dealId negotiationId contract buyerAddress sig
  | .funding dealId => fundingRequest live dealId
  | .notification note => handleNotification note
  | .backgroundDelivery dealId limit => backgroundDelivery live dealId limit
  | .watchOutcome dealId => outcomeTurn live dealId
  | .refreshOutcome dealId => (refreshOutcome dealId).bind fun _ => .ret ()
  | .consentRefund dealId => consentRefund live dealId
  | .appeal dealId => appeal live dealId

end Coordinator

/-- The loops are started by the coordinator only. -/
def LiveJob.isRequest : LiveJob → Bool
  | .backgroundDelivery .. => false
  | .watchOutcome .. => false
  | _ => true

/-- What happens without the coordinator: the owner approves or withdraws the binding,
and the Runtime commits a deal on an acceptance that was submitted. -/
inductive LiveEvent where
  | binding (blocked : Option String)
  | commit (dealId : String)

def isAcceptance (dealId : String) (call : LiveCall) : Bool :=
  match call.request with
  | .acceptance submitted _ => submitted = dealId
  | _ => false

def World.sent (call : LiveCall) (w : World) : World :=
  { w with calls := w.calls ++ [call] }

def World.enter (m : Moment) (w : World) : World :=
  { w with seller := w.seller.enter m }

def World.outside (w : World) : LiveEvent → Option World
  | .binding blocked => some { w with blocked }
  | .commit dealId =>
    if w.calls.any (isAcceptance dealId) then
      some { w with committed := w.committed ++ [dealId] }
    else none

variable [Digests] [Canonicalize] [HostLocale] [RecoverableEcdsa]

/-- The live coordinator in every order of requests, answers and events. -/
def liveSystem (live : LiveCoordinator) :
    System Failure World LiveCall Reply LiveJob Moment LiveEvent where
  init := World.init
  body job := (liveBody live job).traced job []
  isRequest := LiveJob.isRequest
  sent := World.sent
  entered := World.enter
  outside e w := w.outside e

abbrev LiveConfig := System.Config Failure World LiveCall Reply LiveJob

abbrev LiveStep := System.Event Reply LiveJob Moment LiveEvent

abbrev LiveCondition := System.Condition World LiveCall Reply LiveJob LiveEvent

end DataSeller

end Coordination
