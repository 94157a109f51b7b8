import Mathlib.Data.Finset.Insert
import Mathlib.Data.Finset.Erase
import Coordination.Library.Discipline
import Coordination.SellerAgent.Extension

/-!
# The executor of the Python seller

`executor.py`: what the seller does with a negotiation request of a buyer and with a
notification of the Runtime, in standalone and in live mode. A handler runs alone between
two waits for the Runtime. The public admin records are left out; what the recording of an
observation can raise is not.
-/

namespace Coordination

namespace SellerAgent

open Python Library

/-! ## State -/

/-- What the executor does: a negotiation request, a Runtime notification, and the
delivery loop of a deal. -/
inductive ExecutorJob where
  | request (optedIn : Bool) (data : PyValue)
  | notification (optedIn : Bool) (note : PyValue)
  | backgroundDelivery (dealId : String) (limit : Option ℤ)

/-- What the executor asks the Runtime, and the pause of a delivery loop. -/
inductive RuntimeRequest where
  | status (dealId : String)
  | card
  | acceptance (dealId termsHash : String) (contract : PyValue)
  | funding (dealId termsHash : String)
  | fundingSignatures (dealId termsHash : String) (submission : PyValue)
  | evidence (envelope : PyValue)
  | command (command : PyValue)
  | sleep (seconds : ℕ)

abbrev RuntimeReply := Except Failure PyValue

abbrev ExecutorCall := Call RuntimeRequest RuntimeReply ExecutorJob

/-- A countersigned deal: its terms and the buyer address the signatures verified for. -/
structure Countersigned where
  dealId : String
  termsHash : String
  buyerAddress : PyValue

/-- A funding co-signature: the deal, the accepted contract and the context it was read in. -/
structure SignedActivation where
  dealId : String
  termsHash : String
  accepted : PyValue
  context : PyValue

/-- What a moment in time brings: the clock in seconds and what a command takes from it. -/
structure ExecutorMoment where
  seconds : ℕ
  command : CommandMoment

/-- The members of `SellerExecutor` that change, the runtime binding and the replies. The
last members are for the record: the requests sent to the Runtime, the acceptances it has
committed, the deals countersigned, the delivered commands and the Activations signed. -/
structure Executor where
  addresses : List (PyValue × PyValue)
  pending : InsertionMap String (PyValue × PyValue)
  deals : InsertionMap String PyValue
  dealTerms : InsertionMap String String
  evidence : List (PyValue × String)
  cardContexts : InsertionMap (String × String) (ℤ × String)
  delivering : Finset String
  binding : String × String
  outbox : List PyValue
  moment : ExecutorMoment
  calls : List ExecutorCall
  committed : List (String × String)
  countersigned : List Countersigned
  commands : List PyValue
  activations : List SignedActivation

def Executor.init : Executor :=
  ⟨[], .empty, .empty, .empty, [], .empty, ∅, ("disabled", "runtime binding not configured"), [],
    ⟨0, ⟨"", ""⟩⟩, [], [], [], [], []⟩

abbrev ExecutorTask := Async Failure Executor RuntimeRequest RuntimeReply ExecutorJob

/-- `SellerExecutor`: its environment, its key and its mode. -/
structure SellerExecutor where
  env : SellerEnv
  key : Bytes
  live : Bool
  deliveryRetrySeconds : ℕ

/-! ## Replies and observations -/

/-- `event_queue.enqueue_event`. -/
def enqueue (message : List (String × PyValue)) : ExecutorTask Unit :=
  .atomic (Prog.modify fun s => { s with outbox := s.outbox ++ [.obj message] })

/-- `_reject`. -/
def reject (error : String) : ExecutorTask Unit :=
  enqueue [("kind", .str "error"), ("error", .str error)]

/-- `_reject` with an exception: a domain rejection keeps its code and its flag. -/
def rejectFor (exc : Failure) (error : String) : ExecutorTask Unit :=
  enqueue ([("kind", .str "error"), ("error", .str error)] ++
    match exc with
    | .domainRejection code _ retriable => [("code", .str code), ("retriable", .bool retriable)]
    | _ => [])

/-- `await` a request. -/
def ask (r : RuntimeRequest) : ExecutorTask PyValue :=
  .await r Async.ofExcept

/-- `_binding_block`. -/
def bindingBlock (executor : SellerExecutor) (s : Executor) : Option String :=
  if executor.live && s.binding.1 ≠ "active" then
    some (s!"runtime binding is {s.binding.1} ({s.binding.2}) — refusing to sign: Passport " ++
      "checks every signature against the DID's ACTIVE runtime binding, so nothing this key " ++
      "signs is accepted until the binding is approved")
  else none

section Executor

variable [Interpreter] [CaseTables] [DigitTables] [FloatText] [ContainerText] [DecimalSource]
  [Digests] [RecoverableEcdsa] [Rfc8785] (executor : SellerExecutor)

omit [Interpreter] [CaseTables] [DigitTables] [FloatText] [ContainerText] [DecimalSource]
  [RecoverableEcdsa] in
/-- `_observe_agreement`, as far as it may raise. -/
def observeAgreement (dealId : String) (contract status : Option PyValue) :
    Except Failure Unit := do
  if dealId = "" then return ()
  else
    match contract with
    | some contract => let _ ← termsHash contract
    | none => pure ()
    match status with
    | some status =>
      let _ ← get (orElse status (.obj [])) "state"
    | none => pure ()

omit [Interpreter] [CaseTables] [DigitTables] [DecimalSource] [Digests] [RecoverableEcdsa]
  [Rfc8785] in
/-- `str(v.get(k) or "")`. -/
def textMember (v : PyValue) (k : String) : Except Failure String := do
  return strOf (orElse (← get v k) (.str ""))

/-! ## Formation -/

omit [Interpreter] [CaseTables] [DigitTables] [FloatText] [ContainerText] [DecimalSource]
  [Rfc8785] in
/-- `_publish_terms`. -/
def publishTerms (data : PyValue) : ExecutorTask Unit := do
  let buyerAgentId ← Async.ofExcept (get data "agentId")
  let buyerAddress ← Async.ofExcept (get data "address")
  if truthy buyerAgentId && truthy buyerAddress then
    .read fun s => do
      let addresses ← Async.ofExcept (setKey s.addresses buyerAgentId buyerAddress)
      .atomic (Prog.modify fun s => { s with addresses })
  enqueue [("kind", .str "terms"), ("payoutAddress", .str executor.env.sellerPayoutAddress),
    ("agentId", .str executor.env.sellerAgentId), ("address", .str (evmAddressOf executor.key))]

omit [Interpreter] [DigitTables] [FloatText] [ContainerText] [DecimalSource] in
/-- The checks of `_propose`: the contract, the buyer's address and the terms hash. -/
def checkProposal (addresses : List (PyValue × PyValue)) (data : PyValue) :
    Except Failure (PyValue × PyValue × String) := do
  let contract ← item data "contract"
  let some buyerAddress ← lookupKey addresses (← item contract "buyerAgentId")
    | valueError "no signing address known — the demo learns it from request-terms"
  if (← len (← getD contract "signatures" (.arr []))) ≠ 1 then
    valueError "a proposal carries exactly one signature"
  let entry ← first (← item contract "signatures")
  if ← contains "agreementSig" entry then
    valueError "a proposal entry must not carry agreementSig (§4.1 two-phase rule)"
  let computed ← termsHash contract
  if !(← verifyTermsSignature computed entry buyerAddress) then
    valueError "buyer terms signature does not verify against the recomputed termsHash"
  return (contract, buyerAddress, computed)

/-- The id the demo assigns: `"deal_" + computed.split(":", 1)[1][:12]`. -/
def demoDealId (computed : String) : String :=
  "deal_" ++ String.ofList (((computed.toList.dropWhile (· ≠ ':')).drop 1).take 12)

omit [Interpreter] [DigitTables] [FloatText] [ContainerText] [DecimalSource] in
/-- `_propose`. -/
def proposeRequest (data : PyValue) : ExecutorTask Unit := do
  if executor.live then
    reject ("live mode: submit the proposal to the Runtime at " ++
      s!"{executor.env.coordinationEndpoint} (§6.2 — proposal is the buyer's interaction), then " ++
      "send acceptance-request carrying the Runtime-assigned dealId, the contract, and your " ++
      "buyerAgreementSig over that id")
  else
    .read fun s =>
      match checkProposal s.addresses data with
      | .error e => if e.isKeyOrValue then reject e.message else .fail e
      | .ok (contract, buyerAddress, computed) => do
        let dealId := demoDealId computed
        .atomic (Prog.modify fun s =>
          { s with pending := s.pending.set dealId (contract, buyerAddress) })
        Async.ofExcept (observeAgreement dealId (some contract) none)
        enqueue [("kind", .str "proposal-ack"), ("dealId", .str dealId)]

/-- A countersigned deal is remembered. -/
def Executor.remember (s : Executor) (dealId termsHash : String) (accepted buyerAddress : PyValue) :
    Executor :=
  { s with
    deals := s.deals.set termsHash accepted
    dealTerms := s.dealTerms.set dealId termsHash
    countersigned := s.countersigned ++ [⟨dealId, termsHash, buyerAddress⟩] }

/-- `_countersign_live`. -/
def countersignLive (data : PyValue) : ExecutorTask Unit := .read fun s => do
  if let some blocked := bindingBlock executor s then reject blocked
  else
    let dealId ← Async.ofExcept (textMember data "dealId")
    let contract ← Async.ofExcept (get data "contract")
    match contract with
    | .obj _ =>
      if dealId = "" then incomplete
      else
        let buyerAgentId ← Async.ofExcept (getD contract "buyerAgentId" (.str ""))
        match ← Async.ofExcept (lookupKey s.addresses buyerAgentId) with
        | none => reject "no signing address known — the demo learns it from request-terms"
        | some buyerAddress => countersignProposed dealId contract buyerAddress
    | _ => incomplete
where
  incomplete : ExecutorTask Unit :=
    reject ("live acceptance-request must carry the Runtime-assigned dealId AND the proposed " ++
      "contract — the proposal went to the Runtime, so this seller has never seen it")
  /-- `_runtime_chain_context`. -/
  runtimeChainContext (binding : PyValue) : ExecutorTask (ℤ × String) := do
    let key ← Async.ofExcept (do
      return (← textMember binding "agentCardHash", ← textMember binding "runtimeAgentId"))
    .read fun s =>
      match s.cardContexts.get? key with
      | some context => .ret context
      | none => do
        let card ← ask .card
        let context ← Async.ofExcept (validateRuntimeCard card binding)
        .atomic (Prog.modify fun s => { s with cardContexts := s.cardContexts.set key context })
        return context
  countersignProposed (dealId : String) (contract buyerAddress : PyValue) : ExecutorTask Unit :=
    .await (.status dealId) fun
      | .error e => rejectFor e s!"Runtime status read for {dealId} failed: {e.message}"
      | .ok status => do
        if !isText (← Async.ofExcept (get status "state")) "PROPOSED" then
          reject (s!"deal {dealId} is not PROPOSED — acceptance countersigns a proposal, " ++
            "nothing later")
        else
          let computed ← Async.ofExcept (termsHash contract)
          let held ← Async.ofExcept (get status "termsHash")
          if ← Async.ofExcept (otherTerms held computed) then
            reject ("the Runtime holds different terms for this dealId than the contract " ++
              "presented — refusing to countersign")
          else
            let binding := orElse (← Async.ofExcept (get contract "runtimeBinding")) (.obj [])
            let context ← ((runtimeChainContext binding).bind fun context =>
              .ret (Except.ok context)).onError fun e => .ret (.error e)
            match context with
            | .error e => rejectFor e s!"runtime card verification failed: {e.message}"
            | .ok (chainId, _) => submit dealId contract buyerAddress status computed chainId
  /-- Whether the Runtime holds terms, and others than the contract's. -/
  otherTerms (held : PyValue) (computed : String) : Except Failure Bool := do
    if truthy held then return !bytes32Equal (← asText held) computed
    else return false
  submit (dealId : String) (contract buyerAddress status : PyValue) (computed : String)
      (chainId : ℤ) : ExecutorTask Unit := do
    let accepted := do
      acceptTerms executor.env contract buyerAddress dealId (← item data "buyerAgreementSig")
        executor.key chainId
    match accepted with
    | .error e => if e.isKeyOrValue then reject e.message else .fail e
    | .ok accepted =>
      Async.ofExcept (observeAgreement dealId (some contract) (some status))
      .await (.acceptance dealId computed accepted) fun
        | .error e => rejectFor e s!"Runtime refused the acceptance: {e.message}"
        | .ok result => do
          .atomic (Prog.modify fun s => s.remember dealId computed accepted buyerAddress)
          let resultStatus := orElse (← Async.ofExcept (get result "status")) (.obj [])
          Async.ofExcept (observeAgreement dealId (some accepted) (some resultStatus))
          enqueue [("kind", .str "acceptance-result"), ("contract", accepted),
            ("dealId", .str dealId), ("status", resultStatus)]

/-- `_countersign`. -/
def countersign (data : PyValue) : ExecutorTask Unit := do
  if executor.live then countersignLive executor data
  else
    .read fun s => do
      let dealId ← Async.ofExcept (getD data "dealId" (.str ""))
      match dealId, ← Async.ofExcept (lookupText s.pending dealId) with
      | .str dealId, some (contract, buyerAddress) =>
        let accepted := do
          acceptTerms executor.env contract buyerAddress dealId (← item data "buyerAgreementSig")
            executor.key executor.env.settlement.chainId
        match accepted with
        | .error e => if e.isKeyOrValue then reject e.message else .fail e
        | .ok accepted =>
          let termsHashRef ← Async.ofExcept (termsHash accepted)
          .atomic (Prog.modify fun s => s.remember dealId termsHashRef accepted buyerAddress)
          Async.ofExcept (observeAgreement dealId (some accepted) none)
          enqueue [("kind", .str "acceptance-result"), ("contract", accepted),
            ("dealId", .str dealId)]
      | _, _ => enqueue [("kind", .str "error"), ("error", .str "unknown dealId")]

/-! ## Funding -/

omit [Digests] [RecoverableEcdsa] [Rfc8785] in
/-- Whether the amount of an Activation is the price of the accepted contract. -/
def amountProblems (activation accepted : PyValue) : Except Failure (List String) :=
  let verdict := do
    let units ← baseUnits (strOf (← get activation "amount"))
    let price ← usdcBaseUnitsOf (← item (← item accepted "price") "amount")
    return if units = price then [] else ["amount is not the signed amount"]
  match verdict with
  | .error (.raised .ValueError message) => .ok ["amount: " ++ message]
  | .error (.builtin .ValueError) => .ok ["amount: "]
  | verdict => verdict

omit [Rfc8785] in
/-- Where the Activation read back diverges from the accepted terms. -/
def activationProblems (activation : PyValue) (termsRef : String) (accepted : PyValue) :
    Except Failure (List String) := do
  let named ← textMember activation "termsHash"
  let terms := if bytes32Equal named termsRef then []
    else [s!"termsHash is not the accepted {termsRef}"]
  let payout ← asText (← item (← item accepted "escrow") "payoutAddress")
  let sellerPayout := strOf (← getD activation "sellerPayout" (.str ""))
  let payouts := if CaseTables.lower sellerPayout = CaseTables.lower payout then []
    else [s!"sellerPayout is not the signed payout {payout}"]
  let ourAddress := evmAddressOf executor.key
  let sellerAgent := strOf (← getD activation "sellerAgent" (.str ""))
  let agents := if CaseTables.lower sellerAgent = CaseTables.lower ourAddress then []
    else [s!"sellerAgent is not this agent's key ({ourAddress})"]
  return terms ++ payouts ++ agents ++ (← amountProblems activation accepted)

omit [CaseTables] [DecimalSource] [RecoverableEcdsa] [Rfc8785] in
/-- The digest of the Activation read back, under the domain of the same read. -/
def activationDigestOf (ctx activation : PyValue) : Except Failure Bytes := do
  let members ← ["termsHash", "buyer", "buyerAgent", "sellerAgent", "sellerPayout",
    "arbiter"].mapM (item activation)
  let amount := strOf (← item activation "amount")
  let windows ← ["fundingDeadline", "deliveryWindow", "deliveryConfirmationWindow",
    "appealResponseWindow", "arbitrationWindow"].mapM fun k => do intOf (← item activation k)
  let chainId ← intOf (← item ctx "chainId")
  let vault := strOf (← item ctx "vaultAddress")
  match members with
  | [termsHash, buyer, buyerAgent, sellerAgent, sellerPayout, arbiter] =>
    activationDigest termsHash buyer buyerAgent sellerAgent sellerPayout arbiter amount windows
      chainId vault
  | _ => .error (.builtin .KeyError)

/-- `_funding`. -/
def funding (data : PyValue) : ExecutorTask Unit := .read fun s => do
  if executor.live = false then
    reject ("standalone mode has no Runtime to read the Activation from — funding needs " ++
      "KITE_COORDINATION_MODE=live")
  else if let some blocked := bindingBlock executor s then reject blocked
  else
    let dealId ← Async.ofExcept (textMember data "dealId")
    match s.dealTerms.get? dealId with
    | none => reject s!"unknown dealId {dealId} — nothing countersigned under it"
    | some termsRef =>
      match s.deals.get? termsRef with
      | none => .fail (.builtin .KeyError)
      | some accepted =>
        .await (.funding dealId termsRef) fun
          | .error e => rejectFor e s!"Runtime funding read failed: {e.message}"
          | .ok ctx => coSign dealId termsRef accepted ctx
where
  coSign (dealId termsRef : String) (accepted ctx : PyValue) : ExecutorTask Unit := do
    let _ ← Async.ofExcept (get ctx "phase")
    let activation := orElse (← Async.ofExcept (get ctx "activation")) (.obj [])
    if !truthy (← Async.ofExcept (get activation "buyer")) then
      enqueue [("kind", .str "funding-state"), ("dealId", .str dealId), ("funding", ctx),
        ("note", .str ("activation is not yet signable (buyer wallet missing) — ask again once " ++
          "the buyer's funding submission lands"))]
    else if !truthy (← Async.ofExcept (get ctx "vaultAddress")) ||
        !truthy (← Async.ofExcept (get ctx "chainId")) then
      reject ("funding context omits vaultAddress/chainId — the EIP-712 domain MUST come from " ++
        "this read (§6.2.1), so there is nothing safe to sign under")
    else
      let problems ← Async.ofExcept (activationProblems executor activation termsRef accepted)
      if problems ≠ [] then
        reject ("read-back Activation diverges from the accepted terms — refusing to co-sign: " ++
          String.intercalate "; " problems)
      else
        match activationDigestOf ctx activation with
        | .error e =>
          if e.isKeyOrValue then reject s!"activation is not signable: {e.message}" else .fail e
        | .ok digest => do
          .atomic (Prog.modify fun s =>
            { s with activations := s.activations ++ [⟨dealId, termsRef, accepted, ctx⟩] })
          .await (.fundingSignatures dealId termsRef
              (.obj [("sellerActivationSig", .str (signDigest32 executor.key digest))])) fun
            | .error e => rejectFor e s!"Runtime refused the funding co-signature: {e.message}"
            | .ok status => do
              Async.ofExcept (observeAgreement dealId none (some status))
              enqueue [("kind", .str "funding-result"), ("dealId", .str dealId),
                ("status", status)]

/-! ## Delivery -/

/-- A delivered command is signed. -/
def signDelivered (accepted dealId : PyValue) (expectedRevision : ℤ) (evidenceId : PyValue)
    (anchors : Anchors) : ExecutorTask PyValue := .read fun s => do
  let command ← Async.ofExcept (makeDelivery executor.env accepted dealId expectedRevision
    evidenceId executor.key anchors s.moment.command)
  .atomic (Prog.modify fun s => { s with commands := s.commands ++ [command] })
  return command

/-- `_run_delivery`. -/
def runDelivery (dealId : String) : ExecutorTask PyValue := .read fun s => do
  if let some blocked := bindingBlock executor s then Async.ofExcept (runtimeError blocked)
  else
    match s.dealTerms.get? dealId with
    | none =>
      Async.ofExcept (runtimeError s!"unknown dealId {dealId} — nothing countersigned under it")
    | some termsRef =>
      match s.deals.get? termsRef with
      | none => .fail (.builtin .KeyError)
      | some accepted => deliverAccepted termsRef accepted
where
  deliverAccepted (termsRef : String) (accepted : PyValue) : ExecutorTask PyValue := do
    let status ← ask (.status dealId)
    if !isText (← Async.ofExcept (get status "state")) "FULFILLING" then
      Async.ofExcept (runtimeError (s!"deal {dealId} is not FULFILLING — delivery starts on the " ++
        "Runtime's work-start, not on request"))
    let vault := orElse (← Async.ofExcept (get status "vault")) (.obj [])
    let receiptHash ← Async.ofExcept (get status "latestProofHash")
    let vaultDealId ← Async.ofExcept (get vault "dealId")
    let nonce ← Async.ofExcept (get vault "nonce")
    if !truthy vaultDealId || nonce matches .null || !truthy receiptHash then
      Async.ofExcept (runtimeError ("status carries no vault block or proof anchor — a Delivery " ++
        "signature needs the vault dealId, the current nonce and latestProofHash (§4.4), and " ++
        "signing over invented ones fails only at broadcast"))
    let envelope ← Async.ofExcept (evidenceEnvelope executor.env (.str dealId) termsRef
      (utf8 deliveryContent) executor.key)
    let evidenceId ← ask (.evidence envelope)
    let (chainId, vaultAddress) ← vaultDomainOf termsRef vault
    .read fun s => do
      let anchors ← Async.ofExcept (do
        let expectedRevision ← intOf (← item status "revision")
        let anchors : Anchors := {
          dealId32 := ← item vault "dealId"
          receiptHash
          nonce := ← intOf (← item vault "nonce")
          expiry := (s.moment.seconds : ℤ) + 3600
          chainId := ← intOf chainId
          vault := strOf vaultAddress }
        return (expectedRevision, anchors))
      let command ← signDelivered executor accepted (.str dealId) anchors.1
        (.str (strOf evidenceId)) anchors.2
      let result ← ask (.command command)
      let resultStatus := orElse (← Async.ofExcept (get result "status")) (.obj [])
      Async.ofExcept (observeAgreement dealId none (some resultStatus))
      return .obj [("kind", .str "delivery"), ("command", command),
        ("evidenceEnvelope", envelope), ("evidenceId", .str (strOf evidenceId)),
        ("content", .str deliveryContent), ("status", resultStatus)]
  /-- The domain members: the vault block's, or else the funding context's. -/
  vaultDomainOf (termsRef : String) (vault : PyValue) : ExecutorTask (PyValue × PyValue) := do
    let chainId ← Async.ofExcept (get vault "chainId")
    let vaultAddress ← Async.ofExcept (get vault "vaultAddress")
    if !truthy chainId || !truthy vaultAddress then
      let ctx ← ask (.funding dealId termsRef)
      Async.ofExcept (do return (← item ctx "chainId", ← item ctx "vaultAddress"))
    else return (chainId, vaultAddress)

/-- `_deliver_live`. -/
def deliverLive (data : PyValue) : ExecutorTask Unit := do
  let dealId ← Async.ofExcept (textMember data "dealId")
  let payload ← ((runDelivery executor dealId).bind fun payload =>
    .ret (Except.ok payload)).onError fun e => .ret (.error e)
  match payload with
  | .error e => rejectFor e e.message
  | .ok (.obj payload) => enqueue payload
  | .ok _ => .ret ()

/-- `_deliver` without a Runtime. -/
def deliverStandalone (data : PyValue) : ExecutorTask Unit := .read fun s => do
  let named ← Async.ofExcept (getD data "termsHash" (.str ""))
  match ← Async.ofExcept (lookupText s.deals named) with
  | none => enqueue [("kind", .str "error"), ("error", .str "unknown termsHash")]
  | some accepted =>
    let dealId ← Async.ofExcept (getD data "dealId" (.str ""))
    let termsHashRef ← Async.ofExcept (termsHash accepted)
    let envelope ← Async.ofExcept (evidenceEnvelope executor.env dealId termsHashRef
      (utf8 deliveryContent) executor.key)
    let known ← Async.ofExcept (lookupKey s.evidence dealId)
    let digest := toHex (Digests.sha256 (utf8 deliveryContent))
    let evidenceId := known.getD ("ev_" ++ String.ofList (digest.toList.take 12))
    let evidence ← Async.ofExcept (setKey s.evidence dealId evidenceId)
    .atomic (Prog.modify fun s => { s with evidence })
    let (anchors, expectedRevision) ← Async.ofExcept (do
      let expectedRevision ← intOf (← getD data "expectedRevision" (.num (.int 3)))
      return (← demoAnchors executor.env dealId, expectedRevision))
    let command ← signDelivered executor accepted dealId expectedRevision (.str evidenceId) anchors
    enqueue [("kind", .str "delivery"), ("command", command), ("evidenceEnvelope", envelope),
      ("content", .str deliveryContent)]

/-- `_deliver`. -/
def deliver (data : PyValue) : ExecutorTask Unit :=
  if executor.live then deliverLive executor data else deliverStandalone executor data

/-! ## Notifications -/

omit [CaseTables] [DigitTables] [FloatText] [ContainerText] [DecimalSource] [Digests]
  [RecoverableEcdsa] [Rfc8785] in
/-- `int(note.get("delivery_deadline") or 0) or None`. -/
def deadlineOf (note : PyValue) : Except Failure (Option ℤ) := do
  let deadline := intOf (orElse (← get note "delivery_deadline") (.num (.int 0)))
  match deadline with
  | .ok 0 => return none
  | .ok n => return some n
  | .error (.builtin .TypeError) | .error (.builtin .ValueError) => return none
  | .error e => .error e

omit [CaseTables] [DigitTables] [DecimalSource] [Digests] [RecoverableEcdsa] [Rfc8785] in
/-- `_runtime_notification`. -/
def runtimeNotification (note : PyValue) : ExecutorTask Unit := do
  let dealId ← Async.ofExcept (textMember note "deal_id")
  if !isText (← Async.ofExcept (get note "type")) "kite.contract.fulfill_started" then
    Async.ofExcept (runtimeError "unknown notification type — v1 defines exactly one (§6.5)")
  if executor.live = false then
    Async.ofExcept (runtimeError ("standalone mode: no Runtime to read back from, and a " ++
      "notification MUST NOT be acted on directly (§6.5)"))
  .read fun s =>
    match s.dealTerms.get? dealId with
    | none =>
      Async.ofExcept (runtimeError s!"unknown dealId {dealId} — nothing countersigned under it")
    | some termsRef => do
      let named ← Async.ofExcept (get note "terms_hash")
      if truthy named && !bytes32Equal (strOf named) termsRef then
        Async.ofExcept (runtimeError s!"notification names other terms than the accepted {termsRef}")
      let status ← ask (.status dealId)
      if !isText (← Async.ofExcept (get status "state")) "FULFILLING" then
        Async.ofExcept (runtimeError (s!"read-back says {dealId} is not FULFILLING — not " ++
          "acknowledging a work-start the Runtime does not report"))
      startDelivery dealId
      enqueue [("type", .str "kite.contract.fulfill_started"), ("dealId", .str dealId),
        ("acknowledged", .bool true), ("verifiedState", .str "FULFILLING")]
where
  /-- Take the slot of a deal and start its delivery loop, unless one is running. -/
  startDelivery (dealId : String) : ExecutorTask Unit := .read fun s =>
    if dealId ∈ s.delivering then .ret ()
    else .write { s with delivering := insert dealId s.delivering } (do
      let deadline ← Async.ofExcept (deadlineOf note)
      Async.start (.backgroundDelivery dealId deadline))

/-- One turn of the loop of `_background_delivery`: whether there is another one. -/
def deliveryTurn (dealId : String) (limit : ℤ) : ExecutorTask Bool := do
  let failed ← ((runDelivery executor dealId).bind fun _ => .ret false).onError fun
    | .domainRejection _ _ false => .ret false
    | _ => .ret true
  if failed then
    -- the probe failing is itself retriable
    if ← (stillFulfilling).onError fun _ => .ret true then
      .read fun s =>
        if limit ≤ s.moment.seconds then .ret false
        else .await (.sleep executor.deliveryRetrySeconds) fun _ => .ret true
    else return false
  else return false
where
  stillFulfilling : ExecutorTask Bool := do
    let status ← ask (.status dealId)
    return isText (← Async.ofExcept (get status "state")) "FULFILLING"

/-- `_background_delivery`, turn by turn. -/
def backgroundDelivery (dealId : String) (limit : Option ℤ) : ExecutorTask Unit := .read fun s => do
  let limit := limit.getD (s.moment.seconds + 6 * 3600)
  let another ← (deliveryTurn executor dealId limit).onError fun e => do
    releaseSlot
    .fail e
  if another then Async.start (.backgroundDelivery dealId (some limit))
  else releaseSlot
where
  /-- `self._delivering.discard(deal_id)`. -/
  releaseSlot : ExecutorTask Unit :=
    .atomic (Prog.modify fun s => { s with delivering := s.delivering.erase dealId })

/-! ## The system -/

/-- The handler of a negotiation request. -/
def handle (data : PyValue) : ExecutorTask Unit := do
  match ← Async.ofExcept (getD data "kind" (.str "")) with
  | .str "request-terms" => publishTerms executor data
  | .str "submit-proposal" => proposeRequest executor data
  | .str "acceptance-request" => countersign executor data
  | .str "funding-request" => funding executor data
  | .str "request-delivery" => deliver executor data
  | _ => enqueue [("kind", .str "error"), ("error", .str "unknown kind")]

/-- `execute`, for the two typed carriers, and the delivery loop. -/
def executorBody : ExecutorJob → ExecutorTask Unit
  | .request true data => handle executor data
  | .request false _ => reject ("negotiation request without §2.2 extension opt-in " ++
      "(A2A-Extensions header + message extensions array)")
  | .notification true note => runtimeNotification executor note
  | .notification false _ => reject ("contract-message without §2.2 extension opt-in " ++
      "(A2A-Extensions header + message extensions array)")
  | .backgroundDelivery dealId limit => backgroundDelivery executor dealId limit

/-- The delivery loops are started by the executor only. -/
def ExecutorJob.isRequest : ExecutorJob → Bool
  | .backgroundDelivery .. => false
  | _ => true

/-- What happens without the executor: the binding changes, and the Runtime commits an
acceptance that was submitted. -/
inductive ExecutorEvent where
  | binding (state detail : String)
  | commit (dealId termsHash : String)

def isAcceptanceOf (dealId termsHash : String) (call : ExecutorCall) : Bool :=
  match call.request with
  | .acceptance dealId' termsHash' _ => dealId' = dealId ∧ termsHash' = termsHash
  | _ => false

def Executor.outside (s : Executor) : ExecutorEvent → Option Executor
  | .binding state detail => some { s with binding := (state, detail) }
  | .commit dealId termsHash =>
    if s.calls.any (isAcceptanceOf dealId termsHash) then
      some { s with committed := s.committed ++ [(dealId, termsHash)] }
    else none

/-- The executor in every order of requests, answers and events. -/
def executorSystem : System Failure Executor ExecutorCall RuntimeReply ExecutorJob ExecutorMoment
    ExecutorEvent where
  init := Executor.init
  body job := (executorBody executor job).traced job []
  isRequest := ExecutorJob.isRequest
  sent call s := { s with calls := s.calls ++ [call] }
  entered moment s := { s with moment }
  outside e s := s.outside e

abbrev ExecutorConfig := System.Config Failure Executor ExecutorCall RuntimeReply ExecutorJob

abbrev ExecutorStep := System.Event RuntimeReply ExecutorJob ExecutorMoment ExecutorEvent

abbrev ExecutorCondition :=
  System.Condition Executor ExecutorCall RuntimeReply ExecutorJob ExecutorEvent

end Executor

end SellerAgent

end Coordination
