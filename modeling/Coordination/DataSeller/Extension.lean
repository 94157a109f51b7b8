import Coordination.DataSeller.Settlement
import Coordination.DataSeller.Terms
import Coordination.JavaScript.Date
import Coordination.Library.Prog

/-!
# The seller's side of the agreement workflow

The checks before the seller binds itself (`validateTerms`, `validateRuntimeCard`
and the signature checks of `acceptTerms`), and the signed objects it produces:
commands, party envelopes and the acceptance.

A contract, a card or an envelope is an untrusted value. `acceptTerms` is a
program over the list of the signatures it has produced, because what it may
have produced when it throws is part of its contract.
-/

namespace Coordination

namespace DataSeller

open JavaScript Library Engine

/-- The deployment's identity and endpoints. -/
structure Environment where
  sellerAgentId : String
  sellerPayoutAddress : String
  coordinationEndpoint : String

def extensionUri : String :=
  "https://a2a.gokite.ai/extensions/coordination-workflow/v1"

def commandSchema : String :=
  "https://a2a.gokite.ai/schemas/agreement-command/v1"

def demoExpiry : Number := 1800000000

def demoChainId : Number := 2368

def demoVaultAddress : String :=
  "0xecececececececececececececececececececec"

def zeroAnchor : String :=
  "0x0000000000000000000000000000000000000000000000000000000000000000"

/-- `(v ?? {})[k]`. -/
def memberOf (v : Option Value) (k : String) : Except Failure (Option Value) :=
  prop (orElse v (some (.obj []))) k

/-- `String(v ?? "")`. -/
def textOrEmpty (v : Option Value) : Except Failure String :=
  toText (orElse v (some (.str "")))

/-! ## Terms validation -/

structure Recomputed where
  priceAmount : String
  criteriaHash : String
  statsHash : String

structure TermsValidationContext where
  termsDocument : TermsDocument
  recomputed : Recomputed

section Validation

variable [Digests] [Canonicalize] [HostLocale] (env : Environment)

/-- The members of the contract that name the parties and the payout. -/
def validateParties (contract : Value) : Except Failure Unit := do
  let payout ← textOrEmpty (← memberOf (← prop (some contract) "escrow") "payoutAddress")
  throwIf (HostLocale.toLowerCase payout ≠ HostLocale.toLowerCase env.sellerPayoutAddress)
    (.ok "contract does not pay our payout address — refusing to countersign")
  let sellerAgentId ← prop (some contract) "sellerAgentId"
  throwIf (strictEq sellerAgentId (some (.str env.sellerAgentId)) = false)
    (do return s!"contract names seller {← toText sellerAgentId}, not {env.sellerAgentId}")

/-- The terms document the contract pins is the one supplied. -/
def validateCommitment (contract : Value) (doc : TermsDocument) : Except Failure Unit := do
  match parseAcceptanceCriteria (← textOrEmpty (← prop (some contract) "acceptanceCriteria")) with
  | none => error ("acceptanceCriteria pins no terms document — an unpinned document is outside " ++
      "every signature")
  | some commitment => do
    let docHash ← termsDocumentHashOf doc
    throwIf (commitment.termsDocumentHash ≠ docHash)
      (.ok (s!"acceptanceCriteria pins terms document {commitment.termsDocumentHash}; the " ++
        s!"document supplied hashes to {docHash}"))

/-- The price and the document against the seller's own arithmetic. -/
def validatePrice (contract : Value) (ctx : TermsValidationContext) : Except Failure Unit := do
  let price ← prop (some contract) "price"
  let asset ← memberOf price "asset"
  let amount ← memberOf price "amount"
  throwIf (strictEq asset (some (.str "USDC")) = false ∨
      strictEq amount (some (.str ctx.recomputed.priceAmount)) = false)
    (do return s!"contract prices {← toText amount} {← toText asset}; this seller's own " ++
      s!"arithmetic reproduces {ctx.recomputed.priceAmount} USDC — refusing to countersign a " ++
      "price the rate card does not produce")
  throwIf (ctx.termsDocument.priceAmount ≠ ctx.recomputed.priceAmount)
    (.ok "terms document names a price the rate card does not produce")
  throwIf (ctx.termsDocument.criteriaHash ≠ ctx.recomputed.criteriaHash)
    (.ok "terms document pins a criteriaHash that does not match the stored query")
  throwIf (ctx.termsDocument.statsHash ≠ ctx.recomputed.statsHash)
    (.ok ("terms document pins a statsHash the current corpus does not reproduce — the slice " ++
      "changed between quote and proposal, and a silently different slice is the substitution " ++
      "the commitment exists to catch"))

/-- The Runtime the contract is bound to and the arbiter it names. -/
def validateExecution (contract : Value) : Except Failure Unit := do
  let deliverable ← textOrEmpty (← prop (some contract) "deliverable")
  throwIf (trim deliverable = "") (.ok "contract carries no deliverable")
  let binding ← prop (some contract) "runtimeBinding"
  let uri ← memberOf binding "extensionUri"
  throwIf (strictEq uri (some (.str extensionUri)) = false)
    (do return s!"runtimeBinding pins extension {← toText uri}, not this one")
  let endpoint ← memberOf binding "endpoint"
  throwIf (strictEq endpoint (some (.str env.coordinationEndpoint)) = false)
    (do return s!"runtimeBinding pins Runtime {← toText endpoint}; this seller executes against " ++
      s!"{env.coordinationEndpoint} — a deal pinned elsewhere could never be funded here")
  let arbiter ← memberOf (← prop (some contract) "disputePolicy") "arbiterAgentId"
  let buyerAgentId ← prop (some contract) "buyerAgentId"
  throwIf (truthy arbiter = false ∨ strictEq arbiter buyerAgentId = true ∨
      strictEq arbiter (some (.str env.sellerAgentId)) = true)
    (.ok "disputePolicy.arbiterAgentId must name a third party (§4.1)")

/-- `validateTerms`. -/
def validateTerms (contract : Value) (ctx : TermsValidationContext) : Except Failure Unit := do
  validateParties env contract
  validateCommitment contract ctx.termsDocument
  validatePrice contract ctx
  validateExecution env contract

/-! ## Runtime card verification -/

structure ChainContext where
  chainId : Number
  escrowVault : String

/-- `xs?.find(p)` of a value: only an array has the method. -/
def findItem (xs : Option Value) (p : Value → Except Failure Bool) :
    Except Failure (Option Value) :=
  match xs with
  | none | some .null => .ok none
  | some (.arr items) => go items
  | some _ => .error .typeError
where
  go : List Value → Except Failure (Option Value)
    | [] => .ok none
    | x :: xs => do if ← p x then return some x else go xs

/-- `validateRuntimeCard`. -/
def validateRuntimeCard (card : Value) (binding : Option Value) : Except Failure ChainContext := do
  let computed := Digests.sha256Ref (← jcs card)
  let pinned ← prop binding "agentCardHash"
  throwIf (strictEq (some (.str computed)) pinned = false)
    (do return s!"runtime card hash {computed} is not the one the terms pin ({← toText pinned}) " ++
      "— the card changed after signing, or the proposal pinned a placeholder")
  let registry ← memberOf (← prop (some card) "x-kite-registry") "agentId"
  let runtimeAgentId ← prop binding "runtimeAgentId"
  throwIf (strictEq registry runtimeAgentId = false)
    (do return s!"runtime card belongs to {← toText registry}, not the pinned " ++
      s!"{← toText runtimeAgentId}")
  let extensions ← memberOf (← prop (some card) "capabilities") "extensions"
  let declared ← findItem extensions fun e => do
    return strictEq (← prop (some e) "uri") (some (.str extensionUri))
  match declared with
  | none => error "runtime card does not declare this extension (§2.1)"
  | some declared => do
    let params ← prop (some declared) "params"
    let chainId ← memberOf params "chainId"
    let escrowVault ← memberOf params "escrowVault"
    throwIf (chainId.isNone ∨ escrowVault.isNone)
      (.ok "runtime card omits chainId/escrowVault (§2.1) — nothing safe to sign under")
    return { chainId := ← toNumber chainId, escrowVault := ← toText escrowVault }

end Validation

/-! ## Commands and envelopes -/

/-- The signature object of a command or an envelope. -/
def signatureBlock (keyId sig : String) : Value :=
  .obj [("profile", .str signatureProfile), ("keyId", .str keyId), ("sig", .str sig)]

section Commands

variable [Digests] [Canonicalize] [RecoverableEcdsa]

/-- What a command reads from the clock and the random source. -/
structure CommandStamp where
  random : Bytes
  now : ℕ

structure CommandInput where
  commandType : String
  dealId : String
  expectedRevision : Number
  termsHash : String
  payload : Value

/-- `buildCommand`. -/
def buildCommand (env : Environment) (stamp : CommandStamp) (input : CommandInput) :
    Except Failure Value := do
  return .obj [
    ("schema", .str commandSchema),
    ("commandId", .str ("cmd_" ++ toHex (stamp.random.take 13))),
    ("commandType", .str input.commandType),
    ("dealId", .str input.dealId),
    ("expectedRevision", .num input.expectedRevision),
    ("actorAgentId", .str env.sellerAgentId),
    ("termsHash", .str input.termsHash),
    ("payload", input.payload),
    ("payloadHash", .str (← payloadHashOf input.payload)),
    ("occurredAt", .str (Date.toSeconds stamp.now ++ "Z"))]

/-- `signCommand`. -/
def signCommand (command : Value) (privateKey : Bytes) (keyId : String) : Except Failure Value := do
  let sig := sign privateKey (← commandSigningBytes command)
  return .obj (setMember "signature" (signatureBlock keyId sig) (ownMembers command))

/-- `signPartyEnvelope`. -/
def signPartyEnvelope (envelope : Value) (privateKey : Bytes) (keyId : String) :
    Except Failure Value := do
  let sig := sign privateKey (← envelopeSigningBytes envelope)
  return .obj (setMember "signature" (signatureBlock keyId sig) (ownMembers envelope))

structure EvidenceInput where
  dealId : String
  termsHash : String
  manifestHash : String
  manifestUrl : String
  manifestBytes : ℕ

/-- `evidenceEnvelope`. -/
def evidenceEnvelope (env : Environment) (input : EvidenceInput) (privateKey : Bytes)
    (keyId : String) : Except Failure Value :=
  signPartyEnvelope (.obj [
    ("kind", .str "evidence"),
    ("dealId", .str input.dealId),
    ("actorAgentId", .str env.sellerAgentId),
    ("termsHash", .str input.termsHash),
    ("submission", .obj [
      ("type", .str "delivery-manifest"),
      ("hash", .str input.manifestHash),
      ("url", .str input.manifestUrl),
      ("format", .str "application/json"),
      ("sizeBytes", natValue input.manifestBytes)])]) privateKey keyId

structure SettlementAnchors where
  dealId32 : String
  receiptHash : String
  nonce : Number
  expiry : Number
  chainId : Number
  vault : String

/-- `demoAnchors`. -/
def demoAnchors (dealId : String) : SettlementAnchors where
  dealId32 := "0x" ++ stripStart "sha256:"
    (Digests.sha256Ref (utf8 ("demo-vault-deal|" ++ dealId)))
  receiptHash := zeroAnchor
  nonce := 0
  expiry := demoExpiry
  chainId := demoChainId
  vault := demoVaultAddress

/-- `vaultDomain`. -/
def vaultDomain (anchors : SettlementAnchors) : Eip712Domain where
  name := "KiteEscrowVault"
  version := "1"
  chainId := anchors.chainId
  verifyingContract := some anchors.vault

structure DeliveredInput where
  dealId : String
  expectedRevision : Number
  termsHash : String
  evidenceId : String
  deliveryHash : String
  anchors : SettlementAnchors

/-- `deliveredCommand`. -/
def deliveredCommand (env : Environment) (stamp : CommandStamp) (input : DeliveredInput)
    (privateKey : Bytes) (keyId : String) : Except Failure Value := do
  let sellerDeliverySig ← signStruct privateKey (vaultDomain input.anchors) .Delivery [
    ("dealId", .str input.anchors.dealId32),
    ("termsHash", .str input.termsHash),
    ("deliveryHash", .str input.deliveryHash),
    ("receiptHash", .str input.anchors.receiptHash),
    ("nonce", .num input.anchors.nonce),
    ("expiry", .num input.anchors.expiry)]
  let command ← buildCommand env stamp {
    commandType := "kite.contract.delivered"
    dealId := input.dealId
    expectedRevision := input.expectedRevision
    termsHash := input.termsHash
    payload := .obj [
      ("evidenceId", .str input.evidenceId),
      ("deliveryHash", .str input.deliveryHash),
      ("sellerDeliverySig", .str sellerDeliverySig),
      ("expiry", .num input.anchors.expiry)] }
  signCommand command privateKey keyId

/-- `DELIVERY_REQUEST_TAG`. -/
def deliveryRequestTag : String :=
  "kite:example:delivery-request:v1"

/-- The object a delivery request signs. -/
def deliveryRequest (dealId : String) (requestedAt : Number) : Value :=
  .obj [("dealId", .str dealId), ("requestedAt", .num requestedAt)]

/-- `deliveryRequestSigningBytes`. -/
def deliveryRequestSigningBytes (dealId : String) (requestedAt : Number) :
    Except Failure Bytes := do
  return utf8 deliveryRequestTag ++ (← jcs (deliveryRequest dealId requestedAt))

end Commands

/-! ## Acceptance -/

/-- `agreementDomain`. -/
def agreementDomain (chainId : Number) : Eip712Domain where
  name := "KiteFulfill"
  version := "1"
  chainId
  verifyingContract := none

/-- `agreementStruct`. -/
def agreementStruct (dealId termsHash amount buyer seller : String) : Struct :=
  [("agreementId", .str dealId), ("termsHash", .str termsHash), ("amount", .str amount),
    ("buyerAgent", .str buyer), ("sellerAgent", .str seller)]

structure AcceptTermsInput where
  contract : Value
  buyerAddress : String
  dealId : String
  buyerAgreementSig : String
  privateKey : Bytes
  keyId : String
  sellerAddress : String
  chainId : Option Number
  validation : TermsValidationContext

section Acceptance

variable [Digests] [Canonicalize] [HostLocale] [RecoverableEcdsa] (env : Environment)

/-- What the checks of `acceptTerms` have established. -/
structure CheckedProposal where
  proposalSig : Option Value
  termsHash : String
  domain : Eip712Domain
  struct : Struct

/-- The checks of `acceptTerms`, in its order. -/
def checkProposal (input : AcceptTermsInput) : Except Failure CheckedProposal := do
  let signatures := (orElse (← prop (some input.contract) "signatures") none).getD (.arr [])
  throwIf (hasLength signatures 1 = false) (.ok "a proposal carries exactly one signature")
  validateTerms env input.contract input.validation
  let computed ← termsHashOf input.contract
  let proposalSig := itemAt signatures 0
  let signer ← prop proposalSig "signerAgentId"
  throwIf (strictEq signer (← prop (some input.contract) "buyerAgentId") = false)
    (.ok "proposal signature must be the buyer's")
  let sig ← toText (← prop proposalSig "sig")
  throwIf (verify sig (termsSigningBytes computed) input.buyerAddress = false)
    (.ok "buyer terms signature does not verify against the recomputed termsHash")
  let amount ← toText (← prop (← prop (some input.contract) "price") "amount")
  let domain := agreementDomain (input.chainId.getD demoChainId)
  let struct := agreementStruct input.dealId computed amount input.buyerAddress input.sellerAddress
  let recovered ← recoverStruct input.buyerAgreementSig domain .Agreement struct
  throwIf (recovered ≠ some (HostLocale.toLowerCase input.buyerAddress))
    (.ok "buyer agreementSig does not verify over the §4.4 Agreement digest")
  return { proposalSig, termsHash := computed, domain, struct }

/-- The signatures a computation has produced, oldest first. -/
abbrev Signer := Prog Failure (List String)

def produce (signature : String) : Signer String := do
  Prog.modify fun produced => produced ++ [signature]
  return signature

/-- The countersigned contract. -/
def countersigned (input : AcceptTermsInput) (proposalSig : Option Value)
    (sig agreementSig : String) : Value :=
  let first := setMember "agreementSig" (.str input.buyerAgreementSig)
    (ownMembers (proposalSig.getD .null))
  let acceptance : Value := .obj [
    ("signerAgentId", .str env.sellerAgentId),
    ("profile", .str signatureProfile),
    ("keyId", .str input.keyId),
    ("sig", .str sig),
    ("agreementSig", .str agreementSig)]
  .obj (setMember "signatures" (.arr [.obj first, acceptance]) (ownMembers input.contract))

/-- `acceptTerms`. -/
def acceptTerms (input : AcceptTermsInput) : Signer Value := do
  let checked ← Prog.lift (checkProposal env input)
  let sellerAgreementSig ← produce
    (← Prog.lift (signStruct input.privateKey checked.domain .Agreement checked.struct))
  let sig ← produce (sign input.privateKey (termsSigningBytes checked.termsHash))
  return countersigned env input checked.proposalSig sig sellerAgreementSig

end Acceptance

end DataSeller

end Coordination
