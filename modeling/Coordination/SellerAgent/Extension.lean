import Coordination.SellerAgent.Settlement

/-!
# The seller's side of the agreement workflow

`extension.py` of the Python seller: the seller's own check of the terms, the check of a
Runtime card against the terms that pin it, the countersignature, the evidence envelope
and the signed delivery command.
-/

namespace Coordination

namespace SellerAgent

open Python Library

def extensionUri : String :=
  "https://a2a.gokite.ai/extensions/coordination-workflow/v1"

def commandSchema : String :=
  "https://a2a.gokite.ai/schemas/agreement-command/v1"

/-- The chain parameters of `settlement.py`. -/
structure SettlementEnv where
  chainId : ℤ
  vaultAddress : String

/-- The values the seller takes from its environment. -/
structure SellerEnv where
  coordinationEndpoint : String
  sellerAgentId : String
  sellerPayoutAddress : String
  quoteAmountUsdc : String
  settlement : SettlementEnv

/-- `DEMO_EXPIRY`. -/
def demoExpiry : ℤ :=
  1800000000

/-- What the clock and the random source give to one command. -/
structure CommandMoment where
  token : String
  now : String

section Primitives

variable [Interpreter] [CaseTables] [DecimalSource] [Digests] [RecoverableEcdsa] [Rfc8785]

/-! ## Terms -/

omit [Digests] [RecoverableEcdsa] [Rfc8785] [DecimalSource] in
/-- `validate_terms`. The messages leave out the values they quote. -/
def validateTerms [FloatText] [ContainerText] (env : SellerEnv) (contract : PyValue) :
    Except Failure Unit := do
  let payout ← asText (← getD (← getD contract "escrow" (.obj [])) "payoutAddress" (.str ""))
  if CaseTables.lower payout ≠ CaseTables.lower env.sellerPayoutAddress then
    valueError "contract does not pay our payout address — refusing to countersign"
  if !isText (← get contract "sellerAgentId") env.sellerAgentId then
    valueError s!"contract names another seller, not {env.sellerAgentId}"
  let price := orElse (← get contract "price") (.obj [])
  if !isText (← get price "asset") "USDC" || !isText (← get price "amount") env.quoteAmountUsdc then
    valueError s!"the quote was {env.quoteAmountUsdc} USDC — refusing to countersign unquoted terms"
  if strip (strOf (orElse (← get contract "deliverable") (.str ""))) = "" then
    valueError "contract carries no deliverable"
  let binding := orElse (← get contract "runtimeBinding") (.obj [])
  if !isText (← get binding "extensionUri") extensionUri then
    valueError "runtimeBinding pins another extension, not this one"
  if !isText (← get binding "endpoint") env.coordinationEndpoint then
    valueError (s!"this seller executes against {env.coordinationEndpoint} — a deal pinned " ++
      "elsewhere could never be funded here")
  let arbiter ← get (orElse (← get contract "disputePolicy") (.obj [])) "arbiterAgentId"
  if !truthy arbiter || eqValue arbiter (← get contract "buyerAgentId") ||
      isText arbiter env.sellerAgentId then
    valueError "disputePolicy.arbiterAgentId must name a third party (§4.1)"

omit [Interpreter] [CaseTables] [DecimalSource] [Digests] [RecoverableEcdsa] [Rfc8785] in
/-- The first declared extension with the URI of this one. -/
def declaredExtension : List PyValue → Except Failure (Option PyValue)
  | [] => .ok none
  | e :: es => do
    if isText (← get e "uri") extensionUri then return some e
    else declaredExtension es

omit [CaseTables] [DecimalSource] [RecoverableEcdsa] in
/-- `validate_runtime_card`: the chain id and the vault of the card the terms pin. -/
def validateRuntimeCard [FloatText] [ContainerText] (card binding : PyValue) :
    Except Failure (ℤ × String) := do
  let computed := Digests.sha256Ref (← Rfc8785.dumps card)
  if !isText (← get binding "agentCardHash") computed then
    valueError "runtime card hash is not the one the terms pin"
  let registry ← get (orElse (← get card "x-kite-registry") (.obj [])) "agentId"
  if !eqValue registry (← get binding "runtimeAgentId") then
    valueError "runtime card belongs to another agent than the pinned one"
  let extensions ← iterate
    (orElse (← get (orElse (← get card "capabilities") (.obj [])) "extensions") (.arr []))
  match ← declaredExtension extensions with
  | none => valueError "runtime card does not declare this extension (§2.1)"
  | some declared =>
    let params := orElse (← get declared "params") (.obj [])
    if !(← contains "chainId" params) || !(← contains "escrowVault" params) then
      valueError "runtime card omits chainId/escrowVault (§2.1) — nothing safe to sign under"
    else return (← intOf (← item params "chainId"), strOf (← item params "escrowVault"))

/-- `accept_terms`. -/
def acceptTerms [FloatText] [ContainerText] (env : SellerEnv) (contract buyerAddress : PyValue)
    (dealId : String) (buyerAgreementSig : PyValue) (priv : Bytes) (chainId : ℤ) :
    Except Failure PyValue := do
  if (← len (← getD contract "signatures" (.arr []))) ≠ 1 then
    valueError "a proposal carries exactly one signature"
  validateTerms env contract
  let computed ← termsHash contract
  let proposalSig ← first (← item contract "signatures")
  if !eqValue (← item proposalSig "signerAgentId") (← item contract "buyerAgentId") then
    valueError "proposal signature must be the buyer's"
  if !(← verifyTermsSignature computed proposalSig buyerAddress) then
    valueError "buyer terms signature does not verify against the recomputed termsHash"
  let amount ← item (← item contract "price") "amount"
  let digest ← agreementDigest dealId computed amount (← asText buyerAddress) (evmAddressOf priv)
    chainId
  if !verifies digest buyerAgreementSig buyerAddress then
    valueError "buyer agreementSig does not verify over the §4.4 Agreement digest"
  let acceptance := signTerms computed priv env.sellerAgentId (some (signDigest32 priv digest))
  let entry ← withMember proposalSig "agreementSig" buyerAgreementSig
  withMember contract "signatures" (.arr [entry, acceptance])

/-- What the seller has established of a contract it countersigns. -/
structure AcceptedTerms [FloatText] [ContainerText] (env : SellerEnv) (contract : PyValue)
    (buyerAddress dealId : String) (buyerAgreementSig : PyValue) (priv : Bytes) (chainId : ℤ)
    (accepted : PyValue) (t : String) : Prop where
  valid : validateTerms env contract = .ok ()
  hash : termsHash contract = .ok t
  /-- The countersigned contract is the proposal with other signatures. -/
  kept : ∃ ms entries, contract = .obj ms ∧ accepted = .obj (setMember "signatures" entries ms)
  proposed : ∃ entry, (do first (← item contract "signatures")) = .ok entry ∧
    verifyTermsSignature t entry (.str buyerAddress) = .ok true
  agreement : ∃ price amount digest, item contract "price" = .ok price ∧
    item price "amount" = .ok amount ∧
    agreementDigest dealId t amount buyerAddress (evmAddressOf priv) chainId = .ok digest ∧
    verifies digest buyerAgreementSig (.str buyerAddress) = true

theorem acceptedTerms_of_acceptTerms [FloatText] [ContainerText] {env : SellerEnv}
    {contract buyerAddress buyerAgreementSig accepted : PyValue} {dealId : String} {priv : Bytes}
    {chainId : ℤ} (h : acceptTerms env contract buyerAddress dealId buyerAgreementSig priv chainId =
      .ok accepted) :
    ∃ address t, buyerAddress = .str address ∧
      AcceptedTerms env contract address dealId buyerAgreementSig priv chainId accepted t := by
  obtain ⟨sigs, _, h₁⟩ := bind_eq_ok.1 h
  obtain ⟨n, _, h₂⟩ := bind_eq_ok.1 h₁
  obtain ⟨_, h₃⟩ := check_eq_ok.1 h₂
  obtain ⟨_, hvalid, h₄⟩ := bind_eq_ok.1 h₃
  obtain ⟨t, ht, h₅⟩ := bind_eq_ok.1 h₄
  obtain ⟨entries, hentries, h₆⟩ := bind_eq_ok.1 h₅
  obtain ⟨entry, hentry, h₇⟩ := bind_eq_ok.1 h₆
  obtain ⟨_, _, h₈⟩ := bind_eq_ok.1 h₇
  obtain ⟨_, _, h₉⟩ := bind_eq_ok.1 h₈
  obtain ⟨_, h₁₀⟩ := check_eq_ok.1 h₉
  obtain ⟨verdict, hverdict, h₁₁⟩ := bind_eq_ok.1 h₁₀
  obtain ⟨hverified, h₁₂⟩ := check_eq_ok.1 h₁₁
  obtain ⟨price, hprice, h₁₃⟩ := bind_eq_ok.1 h₁₂
  obtain ⟨amount, hamount, h₁₄⟩ := bind_eq_ok.1 h₁₃
  obtain ⟨address, haddress, h₁₅⟩ := bind_eq_ok.1 h₁₄
  obtain ⟨digest, hdigest, h₁₆⟩ := bind_eq_ok.1 h₁₅
  obtain ⟨hagreed, h₁₇⟩ := check_eq_ok.1 h₁₆
  obtain ⟨sealed, _, h₁₈⟩ := bind_eq_ok.1 h₁₇
  obtain ⟨ms, hms, haccepted⟩ := withMember_eq_ok.1 h₁₈
  obtain rfl := asText_eq_ok.1 haddress
  rw [Bool.not_eq_true', Bool.not_eq_false] at hverified hagreed
  subst hverified
  exact ⟨address, t, rfl, hvalid, ht, ⟨ms, _, hms, haccepted.symm⟩,
    ⟨entry, bind_eq_ok.2 ⟨entries, hentries, hentry⟩, hverdict⟩,
    ⟨price, amount, digest, hprice, hamount, hdigest, hagreed⟩⟩

/-! ## Delivery -/

omit [Interpreter] [CaseTables] [DecimalSource] in
/-- `evidence_envelope`. -/
def evidenceEnvelope (env : SellerEnv) (dealId : PyValue) (termsHashRef : String) (content : Bytes)
    (priv : Bytes) : Except Failure PyValue :=
  signPartyEnvelope [("kind", .str "evidence"), ("dealId", dealId),
    ("actorAgentId", .str env.sellerAgentId), ("termsHash", .str termsHashRef),
    ("submission", .obj [("type", .str "delivery"),
      ("hash", .str (Digests.sha256Ref content)),
      ("url", .str "https://example.invalid/delivered-artifact"),
      ("format", .str "text/plain"), ("sizeBytes", .num (.int content.length))])]
    priv env.sellerAgentId

/-- The anchors of a settlement signature. -/
structure Anchors where
  dealId32 : PyValue
  receiptHash : PyValue
  nonce : ℤ
  expiry : ℤ
  chainId : ℤ
  vault : String

omit [Interpreter] [CaseTables] [DecimalSource] [RecoverableEcdsa] [Rfc8785] in
/-- `demo_anchors`. -/
def demoAnchors (env : SellerEnv) (dealId : PyValue) : Except Failure Anchors := do
  return {
    dealId32 := .str (demoDealId32 (← asText dealId))
    receiptHash := .str zeroAnchor
    nonce := 0
    expiry := demoExpiry
    chainId := env.settlement.chainId
    vault := env.settlement.vaultAddress }

/-- The artifact the seller delivers. -/
def deliveryContent : String :=
  "LAUNCH DAY: the product your agents have been waiting for is live. " ++
    "Composed per the signed brief."

/-- `make_delivery`: the signed command over a deal's anchors. -/
def makeDelivery (env : SellerEnv) (acceptedContract dealId : PyValue) (expectedRevision : ℤ)
    (evidenceId : PyValue) (priv : Bytes) (anchors : Anchors) (moment : CommandMoment) :
    Except Failure PyValue := do
  let deliveryHash := Digests.sha256Ref (utf8 deliveryContent)
  let termsHashRef ← termsHash acceptedContract
  let digest ← deliveryDigest (← asText anchors.dealId32) termsHashRef deliveryHash
    (← asText anchors.receiptHash) anchors.nonce anchors.expiry anchors.chainId anchors.vault
  let payload : PyValue := .obj [("evidenceId", evidenceId), ("deliveryHash", .str deliveryHash),
    ("sellerDeliverySig", .str (signDigest32 priv digest)), ("expiry", .num (.int anchors.expiry))]
  let payloadHash := Digests.sha256Ref (← Rfc8785.dumps payload)
  signCommand [("schema", .str commandSchema), ("commandId", .str ("cmd_" ++ moment.token)),
    ("commandType", .str "kite.contract.delivered"), ("dealId", dealId),
    ("expectedRevision", .num (.int expectedRevision)),
    ("actorAgentId", .str env.sellerAgentId), ("termsHash", .str termsHashRef),
    ("payload", payload), ("payloadHash", .str payloadHash), ("occurredAt", .str moment.now)]
    priv env.sellerAgentId

end Primitives

end SellerAgent

end Coordination
