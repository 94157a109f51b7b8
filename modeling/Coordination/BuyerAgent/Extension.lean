import Coordination.SellerAgent.Extension

/-!
# The buyer's side of the agreement workflow

`extension.py` of the Python buyer: the proposal, and what the buyer verifies of the
seller's acceptance and of its delivery.
-/

namespace Coordination

namespace BuyerAgent

open Python Library SellerAgent

/-- The values the buyer takes from its environment. -/
structure BuyerEnv where
  buyerAgentId : String
  settlement : SettlementEnv

section Primitives

variable [Interpreter] [CaseTables] [DecimalSource] [Digests] [RecoverableEcdsa] [Rfc8785]

omit [Interpreter] [CaseTables] [DecimalSource] in
/-- `propose`. -/
def propose (env : BuyerEnv) (draft : PyValue) (priv : Bytes) : Except Failure PyValue := do
  if truthy (← get draft "signatures") then
    valueError "draft must be unsigned; any change is a new proposal"
  let entry := signTerms (← termsHash draft) priv env.buyerAgentId none
  withMember draft "signatures" (.arr [entry])

/-- The entries of an accepted contract, the first of them the proposal's own but for an
`agreementSig`. -/
def acceptedEntries (proposed accepted : PyValue) : Except Failure (PyValue × PyValue) := do
  let sigs ← getD accepted "signatures" (.arr [])
  let entries ← iterate sigs
  let stripped ← entries.mapM (Python.without ["agreementSig"])
  match entries, stripped with
  | [first, second], own :: _ => do
    let proposal ← Python.first (← item proposed "signatures")
    if !eqValue own proposal then
      valueError "acceptance must carry our untouched proposal signature plus the seller's"
    return (first, second)
  | _, _ => valueError "acceptance must carry our untouched proposal signature plus the seller's"

/-- `verify_acceptance`: the agreed hash. -/
def verifyAcceptance (env : BuyerEnv) (proposed accepted : PyValue)
    (dealId buyerAddress sellerAddress : String) : Except Failure String := do
  let ours ← termsHash proposed
  let theirs ← termsHash accepted
  if ours ≠ theirs then
    valueError ("accepted contract differs from the proposal — that is a new proposal, not an " ++
      "acceptance")
  let (first, second) ← acceptedEntries proposed accepted
  if !eqValue (← item second "signerAgentId") (← item accepted "sellerAgentId") then
    valueError "second signature must be the seller's"
  if !(← verifyTermsSignature theirs second (.str sellerAddress)) then
    valueError "seller terms signature does not verify"
  let amount ← item (← item accepted "price") "amount"
  let digest ← agreementDigest dealId theirs amount buyerAddress sellerAddress
    env.settlement.chainId
  if !verifies digest (← getD first "agreementSig" (.str "")) (.str buyerAddress) then
    valueError "buyer agreementSig does not verify over the §4.4 Agreement digest"
  if !verifies digest (← getD second "agreementSig" (.str "")) (.str sellerAddress) then
    valueError "seller agreementSig does not verify over the §4.4 Agreement digest"
  return theirs

omit [Interpreter] [DecimalSource] in
/-- `verify_delivery`. -/
def verifyDelivery (env : BuyerEnv) (command : PyValue) (termsHashRef : String)
    (sellerAddress : PyValue) : Except Failure Unit := do
  if !isText (← get command "commandType") "kite.contract.delivered" then
    valueError "expected a kite.contract.delivered command"
  if !isText (← get command "termsHash") termsHashRef then
    valueError "delivery bound to a different termsHash"
  let payload ← get command "payload"
  let .obj _ := payload | valueError "payload must be an object"
  if !isText (← get command "payloadHash") (Digests.sha256Ref (← Rfc8785.dumps payload)) then
    valueError "payloadHash does not commit to the payload"
  if !truthy (← get payload "evidenceId") then
    valueError "delivery must cite the evidenceId the Runtime issued at registration"
  let deliveryHash ← asText (← getD payload "deliveryHash" (.str ""))
  if !"sha256:".toList.isPrefixOf deliveryHash.toList then
    valueError "delivery must carry the sha256 deliveryHash the settlement layer will receive"
  if !(← verifyCommandSignature command sellerAddress) then
    valueError "delivery command signature does not verify"
  let dealId ← asText (← item command "dealId")
  let digest ← deliveryDigestAt dealId termsHashRef (← item payload "deliveryHash")
    (← item payload "expiry")
  if !verifies digest (← item payload "sellerDeliverySig") sellerAddress then
    valueError "sellerDeliverySig does not verify over the §4.4 Delivery digest"
where
  /-- The digest over the demo anchors. -/
  deliveryDigestAt (dealId termsHashRef : String) (deliveryHash expiry : PyValue) :
      Except Failure Bytes := do
    deliveryDigest (demoDealId32 dealId) termsHashRef (← asText deliveryHash) zeroAnchor 0
      (← intOf expiry) env.settlement.chainId env.settlement.vaultAddress

end Primitives

end BuyerAgent

end Coordination
