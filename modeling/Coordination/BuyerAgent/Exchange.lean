import Coordination.Library.Canonical
import Coordination.BuyerAgent.Extension
import Coordination.SellerAgent.Executor

/-!
# An honest exchange

The other half of what the buyer accepts. A draft that the seller's own check passes is
proposed, countersigned and accepted, and the delivery the seller signs over the demo
anchors verifies. What one side writes, the other reads back, step by step.
-/

namespace Coordination

namespace BuyerAgent

open Python Library SellerAgent

/-! ## Members beside the signatures -/

theorem getD_setMember_of_ne {k k' : String} (hk : k' ≠ k) (v : PyValue)
    (ms : List (String × PyValue)) (default : PyValue) :
    getD (.obj (setMember k v ms)) k' default = getD (.obj ms) k' default := by
  simp only [getD, items, ok_bind, lookup_setMember_of_ne v ms hk]

theorem get_setMember_of_ne {k k' : String} (hk : k' ≠ k) (v : PyValue)
    (ms : List (String × PyValue)) : get (.obj (setMember k v ms)) k' = get (.obj ms) k' :=
  getD_setMember_of_ne hk v ms .null

/-- The seller's check of the terms does not look at the signatures. -/
theorem validateTerms_setMember [Interpreter] [CaseTables] [FloatText] [ContainerText]
    (env : SellerEnv) (v : PyValue) (ms : List (String × PyValue)) :
    validateTerms env (.obj (setMember "signatures" v ms)) = validateTerms env (.obj ms) := by
  unfold validateTerms
  rw [getD_setMember_of_ne (by decide)]
  simp only [get_setMember_of_ne (show ("sellerAgentId" : String) ≠ "signatures" by decide),
    get_setMember_of_ne (show ("price" : String) ≠ "signatures" by decide),
    get_setMember_of_ne (show ("deliverable" : String) ≠ "signatures" by decide),
    get_setMember_of_ne (show ("runtimeBinding" : String) ≠ "signatures" by decide),
    get_setMember_of_ne (show ("disputePolicy" : String) ≠ "signatures" by decide),
    get_setMember_of_ne (show ("buyerAgentId" : String) ≠ "signatures" by decide)]

/-- A member that is no text never has the value of one. -/
theorem lookup_of_isText {ms : List (String × PyValue)} {k s : String}
    (h : isText ((ms.lookup k).getD .null) s = true) : ms.lookup k = some (.str s) := by
  cases hk : ms.lookup k with
  | none =>
      rw [hk] at h
      cases h
  | some v =>
      rw [hk] at h
      exact congrArg some (isText_iff.1 h)

/-- What the seller's check says of the seller and of the price. -/
theorem quoted_of_validateTerms [Interpreter] [CaseTables] [FloatText] [ContainerText]
    {env : SellerEnv} {ms : List (String × PyValue)} (h : validateTerms env (.obj ms) = .ok ()) :
    ms.lookup "sellerAgentId" = some (.str env.sellerAgentId) ∧ ∃ price,
      ms.lookup "price" = some price ∧
        price.members.lookup "amount" = some (.str env.quoteAmountUsdc) := by
  obtain ⟨escrow, _, h₁⟩ := bind_eq_ok.1 h
  obtain ⟨payoutValue, _, h₂⟩ := bind_eq_ok.1 h₁
  obtain ⟨payout, _, h₃⟩ := bind_eq_ok.1 h₂
  obtain ⟨_, h₄⟩ := check_eq_ok.1 h₃
  obtain ⟨sellerId, hsellerId, h₅⟩ := bind_eq_ok.1 h₄
  obtain ⟨hseller, h₆⟩ := check_eq_ok.1 h₅
  obtain ⟨price, hprice, h₇⟩ := bind_eq_ok.1 h₆
  obtain ⟨asset, _, h₈⟩ := bind_eq_ok.1 h₇
  obtain ⟨amount, hamount, h₉⟩ := bind_eq_ok.1 h₈
  obtain ⟨hquote, _⟩ := check_eq_ok.1 h₉
  rw [Bool.or_eq_true, not_or, Bool.not_eq_true', Bool.not_eq_false, Bool.not_eq_true',
    Bool.not_eq_false] at hquote
  obtain ⟨_, hsellerLookup, rfl⟩ := get_eq_ok.1 hsellerId
  cases hsellerLookup
  rw [Bool.not_eq_true', Bool.not_eq_false] at hseller
  refine ⟨lookup_of_isText hseller, ?_⟩
  obtain ⟨_, hms, rfl⟩ := get_eq_ok.1 hprice
  cases hms
  obtain ⟨members, hmembers, rfl⟩ := get_eq_ok.1 hamount
  have hamounts := lookup_of_isText hquote.2
  cases hlookup : ms.lookup "price" with
  | none =>
      rw [hlookup] at hmembers
      cases hmembers
      cases hamounts
  | some price =>
      rw [hlookup, Option.getD_some] at hmembers
      unfold orElse at hmembers
      split at hmembers
      · rw [hmembers]
        exact ⟨.obj members, rfl, hamounts⟩
      · cases hmembers
        cases hamounts

/-! ## The contract -/

section Contract

variable [Digests] [RecoverableEcdsa] [Rfc8785]

omit [RecoverableEcdsa] in
/-- The terms hash leaves the signatures out. -/
theorem termsHash_setMember (v : PyValue) (ms : List (String × PyValue)) :
    termsHash (.obj (setMember "signatures" v ms)) = termsHash (.obj ms) := by
  unfold termsHash without
  simp only [items, ok_bind, dropMembers_setMember v ms (List.mem_cons_self (a := "signatures"))]

omit [RecoverableEcdsa] in
theorem exists_of_termsHash {v : PyValue} {t : String}
    (h : termsHash v = .ok t) :
    ∃ ms bs, v = .obj ms ∧ t = Digests.sha256Ref bs ∧
      Rfc8785.dumps (.obj (dropMembers ["signatures", "termsHash"] ms)) = .ok bs := by
  obtain ⟨v', hv, hdumps⟩ := bind_eq_ok.1 h
  obtain ⟨bs, hbs, ht⟩ := bind_eq_ok.1 hdumps
  obtain ⟨ms, rfl, rfl⟩ := without_eq_ok.1 hv
  cases ht
  exact ⟨ms, bs, rfl, rfl, hbs⟩

/-- The members of a draft that the buyer has signed. -/
def proposedMembers (env : BuyerEnv) (buyerKey : Bytes) (t : String)
    (draft : List (String × PyValue)) : List (String × PyValue) :=
  setMember "signatures" (.arr [signTerms t buyerKey env.buyerAgentId none]) draft

/-- A proposal that both parties have signed, with their Agreement over a digest. -/
def countersigned (env : BuyerEnv) (sellerEnv : SellerEnv) (buyerKey sellerKey : Bytes)
    (t : String) (digest : Bytes) (proposed : List (String × PyValue)) : PyValue :=
  .obj (setMember "signatures"
    (.arr [signTerms t buyerKey env.buyerAgentId (some (signDigest32 buyerKey digest)),
      signTerms t sellerKey sellerEnv.sellerAgentId (some (signDigest32 sellerKey digest))])
    proposed)

theorem propose_unsigned {env : BuyerEnv} {buyerKey : Bytes} {t : String}
    {draft : List (String × PyValue)}
    (hunsigned : truthy ((draft.lookup "signatures").getD .null) = false)
    (ht : termsHash (.obj draft) = .ok t) :
    propose env (.obj draft) buyerKey = .ok (.obj (proposedMembers env buyerKey t draft)) := by
  unfold propose
  have hsigs : get (.obj draft) "signatures" =
      .ok ((draft.lookup "signatures").getD .null) := rfl
  rw [hsigs, ok_bind, hunsigned, ht]
  rfl

variable [Interpreter] [CaseTables] [DecimalSource]

/-- What the seller makes of an honest proposal and the buyer's Agreement signature. -/
theorem acceptTerms_proposed [FloatText] [ContainerText] {env : BuyerEnv} {sellerEnv : SellerEnv}
    {buyerKey sellerKey : Bytes} (hbuyerKey : RecoverableEcdsa.Inverts buyerKey) {t : String}
    {proposed : List (String × PyValue)} (ht : termsHash (.obj proposed) = .ok t)
    (hvalid : validateTerms sellerEnv (.obj proposed) = .ok ())
    (hown : proposed.lookup "signatures" =
      some (.arr [signTerms t buyerKey env.buyerAgentId none]))
    (hbuyer : proposed.lookup "buyerAgentId" = some (.str env.buyerAgentId)) {price amount : PyValue}
    (hprice : proposed.lookup "price" = some price)
    (hamount : price.members.lookup "amount" = some amount) {dealId : String} {digest : Bytes}
    {chainId : ℤ} (hdigest : agreementDigest dealId t amount (evmAddressOf buyerKey)
      (evmAddressOf sellerKey) chainId = .ok digest) :
    acceptTerms sellerEnv (.obj proposed) (.str (evmAddressOf buyerKey)) dealId
      (.str (signDigest32 buyerKey digest)) sellerKey chainId =
        .ok (countersigned env sellerEnv buyerKey sellerKey t digest proposed) := by
  have hsigs : getD (.obj proposed) "signatures" (.arr []) =
      .ok (.arr [signTerms t buyerKey env.buyerAgentId none]) :=
    getD_eq_ok.2 ⟨proposed, rfl, by rw [hown]; rfl⟩
  have hitem : item (.obj proposed) "signatures" =
      .ok (.arr [signTerms t buyerKey env.buyerAgentId none]) := item_eq_ok.2 hown
  have hprice' : item (.obj proposed) "price" = .ok price := item_eq_ok.2 hprice
  have hamount' : item price "amount" = .ok amount := item_eq_ok.2 hamount
  have hbuyer' : item (.obj proposed) "buyerAgentId" = .ok (.str env.buyerAgentId) :=
    item_eq_ok.2 hbuyer
  have hsigner : item (signTerms t buyerKey env.buyerAgentId none) "signerAgentId" =
      .ok (.str env.buyerAgentId) := rfl
  unfold acceptTerms
  simp only [hsigs, hitem, hprice', hamount', hbuyer', hvalid, ht, ok_bind, first, len,
    List.length_singleton, ne_eq, not_true_eq_false, if_false, hsigner, eqValue, decide_true,
    Bool.not_true, Bool.false_eq_true, verifyTermsSignature_signTerms hbuyerKey, asText, hdigest,
    verifies_signDigest32 hbuyerKey]
  rfl

omit [Interpreter] [CaseTables] [DecimalSource] [Rfc8785] in
theorem acceptedEntries_countersigned {env : BuyerEnv} {sellerEnv : SellerEnv}
    {buyerKey sellerKey : Bytes} {t : String} {digest : Bytes} {proposed : List (String × PyValue)}
    (hown : proposed.lookup "signatures" =
      some (.arr [signTerms t buyerKey env.buyerAgentId none])) :
    acceptedEntries (.obj proposed)
      (countersigned env sellerEnv buyerKey sellerKey t digest proposed) =
        .ok (signTerms t buyerKey env.buyerAgentId (some (signDigest32 buyerKey digest)),
          signTerms t sellerKey sellerEnv.sellerAgentId (some (signDigest32 sellerKey digest))) := by
  have hsigs : getD (countersigned env sellerEnv buyerKey sellerKey t digest proposed)
      "signatures" (.arr []) = .ok (.arr
        [signTerms t buyerKey env.buyerAgentId (some (signDigest32 buyerKey digest)),
          signTerms t sellerKey sellerEnv.sellerAgentId (some (signDigest32 sellerKey digest))]) :=
    getD_eq_ok.2 ⟨_, rfl, by rw [lookup_setMember_self]; rfl⟩
  have hitem : item (.obj proposed) "signatures" =
      .ok (.arr [signTerms t buyerKey env.buyerAgentId none]) := item_eq_ok.2 hown
  have hwithout (key : Bytes) (agentId sig : String) : without ["agreementSig"]
      (signTerms t key agentId (some sig)) = .ok (signTerms t key agentId none) := rfl
  have hself : eqValue (signTerms t buyerKey env.buyerAgentId none)
      (signTerms t buyerKey env.buyerAgentId none) = true := by
    simp [signTerms, eqValue, eqMembers, List.lookup_cons]
  unfold acceptedEntries
  simp only [hsigs, hitem, ok_bind, iterate, List.mapM_cons, List.mapM_nil, hwithout, pure_bind,
    first, hself]
  rfl

/-- The buyer accepts its own proposal once it is countersigned. -/
theorem verifyAcceptance_countersigned {env : BuyerEnv} {sellerEnv : SellerEnv}
    {buyerKey sellerKey : Bytes} (hbuyerKey : RecoverableEcdsa.Inverts buyerKey)
    (hsellerKey : RecoverableEcdsa.Inverts sellerKey) {t : String}
    {proposed : List (String × PyValue)} (ht : termsHash (.obj proposed) = .ok t)
    (hown : proposed.lookup "signatures" =
      some (.arr [signTerms t buyerKey env.buyerAgentId none]))
    (hseller : proposed.lookup "sellerAgentId" = some (.str sellerEnv.sellerAgentId))
    {price amount : PyValue} (hprice : proposed.lookup "price" = some price)
    (hamount : price.members.lookup "amount" = some amount) {dealId : String} {digest : Bytes}
    (hdigest : agreementDigest dealId t amount (evmAddressOf buyerKey) (evmAddressOf sellerKey)
      env.settlement.chainId = .ok digest) :
    verifyAcceptance env (.obj proposed)
      (countersigned env sellerEnv buyerKey sellerKey t digest proposed) dealId
      (evmAddressOf buyerKey) (evmAddressOf sellerKey) = .ok t := by
  have hmember {k : String} {v : PyValue} (hk : k ≠ "signatures") (hv : proposed.lookup k = some v) :
      item (countersigned env sellerEnv buyerKey sellerKey t digest proposed) k = .ok v := by
    rw [item_eq_ok, countersigned, Json.members_obj, lookup_setMember_of_ne _ _ hk, hv]
  have hamount' : item price "amount" = .ok amount := item_eq_ok.2 hamount
  have hsigner : item (signTerms t sellerKey sellerEnv.sellerAgentId
      (some (signDigest32 sellerKey digest))) "signerAgentId" = .ok (.str sellerEnv.sellerAgentId) :=
    rfl
  have hsig (key : Bytes) (agentId sig : String) : getD (signTerms t key agentId (some sig))
      "agreementSig" (.str "") = .ok (.str sig) := rfl
  have hhash : termsHash (countersigned env sellerEnv buyerKey sellerKey t digest proposed) =
      .ok t := (termsHash_setMember _ _).trans ht
  unfold verifyAcceptance
  simp only [acceptedEntries_countersigned hown, ht, hhash, ok_bind, ne_eq, not_true_eq_false,
    if_false, hsigner, hmember (by decide : ("sellerAgentId" : String) ≠ "signatures") hseller,
    hmember (by decide : ("price" : String) ≠ "signatures") hprice, hamount', eqValue, decide_true,
    Bool.not_true, Bool.false_eq_true, verifyTermsSignature_signTerms hsellerKey, hdigest, hsig,
    verifies_signDigest32 hbuyerKey, verifies_signDigest32 hsellerKey]
  rfl

/-! ## The delivery -/

/-- An integer that a float holds too. -/
def SafeInteger (n : PyNumber) : Prop :=
  ∃ k : ℤ, n = .int k ∧ k.natAbs < 2 ^ 53

/-- Whatever holds texts and integers that a float holds too has a canonical form. -/
def Serialises : Prop :=
  ∀ v : PyValue, v.Each SafeInteger → ∃ bs, Rfc8785.dumps v = .ok bs

/-- The signature of a command with a canonical form. -/
def commandEntry (key : Bytes) (agentId : String) (canonical : Bytes) : PyValue :=
  .obj [("profile", .str signatureProfile), ("keyId", .str (keyId agentId key)),
    ("sig", .str (signDigest key (commandDomainTag ++ canonical)))]

section Command

variable {key : Bytes} {command : List (String × PyValue)} {canonical : Bytes}

omit [Interpreter] [CaseTables] [DecimalSource] in
theorem signCommand_unsigned (hunsigned : dropMembers ["signature"] command = command)
    (hcanonical : Rfc8785.dumps (.obj command) = .ok canonical) (agentId : String) :
    signCommand command key agentId =
      .ok (.obj (setMember "signature" (commandEntry key agentId canonical) command)) := by
  unfold signCommand signDocument
  simp only [hunsigned, hcanonical, ok_bind]
  rfl

omit [Interpreter] [DecimalSource] in
/-- A command that is signed verifies under the address of the key. -/
theorem verifyCommandSignature_signed (hkey : RecoverableEcdsa.Inverts key)
    (hunsigned : dropMembers ["signature"] command = command)
    (hcanonical : Rfc8785.dumps (.obj command) = .ok canonical) (agentId : String) :
    verifyCommandSignature
      (.obj (setMember "signature" (commandEntry key agentId canonical) command))
      (.str (evmAddressOf key)) = .ok true := by
  have hentry : getD (.obj (setMember "signature" (commandEntry key agentId canonical) command))
      "signature" (.obj []) = .ok (commandEntry key agentId canonical) :=
    getD_eq_ok.2 ⟨_, rfl, by rw [lookup_setMember_self]; rfl⟩
  have hitem : item (.obj (setMember "signature" (commandEntry key agentId canonical) command))
      "signature" = .ok (commandEntry key agentId canonical) :=
    item_eq_ok.2 (lookup_setMember_self ..)
  have hrest : without ["signature"]
      (.obj (setMember "signature" (commandEntry key agentId canonical) command)) =
        .ok (.obj command) :=
    without_eq_ok.2 ⟨_, rfl, by rw [dropMembers_setMember _ _ (by simp), hunsigned]⟩
  have hprofile : get (commandEntry key agentId canonical) "profile" =
      .ok (.str signatureProfile) := rfl
  have hsig : item (commandEntry key agentId canonical) "sig" =
      .ok (.str (signDigest key (commandDomainTag ++ canonical))) := rfl
  unfold verifyCommandSignature
  simp only [hentry, hitem, hrest, hprofile, hsig, hcanonical, ok_bind, isText, decide_true,
    Bool.not_true, Bool.false_eq_true, if_false]
  exact verifySignature_signDigest hkey _

end Command

/-- The payload of a delivered command over the demo anchors. -/
def deliveredPayload (sellerKey digest : Bytes) (evidenceId : String) : PyValue :=
  .obj [("evidenceId", .str evidenceId),
    ("deliveryHash", .str (Digests.sha256Ref (utf8 deliveryContent))),
    ("sellerDeliverySig", .str (signDigest32 sellerKey digest)),
    ("expiry", .num (.int demoExpiry))]

/-- The command that delivers it, before it is signed. -/
def deliveredCommand (sellerEnv : SellerEnv) (dealId t : String) (revision : ℤ) (payload : PyValue)
    (payloadBytes : Bytes) (moment : CommandMoment) : List (String × PyValue) :=
  [("schema", .str commandSchema), ("commandId", .str ("cmd_" ++ moment.token)),
    ("commandType", .str "kite.contract.delivered"), ("dealId", .str dealId),
    ("expectedRevision", .num (.int revision)), ("actorAgentId", .str sellerEnv.sellerAgentId),
    ("termsHash", .str t), ("payload", payload),
    ("payloadHash", .str (Digests.sha256Ref payloadBytes)), ("occurredAt", .str moment.now)]

omit [Interpreter] [CaseTables] [DecimalSource] [Rfc8785] in
theorem deliveredPayload_safe (sellerKey digest : Bytes) (evidenceId : String) :
    (deliveredPayload sellerKey digest evidenceId).Each SafeInteger := by
  rw [deliveredPayload, Json.each_obj]
  simp only [List.forall_mem_cons, List.not_mem_nil, false_implies, implies_true, and_true]
  exact ⟨.str _, .str _, .str _, .num ⟨demoExpiry, rfl, by decide⟩⟩

omit [Interpreter] [CaseTables] [DecimalSource] [RecoverableEcdsa] [Rfc8785] in
theorem deliveredCommand_safe (sellerEnv : SellerEnv) (dealId t : String) {revision : ℤ}
    (hrevision : revision.natAbs < 2 ^ 53) {payload : PyValue}
    (hpayload : payload.Each SafeInteger) (payloadBytes : Bytes) (moment : CommandMoment) :
    (Json.obj (deliveredCommand sellerEnv dealId t revision payload payloadBytes moment)).Each
      SafeInteger := by
  rw [deliveredCommand, Json.each_obj]
  simp only [List.forall_mem_cons, List.not_mem_nil, false_implies, implies_true, and_true]
  exact ⟨.str _, .str _, .str _, .str _, .num ⟨revision, rfl, hrevision⟩, .str _, .str _, hpayload,
    .str _, .str _⟩

section Delivery

variable {env : BuyerEnv} {sellerEnv : SellerEnv} {sellerKey digest : Bytes}
  {dealId t evidenceId : String} {revision : ℤ} {payloadBytes canonical : Bytes}
  {moment : CommandMoment}

omit [Interpreter] [CaseTables] [DecimalSource] in
/-- What the seller signs as a delivery with the digest. -/
theorem makeDelivery_anchored {accepted : PyValue} {anchors : Anchors}
    (hanchors : demoAnchors sellerEnv (.str dealId) = .ok anchors)
    (ht : termsHash accepted = .ok t)
    (hdigest : deliveryDigest (demoDealId32 dealId) t (Digests.sha256Ref (utf8 deliveryContent))
      zeroAnchor 0 demoExpiry sellerEnv.settlement.chainId sellerEnv.settlement.vaultAddress =
        .ok digest)
    (hpayload : Rfc8785.dumps (deliveredPayload sellerKey digest evidenceId) = .ok payloadBytes)
    (hcanonical : Rfc8785.dumps (.obj (deliveredCommand sellerEnv dealId t revision
      (deliveredPayload sellerKey digest evidenceId) payloadBytes moment)) = .ok canonical) :
    makeDelivery sellerEnv accepted (.str dealId) revision (.str evidenceId) sellerKey anchors
      moment = .ok (.obj (setMember "signature"
        (commandEntry sellerKey sellerEnv.sellerAgentId canonical)
        (deliveredCommand sellerEnv dealId t revision
          (deliveredPayload sellerKey digest evidenceId) payloadBytes moment))) := by
  cases hanchors
  unfold makeDelivery
  simp only [ht, ok_bind, asText, hdigest]
  exact bind_eq_ok.2 ⟨payloadBytes, hpayload, signCommand_unsigned rfl hcanonical _⟩

omit [DecimalSource] in
/-- The buyer verifies it. -/
theorem verifyDelivery_anchored (hkey : RecoverableEcdsa.Inverts sellerKey)
    (hdigest : deliveryDigest (demoDealId32 dealId) t (Digests.sha256Ref (utf8 deliveryContent))
      zeroAnchor 0 demoExpiry env.settlement.chainId env.settlement.vaultAddress = .ok digest)
    (hevidence : evidenceId ≠ "")
    (hpayload : Rfc8785.dumps (deliveredPayload sellerKey digest evidenceId) = .ok payloadBytes)
    (hcanonical : Rfc8785.dumps (.obj (deliveredCommand sellerEnv dealId t revision
      (deliveredPayload sellerKey digest evidenceId) payloadBytes moment)) = .ok canonical) :
    verifyDelivery env (.obj (setMember "signature"
      (commandEntry sellerKey sellerEnv.sellerAgentId canonical)
      (deliveredCommand sellerEnv dealId t revision
        (deliveredPayload sellerKey digest evidenceId) payloadBytes moment))) t
      (.str (evmAddressOf sellerKey)) = .ok () := by
  have hverified := verifyCommandSignature_signed hkey rfl hcanonical sellerEnv.sellerAgentId
  generalize hsigned : (Json.obj (setMember "signature"
    (commandEntry sellerKey sellerEnv.sellerAgentId canonical)
    (deliveredCommand sellerEnv dealId t revision
      (deliveredPayload sellerKey digest evidenceId) payloadBytes moment))) = command
      at hverified ⊢
  have hlookups : get command "commandType" = .ok (.str "kite.contract.delivered") ∧
      get command "termsHash" = .ok (.str t) ∧
      get command "payload" = .ok (deliveredPayload sellerKey digest evidenceId) ∧
      get command "payloadHash" = .ok (.str (Digests.sha256Ref payloadBytes)) ∧
      item command "dealId" = .ok (.str dealId) := by
    rw [← hsigned]
    exact ⟨rfl, rfl, rfl, rfl, rfl⟩
  obtain ⟨htype, hterms, hbody, hhash, hdeal⟩ := hlookups
  have hmarked : "sha256:".toList.isPrefixOf
      (Digests.sha256Ref (utf8 deliveryContent)).toList = true := by
    simp [Digests.sha256Ref, List.isPrefixOf]
  refine bind_eq_ok.2 ⟨_, htype, check_eq_ok.2 ⟨by simp [isText], ?_⟩⟩
  refine bind_eq_ok.2 ⟨_, hterms, check_eq_ok.2 ⟨by simp [isText], ?_⟩⟩
  refine bind_eq_ok.2 ⟨_, hbody, bind_eq_ok.2 ⟨_, hhash, bind_eq_ok.2 ⟨_, hpayload, ?_⟩⟩⟩
  refine check_eq_ok.2 ⟨by simp [isText], bind_eq_ok.2 ⟨.str evidenceId, rfl, ?_⟩⟩
  refine check_eq_ok.2 ⟨by simp [truthy, hevidence], ?_⟩
  refine bind_eq_ok.2 ⟨.str (Digests.sha256Ref (utf8 deliveryContent)), rfl, ?_⟩
  refine bind_eq_ok.2 ⟨_, rfl, check_eq_ok.2 ⟨by rw [hmarked]; simp, ?_⟩⟩
  refine bind_eq_ok.2 ⟨_, hverified, check_eq_ok.2 ⟨by simp, ?_⟩⟩
  refine bind_eq_ok.2 ⟨_, hdeal, bind_eq_ok.2 ⟨_, rfl, bind_eq_ok.2 ⟨_, rfl, ?_⟩⟩⟩
  refine bind_eq_ok.2 ⟨_, rfl, bind_eq_ok.2 ⟨_, hdigest, bind_eq_ok.2 ⟨_, rfl, ?_⟩⟩⟩
  exact if_neg (by simp [verifies_signDigest32 hkey])

end Delivery

end Contract

/-! ## The seller's replies -/

section Replies

variable [Interpreter] [CaseTables] [DigitTables] [FloatText] [ContainerText] [DecimalSource]
  [Digests] [RecoverableEcdsa] [Rfc8785] {executor : SellerExecutor} {s : Executor}

/-- A proposal as the buyer sends it. -/
def proposalRequest (proposed : PyValue) : PyValue :=
  .obj [("kind", .str "submit-proposal"), ("contract", proposed)]

/-- The buyer's Agreement signature as the buyer sends it. -/
def acceptanceRequest (dealId sig : String) : PyValue :=
  .obj [("kind", .str "acceptance-request"), ("dealId", .str dealId),
    ("buyerAgreementSig", .str sig)]

omit [Interpreter] [CaseTables] [DigitTables] [FloatText] [ContainerText] [DecimalSource]
  [RecoverableEcdsa] in
theorem observeAgreement_ok (dealId : String) {contract : PyValue} {t : String}
    (ht : termsHash contract = .ok t) : observeAgreement dealId (some contract) none = .ok () := by
  unfold observeAgreement
  split
  · rfl
  · simp only [ht, ok_bind]
    rfl

theorem advance_proposalRequest (hlive : executor.live = false) {proposed address : PyValue}
    {t : String} (hchecked : checkProposal s.addresses (proposalRequest proposed) =
      .ok (proposed, address, t)) (ht : termsHash proposed = .ok t) :
    (executorBody executor (.request true (proposalRequest proposed))).advance s =
      (.ended (.ok ()), { s with
        pending := s.pending.set (demoDealId t) (proposed, address)
        outbox := s.outbox ++ [.obj [("kind", .str "proposal-ack"),
          ("dealId", .str (demoDealId t))]] }, []) := by
  have hkind : getD (proposalRequest proposed) "kind" (.str "") =
      .ok (.str "submit-proposal") := rfl
  have hobserved := observeAgreement_ok (demoDealId t) ht
  unfold executorBody handle
  simp only [hkind, Async.ofExcept, Async.bind_eq, Async.bind]
  unfold proposeRequest
  simp [hlive, Async.advance, hchecked, Async.atomic, Async.bind, hobserved,
    Async.ofExcept, enqueue]

theorem advance_acceptanceRequest (hlive : executor.live = false)
    {dealId sig t : String} {proposed address accepted : PyValue}
    (hpending : s.pending.get? dealId = some (proposed, address))
    (haccepted : acceptTerms executor.env proposed address dealId (.str sig) executor.key
      executor.env.settlement.chainId = .ok accepted) (ht : termsHash accepted = .ok t) :
    (executorBody executor (.request true (acceptanceRequest dealId sig))).advance s =
      (.ended (.ok ()), { s.remember dealId t accepted address with
        outbox := s.outbox ++ [.obj [("kind", .str "acceptance-result"), ("contract", accepted),
          ("dealId", .str dealId)]] }, []) := by
  have hkind : getD (acceptanceRequest dealId sig) "kind" (.str "") =
      .ok (.str "acceptance-request") := rfl
  have hdeal : getD (acceptanceRequest dealId sig) "dealId" (.str "") = .ok (.str dealId) := rfl
  have hsig : item (acceptanceRequest dealId sig) "buyerAgreementSig" = .ok (.str sig) := rfl
  have hlookup : lookupText s.pending (.str dealId) = .ok (some (proposed, address)) :=
    congrArg Except.ok hpending
  have hobserved := observeAgreement_ok dealId ht
  unfold executorBody handle
  simp only [hkind, Async.ofExcept, Async.bind_eq, Async.bind]
  unfold countersign
  simp [hlive, Async.advance, hdeal, hlookup, hsig, haccepted, ht, Async.atomic, Async.bind,
    hobserved, Async.ofExcept, enqueue, Executor.remember]

omit [Interpreter] [DigitTables] [FloatText] [ContainerText] [DecimalSource] in
theorem checkProposal_proposed {env : BuyerEnv} {buyerKey : Bytes}
    (hbuyerKey : RecoverableEcdsa.Inverts buyerKey) {t : String} {proposed : List (String × PyValue)}
    (ht : termsHash (.obj proposed) = .ok t)
    (hown : proposed.lookup "signatures" =
      some (.arr [signTerms t buyerKey env.buyerAgentId none]))
    (hbuyer : proposed.lookup "buyerAgentId" = some (.str env.buyerAgentId))
    (haddress : lookupKey s.addresses (.str env.buyerAgentId) =
      .ok (some (.str (evmAddressOf buyerKey)))) :
    checkProposal s.addresses (proposalRequest (.obj proposed)) =
      .ok (.obj proposed, .str (evmAddressOf buyerKey), t) := by
  have hsigs : getD (.obj proposed) "signatures" (.arr []) =
      .ok (.arr [signTerms t buyerKey env.buyerAgentId none]) :=
    getD_eq_ok.2 ⟨proposed, rfl, by rw [hown]; rfl⟩
  unfold checkProposal
  refine bind_eq_ok.2 ⟨.obj proposed, rfl, bind_eq_ok.2 ⟨_, item_eq_ok.2 hbuyer, ?_⟩⟩
  refine bind_eq_ok.2 ⟨_, haddress, ?_⟩
  refine bind_eq_ok.2 ⟨_, hsigs, bind_eq_ok.2 ⟨1, rfl, check_eq_ok.2 ⟨by simp, ?_⟩⟩⟩
  refine bind_eq_ok.2 ⟨_, item_eq_ok.2 hown, bind_eq_ok.2 ⟨_, rfl, ?_⟩⟩
  refine bind_eq_ok.2 ⟨false, rfl, check_eq_ok.2 ⟨by simp, bind_eq_ok.2 ⟨t, ht, ?_⟩⟩⟩
  refine bind_eq_ok.2 ⟨true, verifyTermsSignature_signTerms hbuyerKey t _ none, ?_⟩
  exact check_eq_ok.2 ⟨by simp, rfl⟩

omit [DigitTables] [FloatText] [ContainerText] [DecimalSource] in
/-- The delivery of an accepted contract, as the seller signs it and the buyer verifies it. -/
theorem delivery_completes {env : BuyerEnv} {sellerEnv : SellerEnv} {sellerKey : Bytes}
    (hsellerKey : RecoverableEcdsa.Inverts sellerKey)
    (hsha : ∀ bs : Bytes, (Digests.sha256 bs).length = 32)
    (hkeccak : ∀ bs : Bytes, (Digests.keccak256 bs).length = 32) (hserialises : Serialises)
    (hsettlement : env.settlement = sellerEnv.settlement) {chain vault : Bytes}
    (hchain : toBytes32 sellerEnv.settlement.chainId = .ok chain)
    (hvault : wordAddr sellerEnv.settlement.vaultAddress = .ok vault) {accepted : PyValue}
    {t : String} (ht : termsHash accepted = .ok t) (dealId : String) {evidenceId : String}
    (hevidence : evidenceId ≠ "") {revision : ℤ} (hrevision : revision.natAbs < 2 ^ 53)
    (moment : CommandMoment) :
    ∃ anchors command, demoAnchors sellerEnv (.str dealId) = .ok anchors ∧
      makeDelivery sellerEnv accepted (.str dealId) revision (.str evidenceId) sellerKey anchors
        moment = .ok command ∧
      verifyDelivery env command t (.str (evmAddressOf sellerKey)) = .ok () := by
  obtain ⟨ms, bs, rfl, rfl, _⟩ := exists_of_termsHash ht
  obtain ⟨digest, hdigest⟩ := exists_deliveryDigest
    (wordBytes32_toHex (.inr rfl) (hkeccak (utf8 dealId)))
    (wordBytes32_toHex (.inl rfl) (hsha bs))
    (wordBytes32_toHex (.inl rfl) (hsha (utf8 deliveryContent)))
    (wordBytes32_toHex (.inr rfl) (List.length_replicate (n := 32) (a := (0 : UInt8))))
    (show toBytes32 0 = .ok (bytesBE 32 0) from rfl)
    (show toBytes32 demoExpiry = .ok (bytesBE 32 demoExpiry.toNat) from rfl) hchain hvault
  have hsafe := deliveredPayload_safe sellerKey digest evidenceId
  obtain ⟨payloadBytes, hpayload⟩ := hserialises _ hsafe
  obtain ⟨canonical, hcanonical⟩ := hserialises _ (deliveredCommand_safe sellerEnv dealId
    (Digests.sha256Ref bs) hrevision hsafe payloadBytes moment)
  refine ⟨_, _, rfl, makeDelivery_anchored rfl ht hdigest hpayload hcanonical, ?_⟩
  refine verifyDelivery_anchored hsellerKey ?_ hevidence hpayload hcanonical
  rw [hsettlement]
  exact hdigest

/-- The run of an honest exchange over a draft: what each side computes, and the states the
seller goes through. -/
structure Exchanged (env : BuyerEnv) (executor : SellerExecutor) (buyerKey : Bytes)
    (draft : PyValue) (t : String) (s : Executor) (proposed accepted : PyValue) (digest : Bytes)
    (s₁ s₂ : Executor) : Prop where
  proposes : propose env draft buyerKey = .ok proposed
  ours : termsHash proposed = .ok t
  /-- `_propose`: the seller assigns the deal id. -/
  received : (executorBody executor (.request true (proposalRequest proposed))).advance s =
    (.ended (.ok ()), s₁, [])
  acknowledged : s₁.outbox = s.outbox ++ [.obj [("kind", .str "proposal-ack"),
    ("dealId", .str (demoDealId t))]]
  sealed : agreementDigest (demoDealId t) t (.str executor.env.quoteAmountUsdc)
    (evmAddressOf buyerKey) (evmAddressOf executor.key) env.settlement.chainId = .ok digest
  accepts : acceptTerms executor.env proposed (.str (evmAddressOf buyerKey)) (demoDealId t)
    (.str (signDigest32 buyerKey digest)) executor.key executor.env.settlement.chainId =
      .ok accepted
  theirs : termsHash accepted = .ok t
  countersigned : (executorBody executor (.request true
    (acceptanceRequest (demoDealId t) (signDigest32 buyerKey digest)))).advance s₁ =
      (.ended (.ok ()), s₂, [])
  answered : s₂.outbox = s₁.outbox ++ [.obj [("kind", .str "acceptance-result"),
    ("contract", accepted), ("dealId", .str (demoDealId t))]]
  remembered : s₂.dealTerms.get? (demoDealId t) = some t
  verifies : verifyAcceptance env proposed accepted (demoDealId t) (evmAddressOf buyerKey)
    (evmAddressOf executor.key) = .ok t
  delivers : ∀ (evidenceId : String) (revision : ℤ) (moment : CommandMoment), evidenceId ≠ "" →
    revision.natAbs < 2 ^ 53 → ∃ anchors command,
      demoAnchors executor.env (.str (demoDealId t)) = .ok anchors ∧
      makeDelivery executor.env accepted (.str (demoDealId t)) revision (.str evidenceId)
        executor.key anchors moment = .ok command ∧
      verifyDelivery env command t (.str (evmAddressOf executor.key)) = .ok ()

/-- An honest exchange completes, whatever the draft that the seller's check passes. -/
theorem exchange_completes {env : BuyerEnv} {executor : SellerExecutor} {buyerKey : Bytes}
    (hbuyerKey : RecoverableEcdsa.Inverts buyerKey)
    (hsellerKey : RecoverableEcdsa.Inverts executor.key)
    (hsha : ∀ bs : Bytes, (Digests.sha256 bs).length = 32)
    (hkeccak : ∀ bs : Bytes, (Digests.keccak256 bs).length = 32) (hserialises : Serialises)
    (hsettlement : env.settlement = executor.env.settlement) (hlive : executor.live = false)
    {units : ℤ} {unitsWord chain vault : Bytes}
    (hunits : usdcBaseUnits executor.env.quoteAmountUsdc = .ok units)
    (hword : toBytes32 units = .ok unitsWord)
    (hchain : toBytes32 env.settlement.chainId = .ok chain)
    (hvault : wordAddr env.settlement.vaultAddress = .ok vault)
    {draft : List (String × PyValue)} {t : String} (ht : termsHash (.obj draft) = .ok t)
    (hunsigned : truthy ((draft.lookup "signatures").getD .null) = false)
    (hbuyer : draft.lookup "buyerAgentId" = some (.str env.buyerAgentId))
    (hvalid : validateTerms executor.env (.obj draft) = .ok ())
    (haddress : lookupKey s.addresses (.str env.buyerAgentId) =
      .ok (some (.str (evmAddressOf buyerKey)))) :
    ∃ proposed accepted digest s₁ s₂,
      Exchanged env executor buyerKey (.obj draft) t s proposed accepted digest s₁ s₂ := by
  -- what the draft says, it says as a proposal too
  have hproposed : termsHash (.obj (proposedMembers env buyerKey t draft)) = .ok t :=
    (termsHash_setMember _ _).trans ht
  have hown : (proposedMembers env buyerKey t draft).lookup "signatures" =
      some (.arr [signTerms t buyerKey env.buyerAgentId none]) := lookup_setMember_self ..
  have hkeeps {k : String} {v : PyValue} (hk : k ≠ "signatures") (hv : draft.lookup k = some v) :
      (proposedMembers env buyerKey t draft).lookup k = some v :=
    (lookup_setMember_of_ne _ _ hk).trans hv
  have hvalid' : validateTerms executor.env (.obj (proposedMembers env buyerKey t draft)) = .ok () :=
    (validateTerms_setMember _ _ _).trans hvalid
  obtain ⟨hseller, price, hprice, hamount⟩ := quoted_of_validateTerms hvalid
  have hbuyer' := hkeeps (by decide) hbuyer
  have hprice' := hkeeps (by decide) hprice
  -- the Agreement over the deal id that the seller assigns
  obtain ⟨_, bs, _, htext, _⟩ := exists_of_termsHash ht
  have hterms : wordBytes32 t = .ok (Digests.sha256 bs) := by
    rw [htext]
    exact wordBytes32_toHex (.inl rfl) (hsha bs)
  obtain ⟨buyerWord, hbuyerWord⟩ := exists_wordAddr buyerKey
  obtain ⟨sellerWord, hsellerWord⟩ := exists_wordAddr executor.key
  have hquoted : usdcBaseUnitsOf (.str executor.env.quoteAmountUsdc) = .ok units := hunits
  obtain ⟨digest, hdigest⟩ :=
    exists_agreementDigest hchain hterms hquoted hword hbuyerWord hsellerWord (demoDealId t)
  have haccepted := acceptTerms_proposed hbuyerKey hproposed hvalid' hown hbuyer' hprice' hamount
    (hsettlement ▸ hdigest)
  have hhash : termsHash (countersigned env executor.env buyerKey executor.key t digest
      (proposedMembers env buyerKey t draft)) = .ok t := (termsHash_setMember _ _).trans hproposed
  have hchecked := checkProposal_proposed hbuyerKey hproposed hown hbuyer' haddress
  have hreceived := advance_proposalRequest hlive hchecked hproposed
  generalize hs₁ : ({ s with
    pending := s.pending.set (demoDealId t) (Json.obj (proposedMembers env buyerKey t draft),
      Json.str (evmAddressOf buyerKey))
    outbox := s.outbox ++ [Json.obj [("kind", .str "proposal-ack"),
      ("dealId", .str (demoDealId t))]] } : Executor) = s₁ at hreceived
  have hpending : s₁.pending.get? (demoDealId t) = some
      (Json.obj (proposedMembers env buyerKey t draft), Json.str (evmAddressOf buyerKey)) := by
    rw [← hs₁]
    exact InsertionMap.get?_set_self ..
  have hcountersigned := advance_acceptanceRequest hlive hpending haccepted hhash
  exact ⟨_, _, digest, s₁, _, {
    proposes := propose_unsigned hunsigned ht
    ours := hproposed
    received := hreceived
    acknowledged := by rw [← hs₁]
    sealed := hdigest
    accepts := haccepted
    theirs := hhash
    countersigned := hcountersigned
    answered := rfl
    remembered := InsertionMap.get?_set_self ..
    verifies := verifyAcceptance_countersigned hbuyerKey hsellerKey hproposed hown
      (hkeeps (by decide) hseller) hprice' hamount hdigest
    delivers := fun evidenceId revision moment hevidence hrevision =>
      delivery_completes hsellerKey hsha hkeccak hserialises hsettlement (hsettlement ▸ hchain)
        (hsettlement ▸ hvault) hhash (demoDealId t) hevidence hrevision moment }⟩

end Replies

/-! ### Canonical forms that keep every value -/

/-- Integers as they are written, and floats by their bits. -/
def bitsText : NumberText PyNumber where
  text
    | .int n => (toString n).toList
    | .float x => 'e' :: Nat.toDigits 10 x.toModel.toBits.toNat
  ne_nil
    | .int n => by
        have hrepr : toString n ≠ "" := by
          rw [Int.toString_eq_repr, Int.repr_eq_if]
          split_ifs <;> simp
        exact fun h => hrepr (String.toList_eq_nil_iff.1 h)
    | .float x => List.cons_ne_nil _ _
  chars
    | .int n => fun c hc => by
        rcases digit_or_minus hc with h | rfl
        · simp [isNumberChar, h]
        · rfl
    | .float x => fun c hc => by
        rcases List.mem_cons.1 hc with rfl | hc
        · rfl
        · have hdigit := Nat.isDigit_of_mem_toDigits (by decide) (by decide) hc
          simp [isNumberChar, hdigit]

theorem bitsText_injective : Function.Injective bitsText.text := by
  have hmixed (n : ℤ) (x : Float) : bitsText.text (.int n) ≠ bitsText.text (.float x) := by
    intro h
    have hmem : 'e' ∈ (toString n).toList := by
      have hlist : (toString n).toList = 'e' :: Nat.toDigits 10 x.toModel.toBits.toNat := h
      rw [hlist]
      exact List.mem_cons_self
    rcases digit_or_minus hmem with hdigit | hminus
    · exact absurd hdigit (by decide)
    · exact absurd hminus (by decide)
  intro m n h
  cases m with
  | int m =>
      cases n with
      | int n => rw [toString_injective (String.toList_inj.1 h)]
      | float y => exact absurd h (hmixed m y)
  | float x =>
      cases n with
      | int n => exact absurd h.symm (hmixed n x)
      | float y =>
          have hbits := congrArg (fun ds => Nat.ofDigitChars 10 ds 0) (List.cons.inj h).2
          simp only [Nat.ofDigitChars_ten_toDigits] at hbits
          rw [JavaScript.eq_of_toBits hbits]

/-- Canonical forms by which every value can be told from every other. -/
@[reducible] def Rfc8785.verbatim : Rfc8785 where
  dumps v := .ok (utf8 (String.ofList (Json.text bitsText v)))

theorem verbatim_serialises : @Serialises Rfc8785.verbatim :=
  fun _ _ => ⟨_, rfl⟩

section Demo

attribute [local instance] Interpreter.ascii CaseTables.ascii DigitTables.ascii FloatText.bits
  ContainerText.bare DecimalSource.unread Digests.checksum RecoverableEcdsa.transparent
  Rfc8785.verbatim

def demoSettlement : SettlementEnv :=
  ⟨2368, "0xecececececececececececececececececececec"⟩

def demoBuyer : BuyerEnv :=
  ⟨"did:kite:buyer", demoSettlement⟩

/-- A standalone seller with a quote. -/
def demoSeller (quote : String) : SellerExecutor where
  env := ⟨"https://runtime.example", "did:kite:seller", "0x01", quote, demoSettlement⟩
  key := [2]
  live := false
  deliveryRetrySeconds := 30

/-- A draft for the quote, the members in the order of their names. -/
def demoDraft (quote : String) : List (String × PyValue) :=
  [("buyerAgentId", .str "did:kite:buyer"), ("deliverable", .str "A launch post."),
    ("disputePolicy", .obj [("arbiterAgentId", .str "did:kite:arbiter")]),
    ("escrow", .obj [("payoutAddress", .str "0x01")]),
    ("price", .obj [("amount", .str quote), ("asset", .str "USDC")]),
    ("runtimeBinding", .obj [("endpoint", .str "https://runtime.example"),
      ("extensionUri", .str extensionUri)]),
    ("sellerAgentId", .str "did:kite:seller")]

theorem demoDraft_valid (quote : String) :
    validateTerms (demoSeller quote).env (.obj (demoDraft quote)) = .ok () := by
  have hdeliverable : strip (strOf (orElse (.str "A launch post.") (.str ""))) ≠ "" := by
    decide +kernel
  refine bind_eq_ok.2 ⟨_, rfl, bind_eq_ok.2 ⟨.str "0x01", rfl, bind_eq_ok.2 ⟨"0x01", rfl, ?_⟩⟩⟩
  refine check_eq_ok.2 ⟨by simp [demoSeller], bind_eq_ok.2 ⟨.str "did:kite:seller", rfl, ?_⟩⟩
  refine check_eq_ok.2 ⟨by simp [isText, demoSeller], bind_eq_ok.2 ⟨_, rfl, ?_⟩⟩
  refine bind_eq_ok.2 ⟨.str "USDC", rfl, bind_eq_ok.2 ⟨.str quote, rfl, ?_⟩⟩
  refine check_eq_ok.2 ⟨by simp [isText, demoSeller], bind_eq_ok.2 ⟨_, rfl, ?_⟩⟩
  refine check_eq_ok.2 ⟨hdeliverable, bind_eq_ok.2 ⟨_, rfl, ?_⟩⟩
  refine bind_eq_ok.2 ⟨.str extensionUri, rfl, check_eq_ok.2 ⟨by simp [isText], ?_⟩⟩
  refine bind_eq_ok.2 ⟨.str "https://runtime.example", rfl, check_eq_ok.2 ⟨?_, ?_⟩⟩
  · simp [isText, demoSeller]
  refine bind_eq_ok.2 ⟨_, rfl, bind_eq_ok.2 ⟨.str "did:kite:arbiter", rfl, ?_⟩⟩
  refine bind_eq_ok.2 ⟨.str "did:kite:buyer", rfl, ?_⟩
  exact if_neg (by simp [truthy, eqValue, isText, demoSeller])

/-- What the demo draft is hashed as. -/
def demoHash (quote : String) : String :=
  Digests.sha256Ref (utf8 (String.ofList (Json.text bitsText (.obj (demoDraft quote)))))

/-- A seller that has learnt the address of the buyer. -/
def demoState : Executor :=
  { Executor.init with addresses := [(.str "did:kite:buyer", .str (evmAddressOf [1]))] }

theorem checksum_length (bs : Bytes) : (Digests.checksum.digest bs).length = 32 := by
  simp [Digests.checksum.digest]

theorem demoDraft_hash (quote : String) :
    termsHash (.obj (demoDraft quote)) = .ok (demoHash quote) := rfl

theorem demoState_buyer : lookupKey demoState.addresses (.str demoBuyer.buyerAgentId) =
    .ok (some (.str (evmAddressOf [1]))) := by
  simp [lookupKey, hashable, eqValue, demoState, demoBuyer]

theorem exchange_completes_demo : ∃ proposed accepted digest s₁ s₂,
    Exchanged demoBuyer (demoSeller "12.50") [1] (.obj (demoDraft "12.50")) (demoHash "12.50")
      demoState proposed accepted digest s₁ s₂ := by
  have hunits : usdcBaseUnits "12.50" = .ok 12500000 := by decide +kernel
  have hword : toBytes32 12500000 = .ok (bytesBE 32 12500000) := rfl
  have hchain : toBytes32 2368 = .ok (bytesBE 32 2368) := rfl
  have hvault : wordAddr "0xecececececececececececececececececececec" =
      .ok (List.replicate 12 0 ++ List.replicate 20 0xec) := by decide +kernel
  have hunsigned : truthy (((demoDraft "12.50").lookup "signatures").getD .null) = false := by
    decide +kernel
  have hseller : RecoverableEcdsa.Inverts (demoSeller "12.50").key :=
    RecoverableEcdsa.transparent_inverts [2]
  exact exchange_completes (RecoverableEcdsa.transparent_inverts [1]) hseller checksum_length checksum_length verbatim_serialises
    rfl rfl hunits hword hchain hvault (demoDraft_hash "12.50") hunsigned rfl
    (demoDraft_valid "12.50") demoState_buyer

/-- An amount with a positive whole number of millionths that fills more than a word. -/
def hugeQuote : String :=
  String.ofList ('1' :: List.replicate 72 '0')

/-- A contract over such an amount is proposed, and the seller cannot countersign it. -/
theorem exchange_overflows : usdcBaseUnits hugeQuote = .ok (10 ^ 78) ∧
    validateTerms (demoSeller hugeQuote).env (.obj (demoDraft hugeQuote)) = .ok () ∧
    ∃ proposed, propose demoBuyer (.obj (demoDraft hugeQuote)) [1] = .ok proposed ∧
      ∀ dealId sig accepted, acceptTerms (demoSeller hugeQuote).env proposed
        (.str (evmAddressOf [1])) dealId sig [2] 2368 ≠ .ok accepted := by
  have hunits : usdcBaseUnits hugeQuote = .ok (10 ^ 78) := by decide +kernel
  refine ⟨hunits, demoDraft_valid _, _, propose_unsigned (by decide +kernel) (demoDraft_hash _), ?_⟩
  intro dealId sig accepted h
  obtain ⟨address, t, haddress, haccepted⟩ := acceptedTerms_of_acceptTerms h
  obtain ⟨price, amount, digest, hprice, hamount, hdigest, _⟩ := haccepted.agreement
  cases hprice
  cases hamount
  obtain ⟨domain, _, h₁⟩ := bind_eq_ok.1 hdigest
  obtain ⟨terms, _, h₂⟩ := bind_eq_ok.1 h₁
  obtain ⟨units, hquoted, h₃⟩ := bind_eq_ok.1 h₂
  obtain ⟨word, hword, _⟩ := bind_eq_ok.1 h₃
  obtain rfl : 10 ^ 78 = units := Except.ok.inj (hunits.symm.trans hquoted)
  have hwide : toBytes32 (10 ^ 78) = .error (.builtin .OverflowError) := by
    unfold toBytes32
    exact if_neg (by norm_num)
  rw [hwide] at hword
  cases hword

end Demo

end BuyerAgent

end Coordination
