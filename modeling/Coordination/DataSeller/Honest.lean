import Coordination.DataSeller.Acceptance

/-!
# An honest proposal is countersigned

The other half of acceptance: a buyer that fills in the contract the seller's
quote asks for, and signs it with its own key, passes every check.
-/

namespace Coordination

namespace DataSeller

open JavaScript Library Engine

/-- Both hash functions return 32 bytes. -/
structure Sized [Digests] : Prop where
  sha256 : ∀ bs : Bytes, (Digests.sha256 bs).length = 32
  keccak256 : ∀ bs : Bytes, (Digests.keccak256 bs).length = 32

/-- What a buyer decides about the deal it proposes. -/
structure Offer where
  buyerKey : Bytes
  buyerAgentId : String
  arbiterAgentId : String
  deliverable : String
  runtimeAgentId : String
  agentCardHash : String
  locatorBase : String

section Offer

variable [Digests] [Canonicalize] [HostLocale] [RecoverableEcdsa]

/-- The contract a buyer proposes for a terms document, before it is signed. -/
def Offer.terms (offer : Offer) (env : Environment) (termsDocumentHash amount : String) :
    List (String × Value) := [
  ("buyerAgentId", .str offer.buyerAgentId),
  ("sellerAgentId", .str env.sellerAgentId),
  ("deliverable", .str offer.deliverable),
  ("acceptanceCriteria", .str (buildAcceptanceCriteria termsDocumentHash offer.locatorBase)),
  ("price", .obj [("amount", .str amount), ("asset", .str "USDC")]),
  ("escrow", .obj [("payoutAddress", .str env.sellerPayoutAddress)]),
  ("disputePolicy", .obj [("arbiterAgentId", .str offer.arbiterAgentId)]),
  ("runtimeBinding", .obj [("runtimeAgentId", .str offer.runtimeAgentId),
    ("agentCardHash", .str offer.agentCardHash), ("extensionUri", .str extensionUri),
    ("endpoint", .str env.coordinationEndpoint)])]

/-- The buyer's entry of the signatures. -/
def Offer.entry (offer : Offer) (termsHash : String) : Value :=
  .obj [
    ("signerAgentId", .str offer.buyerAgentId),
    ("profile", .str signatureProfile),
    ("keyId", .str (keyIdOf offer.buyerAgentId offer.buyerKey)),
    ("sig", .str (sign offer.buyerKey (termsSigningBytes termsHash)))]

/-- The signed proposal. -/
def Offer.proposal (offer : Offer) (terms : List (String × Value)) (termsHash : String) : Value :=
  .obj (terms ++ [("signatures", .arr [offer.entry termsHash])])

omit [HostLocale] in
/-- The terms hash covers the contract without the signatures. -/
theorem termsHashOf_proposal {offer : Offer} {env : Environment}
    {termsDocumentHash amount termsHash : String} {bytes : Bytes}
    (hbytes : jcs (.obj (offer.terms env termsDocumentHash amount)) = .ok bytes) :
    termsHashOf (offer.proposal (offer.terms env termsDocumentHash amount) termsHash) =
      .ok (Digests.sha256Ref bytes) := by
  have hwithout : without ["signatures", "termsHash"]
      (offer.proposal (offer.terms env termsDocumentHash amount) termsHash) =
        .ok (.obj (offer.terms env termsDocumentHash amount)) := by
    simp [without, Offer.proposal, Offer.terms, ownMembers, dropMembers]
  rw [termsHashOf, hwithout, ok_bind, hbytes]
  rfl

variable {env : Environment} {input : AcceptTermsInput}

/-- The buyer fills in the contract for the seller's own document and price, names
a third party as arbiter, and signs with the key of the address it gives. -/
structure Honest (env : Environment) (input : AcceptTermsInput) (offer : Offer)
    (digest termsHash : String) : Prop where
  contract : input.contract = offer.proposal (offer.terms env ("sha256:" ++ digest)
    input.validation.recomputed.priceAmount) termsHash
  document : termsDocumentHashOf input.validation.termsDocument = .ok ("sha256:" ++ digest)
  length : digest.toList.length = 64
  hex : digest.toList.all isLowerHex = true
  base : offer.locatorBase.toList.all (fun c => !isSpace c) = true
  priceAmount : input.validation.termsDocument.priceAmount =
    input.validation.recomputed.priceAmount
  criteriaHash : input.validation.termsDocument.criteriaHash =
    input.validation.recomputed.criteriaHash
  statsHash : input.validation.termsDocument.statsHash = input.validation.recomputed.statsHash
  deliverable : trim offer.deliverable ≠ ""
  arbiter : offer.arbiterAgentId ≠ ""
  arbiter_buyer : offer.arbiterAgentId ≠ offer.buyerAgentId
  arbiter_seller : offer.arbiterAgentId ≠ env.sellerAgentId
  inverts : RecoverableEcdsa.Inverts offer.buyerKey
  buyerAddress : input.buyerAddress = addressOfPrivateKey offer.buyerKey
  lower : HostLocale.toLowerCase input.buyerAddress = input.buyerAddress
  hashes : termsHashOf input.contract = .ok termsHash
  agreementSig : signStruct offer.buyerKey input.domain .Agreement (input.struct termsHash) =
    .ok input.buyerAgreementSig

/-- A proposal that is honest but for the base of its locator, which may be any text that leaves
the digest where the seller reads it. -/
structure Drafted (env : Environment) (input : AcceptTermsInput) (offer : Offer)
    (digest termsHash : String) : Prop where
  contract : input.contract = offer.proposal (offer.terms env ("sha256:" ++ digest)
    input.validation.recomputed.priceAmount) termsHash
  document : termsDocumentHashOf input.validation.termsDocument = .ok ("sha256:" ++ digest)
  pins : ∃ locator, parseAcceptanceCriteria (buildAcceptanceCriteria ("sha256:" ++ digest)
    offer.locatorBase) = some ⟨"sha256:" ++ digest, locator⟩
  priceAmount : input.validation.termsDocument.priceAmount =
    input.validation.recomputed.priceAmount
  criteriaHash : input.validation.termsDocument.criteriaHash =
    input.validation.recomputed.criteriaHash
  statsHash : input.validation.termsDocument.statsHash = input.validation.recomputed.statsHash
  deliverable : trim offer.deliverable ≠ ""
  arbiter : offer.arbiterAgentId ≠ ""
  arbiter_buyer : offer.arbiterAgentId ≠ offer.buyerAgentId
  arbiter_seller : offer.arbiterAgentId ≠ env.sellerAgentId
  inverts : RecoverableEcdsa.Inverts offer.buyerKey
  buyerAddress : input.buyerAddress = addressOfPrivateKey offer.buyerKey
  lower : HostLocale.toLowerCase input.buyerAddress = input.buyerAddress
  hashes : termsHashOf input.contract = .ok termsHash
  agreementSig : signStruct offer.buyerKey input.domain .Agreement (input.struct termsHash) =
    .ok input.buyerAgreementSig

/-- A drafted proposal has every property the seller checks. -/
theorem Drafted.proposed {offer : Offer} {digest termsHash : String}
    (h : Drafted env input offer digest termsHash) :
    Proposed env input (offer.entry termsHash) termsHash := by
  obtain ⟨locator, hparse⟩ := h.pins
  have hcontract := h.contract
  have hrecovers := recoverStruct_signStruct h.inverts h.agreementSig
  refine ⟨⟨.arr [offer.entry termsHash], ?_, rfl, rfl⟩, ?_, ?_, h.hashes,
    ⟨sign offer.buyerKey (termsSigningBytes termsHash), rfl, ?_⟩, ?_⟩
  · rw [hcontract]
    rfl
  · rw [hcontract]
    simp [field, Offer.entry, Offer.proposal, Offer.terms, Json.members]
  · refine ⟨⟨env.sellerPayoutAddress, ?_, rfl⟩, ?_, ⟨_, _, ?_, hparse, h.document⟩, ?_, ?_,
      h.priceAmount, h.criteriaHash, h.statsHash, ⟨offer.deliverable, ?_, h.deliverable⟩, ?_, ?_,
      ?_, ?_, ?_⟩
    all_goals rw [hcontract]
    · rfl
    · rfl
    · rfl
    · rfl
    · rfl
    · rfl
    · rfl
    · rfl
    · exact decide_eq_true h.arbiter
    · show (offer.arbiterAgentId == offer.buyerAgentId) = false
      exact beq_false_of_ne h.arbiter_buyer
    · show (offer.arbiterAgentId == env.sellerAgentId) = false
      exact beq_false_of_ne h.arbiter_seller
  · rw [h.lower, h.buyerAddress]
    exact recover_sign h.inverts _
  · rw [hrecovers, h.lower, h.buyerAddress]

/-- An honest proposal has every property the seller checks. -/
theorem Honest.proposed {offer : Offer} {digest termsHash : String}
    (h : Honest env input offer digest termsHash) :
    Proposed env input (offer.entry termsHash) termsHash :=
  Drafted.proposed ⟨h.contract, h.document,
    ⟨_, parse_buildAcceptanceCriteria h.length h.hex h.base⟩, h.priceAmount, h.criteriaHash,
    h.statsHash, h.deliverable, h.arbiter, h.arbiter_buyer, h.arbiter_seller, h.inverts,
    h.buyerAddress, h.lower, h.hashes, h.agreementSig⟩

omit [Digests] [Canonicalize] [HostLocale] [RecoverableEcdsa] in
theorem toHex_isLowerHex (bs : Bytes) : (toHex bs).toList.all isLowerHex = true := by
  refine List.all_eq_true.2 fun c hc => ?_
  obtain ⟨n, hn, rfl⟩ := exists_hexDigit hc
  interval_cases n <;> decide

omit [Canonicalize] [HostLocale] [RecoverableEcdsa] in
theorem length_digest (hsized : Sized) (bs : Bytes) :
    (toHex (Digests.sha256 bs)).toList.length = 64 := by
  rw [length_toHex, hsized.sha256]

omit [Canonicalize] [HostLocale] in
theorem exists_address (hsized : Sized) (key : Bytes) :
    ∃ bs : Bytes, bs.length = 20 ∧ addressOfPrivateKey key = "0x" ++ toHex bs := by
  refine ⟨_, ?_, rfl⟩
  rw [RecoverableEcdsa.lastBytes, List.length_drop, hsized.keccak256]

omit [Canonicalize] [HostLocale] in
/-- The agreement between two keys over a digest and a decimal amount can be signed. -/
theorem exists_agreementSig (hsized : Sized) {chainId : Number} {chainWord units : Bytes}
    {amount : String} {n : ℤ}
    (hchain : wordUint (.num chainId) = .ok chainWord) (hamount : usdcBaseUnits amount = .ok n)
    (hunits : wordOfInt n = .ok units) (key bytes buyerKey sellerKey : Bytes) (dealId : String) :
    ∃ agreementSig, signStruct key (agreementDomain chainId) .Agreement
      (agreementStruct dealId (Digests.sha256Ref bytes) amount (addressOfPrivateKey buyerKey)
        (addressOfPrivateKey sellerKey)) = .ok agreementSig := by
  obtain ⟨buyer, hbuyer, haddress⟩ := exists_address hsized buyerKey
  obtain ⟨seller, hseller, haddress'⟩ := exists_address hsized sellerKey
  have hhash : wordBytes32 (Digests.sha256Ref bytes) = .ok (Digests.sha256 bytes) :=
    wordBytes32_ref (hsized.sha256 bytes)
  refine exists_of_isOk ?_
  rw [haddress, haddress']
  simp [signStruct, signingPreimage, domainSeparator, agreementDomain, hchain, structHash,
    SettlementStruct.fields, fieldWord, agreementStruct, List.lookup_cons, toText, textOf, hhash,
    hamount, hunits, wordAddress_toHex hbuyer, wordAddress_toHex hseller]
  rfl

end Offer

/-! ## A deal that is countersigned -/

section Demo

attribute [local instance] Digests.checksum HostLocale.ascii Canonicalize.plain
  RecoverableEcdsa.transparent

theorem checksum_sized : Sized := by
  refine ⟨fun bs => ?_, fun bs => ?_⟩
  · exact (List.length_map _).trans List.length_range
  · exact (List.length_map _).trans List.length_range

def demoEnv : Environment where
  sellerAgentId := "did:kite:corp-kite:example-data-seller-agent"
  sellerPayoutAddress := "0x3333333333333333333333333333333333333333"
  coordinationEndpoint := "https://passport.dev.gokite.ai/a2a/v1"

def demoOffer : Offer where
  buyerKey := [2]
  buyerAgentId := "did:kite:corp-kite:buyer"
  arbiterAgentId := "did:kite:corp-kite:arbiter"
  deliverable := "Synthetic individuals"
  runtimeAgentId := "did:kite:corp-kite:runtime"
  agentCardHash := "sha256:card"
  locatorBase := "https://seller.example"

theorem toLowerCase_address (key : Bytes) :
    HostLocale.toLowerCase (addressOfPrivateKey key) = addressOfPrivateKey key := by
  have hlower : ∀ c ∈ (addressOfPrivateKey key).toList, c.toLower = c := by
    intro c hc
    rcases List.mem_append.1 (String.toList_append ▸ hc) with hc | hc
    · have hmarked : ("0x".toList.all fun c => c.toLower = c) = true := by decide
      exact of_decide_eq_true (List.all_eq_true.1 hmarked c hc)
    · obtain ⟨n, hn, rfl⟩ := exists_hexDigit hc
      interval_cases n <;> decide
  have hmap : (addressOfPrivateKey key).toList.map Char.toLower =
      (addressOfPrivateKey key).toList := by
    conv_rhs => rw [← List.map_id (addressOfPrivateKey key).toList]
    exact List.map_congr_left hlower
  show String.ofList ((addressOfPrivateKey key).toList.map Char.toLower) = _
  rw [hmap, String.ofList_toList]

def demoDocument : TermsDocument where
  format := "kite-example-data-deal-terms/v1"
  criteriaHash := "sha256:criteria"
  statsHash := "sha256:stats"
  rowsPerTract := 1
  totalRows := 1
  tractCount := 1
  perTractStandardErrorPp := 1
  method := "stratified-marginal-bernoulli/v2"
  seedDisclosure := "seed published in the delivery manifest"
  generatorVersion := "v2"
  corpusHash := "sha256:corpus"
  verifierHash := "sha256:verifier"
  usage := ⟨false, 365, "none", []⟩
  artifactAvailability := "process-local"
  priceBreakdownCents := ⟨100, 0, 0, 500, 600⟩
  priceAmount := "6.00"

/-- The digest of the document. -/
def demoDigest : String :=
  toHex (Digests.sha256 (plainBytes demoDocument.toValue))

def demoTermsHash : String :=
  Digests.sha256Ref (plainBytes (.obj (demoOffer.terms demoEnv ("sha256:" ++ demoDigest) "6.00")))

/-- The proposal of the offer, as the seller is asked to accept it. -/
def demoInput : AcceptTermsInput where
  contract := demoOffer.proposal (demoOffer.terms demoEnv ("sha256:" ++ demoDigest) "6.00")
    demoTermsHash
  buyerAddress := addressOfPrivateKey [2]
  dealId := "deal_0"
  buyerAgreementSig :=
    match signStruct [2] (agreementDomain demoChainId) .Agreement (agreementStruct "deal_0"
      demoTermsHash "6.00" (addressOfPrivateKey [2]) (addressOfPrivateKey [1])) with
    | .ok signature => signature
    | .error _ => ""
  privateKey := [1]
  keyId := keyIdOf demoEnv.sellerAgentId [1]
  sellerAddress := addressOfPrivateKey [1]
  chainId := none
  validation := ⟨demoDocument, ⟨"6.00", "sha256:criteria", "sha256:stats"⟩⟩

/-- The demo proposal with another base for the locator. -/
def demoInputAt (locatorBase : String) : AcceptTermsInput :=
  let terms := { demoOffer with locatorBase }.terms demoEnv ("sha256:" ++ demoDigest) "6.00"
  let termsHash := Digests.sha256Ref (plainBytes (.obj terms))
  { demoInput with
    contract := demoOffer.proposal terms termsHash
    buyerAgreementSig :=
      match signStruct [2] (agreementDomain demoChainId) .Agreement (agreementStruct "deal_0"
        termsHash "6.00" (addressOfPrivateKey [2]) (addressOfPrivateKey [1])) with
      | .ok signature => signature
      | .error _ => "" }

theorem demoInputAt_drafted {locatorBase : String} (hpins : ∃ locator, parseAcceptanceCriteria
    (buildAcceptanceCriteria ("sha256:" ++ demoDigest) locatorBase) =
      some ⟨"sha256:" ++ demoDigest, locator⟩) :
    ∃ termsHash, Drafted demoEnv (demoInputAt locatorBase) { demoOffer with locatorBase }
      demoDigest termsHash := by
  have hfinite : allFinite demoDocument.toValue = true := by decide +kernel
  have hterms : allFinite (.obj ({ demoOffer with locatorBase }.terms demoEnv
      ("sha256:" ++ demoDigest) "6.00")) = true := by
    simp [Offer.terms]
  obtain ⟨chainWord, hchain⟩ := exists_of_isOk
    (by decide +kernel : (wordUint (.num demoChainId)).isOk = true)
  obtain ⟨agreementSig, hsig⟩ := exists_agreementSig checksum_sized hchain
    (by decide +kernel : usdcBaseUnits "6.00" = .ok 6000000) rfl [2]
    (plainBytes (.obj ({ demoOffer with locatorBase }.terms demoEnv ("sha256:" ++ demoDigest)
      "6.00"))) [2] [1] "deal_0"
  have hdeliverable : trim demoOffer.deliverable ≠ "" := by decide +kernel
  have harbiter : demoOffer.arbiterAgentId ≠ "" ∧
      demoOffer.arbiterAgentId ≠ demoOffer.buyerAgentId ∧
      demoOffer.arbiterAgentId ≠ demoEnv.sellerAgentId := by decide
  refine ⟨_, rfl, ?_, hpins, rfl, rfl, rfl, hdeliverable, harbiter.1, harbiter.2.1, harbiter.2.2,
    RecoverableEcdsa.transparent_inverts _, rfl, toLowerCase_address _,
    termsHashOf_proposal (jcs_plain hterms), ?_⟩
  · show termsDocumentHashOf demoDocument = _
    rw [termsDocumentHashOf, jcs_plain hfinite]
    rfl
  · show signStruct [2] (agreementDomain demoChainId) .Agreement (agreementStruct "deal_0"
      _ "6.00" (addressOfPrivateKey [2]) (addressOfPrivateKey [1])) =
        .ok (demoInputAt locatorBase).buyerAgreementSig
    simp only [demoInputAt, hsig]

theorem demoInput_honest : Honest demoEnv demoInput demoOffer demoDigest demoTermsHash := by
  have hbase : demoOffer.locatorBase.toList.all (fun c => !isSpace c) = true := by decide +kernel
  have hlength := length_digest checksum_sized (plainBytes demoDocument.toValue)
  have hhex := toHex_isLowerHex (Digests.sha256 (plainBytes demoDocument.toValue))
  obtain ⟨termsHash, h⟩ := demoInputAt_drafted
    ⟨_, parse_buildAcceptanceCriteria hlength hhex hbase⟩
  have hhash : termsHash = demoTermsHash :=
    (Except.ok.inj (h.hashes.symm.trans (termsHashOf_proposal (jcs_plain (by simp [Offer.terms])))))
  subst hhash
  exact ⟨h.contract, h.document, hlength, hhex, hbase, h.priceAmount, h.criteriaHash, h.statsHash,
    h.deliverable, h.arbiter, h.arbiter_buyer, h.arbiter_seller, h.inverts, h.buyerAddress, h.lower,
    h.hashes, h.agreementSig⟩

/-- The honest proposal is countersigned. -/
theorem demoInput_countersigned : ∃ accepted final,
    (acceptTerms demoEnv demoInput).run [] = (.ok accepted, final) ∧
      Countersigned demoEnv demoInput accepted := by
  obtain ⟨agreementSig, _, hrun⟩ := acceptTerms_of_proposed demoInput_honest.proposed []
  exact ⟨_, _, hrun, (acceptTerms_countersigns (RecoverableEcdsa.transparent_inverts _) []).1 _ _
    hrun⟩

end Demo

end DataSeller

end Coordination
