import Coordination.DataSeller.Extension

/-!
# What a countersignature is worth

`acceptTerms` countersigns only a contract that passed every check, and when it
throws it has not signed anything.
-/

namespace Coordination

namespace DataSeller

open JavaScript Library Engine

/-! ## Members of untrusted values -/

/-- The member of an object; any other value has none. -/
def field (v : Value) (k : String) : Option Value :=
  v.members.lookup k

/-- A member of a member. -/
def subfield (v : Value) (k k' : String) : Option Value :=
  field ((field v k).getD .null) k'

theorem prop_eq_ok {v : Value} {k : String} {w : Option Value} (h : prop (some v) k = .ok w) :
    w = field v k := by
  cases v <;> cases h <;> rfl

theorem prop_getD_eq_ok {v w : Option Value} {k : String} (h : prop v k = .ok w) :
    w = field (v.getD .null) k := by
  cases v with
  | none => cases h
  | some v => exact prop_eq_ok h

/-- `v[k]` throws for `null` only. -/
theorem prop_eq {v : Value} (hv : v ≠ .null) (k : String) : prop (some v) k = .ok (field v k) := by
  cases v with
  | null => exact absurd rfl hv
  | bool b => rfl
  | num x => rfl
  | str s => rfl
  | arr xs => rfl
  | obj ms => rfl

theorem prop_getD_eq {v : Option Value} (hv : v.getD .null ≠ .null) (k : String) :
    prop v k = .ok (field (v.getD .null) k) := by
  cases v with
  | none => exact absurd rfl hv
  | some v => exact prop_eq hv k

theorem memberOf_eq (v : Option Value) (k : String) :
    memberOf v k = .ok (field (v.getD .null) k) := by
  cases v with
  | none => rfl
  | some v => cases v <;> rfl

theorem memberOf_eq_ok {v w : Option Value} {k : String} (h : memberOf v k = .ok w) :
    w = field (v.getD .null) k :=
  (Except.ok.inj ((memberOf_eq v k).symm.trans h)).symm

theorem strictEq_str {v : Option Value} {s : String}
    (h : strictEq v (some (.str s)) = true) : v = some (.str s) := by
  cases v with
  | none => cases h
  | some v =>
      cases v with
      | str t => simpa [strictEq] using h
      | null => cases h
      | bool b => cases h
      | num x => cases h
      | arr xs => cases h
      | obj ms => cases h

@[simp] theorem strictEq_str_self (s : String) :
    strictEq (some (.str s)) (some (.str s)) = true := by
  simp [strictEq]

/-- A value with such a member is an object. -/
theorem eq_obj_of_field {v w : Value} {k : String} (h : field v k = some w) :
    v = .obj v.members := by
  cases v with
  | obj ms => rfl
  | null => cases h
  | bool b => cases h
  | num x => cases h
  | str s => cases h
  | arr xs => cases h

/-! ## The checks -/

section Checks

variable [Digests] [Canonicalize] [HostLocale] {env : Environment} {contract : Value}
  {ctx : TermsValidationContext}

/-- What `validateTerms` has established about a contract. -/
structure Validated (env : Environment) (contract : Value) (ctx : TermsValidationContext) :
    Prop where
  payout : ∃ text, textOrEmpty (subfield contract "escrow" "payoutAddress") = .ok text ∧
    HostLocale.toLowerCase text = HostLocale.toLowerCase env.sellerPayoutAddress
  seller : field contract "sellerAgentId" = some (.str env.sellerAgentId)
  document : ∃ text commitment, textOrEmpty (field contract "acceptanceCriteria") = .ok text ∧
    parseAcceptanceCriteria text = some commitment ∧
    termsDocumentHashOf ctx.termsDocument = .ok commitment.termsDocumentHash
  asset : subfield contract "price" "asset" = some (.str "USDC")
  amount : subfield contract "price" "amount" = some (.str ctx.recomputed.priceAmount)
  priceAmount : ctx.termsDocument.priceAmount = ctx.recomputed.priceAmount
  criteriaHash : ctx.termsDocument.criteriaHash = ctx.recomputed.criteriaHash
  statsHash : ctx.termsDocument.statsHash = ctx.recomputed.statsHash
  deliverable : ∃ text, textOrEmpty (field contract "deliverable") = .ok text ∧ trim text ≠ ""
  extension : subfield contract "runtimeBinding" "extensionUri" = some (.str extensionUri)
  endpoint : subfield contract "runtimeBinding" "endpoint" = some (.str env.coordinationEndpoint)
  arbiter : truthy (subfield contract "disputePolicy" "arbiterAgentId") = true
  arbiter_buyer : strictEq (subfield contract "disputePolicy" "arbiterAgentId")
    (field contract "buyerAgentId") = false
  arbiter_seller : strictEq (subfield contract "disputePolicy" "arbiterAgentId")
    (some (.str env.sellerAgentId)) = false

omit [Digests] [Canonicalize] in
theorem validateParties_ok (h : validateParties env contract = .ok ()) :
    (∃ text, textOrEmpty (subfield contract "escrow" "payoutAddress") = .ok text ∧
      HostLocale.toLowerCase text = HostLocale.toLowerCase env.sellerPayoutAddress) ∧
    field contract "sellerAgentId" = some (.str env.sellerAgentId) := by
  obtain ⟨escrow, hescrow, h₁⟩ := bind_eq_ok.1 h
  obtain ⟨payout, hpayout, h₂⟩ := bind_eq_ok.1 h₁
  obtain ⟨text, htext, h₃⟩ := bind_eq_ok.1 h₂
  obtain ⟨_, hpays, h₄⟩ := bind_eq_ok.1 h₃
  obtain ⟨sellerAgentId, hseller, h₅⟩ := bind_eq_ok.1 h₄
  cases prop_eq_ok hescrow
  cases memberOf_eq_ok hpayout
  cases prop_eq_ok hseller
  have hnames := throwIf_eq_ok.1 h₅
  exact ⟨⟨text, htext, not_not.1 (throwIf_eq_ok.1 hpays)⟩,
    strictEq_str (by simpa using hnames)⟩

omit [HostLocale] in
theorem validateCommitment_ok {doc : TermsDocument} (h : validateCommitment contract doc = .ok ()) :
    ∃ text commitment, textOrEmpty (field contract "acceptanceCriteria") = .ok text ∧
      parseAcceptanceCriteria text = some commitment ∧
      termsDocumentHashOf doc = .ok commitment.termsDocumentHash := by
  obtain ⟨criteria, hcriteria, hread⟩ := bind_eq_ok.1 h
  obtain ⟨text, htext, hpins⟩ := bind_eq_ok.1 hread
  rw [prop_eq_ok hcriteria] at htext
  cases hparse : parseAcceptanceCriteria text with
  | none =>
      rw [hparse] at hpins
      cases hpins
  | some commitment =>
      rw [hparse] at hpins
      obtain ⟨docHash, hdoc, hpins⟩ := bind_eq_ok.1 hpins
      have heq := not_not.1 (throwIf_eq_ok.1 hpins)
      exact ⟨text, commitment, htext, hparse, by rw [hdoc, heq]⟩

omit [Digests] [Canonicalize] [HostLocale] in
theorem validatePrice_ok (h : validatePrice contract ctx = .ok ()) :
    subfield contract "price" "asset" = some (.str "USDC") ∧
    subfield contract "price" "amount" = some (.str ctx.recomputed.priceAmount) ∧
    ctx.termsDocument.priceAmount = ctx.recomputed.priceAmount ∧
    ctx.termsDocument.criteriaHash = ctx.recomputed.criteriaHash ∧
    ctx.termsDocument.statsHash = ctx.recomputed.statsHash := by
  obtain ⟨price, hprice, h₁⟩ := bind_eq_ok.1 h
  obtain ⟨asset, hasset, h₂⟩ := bind_eq_ok.1 h₁
  obtain ⟨amount, hamount, h₃⟩ := bind_eq_ok.1 h₂
  obtain ⟨_, hasks, h₄⟩ := bind_eq_ok.1 h₃
  obtain ⟨_, hdocument, h₅⟩ := bind_eq_ok.1 h₄
  obtain ⟨_, hcriteria, h₆⟩ := bind_eq_ok.1 h₅
  cases prop_eq_ok hprice
  cases memberOf_eq_ok hasset
  cases memberOf_eq_ok hamount
  have hasks := throwIf_eq_ok.1 hasks
  simp only [not_or, Bool.not_eq_false] at hasks
  exact ⟨strictEq_str hasks.1, strictEq_str hasks.2, not_not.1 (throwIf_eq_ok.1 hdocument),
    not_not.1 (throwIf_eq_ok.1 hcriteria), not_not.1 (throwIf_eq_ok.1 h₆)⟩

omit [Digests] [Canonicalize] [HostLocale] in
theorem validateExecution_ok (h : validateExecution env contract = .ok ()) :
    (∃ text, textOrEmpty (field contract "deliverable") = .ok text ∧ trim text ≠ "") ∧
    subfield contract "runtimeBinding" "extensionUri" = some (.str extensionUri) ∧
    subfield contract "runtimeBinding" "endpoint" = some (.str env.coordinationEndpoint) ∧
    truthy (subfield contract "disputePolicy" "arbiterAgentId") = true ∧
    strictEq (subfield contract "disputePolicy" "arbiterAgentId")
      (field contract "buyerAgentId") = false ∧
    strictEq (subfield contract "disputePolicy" "arbiterAgentId")
      (some (.str env.sellerAgentId)) = false := by
  obtain ⟨deliverable, hdeliverable, h₁⟩ := bind_eq_ok.1 h
  obtain ⟨text, htext, h₂⟩ := bind_eq_ok.1 h₁
  obtain ⟨_, hblank, h₃⟩ := bind_eq_ok.1 h₂
  obtain ⟨binding, hbinding, h₄⟩ := bind_eq_ok.1 h₃
  obtain ⟨uri, huri, h₅⟩ := bind_eq_ok.1 h₄
  obtain ⟨_, hnamesUri, h₆⟩ := bind_eq_ok.1 h₅
  obtain ⟨endpoint, hendpoint, h₇⟩ := bind_eq_ok.1 h₆
  obtain ⟨_, hnamesEndpoint, h₈⟩ := bind_eq_ok.1 h₇
  obtain ⟨policy, hpolicy, h₉⟩ := bind_eq_ok.1 h₈
  obtain ⟨arbiter, harbiter, h₁₀⟩ := bind_eq_ok.1 h₉
  obtain ⟨buyerAgentId, hbuyer, h₁₁⟩ := bind_eq_ok.1 h₁₀
  cases prop_eq_ok hdeliverable
  cases prop_eq_ok hbinding
  cases memberOf_eq_ok huri
  cases memberOf_eq_ok hendpoint
  cases prop_eq_ok hpolicy
  cases memberOf_eq_ok harbiter
  cases prop_eq_ok hbuyer
  have hthird := throwIf_eq_ok.1 h₁₁
  simp only [not_or, Bool.not_eq_false, Bool.not_eq_true] at hthird
  refine ⟨⟨text, htext, throwIf_eq_ok.1 hblank⟩, strictEq_str ?_, strictEq_str ?_, hthird.1,
    hthird.2.1, hthird.2.2⟩
  · exact Bool.eq_true_of_not_eq_false (throwIf_eq_ok.1 hnamesUri)
  · exact Bool.eq_true_of_not_eq_false (throwIf_eq_ok.1 hnamesEndpoint)

/-- `validateTerms` passes exactly the contracts with every one of its properties. -/
theorem validateTerms_eq_ok :
    validateTerms env contract ctx = .ok () ↔ Validated env contract ctx := by
  constructor
  · intro h
    obtain ⟨_, hparties, h⟩ := bind_eq_ok.1 h
    obtain ⟨_, hdocument, h⟩ := bind_eq_ok.1 h
    obtain ⟨_, hprice, h⟩ := bind_eq_ok.1 h
    obtain ⟨hpayout, hseller⟩ := validateParties_ok hparties
    obtain ⟨hasset, hamount, hpriceAmount, hcriteria, hstats⟩ := validatePrice_ok hprice
    obtain ⟨hdeliverable, huri, hendpoint, harbiter, hbuyer, hsellerArbiter⟩ :=
      validateExecution_ok h
    exact ⟨hpayout, hseller, validateCommitment_ok hdocument, hasset, hamount, hpriceAmount,
      hcriteria, hstats, hdeliverable, huri, hendpoint, harbiter, hbuyer, hsellerArbiter⟩
  · intro h
    obtain ⟨payout, hpayout, hpays⟩ := h.payout
    obtain ⟨criteria, commitment, hcriteria, hparse, hdocument⟩ := h.document
    obtain ⟨deliverable, hdeliverable, hblank⟩ := h.deliverable
    have hne : contract ≠ .null := by
      rw [eq_obj_of_field h.seller]
      nofun
    obtain ⟨_, hseller, _, hasset, hamount, hprice, hcriteriaHash, hstats, _, hextension,
      hendpoint, harbiter, hbuyer, hsellerArbiter⟩ := h
    simp only [subfield] at *
    simp [validateTerms, validateParties, validateCommitment, validatePrice, validateExecution,
      prop_eq hne, memberOf_eq, hpayout, hpays, hseller, hcriteria, hparse, hdocument, hasset,
      hamount, hprice, hcriteriaHash, hstats, hdeliverable, hblank, hextension,
      hendpoint, harbiter, hbuyer, hsellerArbiter, throwIf]

end Checks

/-! ## Countersigning -/

section Countersigning

variable [Digests] [Canonicalize] [HostLocale] [RecoverableEcdsa] {env : Environment}
  {input : AcceptTermsInput}

/-- The chain the agreement signatures are bound to. -/
def AcceptTermsInput.domain (input : AcceptTermsInput) : Eip712Domain :=
  agreementDomain (input.chainId.getD demoChainId)

/-- What both agreement signatures cover. -/
def AcceptTermsInput.struct (input : AcceptTermsInput) (termsHash : String) : Struct :=
  agreementStruct input.dealId termsHash input.validation.recomputed.priceAmount
    input.buyerAddress input.sellerAddress

/-- The proposal carries one entry, by the buyer, and both of the buyer's
signatures are good. -/
structure Proposed (env : Environment) (input : AcceptTermsInput) (entry : Value)
    (termsHash : String) : Prop where
  single : ∃ signatures, field input.contract "signatures" = some signatures ∧
    hasLength signatures 1 = true ∧ itemAt signatures 0 = some entry
  signer : strictEq (field entry "signerAgentId") (field input.contract "buyerAgentId") = true
  validated : Validated env input.contract input.validation
  termsHash_eq : termsHashOf input.contract = .ok termsHash
  buyerSig : ∃ sig, toText (field entry "sig") = .ok sig ∧
    recover sig (termsSigningBytes termsHash) = some (HostLocale.toLowerCase input.buyerAddress)
  buyerAgreementSig : recoverStruct input.buyerAgreementSig input.domain .Agreement
    (input.struct termsHash) = .ok (some (HostLocale.toLowerCase input.buyerAddress))

/-- The countersigned contract: the proposal, the seller's two signatures beside
it, and nothing else changed. -/
structure Countersigned (env : Environment) (input : AcceptTermsInput) (accepted : Value) :
    Prop where
  proposed : ∃ entry termsHash sig agreementSig, Proposed env input entry termsHash ∧
    field accepted "signatures" = some (.arr [
      .obj (setMember "agreementSig" (.str input.buyerAgreementSig) (ownMembers entry)),
      .obj [("signerAgentId", .str env.sellerAgentId), ("profile", .str signatureProfile),
        ("keyId", .str input.keyId), ("sig", .str sig), ("agreementSig", .str agreementSig)]]) ∧
    termsHashOf accepted = .ok termsHash ∧
    recover sig (termsSigningBytes termsHash) = some (addressOfPrivateKey input.privateKey) ∧
    recoverStruct agreementSig input.domain .Agreement (input.struct termsHash) =
      .ok (some (addressOfPrivateKey input.privateKey))
  otherMembers : ∀ k, k ≠ "signatures" → field accepted k = field input.contract k

omit [Digests] [Canonicalize] [HostLocale] [RecoverableEcdsa] in
theorem signatures_of_hasLength {v : Option Value} {signatures : Value}
    (hv : (orElse v none).getD (.arr []) = signatures) (hlength : hasLength signatures 1 = true) :
    v = some signatures := by
  cases v with
  | none =>
      subst hv
      cases hlength
  | some v =>
      cases v with
      | null =>
          subst hv
          cases hlength
      | bool b => rw [← hv]; rfl
      | num x => rw [← hv]; rfl
      | str s => rw [← hv]; rfl
      | arr xs => rw [← hv]; rfl
      | obj ms => rw [← hv]; rfl

/-- The checks of `acceptTerms` establish everything the seller relies on. -/
theorem proposed_of_checkProposal {checked : CheckedProposal}
    (h : checkProposal env input = .ok checked) :
    ∃ entry, checked.proposalSig = some entry ∧ Proposed env input entry checked.termsHash ∧
      checked.domain = input.domain ∧ checked.struct = input.struct checked.termsHash := by
  obtain ⟨listed, hlisted, h₁⟩ := bind_eq_ok.1 h
  obtain ⟨_, hlength, h₂⟩ := bind_eq_ok.1 h₁
  obtain ⟨_, hvalid, h₃⟩ := bind_eq_ok.1 h₂
  obtain ⟨termsHash, hterms, h₄⟩ := bind_eq_ok.1 h₃
  obtain ⟨signer, hsigner, h₅⟩ := bind_eq_ok.1 h₄
  obtain ⟨buyer, hbuyer, h₆⟩ := bind_eq_ok.1 h₅
  obtain ⟨_, hnames, h₇⟩ := bind_eq_ok.1 h₆
  obtain ⟨sigMember, hsigMember, h₈⟩ := bind_eq_ok.1 h₇
  obtain ⟨sig, hsig, h₉⟩ := bind_eq_ok.1 h₈
  obtain ⟨_, hverify, h₁₀⟩ := bind_eq_ok.1 h₉
  obtain ⟨price, hprice, h₁₁⟩ := bind_eq_ok.1 h₁₀
  obtain ⟨amountMember, hamountMember, h₁₂⟩ := bind_eq_ok.1 h₁₁
  obtain ⟨amount, hamount, h₁₃⟩ := bind_eq_ok.1 h₁₂
  obtain ⟨recovered, hrecovered, h₁₄⟩ := bind_eq_ok.1 h₁₃
  obtain ⟨_, hagrees, h₁₅⟩ := bind_eq_ok.1 h₁₄
  have hvalidated := validateTerms_eq_ok.1 hvalid
  cases hitem : itemAt ((orElse listed none).getD (.arr [])) 0 with
  | none =>
      rw [hitem] at hsigner
      cases hsigner
  | some entry =>
      rw [hitem] at hsigner hsigMember
      rw [prop_eq_ok hsigner, prop_eq_ok hbuyer] at hnames
      rw [prop_eq_ok hsigMember] at hsig
      have hlength := Bool.eq_true_of_not_eq_false (throwIf_eq_ok.1 hlength)
      have hlisted := (prop_eq_ok hlisted).symm.trans (signatures_of_hasLength rfl hlength)
      have hprice : amountMember = subfield input.contract "price" "amount" := by
        rw [prop_eq_ok hprice] at hamountMember
        exact prop_getD_eq_ok hamountMember
      rw [hprice, hvalidated.amount] at hamount
      cases hamount
      have hrecovers := throwIf_eq_ok.1 hverify
      rw [not_not.1 (throwIf_eq_ok.1 hagrees)] at hrecovered
      cases h₁₅
      refine ⟨entry, hitem, ⟨⟨_, hlisted, hlength, hitem⟩, ?_, hvalidated, hterms, ⟨sig, hsig, ?_⟩,
        hrecovered⟩, rfl, rfl⟩
      · exact Bool.eq_true_of_not_eq_false (throwIf_eq_ok.1 hnames)
      · simpa [verify] using hrecovers

/-- A proposal with every property passes the checks. -/
theorem checkProposal_of_proposed {entry : Value} {termsHash : String}
    (h : Proposed env input entry termsHash) :
    checkProposal env input =
      .ok ⟨some entry, termsHash, input.domain, input.struct termsHash⟩ := by
  obtain ⟨signatures, hsignatures, hlength, hitem⟩ := h.single
  obtain ⟨sig, hsig, hrecovers⟩ := h.buyerSig
  have hcontract : input.contract ≠ .null := by
    rw [eq_obj_of_field h.validated.seller]
    nofun
  have hlisted : (orElse (field input.contract "signatures") none).getD (.arr []) = signatures := by
    rw [hsignatures]
    cases signatures <;> first | rfl | cases hlength
  have hentry : entry ≠ .null := by
    rintro rfl
    cases hsig
    simp [recover, utf16] at hrecovers
  have hprice : (field input.contract "price").getD .null ≠ .null := by
    intro hnull
    have hamount := h.validated.amount
    rw [subfield, hnull] at hamount
    cases hamount
  have hverify : verify sig (termsSigningBytes termsHash) input.buyerAddress = true := by
    simpa [verify] using hrecovers
  have hamount : field ((field input.contract "price").getD .null) "amount" =
      some (.str input.validation.recomputed.priceAmount) := h.validated.amount
  have htext (s : String) : toText (some (.str s)) = .ok s := rfl
  have hrecovered := h.buyerAgreementSig
  simp only [AcceptTermsInput.domain, AcceptTermsInput.struct] at hrecovered ⊢
  simp [checkProposal, prop_eq hcontract, prop_eq hentry, prop_getD_eq hprice, hlisted, hlength,
    hitem, validateTerms_eq_ok.2 h.validated, h.termsHash_eq, h.signer, hsig, hverify, hamount,
    htext, hrecovered, throwIf]

omit [Canonicalize] [HostLocale] in
theorem recoverStruct_signStruct {privateKey : Bytes} (hkey : RecoverableEcdsa.Inverts privateKey)
    {domain : Eip712Domain} {t : SettlementStruct} {struct : Struct} {signature : String}
    (h : signStruct privateKey domain t struct = .ok signature) :
    recoverStruct signature domain t struct = .ok (some (addressOfPrivateKey privateKey)) := by
  obtain ⟨preimage, hpreimage, h⟩ := bind_eq_ok.1 h
  cases h
  rw [recoverStruct, hpreimage]
  exact congrArg Except.ok (recover_sign hkey preimage)

omit [Canonicalize] [HostLocale] in
/-- A digest that was recovered from can be signed. -/
theorem exists_signStruct {signature : String} {domain : Eip712Domain} {t : SettlementStruct}
    {struct : Struct} {signer : Option String} (privateKey : Bytes)
    (h : recoverStruct signature domain t struct = .ok signer) :
    ∃ signature', signStruct privateKey domain t struct = .ok signature' := by
  obtain ⟨preimage, hpreimage, _⟩ := bind_eq_ok.1 h
  exact ⟨sign privateKey preimage, by rw [signStruct, hpreimage]; rfl⟩

omit [HostLocale] [RecoverableEcdsa] in
theorem termsHashOf_setMember_signatures {contract v : Value}
    (hobj : contract = .obj contract.members) :
    termsHashOf (.obj (setMember "signatures" v (ownMembers contract))) = termsHashOf contract := by
  rw [hobj]
  have hdrop : dropMembers ["signatures", "termsHash"]
      (setMember "signatures" v contract.members) =
        dropMembers ["signatures", "termsHash"] contract.members :=
    dropMembers_setMember v contract.members (by simp)
  simp only [termsHashOf, without, ownMembers, hdrop]

omit [Digests] [Canonicalize] [HostLocale] [RecoverableEcdsa] in
/-- Countersigning keeps every member of the proposal but the signatures. -/
theorem field_countersigned (hobj : input.contract = .obj input.contract.members)
    (proposalSig : Option Value) (sig agreementSig : String) {k : String} (hk : k ≠ "signatures") :
    field (countersigned env input proposalSig sig agreementSig) k = field input.contract k := by
  have hmembers : ownMembers input.contract = input.contract.members := by
    rw [hobj]
    rfl
  exact (lookup_setMember_of_ne _ _ hk).trans (congrArg _ hmembers)

theorem countersigned_of_proposed (hkey : RecoverableEcdsa.Inverts input.privateKey)
    {entry : Value} {termsHash agreementSig : String}
    (hproposed : Proposed env input entry termsHash)
    (hsigned : signStruct input.privateKey input.domain .Agreement (input.struct termsHash) =
      .ok agreementSig) :
    Countersigned env input (countersigned env input (some entry)
      (sign input.privateKey (termsSigningBytes termsHash)) agreementSig) := by
  have hobj := eq_obj_of_field hproposed.validated.seller
  refine ⟨⟨entry, termsHash, _, agreementSig, hproposed, lookup_setMember_self _ _ _, ?_,
    recover_sign hkey _, recoverStruct_signStruct hkey hsigned⟩, ?_⟩
  · exact (termsHashOf_setMember_signatures hobj).trans hproposed.termsHash_eq
  · intro k hk
    exact field_countersigned hobj _ _ _ hk

/-- A proposal with every property is countersigned. -/
theorem acceptTerms_of_proposed {entry : Value} {termsHash : String}
    (h : Proposed env input entry termsHash) (produced : List String) :
    ∃ agreementSig,
      signStruct input.privateKey input.domain .Agreement (input.struct termsHash) =
        .ok agreementSig ∧
      (acceptTerms env input).run produced =
        (.ok (countersigned env input (some entry)
          (sign input.privateKey (termsSigningBytes termsHash)) agreementSig),
          produced ++ [agreementSig] ++ [sign input.privateKey (termsSigningBytes termsHash)]) := by
  obtain ⟨agreementSig, hsigned⟩ := exists_signStruct input.privateKey h.buyerAgreementSig
  refine ⟨agreementSig, hsigned, ?_⟩
  rw [acceptTerms, Prog.run_bind_of_ok (by rw [Prog.run_lift, checkProposal_of_proposed h]),
    Prog.run_bind_of_ok (by rw [Prog.run_lift, hsigned])]
  rfl

/-- Only an object is accepted, and its other members stay. -/
theorem field_of_acceptTerms {accepted : Value} {produced final : List String}
    (h : (acceptTerms env input).run produced = (.ok accepted, final)) {k : String}
    (hk : k ≠ "signatures") : field accepted k = field input.contract k := by
  obtain ⟨checked, t, hchecked, h₁⟩ := Prog.run_bind_eq_ok.1 h
  obtain ⟨_, _, hproposed, _⟩ := proposed_of_checkProposal (Prog.run_lift_eq.1 hchecked).1
  obtain ⟨_, _, _, h₂⟩ := Prog.run_bind_eq_ok.1 h₁
  obtain ⟨_, _, _, h₃⟩ := Prog.run_bind_eq_ok.1 h₂
  obtain ⟨_, _, _, h₄⟩ := Prog.run_bind_eq_ok.1 h₃
  cases h₄
  exact field_countersigned (eq_obj_of_field hproposed.validated.seller) _ _ _ hk

variable (env) in
/-- A run of `acceptTerms` that returns has countersigned the proposal; one that
throws has produced no signature. -/
theorem acceptTerms_run (hkey : RecoverableEcdsa.Inverts input.privateKey)
    (produced : List String) :
    (∃ accepted entry termsHash sig agreementSig, Proposed env input entry termsHash ∧
      (acceptTerms env input).run produced =
        (.ok accepted, produced ++ [agreementSig] ++ [sig]) ∧
      Countersigned env input accepted) ∨
    ∃ e, (acceptTerms env input).run produced = (.error e, produced) := by
  cases hchecked : checkProposal env input with
  | error e =>
      right
      exact ⟨e, by rw [acceptTerms, Prog.run_bind, Prog.run_lift, hchecked]⟩
  | ok checked =>
      left
      obtain ⟨entry, _, hproposed, _⟩ := proposed_of_checkProposal hchecked
      obtain ⟨agreementSig, hsigned, hrun⟩ := acceptTerms_of_proposed hproposed produced
      exact ⟨_, entry, checked.termsHash, _, agreementSig, hproposed, hrun,
        countersigned_of_proposed hkey hproposed hsigned⟩

/-- `acceptTerms` countersigns only what it may: what it returns is the proposal
with both parties' signatures good and every check passed; a proposal that does
not pass is refused before anything is signed. -/
theorem acceptTerms_countersigns (hkey : RecoverableEcdsa.Inverts input.privateKey)
    (produced : List String) :
    (∀ accepted final, (acceptTerms env input).run produced = (.ok accepted, final) →
      Countersigned env input accepted) ∧
    (∀ e final, (acceptTerms env input).run produced = (.error e, final) → final = produced) ∧
    ((¬ ∃ entry termsHash, Proposed env input entry termsHash) →
      ∃ e, (acceptTerms env input).run produced = (.error e, produced)) := by
  rcases acceptTerms_run env hkey produced with
    ⟨accepted, entry, termsHash, sig, agreementSig, hproposed, hrun, hcountersigned⟩ | ⟨e, hrun⟩
  · refine ⟨?_, ?_, ?_⟩
    · intro accepted' final h
      rw [hrun] at h
      cases h
      exact hcountersigned
    · intro e final h
      rw [hrun] at h
      cases h
    · intro hnone
      exact absurd ⟨entry, termsHash, hproposed⟩ hnone
  · refine ⟨?_, ?_, ?_⟩
    · intro accepted final h
      rw [hrun] at h
      cases h
    · intro e' final h
      rw [hrun] at h
      cases h
      rfl
    · intro _
      exact ⟨e, hrun⟩

end Countersigning

end DataSeller

end Coordination
