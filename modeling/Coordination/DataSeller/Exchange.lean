import Coordination.DataSeller.Supply

/-!
# An honest buyer reaches an agreement

A deal past its proposal has a contract that the seller countersigned for it. Conversely a
buyer who holds a stored quote, drafts the contract the quote asks for and signs it
with its own key is countersigned, whatever the seller was called with before and is
called with between the proposal and the acceptance.
-/

namespace Coordination

namespace DataSeller

open JavaScript Library Engine

section Honest

variable [Digests] [Canonicalize] [HostLocale] [RecoverableEcdsa] {seller : Seller}

/-! ## Steps that succeed -/

omit [Digests] [Canonicalize] [HostLocale] [RecoverableEcdsa] in
theorem dealOf_run {s : Stores} {dealId : String} {r : ℕ} (hfound : s.deals.find? dealId = some r) :
    (dealOf dealId).run s = (.ok r, s) := by
  unfold dealOf
  rw [Prog.run_bind_of_ok (Prog.run_get s)]
  simp only [hfound]
  rfl

omit [Digests] [Canonicalize] [HostLocale] [RecoverableEcdsa] in
theorem readDeal_run {s : Stores} {r : ℕ} {deal : DealRecord}
    (hobject : s.deals.object? r = some deal) : (readDeal r).run s = (.ok deal, s) := by
  unfold readDeal
  rw [Prog.run_bind_of_ok (Prog.run_get s)]
  simp only [hobject]
  rfl

omit [Digests] [Canonicalize] [HostLocale] [RecoverableEcdsa] in
/-- A stored deal is recorded on. -/
theorem recordInteraction_succeeds {s : Stores} {dealId : String} {r : ℕ}
    (hfound : s.deals.find? dealId = some r) (input : HistoryInput) :
    Prog.Ensures (fun _ => Agree DealRecord.core s) (fun _ => False)
      (recordInteraction dealId input) s := by
  have hwithin : Agree DealRecord.core s ((recordInteraction dealId input).run s).2 :=
    recordInteraction_within (fun _ _ => rfl) dealId input s
  have hok : ((recordInteraction dealId input).run s).1 = .ok () := by
    unfold recordInteraction
    rw [Prog.run_bind_of_ok (dealOf_run hfound)]
    rfl
  unfold Prog.Ensures
  cases hrun : (recordInteraction dealId input).run s with
  | mk result t =>
      rw [hrun] at hok hwithin
      cases hok
      exact hwithin

omit [Digests] [Canonicalize] [HostLocale] [RecoverableEcdsa] in
/-- A stored deal is written to. -/
theorem writeDeal_stored {s : Stores} {dealId : String} {r : ℕ}
    (hfound : s.deals.find? dealId = some r) {f : DealRecord → DealRecord}
    (hf : ∀ d, (f d).dealId = d.dealId) :
    Prog.Ensures (fun _ t => t.deals.find? dealId = some r ∧ ∃ deal,
        s.deals.get? dealId = some deal ∧ t.deals.get? dealId = some (f deal)) (fun _ => False)
      (writeDeal r f hf) s := by
  obtain ⟨deal, hobject, _⟩ := ObjectMap.exists_of_find? hfound
  have hdeal := ObjectMap.get?_eq_some_iff.2 ⟨r, hfound, hobject⟩
  refine ⟨hfound, deal, hdeal, (ObjectMap.get?_modify s.deals r f hf dealId).trans ?_⟩
  rw [if_pos hfound, hdeal]
  rfl

omit [Digests] [Canonicalize] [HostLocale] [RecoverableEcdsa] in
/-- A new deal is stored as it was proposed. -/
theorem insertDeal_stored (s : Stores) (dealId negotiationId : String) (record : QuoteRecord)
    (contract : Value) (buyerAddress : String) :
    let deal := proposedDeal dealId negotiationId record contract buyerAddress s.now
    let t := ((insertDeal dealId negotiationId record contract buyerAddress).run s).2
    t.quotes = s.quotes ∧ t.deals.get? dealId = some deal := by
  have hself := ObjectMap.get?_create_self s.deals
    (proposedDeal dealId negotiationId record contract buyerAddress s.now)
  simp only [insertDeal_run]
  split
  · exact ⟨rfl, hself⟩
  · exact ⟨rfl, hself⟩

/-- The deal of a proposal that selects a stored quote. -/
structure Stored (s t : Stores) (dealId negotiationId : String) (contract : Value)
    (buyerAddress : String) : Prop where
  quotes : t.quotes = s.quotes
  deal : ∃ deal, t.deals.get? dealId = some deal ∧ deal.negotiationId = negotiationId ∧
    deal.contract = contract ∧ deal.buyerAddress = buyerAddress ∧ deal.capabilityRevoked = false

omit [Digests] [Canonicalize] [HostLocale] [RecoverableEcdsa] in
theorem Stored.agree {s t u : Stores} {dealId negotiationId buyerAddress : String}
    {contract : Value} (h : Stored s t dealId negotiationId contract buyerAddress)
    (hagree : Agree DealRecord.core t u) :
    Stored s u dealId negotiationId contract buyerAddress := by
  obtain ⟨deal, hdeal, hnegotiation, hcontract, hbuyer, hrevoked⟩ := h.deal
  obtain ⟨new, hnew, hcore⟩ := hagree.symm.exists_of_get? hdeal
  have hview {β : Type} (view : DealRecord → β) : view new.core = view deal.core :=
    congrArg view hcore
  exact ⟨hagree.quotes.trans h.quotes, new, hnew,
    (hview DealRecord.negotiationId).trans hnegotiation,
    (hview DealRecord.contract).trans hcontract, (hview DealRecord.buyerAddress).trans hbuyer,
    (hview DealRecord.capabilityRevoked).trans hrevoked⟩

omit [HostLocale] [RecoverableEcdsa] in
theorem propose_stored {s : Stores} {negotiationId : String} {record : QuoteRecord}
    (hrecord : s.quotes.get? negotiationId = some record) {contract : Value}
    (hselects : Selects contract record.buyerAgentId record.termsDocumentHash)
    (buyerAddress : String) :
    Stored s ((propose negotiationId contract buyerAddress).run s).2 (mintedDeal s) negotiationId
      contract buyerAddress := by
  obtain ⟨hquotes, _, hrandom, _⟩ := kept_foldl_deleteDeal s.reclaimed s
  refine Prog.state_of_ensures (P := fun t => Stored s t (mintedDeal s) negotiationId contract
    buyerAddress) (Prog.ensures_modify_bind ?_)
  generalize s.reclaimed.foldl Stores.deleteDeal s = u at hquotes hrandom
  unfold Prog.Ensures
  rw [Prog.run_bind_of_ok (selectedQuote_run (hquotes ▸ hrecord) hselects)]
  refine Prog.ensures_get_bind ?_
  have hid : "deal_" ++ toHex (u.random.take 6) = mintedDeal s := by rw [mintedDeal, hrandom]
  simp only [hid]
  obtain ⟨hkept, hdeal⟩ := insertDeal_stored u (mintedDeal s) negotiationId record contract
    buyerAddress
  refine Prog.ensures_bind (Prog.ensures_of_state (P := fun t => Stored s t (mintedDeal s)
    negotiationId contract buyerAddress) ⟨hkept.trans hquotes, _, hdeal, rfl, rfl, rfl, rfl⟩)
    fun _ t ht => ?_
  have hwithin (input : HistoryInput) :
      Prog.Within (Agree DealRecord.core) (recordInteraction (mintedDeal s) input) :=
    recordInteraction_within (fun _ _ => rfl) _ input
  refine Prog.ensures_within_bind (hwithin _) (fun _ => ht.agree) fun _ u hu => ?_
  refine Prog.ensures_lift_bind (ht.agree hu) fun _ _ => ?_
  exact Prog.ensures_within_bind (hwithin _) (fun _ => (ht.agree hu).agree)
    fun _ v hv => (ht.agree hu).agree hv

/-- A deal whose proposal the seller's checks pass is accepted. -/
theorem accept_succeeds {s : Stores} {dealId sig : String} {deal : DealRecord}
    (hdeal : s.deals.get? dealId = some deal) {record : QuoteRecord}
    (hrecord : s.quotes.get? deal.negotiationId = some record) {accepted : Value}
    (haccepted : countersignTerms seller deal record deal.contract sig none = .ok accepted) :
    Prog.Ensures (fun result t => result = accepted ∧ ∃ new, t.deals.get? dealId = some new ∧
        new.contract = accepted ∧ new.state = .ACCEPTED_LOCAL) (fun _ => False)
      (accept seller dealId sig none none) s := by
  obtain ⟨r, hfound, hheld⟩ := ObjectMap.get?_eq_some_iff.1 hdeal
  have hproposal : (orElse none (some deal.contract)).getD .null = deal.contract := rfl
  unfold accept Prog.Ensures
  rw [Prog.run_bind_of_ok (dealOf_run hfound), Prog.run_bind_of_ok (readDeal_run hheld)]
  refine Prog.ensures_get_bind ?_
  simp only [hrecord, hproposal, haccepted]
  refine Prog.ensures_bind (recordInteraction_succeeds hfound _) fun _ t ht => ?_
  refine Prog.ensures_bind (Q := fun result u => result = accepted ∧ u = t) ⟨rfl, rfl⟩ ?_
  rintro accepted t ⟨rfl, rfl⟩
  refine Prog.ensures_bind (writeDeal_stored ((ht.find? dealId).trans hfound) _) ?_
  rintro _ u ⟨hlater, held, _, hwritten⟩
  refine Prog.ensures_bind (recordInteraction_succeeds hlater _) fun _ v hv => ⟨rfl, ?_⟩
  obtain ⟨new, hnew, hcore⟩ := hv.symm.exists_of_get? hwritten
  exact ⟨new, hnew, congrArg DealRecord.contract hcore, congrArg DealRecord.state hcore⟩

/-! ## What is accepted -/

/-- What was countersigned has both signatures, the seller's by its own key. -/
theorem SignedFor.countersigned (hkey : RecoverableEcdsa.Inverts seller.config.privateKey)
    {deal : DealRecord} (h : SignedFor seller deal) : ∃ input : AcceptTermsInput,
      input.dealId = deal.dealId ∧ input.buyerAddress = deal.buyerAddress ∧
      input.privateKey = seller.config.privateKey ∧
      Countersigned seller.env input deal.contract := by
  obtain ⟨input, hid, hbuyer, hsigner, haccepted⟩ := h
  exact ⟨input, hid, hbuyer, hsigner,
    (acceptTerms_countersigns (hsigner ▸ hkey) []).1 _ _ (Prod.ext haccepted rfl)⟩

/-- Countersigning keeps the hash of the terms. -/
theorem termsHashOf_of_countersignTerms (hkey : RecoverableEcdsa.Inverts seller.config.privateKey)
    {deal : DealRecord} {record : QuoteRecord} {proposal accepted : Value} {sig : String}
    {chainId : Option Number}
    (h : countersignTerms seller deal record proposal sig chainId = .ok accepted) :
    termsHashOf accepted = termsHashOf proposal := by
  obtain ⟨recomputed, _, hrun⟩ := bind_eq_ok.1 h
  obtain ⟨_, _, _, _, hproposed, _, haccepted, _⟩ :=
    ((acceptTerms_countersigns (by exact hkey) []).1 _ _ (Prod.ext hrun rfl)).proposed
  exact haccepted.trans hproposed.termsHash_eq.symm

omit [RecoverableEcdsa] in
/-- The document that was accepted is the one the contract selects. -/
theorem document_of_validated {env : Environment} {contract accepted : Value}
    {validation : TermsValidationContext} (hvalidated : Validated env contract validation)
    (hkept : field accepted "acceptanceCriteria" = field contract "acceptanceCriteria")
    {buyerAgentId hash : String} (hselects : Selects accepted buyerAgentId hash) :
    termsDocumentHashOf validation.termsDocument = .ok hash := by
  obtain ⟨criteria, commitment, hcriteria, hparse, hdocument⟩ := hvalidated.document
  obtain ⟨_, text, commitment', htext, hparse', rfl⟩ := hselects
  rw [hkept, hcriteria] at htext
  cases htext
  cases hparse.symm.trans hparse'
  exact hdocument

/-- A deal past its proposal has a contract that the seller countersigned for this deal and
this buyer, about the document of the deal's own quote. -/
theorem accepted_countersigned {c : System.Config Failure Stores Request Reply SellerJob}
    (h : Reachable seller c) (hkey : RecoverableEcdsa.Inverts seller.config.privateKey)
    {dealId : String} {deal : DealRecord} (hdeal : c.state.deals.get? dealId = some deal)
    (hstate : deal.state ≠ .PROPOSED_LOCAL) :
    ∃ input record, input.dealId = dealId ∧ input.buyerAddress = deal.buyerAddress ∧
      input.privateKey = seller.config.privateKey ∧
      Countersigned seller.env input deal.contract ∧
      c.state.quotes.get? deal.negotiationId = some record ∧ Quoted seller record ∧
      termsDocumentHashOf input.validation.termsDocument = .ok record.termsDocumentHash := by
  have hserving := (good_of_reachable h).1
  obtain ⟨r, hfound, hobject⟩ := ObjectMap.get?_eq_some_iff.1 hdeal
  obtain ⟨input, hid, hbuyer, hsigner, hcountersigned⟩ :=
    (hserving.2.signed r deal hobject (.inl hstate)).countersigned hkey
  obtain ⟨_, record, _, hrecord, _, hselects⟩ := hserving.1.deal dealId deal hdeal
  obtain ⟨_, _, _, _, hproposed, _⟩ := hcountersigned.proposed
  exact ⟨input, record, hid.trans (ObjectMap.key_of_find? hfound hobject), hbuyer, hsigner,
    hcountersigned, hrecord, hserving.2.quotes _ _ hrecord, document_of_validated
      hproposed.validated (hcountersigned.otherMembers _ (by decide)) hselects⟩

/-! ## The honest buyer -/

/-- The contract an offer makes of a quote. -/
def Offer.contractFor (offer : Offer) (seller : Seller) (record : QuoteRecord)
    (termsHash : String) : Value :=
  offer.proposal (offer.terms seller.env record.termsDocumentHash record.termsDocument.priceAmount)
    termsHash

/-- A buyer drafts the contract for a quote of its own, names a third party as arbiter,
and signs the terms and the agreement with the key of the address it gives. -/
structure Drafts (seller : Seller) (record : QuoteRecord) (offer : Offer)
    (dealId termsHash sig : String) : Prop where
  buyer : offer.buyerAgentId = record.buyerAgentId
  base : offer.locatorBase.toList.all (fun c => !isSpace c) = true
  deliverable : trim offer.deliverable ≠ ""
  arbiter : offer.arbiterAgentId ≠ ""
  arbiter_buyer : offer.arbiterAgentId ≠ offer.buyerAgentId
  arbiter_seller : offer.arbiterAgentId ≠ seller.env.sellerAgentId
  inverts : RecoverableEcdsa.Inverts offer.buyerKey
  lower : HostLocale.toLowerCase (addressOfPrivateKey offer.buyerKey) =
    addressOfPrivateKey offer.buyerKey
  hashes : termsHashOf (offer.contractFor seller record termsHash) = .ok termsHash
  agreementSig : signStruct offer.buyerKey (agreementDomain demoChainId) .Agreement
    (agreementStruct dealId termsHash record.termsDocument.priceAmount
      (addressOfPrivateKey offer.buyerKey) seller.address) = .ok sig

section Drafts

variable {record : QuoteRecord} {offer : Offer} {dealId termsHash sig : String}

omit [HostLocale] [RecoverableEcdsa] in
/-- The hash of a document is a digest that its acceptance criteria pin. -/
theorem exists_pinned (hsized : Sized) {doc : TermsDocument} {hash base : String}
    (hhash : termsDocumentHashOf doc = .ok hash)
    (hbase : base.toList.all (fun c => !isSpace c) = true) :
    ∃ digest locator, hash = "sha256:" ++ digest ∧
      parseAcceptanceCriteria (buildAcceptanceCriteria hash base) = some ⟨hash, locator⟩ := by
  obtain ⟨bytes, _, hbytes⟩ := bind_eq_ok.1 hhash
  cases hbytes
  exact ⟨_, _, rfl, parse_buildAcceptanceCriteria (length_digest hsized bytes)
    (toHex_isLowerHex _) hbase⟩

theorem Drafts.selects (h : Drafts seller record offer dealId termsHash sig) (hsized : Sized)
    (hquoted : Quoted seller record) : Selects (offer.contractFor seller record termsHash)
      record.buyerAgentId record.termsDocumentHash := by
  obtain ⟨_, locator, _, hparse⟩ := exists_pinned hsized hquoted.hashed h.base
  exact ⟨h.buyer ▸ rfl, _, _, rfl, hparse, rfl⟩

/-- The seller accepts what an honest buyer drafted. -/
theorem Drafts.accepted (h : Drafts seller record offer dealId termsHash sig) (hsized : Sized)
    (hquoted : Quoted seller record) {deal : DealRecord} (hid : deal.dealId = dealId)
    (hbuyer : deal.buyerAddress = addressOfPrivateKey offer.buyerKey) :
    ∃ accepted, countersignTerms seller deal record (offer.contractFor seller record termsHash) sig
      none = .ok accepted := by
  subst hid
  obtain ⟨digest, locator, hdigest, hparse⟩ := exists_pinned hsized hquoted.hashed h.base
  let input : AcceptTermsInput := {
    contract := offer.contractFor seller record termsHash
    buyerAddress := deal.buyerAddress
    dealId := deal.dealId
    buyerAgreementSig := sig
    privateKey := seller.config.privateKey
    keyId := seller.keyId
    sellerAddress := seller.address
    chainId := none
    validation := ⟨record.termsDocument, ⟨record.termsDocument.priceAmount,
      record.termsDocument.criteriaHash, record.termsDocument.statsHash⟩⟩ }
  have hdrafted : Drafted seller.env input offer digest termsHash := by
    refine ⟨?_, hdigest ▸ hquoted.hashed, ⟨locator, hdigest ▸ hparse⟩, rfl, rfl, rfl,
      h.deliverable, h.arbiter, h.arbiter_buyer, h.arbiter_seller, h.inverts, hbuyer,
      ?_, h.hashes, ?_⟩
    · rw [← hdigest]
      rfl
    · show HostLocale.toLowerCase deal.buyerAddress = deal.buyerAddress
      rw [hbuyer]
      exact h.lower
    · show signStruct _ _ _ (agreementStruct _ _ _ deal.buyerAddress _) = _
      rw [hbuyer]
      exact h.agreementSig
  obtain ⟨agreementSig, _, hrun⟩ := acceptTerms_of_proposed hdrafted.proposed []
  exact ⟨_, bind_eq_ok.2 ⟨_, hquoted.reproduced, congrArg Prod.fst hrun⟩⟩

/-- An acceptance of a stored deal leaves its record behind, and accepts it where its contract
is the one that was drafted. -/
theorem accept_honest {s : Stores} (hsized : Sized)
    (hkey : RecoverableEcdsa.Inverts seller.config.privateKey) (hquoted : Quoted seller record)
    {deal : DealRecord} (hrecord : s.quotes.get? deal.negotiationId = some record)
    (hdeal : s.deals.get? dealId = some deal) (hid : deal.dealId = dealId)
    (hbuyer : deal.buyerAddress = addressOfPrivateKey offer.buyerKey)
    (h : Drafts seller record offer dealId termsHash sig) :
    ∃ new, ((accept seller dealId sig none none).run s).2.deals.get? dealId = some new ∧
      Upholds seller deal new ∧
      (deal.contract = offer.contractFor seller record termsHash → SignedFor seller new ∧
        new.state = .ACCEPTED_LOCAL ∧ termsHashOf new.contract = .ok termsHash) := by
  obtain ⟨r, hfound, hobject⟩ := ObjectMap.get?_eq_some_iff.1 hdeal
  have hsupplies : Supplies seller s ((accept seller dealId sig none none).run s).2 :=
    Supplies.accept_within dealId sig none none s
  obtain ⟨new, hnew, _, hlater⟩ := hsupplies.deals.objects r deal hobject
  have hagree : Agree DealRecord.origin s ((accept seller dealId sig none none).run s).2 :=
    accept_within (fun _ _ => rfl) (fun _ _ => rfl) dealId sig none none s
  have hstored := ObjectMap.get?_eq_some_iff.2 ⟨r, (hagree.find? dealId).trans hfound, hnew⟩
  refine ⟨new, hstored, hlater, fun hpending => ?_⟩
  obtain ⟨accepted, haccepted⟩ := h.accepted hsized hquoted hid hbuyer
  have hrun := Prog.state_of_ensures (Prog.ensures_mono (accept_succeeds hdeal hrecord
    (hpending ▸ haccepted)) (fun _ _ hresult => hresult.2) fun _ => False.elim)
  obtain ⟨_, hget, hcontract, hcountersigned⟩ := hrun
  cases hget.symm.trans hstored
  refine ⟨Supplies.signed_of_countersignTerms haccepted hlater.origin hcontract, hcountersigned, ?_⟩
  rw [hcontract, termsHashOf_of_countersignTerms hkey haccepted, h.hashes]

end Drafts

/-! ## The exchange -/

section Exchange

variable {c c₁ c₂ c₃ : System.Config Failure Stores Request Reply SellerJob}

theorem Reachable.step (h : Reachable seller c) {e : System.Event Reply SellerJob Moment Empty}
    (hmeets : (sellerSystem seller).Meets freshIds c e)
    (hstep : (sellerSystem seller).machine.step c e = some c₁) : Reachable seller c₁ := by
  obtain ⟨es, hes, hrun⟩ := h
  refine ⟨es ++ [e], (Machine.meetsFrom_append _).2 ⟨hes, fun u hu => ⟨?_, fun _ _ => trivial⟩⟩,
    (Machine.runFrom_append _).2 ⟨c, hrun, (Machine.runFrom_cons _).2 ⟨c₁, hstep, rfl⟩⟩⟩
  cases hrun.symm.trans hu
  exact hmeets

theorem Reachable.runFrom (h : Reachable seller c)
    {es : List (System.Event Reply SellerJob Moment Empty)}
    (hmeets : (sellerSystem seller).machine.MeetsFrom ((sellerSystem seller).Meets freshIds) c es)
    (hrun : (sellerSystem seller).machine.runFrom c es = some c₁) : Reachable seller c₁ := by
  obtain ⟨es', hmeets', hrun'⟩ := h
  refine ⟨es' ++ es, (Machine.meetsFrom_append _).2 ⟨hmeets', fun u hu => ?_⟩,
    (Machine.runFrom_append _).2 ⟨c, hrun', hrun⟩⟩
  cases hrun'.symm.trans hu
  exact hmeets

/-- A call without a wait writes what its program writes. -/
theorem state_of_call {α : Type} {job : SellerJob} {p : SellerProg α} {m : Moment}
    (hbody : sellerBody seller job = discard (.atomic p))
    (hstep : (sellerSystem seller).machine.step c (.request job m) = some c₁) :
    c₁.state = (p.run (c.state.enter m)).2 := by
  cases hstep
  show ((sellerSystem seller).settle c (sellerBody seller job) (c.state.enter m)).state = _
  rw [hbody, settle_discard]

/-- A call without a wait with fresh ids. -/
theorem Reachable.call (h : Reachable seller c) {α : Type} {p : SellerProg α} (job : SellerJob)
    (m : Moment) (hbody : sellerBody seller job = discard (.atomic p))
    (hfresh : Fresh (c.state.enter m) job) :
    ∃ c₁, (sellerSystem seller).machine.step c (.request job m) = some c₁ ∧ Reachable seller c₁ ∧
      c₁.state = (p.run (c.state.enter m)).2 :=
  ⟨_, rfl, h.request job m hfresh, state_of_call hbody rfl⟩

/-- An honest buyer is countersigned: between the proposal and the acceptance the seller may
be called in any order, and as long as it holds the record of the deal, the acceptance
leaves a contract there that is countersigned for the buyer. Where the contract was still
the proposal, it is the proposal that is accepted. -/
theorem honest_exchange (h : Reachable seller c) (hsized : Sized)
    (hkey : RecoverableEcdsa.Inverts seller.config.privateKey) {negotiationId : String}
    {record : QuoteRecord} (hrecord : c.state.quotes.get? negotiationId = some record)
    {m : Moment} (hfresh : mintedDeal (c.state.enter m) ∉ c.state.deals.keys)
    {dealId : String} (hid : mintedDeal (c.state.enter m) = dealId) {offer : Offer}
    {termsHash sig : String} (hdraft : Drafts seller record offer dealId termsHash sig)
    (hpropose : (sellerSystem seller).machine.step c (.request (.propose negotiationId
      (offer.contractFor seller record termsHash) (addressOfPrivateKey offer.buyerKey)) m) =
        some c₁)
    {es : List (System.Event Reply SellerJob Moment Empty)}
    (hmeets : (sellerSystem seller).machine.MeetsFrom ((sellerSystem seller).Meets freshIds) c₁ es)
    (hrun : (sellerSystem seller).machine.runFrom c₁ es = some c₂)
    (hkept : c₂.state.deals.find? dealId = c₁.state.deals.find? dealId) {m' : Moment}
    (haccept : (sellerSystem seller).machine.step c₂ (.request (.accept dealId sig) m') =
      some c₃) :
    ∃ deal input, c₃.state.deals.get? dealId = some deal ∧
      deal.termsDocumentHash = record.termsDocumentHash ∧
      input.dealId = dealId ∧ input.buyerAddress = addressOfPrivateKey offer.buyerKey ∧
      input.privateKey = seller.config.privateKey ∧ Countersigned seller.env input deal.contract ∧
      ∀ old, c₂.state.deals.get? dealId = some old →
        old.contract = offer.contractFor seller record termsHash →
          deal.state = .ACCEPTED_LOCAL ∧ termsHashOf deal.contract = .ok termsHash := by
  have hreachable : Reachable seller c₁ := h.step (by exact hfresh) hpropose
  have hquoted : Quoted seller record :=
    (good_of_reachable h).1.2.quotes _ _ hrecord
  -- the proposal is stored
  have hentered : (c.state.enter m).quotes.get? negotiationId = some record := hrecord
  have hstored := propose_stored hentered (hdraft.selects hsized hquoted)
    (addressOfPrivateKey offer.buyerKey)
  rw [hid, ← state_of_call rfl hpropose] at hstored
  obtain ⟨deal₁, hdeal₁, hname₁, hcontract₁, hbuyer₁, _⟩ := hstored.deal
  obtain ⟨r, hfound₁, hobject₁⟩ := ObjectMap.get?_eq_some_iff.1 hdeal₁
  -- the record and its quote are still there before the acceptance
  have hsupplies := supplies_of_runFrom hreachable hmeets hrun
  have hfound₂ := hkept.trans hfound₁
  obtain ⟨deal₂, hobject₂, hid₂, hupholds⟩ := hsupplies.deals.objects r deal₁ hobject₁
  have hdeal₂ := ObjectMap.get?_eq_some_iff.2 ⟨r, hfound₂, hobject₂⟩
  have horigin := hupholds.origin
  simp only [DealRecord.origin, Prod.mk.injEq] at horigin
  have hrecord₂ : c₂.state.quotes.get? deal₂.negotiationId = some record := by
    rw [horigin.2.1, hsupplies.held dealId r deal₁ hfound₁ hfound₂ hobject₁, hname₁,
      hstored.quotes]
    exact hrecord
  have hhash₂ : deal₂.termsDocumentHash = record.termsDocumentHash := by
    obtain ⟨_, _, _, hquote, hhash, _⟩ :=
      (integrity_of_reachable (hreachable.runFrom hmeets hrun)).deal dealId deal₂ hdeal₂
    cases hquote.symm.trans hrecord₂
    exact hhash
  have hid₂ : deal₂.dealId = dealId := ObjectMap.key_of_find? hfound₂ hobject₂
  have hbuyer₂ := horigin.2.2.1.trans hbuyer₁
  obtain ⟨new, hnew, hlater, haccepted⟩ := accept_honest (s := c₂.state.enter m') hsized hkey
    hquoted hrecord₂ hdeal₂ hid₂ hbuyer₂ hdraft
  rw [← state_of_call rfl haccept] at hnew
  have hsigned : SignedFor seller new := by
    by_cases hpending : deal₂.contract = offer.contractFor seller record termsHash
    · exact (haccepted hpending).1
    · refine hlater.signed_of (hupholds.signed.resolve_left fun hsame => hpending ?_)
      exact hsame.1.trans hcontract₁
  have hfinal := hlater.origin
  simp only [DealRecord.origin, Prod.mk.injEq] at hfinal
  obtain ⟨input, hinput, hbuyer, hsigner, hcountersigned⟩ := hsigned.countersigned hkey
  refine ⟨new, input, hnew, hfinal.2.2.2.trans hhash₂, hinput.trans (hfinal.1.trans hid₂),
    hbuyer.trans (hfinal.2.2.1.trans hbuyer₂), hsigner, hcountersigned, ?_⟩
  rintro old hold hcontract
  cases hdeal₂.symm.trans hold
  exact (haccepted hcontract).2

end Exchange

end Honest

/-! ## An exchange -/

section Demo

attribute [local instance] Digests.checksum HostLocale.ascii Canonicalize.plain
  RecoverableEcdsa.transparent

/-- The call of the demo order. -/
def demoQuoteCall : System.Event Reply SellerJob Moment Empty :=
  .request (.quote demoBuyer (some oneMeasure)) ⟨0, []⟩

/-- The call with the contract drafted for its quote. -/
def demoProposeCall (record : QuoteRecord) (termsHash : String) :
    System.Event Reply SellerJob Moment Empty :=
  .request (.propose (mintedNegotiation Stores.empty)
    (demoOffer.contractFor (demoSeller oneTractCorpus) record termsHash)
    (addressOfPrivateKey demoOffer.buyerKey)) ⟨0, floodBytes 0⟩

/-- A buyer holds a quote and has drafted its contract. -/
theorem exists_demo_draft : ∃ c record termsHash sig, Reachable (demoSeller oneTractCorpus) c ∧
    (sellerSystem (demoSeller oneTractCorpus)).machine.run [demoQuoteCall] = some c ∧
    c.state.quotes.get? (mintedNegotiation Stores.empty) = some record ∧
    c.state.deals.keys = [] ∧ Issued (demoSeller oneTractCorpus) (some oneMeasure) record ∧
    Drafts (demoSeller oneTractCorpus) record demoOffer (floodId 0) termsHash sig := by
  have hsome : ((issuedRecord ((quote (demoSeller oneTractCorpus) demoBuyer (some oneMeasure)).run
      Stores.empty)).map fun record => record.termsDocument.priceAmount) = some "6.00" := by
    decide +kernel
  obtain ⟨record, hissued, hprice⟩ := Option.map_eq_some_iff.1 hsome
  obtain ⟨result, s', record', hquote, hrecord⟩ := exists_issued (Option.isSome_of_eq_some hissued)
  have hsame : record' = record := by
    rw [hquote] at hissued
    exact Option.some.inj (hrecord.symm.trans hissued)
  subst hsame
  obtain ⟨hget, _, hdeals, hbuyer, _⟩ := quote_stored hquote hrecord
  have hterms : allFinite (.obj (demoOffer.terms (demoSeller oneTractCorpus).env
      record'.termsDocumentHash record'.termsDocument.priceAmount)) = true := by
    simp [Offer.terms]
  obtain ⟨chainWord, hchain⟩ := exists_of_isOk
    (by decide +kernel : (wordUint (.num demoChainId)).isOk = true)
  obtain ⟨sig, hsig⟩ := exists_agreementSig checksum_sized hchain
    (by rw [hprice]; decide +kernel : usdcBaseUnits record'.termsDocument.priceAmount = .ok 6000000)
    rfl [2] (plainBytes (.obj (demoOffer.terms (demoSeller oneTractCorpus).env
      record'.termsDocumentHash record'.termsDocument.priceAmount))) [2] [1] (floodId 0)
  have harbiter : demoOffer.arbiterAgentId ≠ "" ∧
      demoOffer.arbiterAgentId ≠ demoOffer.buyerAgentId ∧
      demoOffer.arbiterAgentId ≠ (demoSeller oneTractCorpus).env.sellerAgentId := by decide
  have hinit : Reachable (demoSeller oneTractCorpus) ⟨Stores.empty, [], []⟩ := reachable_init
  have hreachable := hinit.request (.quote demoBuyer (some oneMeasure)) ⟨0, []⟩ List.not_mem_nil
  have hstate : ((sellerSystem (demoSeller oneTractCorpus)).settle ⟨Stores.empty, [], []⟩
      (sellerBody (demoSeller oneTractCorpus) (.quote demoBuyer (some oneMeasure)))
      (Stores.empty.enter ⟨0, []⟩)).state = s' := by
    rw [sellerBody, settle_discard]
    exact congrArg Prod.snd hquote
  refine ⟨_, record', _, sig, hreachable, rfl, (by rw [hstate]; exact hget), ?_,
    quote_issued hquote hrecord, hbuyer.symm, by decide +kernel, by decide +kernel, harbiter.1,
    harbiter.2.1, harbiter.2.2, RecoverableEcdsa.transparent_inverts _, toLowerCase_address _,
    termsHashOf_proposal (jcs_plain hterms), hsig⟩
  rw [hstate, hdeals]
  rfl

/-- The drafted contract has been proposed. -/
theorem exists_demo_proposed : ∃ c c₁ record termsHash sig,
    Reachable (demoSeller oneTractCorpus) c ∧
    (sellerSystem (demoSeller oneTractCorpus)).machine.run [demoQuoteCall] = some c ∧
    c.state.quotes.get? (mintedNegotiation Stores.empty) = some record ∧
    Issued (demoSeller oneTractCorpus) (some oneMeasure) record ∧ c.state.deals.keys = [] ∧
    Drafts (demoSeller oneTractCorpus) record demoOffer (floodId 0) termsHash sig ∧
    (sellerSystem (demoSeller oneTractCorpus)).machine.step c (demoProposeCall record termsHash) =
      some c₁ ∧
    Reachable (demoSeller oneTractCorpus) c₁ ∧
    Stored c.state c₁.state (floodId 0) (mintedNegotiation Stores.empty)
      (demoOffer.contractFor (demoSeller oneTractCorpus) record termsHash)
      (addressOfPrivateKey demoOffer.buyerKey) := by
  obtain ⟨c, record, termsHash, sig, hreachable, hrun, hrecord, hkeys, hissued, hdraft⟩ :=
    exists_demo_draft
  have hquoted := (good_of_reachable hreachable).1.2.quotes _ _ hrecord
  have hstored := propose_stored (s := c.state.enter ⟨0, floodBytes 0⟩) hrecord
    (hdraft.selects checksum_sized hquoted) (addressOfPrivateKey demoOffer.buyerKey)
  obtain ⟨c₁, hpropose, hproposed, hstate⟩ := hreachable.call (.propose
    (mintedNegotiation Stores.empty)
      (demoOffer.contractFor (demoSeller oneTractCorpus) record termsHash)
      (addressOfPrivateKey demoOffer.buyerKey)) ⟨0, floodBytes 0⟩ rfl (by
        show _ ∉ c.state.deals.keys
        rw [hkeys]
        exact List.not_mem_nil)
  exact ⟨c, c₁, record, termsHash, sig, hreachable, hrun, hrecord, hissued, hkeys, hdraft, hpropose,
    hproposed, hstate ▸ ⟨hstored.quotes, hstored.deal⟩⟩

/-- The drafted contract has been accepted. -/
theorem exists_demo_accepted : ∃ c c₁ c₂ record deal termsHash sig,
    Reachable (demoSeller oneTractCorpus) c ∧
    (sellerSystem (demoSeller oneTractCorpus)).machine.run [demoQuoteCall] = some c₁ ∧
    c₁.state.deals.keys = [] ∧
    (sellerSystem (demoSeller oneTractCorpus)).machine.step c₁ (demoProposeCall record termsHash) =
      some c₂ ∧
    (sellerSystem (demoSeller oneTractCorpus)).machine.step c₂
      (.request (.accept (floodId 0) sig) ⟨0, []⟩) = some c ∧
    deal.buyerAddress = addressOfPrivateKey demoOffer.buyerKey ∧
    c.state.quotes.get? deal.negotiationId = some record ∧
    Issued (demoSeller oneTractCorpus) (some oneMeasure) record ∧
    c.state.deals.get? (floodId 0) = some deal ∧ deal.state = .ACCEPTED_LOCAL ∧
    deal.capabilityRevoked = false := by
  obtain ⟨c, c₁, record, termsHash, sig, hreachable, hrun, hrecord, hissued, hkeys, hdraft,
    hpropose, hproposed, hstored⟩ := exists_demo_proposed
  obtain ⟨deal, hdeal, hname, hcontract, hbuyer, hrevoked⟩ := hstored.deal
  have hquote : c₁.state.quotes.get? deal.negotiationId = some record := by
    rw [hname, hstored.quotes, hrecord]
  obtain ⟨r, hfound, hobject⟩ := ObjectMap.get?_eq_some_iff.1 hdeal
  obtain ⟨c₂, haccept, haccepted, hstate⟩ :=
    hproposed.call (.accept (floodId 0) sig) ⟨0, []⟩ rfl trivial
  obtain ⟨new, hnew, hlater, hfinal⟩ := accept_honest (s := c₁.state.enter ⟨0, []⟩)
    checksum_sized (RecoverableEcdsa.transparent_inverts _)
    ((good_of_reachable hproposed).1.2.quotes _ _ hquote) hquote hdeal
    (ObjectMap.key_of_find? hfound hobject) hbuyer hdraft
  have horigin := hlater.origin
  simp only [DealRecord.origin, Prod.mk.injEq] at horigin
  have hkept : Prog.Within (Agree DealRecord.capabilityRevoked)
      (accept (demoSeller oneTractCorpus) (floodId 0) sig none none) :=
    accept_within (fun _ _ => rfl) (fun _ _ => rfl) (floodId 0) sig none none
  have hkept := hkept (c₁.state.enter ⟨0, []⟩)
  rw [← hstate] at hnew hkept
  refine ⟨c₂, c, c₁, record, new, termsHash, sig, haccepted, hrun, hkeys, hpropose, haccept,
    horigin.2.2.1.trans hbuyer, ?_, hissued, hnew, (hfinal hcontract).2.1, ?_⟩
  · rw [hkept.quotes, horigin.2.1]
    exact hquote
  · obtain ⟨old, hold, hsame⟩ := hkept.exists_of_get? hnew
    cases hold.symm.trans hdeal
    exact hsame.symm.trans hrevoked

/-- The honest buyer of the demo order is countersigned. -/
theorem demo_exchange : ∃ c deal input, Reachable (demoSeller oneTractCorpus) c ∧
    c.state.deals.get? (floodId 0) = some deal ∧ deal.state = .ACCEPTED_LOCAL ∧
    input.buyerAddress = addressOfPrivateKey demoOffer.buyerKey ∧
    Countersigned (demoSeller oneTractCorpus).env input deal.contract := by
  obtain ⟨c, c₁, record, termsHash, sig, hreachable, _, hrecord, _, hkeys, hdraft, hpropose,
    hproposed, hstored⟩ := exists_demo_proposed
  obtain ⟨old, hold, _, hcontract, _, _⟩ := hstored.deal
  obtain ⟨c₃, haccept, haccepted, _⟩ := hproposed.call (.accept (floodId 0) sig) ⟨0, []⟩ rfl trivial
  have hfresh : mintedDeal (c.state.enter ⟨0, floodBytes 0⟩) ∉ c.state.deals.keys := by
    rw [hkeys]
    exact List.not_mem_nil
  have hnil : (sellerSystem (demoSeller oneTractCorpus)).machine.runFrom c₁ [] = some c₁ := rfl
  obtain ⟨deal, input, hdeal, _, _, hbuyer, _, hcountersigned, hlast⟩ :=
    honest_exchange hreachable checksum_sized (RecoverableEcdsa.transparent_inverts _) hrecord
      hfresh rfl hdraft hpropose (by exact trivial) hnil rfl haccept
  exact ⟨c₃, deal, input, haccepted, hdeal, (hlast old hold hcontract).1, hbuyer, hcountersigned⟩

/-- The accepted deal of the demo order is countersigned. -/
theorem demo_accepted : ∃ (deal : DealRecord) (input : AcceptTermsInput),
    input.dealId = floodId 0 ∧
    Countersigned (demoSeller oneTractCorpus).env input deal.contract := by
  obtain ⟨c, _, _, _, deal, _, _, hreachable, _, _, _, _, _, _, _, hdeal, haccepted, _⟩ :=
    exists_demo_accepted
  obtain ⟨input, _, hid, _, _, hcountersigned, _⟩ := accepted_countersigned hreachable
    (RecoverableEcdsa.transparent_inverts _) hdeal (by rw [haccepted]; decide)
  exact ⟨deal, input, hid, hcountersigned⟩

end Demo

end DataSeller

end Coordination
