import Coordination.DataSeller.Delivered
import Coordination.DataSeller.Evolution
import Coordination.DataSeller.Runs
import Coordination.Library.Parts

/-!
# What the seller holds for a deal

Every stored quote was issued for a priced query. A deal record is accepted with a
contract that was countersigned for it, and holds either no artifact or those of one
delivery of the quote it was proposed against. A delivery waits for the artifact store
between the two, while everything else may run, so this is an invariant of all runs
together with the way the records change.
-/

namespace Coordination

namespace DataSeller

open JavaScript Library Engine

/-! ## Quotes -/

section Quotes

variable [Digests] [Canonicalize] [HostLocale] {seller : Seller} {s t u : Stores}

/-- A stored quote was issued for a priced query, its hash is that of its document, and
the seller's arithmetic still reproduces it. -/
structure Quoted (seller : Seller) (record : QuoteRecord) : Prop where
  issued : ∃ body, Issued seller body record
  hashed : termsDocumentHashOf record.termsDocument = .ok record.termsDocumentHash
  reproduced : recomputeFor seller record = .ok ⟨record.termsDocument.priceAmount,
    record.termsDocument.criteriaHash, record.termsDocument.statsHash⟩

/-- A call of `quote` stores issued quotes only, under the id it mints, and drops none
that a stored deal refers to. -/
structure QuotesFrom (seller : Seller) (s t : Stores) : Prop where
  deals : t.deals = s.deals
  issued : ∀ n record, t.quotes.get? n = some record →
    s.quotes.get? n = some record ∨ Quoted seller record
  held : ∀ d deal, s.deals.get? d = some deal → deal.negotiationId ≠ mintedNegotiation s →
    t.quotes.get? deal.negotiationId = s.quotes.get? deal.negotiationId

namespace QuotesFrom

theorem withoutSurplus (h : QuotesFrom seller s t) (justIssued : String) :
    QuotesFrom seller s (t.withoutSurplus justIssued) := by
  refine ⟨h.deals, fun n record hrecord => ?_, fun d deal hdeal hother => ?_⟩
  · rw [quotes_withoutSurplus] at hrecord
    split_ifs at hrecord
    exact h.issued n record hrecord
  · have hstored : t.deals.get? d = some deal := h.deals ▸ hdeal
    rw [quotes_withoutSurplus, if_pos (Integrity.notMem_surplus hstored)]
    exact h.held d deal hdeal hother

theorem entry (h : QuotesFrom seller s t) (hdeals : u.deals = t.deals)
    (hquotes : u.quotes = t.quotes) : QuotesFrom seller s u :=
  ⟨hdeals.trans h.deals, hquotes ▸ h.issued, hquotes ▸ h.held⟩

theorem closeNegotiation (h : QuotesFrom seller s t) (facts : QuoteFacts)
    (negotiation : NegotiationRecord) (summary : String) :
    Prog.Ensures (fun _ => QuotesFrom seller s) (QuotesFrom seller s)
      (closeNegotiation facts negotiation summary) t := by
  refine Prog.ensures_within_bind (R := fun t u => u.deals = t.deals ∧ u.quotes = t.quotes)
    (fun _ => ⟨rfl, rfl⟩) (fun _ hu => h.entry hu.1 hu.2) fun answer u hu => ?_
  refine Prog.ensures_modify_bind (pruneNegotiations_bind_ensures (Prog.ensures_pure ?_))
  refine QuotesFrom.withoutSurplus ?_ _
  exact (h.entry hu.1 hu.2).entry rfl rfl

theorem issueQuote (h : QuotesFrom seller s t) {body : Option Value} {facts : QuoteAccepted}
    (hfacts : composeFor seller (queryBodyOf body) = .ok (.accepted facts)) {statsHash : String}
    (hstats : facts.statsHash = some statsHash) (hsome : facts.tractCount ≠ 0)
    {negotiation : NegotiationRecord} (hbody : negotiation.queryBody = queryBodyOf body)
    (hminted : negotiation.negotiationId = mintedNegotiation s) :
    Prog.Ensures (fun _ => QuotesFrom seller s) (QuotesFrom seller s)
      (issueQuote seller facts negotiation statsHash) t := by
  unfold DataSeller.issueQuote
  split
  · rename_i price deliverable hprice _
    obtain ⟨_, _, _, _, hcriteria, _⟩ := composeQuote_accepted hfacts
    refine Prog.ensures_lift_bind h fun hash hhash => ?_
    refine Prog.ensures_within_bind (R := fun t u => u.deals = t.deals ∧ u.quotes = t.quotes)
      (fun _ => ⟨rfl, rfl⟩) (fun _ hu => h.entry hu.1 hu.2) fun answer u hu => ?_
    have hentry := h.entry hu.1 hu.2
    refine Prog.ensures_modify_bind (pruneNegotiations_bind_ensures (Prog.ensures_pure ?_))
    refine QuotesFrom.withoutSurplus ?_ _
    refine ⟨hentry.deals, fun n record hrecord => ?_, fun d deal hdeal hother => ?_⟩
    · by_cases hn : n = negotiation.negotiationId
      · subst hn
        cases (InsertionMap.get?_set_self ..).symm.trans hrecord
        refine .inr ⟨⟨body, hbody, facts, statsHash, price, deliverable, hfacts, hstats, hsome,
          rfl⟩, hhash, ?_⟩
        unfold recomputeFor
        simp only [hbody, hfacts, hstats, hprice, hcriteria, ok_bind]
        rfl
      · exact hentry.issued n record ((InsertionMap.get?_set_of_ne _ _ hn).symm.trans hrecord)
    · exact (InsertionMap.get?_set_of_ne _ _ (hminted ▸ hother)).trans
        (hentry.held d deal hdeal hother)
  · exact h

end QuotesFrom

theorem quote_quotesFrom (s : Stores) (buyerAgentId : String) (body : Option Value) :
    Prog.Ensures (fun _ => QuotesFrom seller s) (QuotesFrom seller s)
      (quote seller buyerAgentId body) s := by
  have hstart : QuotesFrom seller s s := ⟨rfl, fun _ _ h => .inl h, fun _ _ _ _ => rfl⟩
  refine Prog.ensures_lift_bind hstart fun _ _ => ?_
  refine Prog.ensures_get_bind ?_
  refine Prog.ensures_within_bind (R := QuotesFrom seller) (fun _ => ⟨rfl, fun _ _ h => .inl h,
    fun _ _ _ _ => rfl⟩) (fun _ h => h) fun queryEntry t ht => ?_
  refine Prog.ensures_lift_bind ht fun facts hfacts => ?_
  cases facts with
  | refused rejections => exact ht.closeNegotiation _ _ _
  | accepted facts =>
      simp only
      cases hstats : facts.statsHash with
      | none => exact ht.closeNegotiation _ _ _
      | some statsHash =>
          simp only
          split_ifs with hempty
          · exact ht.closeNegotiation _ _ _
          · exact ht.issueQuote hfacts hstats hempty rfl rfl

end Quotes

/-! ## What was signed and produced -/

/-- What a deal record was proposed for. -/
def DealRecord.origin (deal : DealRecord) : String × String × String × String :=
  (deal.dealId, deal.negotiationId, deal.buyerAddress, deal.termsDocumentHash)

/-- A deal record is past its proposal, or has minted a capability. -/
def DealRecord.Committed (deal : DealRecord) : Prop :=
  deal.state ≠ .PROPOSED_LOCAL ∨ deal.capabilityToken ≠ none

/-- A deal record without what is observed of it. -/
def DealRecord.agreed (deal : DealRecord) : DealRecord :=
  { deal with
    runtimeState := none
    runtimeRevision := none
    createdAt := 0
    updatedAt := 0
    history := []
    capabilityRevoked := false }

/-- A deal record reduced to what was produced for it. -/
def DealRecord.supply (deal : DealRecord) : DealRecord :=
  { deal with
    negotiationId := ""
    state := .PROPOSED_LOCAL
    runtimeState := none
    runtimeRevision := none
    buyerAddress := ""
    contract := .null
    createdAt := 0
    updatedAt := 0
    history := []
    capabilityRevoked := false }

section Produced

variable [Digests] [Canonicalize] [HostLocale]

/-- The artifacts of a deal record are those of one delivery of its quote. -/
structure Produced (seller : Seller) (deal : DealRecord) (record : QuoteRecord)
    (out : DeliveryResult) : Prop where
  quoted : Quoted seller record
  selected : record.termsDocumentHash = deal.termsDocumentHash
  generated : ∃ cap now, deal.capabilityToken = some cap ∧
    generateDelivery (deliveryInputFor seller record deal.dealId cap now) = .ok out
  manifest : deal.manifest = some out.manifest
  manifestBytes : deal.manifestBytes = some out.manifestBytes
  deliveryHash : deal.deliveryHash = some out.deliveryHash
  csvBytes : deal.csvBytes = some out.bytes

/-- A deal record has minted no capability, or holds what was produced with it. -/
def HoldsProduced (seller : Seller) (deal : DealRecord) : Prop :=
  deal.capabilityToken = none ∨ ∃ record out, Produced seller deal record out

variable [RecoverableEcdsa]

/-- The contract of a deal record was countersigned for it. -/
def SignedFor (seller : Seller) (deal : DealRecord) : Prop :=
  ∃ input : AcceptTermsInput, input.dealId = deal.dealId ∧
    input.buyerAddress = deal.buyerAddress ∧ input.privateKey = seller.config.privateKey ∧
    ((acceptTerms seller.env input).run []).1 = .ok deal.contract

/-- How a deal record changes: it stays what it was proposed for, is committed with a
countersigned contract only, goes on holding what was produced, and a revocation is not
taken back. -/
structure Upholds (seller : Seller) (a b : DealRecord) : Prop where
  origin : b.origin = a.origin
  signed : b.contract = a.contract ∧ (b.Committed → a.Committed) ∨ SignedFor seller b
  produced : HoldsProduced seller a → HoldsProduced seller b
  revoked : a.capabilityRevoked = true → b.capabilityRevoked = true

variable {seller : Seller} {a b : DealRecord}

omit [RecoverableEcdsa] in
theorem Produced.congr (h : a.supply = b.supply) {record : QuoteRecord} {out : DeliveryResult}
    (ha : Produced seller a record out) : Produced seller b record out := by
  have hview {β : Type} (view : DealRecord → β) : view a.supply = view b.supply := congrArg view h
  obtain ⟨cap, now, hcap, hout⟩ := ha.generated
  exact ⟨ha.quoted, ha.selected.trans (hview DealRecord.termsDocumentHash),
    ⟨cap, now, (hview DealRecord.capabilityToken).symm.trans hcap,
      hview DealRecord.dealId ▸ hout⟩, (hview DealRecord.manifest).symm.trans ha.manifest,
    (hview DealRecord.manifestBytes).symm.trans ha.manifestBytes,
    (hview DealRecord.deliveryHash).symm.trans ha.deliveryHash,
    (hview DealRecord.csvBytes).symm.trans ha.csvBytes⟩

omit [RecoverableEcdsa] in
theorem HoldsProduced.congr (h : a.supply = b.supply) :
    HoldsProduced seller a → HoldsProduced seller b
  | .inl hnone => .inl ((congrArg DealRecord.capabilityToken h).symm.trans hnone)
  | .inr ⟨record, out, hproduced⟩ => .inr ⟨record, out, hproduced.congr h⟩

theorem SignedFor.congr (horigin : b.origin = a.origin) (hcontract : b.contract = a.contract)
    (h : SignedFor seller a) : SignedFor seller b := by
  obtain ⟨input, hid, hbuyer, hkey, haccepted⟩ := h
  simp only [DealRecord.origin, Prod.mk.injEq] at horigin
  exact ⟨input, hid.trans horigin.1.symm, hbuyer.trans horigin.2.2.1.symm, hkey,
    haccepted.trans (congrArg _ hcontract.symm)⟩

/-- A countersigned contract stays one. -/
theorem Upholds.signed_of (h : Upholds seller a b) (ha : SignedFor seller a) : SignedFor seller b :=
  h.signed.elim (fun hkept => ha.congr h.origin hkept.1) id

/-- A write to what is observed. -/
theorem Upholds.of_agreed (h : a.agreed = b.agreed)
    (hrevoked : a.capabilityRevoked = true → b.capabilityRevoked = true) :
    Upholds seller a b where
  origin := (congrArg DealRecord.origin h).symm
  signed := .inl ⟨(congrArg DealRecord.contract h).symm,
    (show a.agreed.Committed = b.agreed.Committed from congrArg _ h).mpr⟩
  produced := .congr (show a.agreed.supply = b.agreed.supply from congrArg _ h)
  revoked := hrevoked

theorem upholds_change : Change (Upholds seller) where
  core {a b} h :=
    have hview {β : Type} (view : DealRecord → β) : view a.core = view b.core := congrArg view h
    .of_agreed (hview DealRecord.agreed) fun ha =>
      (hview DealRecord.capabilityRevoked).symm.trans ha
  trans hab hbc := by
    refine ⟨hbc.origin.trans hab.origin, ?_, fun ha => hbc.produced (hab.produced ha),
      fun ha => hbc.revoked (hab.revoked ha)⟩
    rcases hbc.signed with ⟨hcontract, hcommitted⟩ | hsigned
    · rcases hab.signed with ⟨hcontract', hcommitted'⟩ | hsigned
      · exact .inl ⟨hcontract.trans hcontract', fun hc => hcommitted' (hcommitted hc)⟩
      · exact .inr (hsigned.congr hbc.origin hcontract)
    · exact .inr hsigned

/-! ## What the operations do -/

/-- What an operation makes of the stores: records uphold what was produced for them, the
quote of a stored deal stays, and a new quote is an issued one. -/
structure Supplies (seller : Seller) (s t : Stores) : Prop where
  deals : Evolves (Upholds seller) s t
  quotes : ∀ n record, t.quotes.get? n = some record →
    s.quotes.get? n = some record ∨ Quoted seller record
  held : ∀ k r deal, s.deals.find? k = some r → t.deals.find? k = some r →
    s.deals.object? r = some deal →
      t.quotes.get? deal.negotiationId = s.quotes.get? deal.negotiationId

/-- Every stored quote was issued, and every record holds what was produced and is
committed with what was countersigned. -/
structure Supplied (seller : Seller) (s : Stores) : Prop where
  quotes : ∀ n record, s.quotes.get? n = some record → Quoted seller record
  produced : ∀ r deal, s.deals.object? r = some deal → HoldsProduced seller deal
  signed : ∀ r deal, s.deals.object? r = some deal → deal.Committed → SignedFor seller deal

theorem Supplied.empty : Supplied seller Stores.empty := by
  have hnone (r : ℕ) : Stores.empty.deals.object? r = none := by
    change ([] : List DealRecord)[r]? = none
    rfl
  refine ⟨by simp [Stores.empty], fun r deal h => ?_, fun r deal h => ?_⟩
  · cases (hnone r).symm.trans h
  · cases (hnone r).symm.trans h

namespace Supplies

variable {s t u : Stores}

theorem of_deals (hdeals : Evolves (Upholds seller) s t) (hquotes : t.quotes = s.quotes) :
    Supplies seller s t :=
  ⟨hdeals, fun _ _ h => .inl (hquotes ▸ h), fun _ _ _ _ _ _ => by rw [hquotes]⟩

theorem frame : Frame (Supplies seller) where
  refl s := of_deals (Evolves.refl upholds_change s) rfl
  trans {s t u} hst htu := by
    refine ⟨hst.deals.trans upholds_change htu.deals, fun n record h =>
      (htu.quotes n record h).elim (hst.quotes n record) .inr, fun k r deal hs hu hdeal => ?_⟩
    obtain ⟨mid, hmid, _, hupholds⟩ := hst.deals.objects r deal hdeal
    -- a record that is stored in the end was stored throughout
    have ht : t.deals.find? k = some r := by
      rcases htu.deals.refs k r hu with ht | hnone
      · exact ht
      · cases hnone.symm.trans hmid
    have hname : mid.negotiationId = deal.negotiationId :=
      congrArg (fun origin => origin.2.1) hupholds.origin
    exact hname ▸ (htu.held k r mid ht hu hmid).trans (hname ▸ hst.held k r deal hs ht hdeal)

theorem supplied (h : Supplies seller s t) (hs : Supplied seller s) : Supplied seller t := by
  refine ⟨fun n record hrecord => (h.quotes n record hrecord).elim (hs.quotes n record) id,
    fun r new hnew => ?_, fun r new hnew hcommitted => ?_⟩
  · cases hold : s.deals.object? r with
    | some old =>
        obtain ⟨new', hnew', _, hupholds⟩ := h.deals.objects r old hold
        cases hnew.symm.trans hnew'
        exact hupholds.produced (hs.produced r old hold)
    | none =>
        obtain ⟨first, ⟨_, _, _, _, _, _, rfl⟩, _, hupholds⟩ := h.deals.created r new hnew hold
        exact hupholds.produced (.inl rfl)
  · cases hold : s.deals.object? r with
    | some old =>
        obtain ⟨new', hnew', _, hupholds⟩ := h.deals.objects r old hold
        cases hnew.symm.trans hnew'
        rcases hupholds.signed with ⟨_, hkept⟩ | hsigned
        · exact hupholds.signed_of (hs.signed r old hold (hkept hcommitted))
        · exact hsigned
    | none =>
        obtain ⟨first, ⟨_, _, _, _, _, _, rfl⟩, _, hupholds⟩ := h.deals.created r new hnew hold
        rcases hupholds.signed with ⟨_, hkept⟩ | hsigned
        · exact absurd (hkept hcommitted) (by simp [DealRecord.Committed, proposedDeal])
        · exact hsigned

/-- The quotes stay, and the records change as they may. -/
theorem within_of_deals {α : Type} {p : SellerProg α}
    (hdeals : Prog.Within (Evolves (Upholds seller)) p)
    (hquotes : Prog.Within (fun s t => t.quotes = s.quotes) p) :
    Prog.Within (Supplies seller) p :=
  fun s => of_deals (hdeals s) (hquotes s)

theorem recordInteraction_within (dealId : String) (input : HistoryInput) :
    Prog.Within (Supplies seller) (recordInteraction dealId input) :=
  within_of_deals (Evolves.recordInteraction_within upholds_change dealId input) fun s =>
    have hagree : Agree DealRecord.core s ((recordInteraction dealId input).run s).2 :=
      DataSeller.recordInteraction_within (fun _ _ => rfl) dealId input s
    hagree.quotes

/-- A write to what is observed. -/
theorem writeDeal_within (r : ℕ) {f : DealRecord → DealRecord}
    (hf : ∀ d, (f d).dealId = d.dealId) (hagreed : ∀ d, d.agreed = (f d).agreed)
    (hrevoked : ∀ d, d.capabilityRevoked = true → (f d).capabilityRevoked = true) :
    Prog.Within (Supplies seller) (writeDeal r f hf) :=
  within_of_deals (Evolves.writeDeal_within upholds_change r hf fun d =>
    .of_agreed (hagreed d) (hrevoked d)) fun _ => rfl

theorem pruneDeals_within : Prog.Within (Supplies seller) pruneDeals :=
  within_of_deals (Evolves.pruneDeals_within upholds_change) fun s =>
    (kept_foldl_deleteDeal s.reclaimed s).1

theorem insertDeal_within (dealId negotiationId : String) (record : QuoteRecord)
    (contract : Value) (buyerAddress : String) :
    Prog.Within (Supplies seller)
      (insertDeal dealId negotiationId record contract buyerAddress) := by
  refine within_of_deals (Evolves.insertDeal_within upholds_change _ _ _ _ _) fun s => ?_
  rw [insertDeal_run]
  simp only
  split <;> rfl

theorem propose_within (negotiationId : String) (contract : Value) (buyerAddress : String) :
    Prog.Within (Supplies seller) (propose negotiationId contract buyerAddress) :=
  frame.propose_within pruneDeals_within (fun s _ _ _ _ _ _ => insertDeal_within _ _ _ _ _ s)
    recordInteraction_within _ _ _

theorem registerLiveDeal_within (dealId negotiationId : String) (contract : Value)
    (buyerAddress : String) :
    Prog.Within (Supplies seller)
      (registerLiveDeal dealId negotiationId contract buyerAddress) :=
  frame.registerLiveDeal_within pruneDeals_within
    (fun s _ _ _ _ _ _ => insertDeal_within _ _ _ _ _ s) recordInteraction_within _ _ _ _

theorem observeRuntimeStatus_within (dealId : String) (status : Option Value)
    (summary : Option String) :
    Prog.Within (Supplies seller) (observeRuntimeStatus dealId status summary) :=
  frame.observeRuntimeStatus_within (recordInteraction_within dealId)
    (fun r _ _ => writeDeal_within r _ (fun _ => rfl) fun _ h => h) status summary

theorem revokeCapability_within (dealId : String) :
    Prog.Within (Supplies seller) (revokeCapability dealId) :=
  frame.revokeCapability_within (recordInteraction_within dealId)
    fun r => writeDeal_within r _ (fun _ => rfl) fun _ _ => rfl

/-- What a countersigning attempt returned is countersigned for the deal it was made for. -/
theorem signed_of_countersignTerms {deal held : DealRecord} {record : QuoteRecord}
    {proposal accepted : Value} {sig : String} {chainId : Option Number}
    (h : countersignTerms seller deal record proposal sig chainId = .ok accepted)
    (horigin : held.origin = deal.origin) (hcontract : held.contract = accepted) :
    SignedFor seller held := by
  obtain ⟨recomputed, _, hrun⟩ := bind_eq_ok.1 h
  simp only [DealRecord.origin, Prod.mk.injEq] at horigin
  exact ⟨_, horigin.1.symm, horigin.2.2.1.symm, rfl, hcontract ▸ hrun⟩

theorem accept_within (dealId sig : String) (chainId : Option Number)
    (proposedContract : Option Value) :
    Prog.Within (Supplies seller) (accept seller dealId sig chainId proposedContract) := by
  refine fun s => Prog.state_of_ensures (P := Supplies seller s) ?_
  have hrecord (input : HistoryInput) :
      Prog.Within (Supplies seller) (recordInteraction dealId input) :=
    recordInteraction_within dealId input
  refine Prog.ensures_bind (Prog.ensures_mono (dealOf_ensures dealId) (fun _ _ h => h)
    (by rintro _ rfl; exact frame.refl _)) ?_
  rintro r _ ⟨rfl, hfound⟩
  refine Prog.ensures_bind (Prog.ensures_mono (readDeal_ensures r) (fun _ _ h => h)
    (by rintro _ rfl; exact frame.refl _)) ?_
  rintro deal s ⟨rfl, hdeal⟩
  refine Prog.ensures_get_bind ?_
  cases InsertionMap.get? _ deal.negotiationId with
  | none => exact frame.refl s
  | some record =>
      refine Prog.ensures_within_bind (hrecord _) (fun _ h => h) fun _ t ht => ?_
      refine Prog.ensures_bind (Q := fun accepted t' => t' = t ∧ countersignTerms seller deal
        record ((orElse proposedContract (some deal.contract)).getD .null) sig chainId =
          .ok accepted) (Prog.ensures_onError (F := fun t' => t' = t)
            (Prog.ensures_lift (fun _ hok => ⟨rfl, hok⟩) rfl) ?_) ?_
      · rintro e _ rfl
        exact Prog.ensures_within_bind (hrecord _) (fun _ => frame.trans ht)
          fun _ u hu => frame.trans ht hu
      · rintro accepted _ ⟨rfl, haccepted⟩
        refine Prog.ensures_modify_bind (Prog.ensures_of_state (frame.trans ht (frame.trans ?_
          (frame.bind (hrecord _) (fun _ => Prog.within_pure frame.refl _) _))))
        refine of_deals (Evolves.of_modify upholds_change fun held hheld => ?_) rfl
        obtain ⟨held', hheld', _, hupholds⟩ := ht.deals.objects r deal hdeal
        cases hheld.symm.trans hheld'
        exact ⟨rfl, .inr (signed_of_countersignTerms haccepted hupholds.origin rfl),
          .congr rfl, id⟩

/-! ## Calls of `quote` -/

/-- A quote with a new id touches no deal and no quote that a deal refers to. -/
theorem quote_supplies (hs : Integrity s) (hfresh : mintedNegotiation s ∉ s.negotiations.keys)
    (buyerAgentId : String) (body : Option Value) :
    Supplies seller s ((quote seller buyerAgentId body).run s).2 := by
  have hquotes : QuotesFrom seller s ((quote seller buyerAgentId body).run s).2 :=
    Prog.state_of_ensures (quote_quotesFrom s buyerAgentId body)
  refine ⟨Evolves.quote_within seller upholds_change buyerAgentId body s, hquotes.issued,
    fun k r deal hfound _ hdeal => ?_⟩
  have hstored := ObjectMap.get?_eq_some_iff.2 ⟨r, hfound, hdeal⟩
  refine hquotes.held k deal hstored fun hname => ?_
  obtain ⟨negotiation, _, hnegotiation, _⟩ := hs.deal k deal hstored
  exact hfresh (hname ▸ InsertionMap.get?_isSome_iff.1 (Option.isSome_of_eq_some hnegotiation))

end Supplies

end Produced

/-! ## Deliveries -/

section Delivery

/-- A delivery begins with a stored deal past its proposal and its stored quote, and writes
nothing. -/
theorem beginDelivery_ensures (dealId : String) (s : Stores) :
    Prog.Ensures (fun out t => t = s ∧ s.deals.find? dealId = some out.1 ∧
        ∃ deal, s.deals.object? out.1 = some deal ∧ deal.Committed ∧
          s.quotes.get? deal.negotiationId = some out.2.1) (fun t => t = s)
      (beginDelivery dealId) s := by
  refine Prog.ensures_bind (dealOf_ensures dealId) ?_
  rintro r _ ⟨rfl, hfound⟩
  refine Prog.ensures_bind (readDeal_ensures r) ?_
  rintro deal t ⟨rfl, hdeal⟩
  refine Prog.ensures_lift_bind rfl fun _ hstate => Prog.ensures_get_bind ?_
  cases hrecord : t.quotes.get? deal.negotiationId with
  | none => exact rfl
  | some record => exact ⟨rfl, hfound, deal, hdeal, .inl (throwIf_eq_ok.1 hstate), hrecord⟩

variable [Digests] [Canonicalize] [HostLocale] [RecoverableEcdsa] {seller : Seller} {s t : Stores}

/-- What a delivery of the right quote leaves behind. -/
theorem finishDelivery_supplies {dealId : String} {r : ℕ} {record : QuoteRecord}
    (hquoted : Quoted seller record) (hdeal : ∀ deal, s.deals.object? r = some deal →
      deal.dealId = dealId ∧ record.termsDocumentHash = deal.termsDocumentHash ∧
        SignedFor seller deal) (cap : String) :
    Supplies seller s ((finishDelivery seller dealId r record cap).run s).2 := by
  refine Prog.state_of_ensures (P := Supplies seller s) (Prog.ensures_get_bind ?_)
  refine Prog.ensures_lift_bind (Supplies.frame.refl s) fun out hout => ?_
  refine Prog.ensures_modify_bind (Prog.ensures_of_state (Supplies.frame.trans ?_
    (Supplies.frame.bind (Supplies.recordInteraction_within _ _) (fun _ =>
      Supplies.frame.bind (Supplies.frame.readDeal_within r) fun deal =>
        Supplies.frame.bind (Prog.within_lift Supplies.frame.refl _) fun termsHash =>
          Supplies.frame.bind (Prog.within_lift Supplies.frame.refl _) fun _ =>
            Prog.within_pure Supplies.frame.refl _) _)))
  refine .of_deals (Evolves.of_modify upholds_change fun deal hheld =>
    ⟨rfl, .inr ((hdeal deal hheld).2.2.congr rfl rfl), fun _ => ?_, id⟩) rfl
  obtain ⟨hid, hselected, _⟩ := hdeal deal hheld
  exact .inr ⟨record, out, hquoted, hselected, ⟨cap, s.now, rfl, hid ▸ hout⟩, rfl, rfl, rfl, rfl⟩

/-- The references are answered, and everything that is served was produced. -/
def Serving (seller : Seller) (s : Stores) : Prop :=
  Integrity s ∧ Supplied seller s

theorem supplies_enter (m : Moment) (s : Stores) : Supplies seller s (s.enter m) :=
  .of_deals (Evolves.of_core upholds_change (agree_enter m s)) rfl

theorem Serving.enter (h : Serving seller s) (m : Moment) : Serving seller (s.enter m) :=
  ⟨h.1.agree (agree_enter m s), (supplies_enter m s).supplied h.2⟩

/-- The deal that a delivery writes to is the one it was begun for, and signed where that
was. -/
theorem Supplies.same_deal (h : Supplies seller s t) {dealId : String} {r : ℕ}
    (hfound : s.deals.find? dealId = some r) {old : DealRecord}
    (hold : s.deals.object? r = some old) {deal : DealRecord}
    (hdeal : t.deals.object? r = some deal) :
    deal.dealId = dealId ∧ deal.termsDocumentHash = old.termsDocumentHash ∧
      (SignedFor seller old → SignedFor seller deal) := by
  obtain ⟨new, hnew, hid, hupholds⟩ := h.deals.objects r old hold
  cases hdeal.symm.trans hnew
  exact ⟨hid.trans (ObjectMap.key_of_find? hfound hold),
    congrArg (fun origin => origin.2.2.2) hupholds.origin, hupholds.signed_of⟩

/-- The record behind a reference is countersigned. -/
def SignedAt (seller : Seller) (r : ℕ) (s : Stores) : Prop :=
  ∃ deal, s.deals.object? r = some deal ∧ SignedFor seller deal

theorem Supplies.signedAt (h : Supplies seller s t) {r : ℕ} (hs : SignedAt seller r s) :
    SignedAt seller r t := by
  obtain ⟨deal, hdeal, hsigned⟩ := hs
  obtain ⟨new, hnew, _, hupholds⟩ := h.deals.objects r deal hdeal
  exact ⟨new, hnew, hupholds.signed_of hsigned⟩

theorem supplies_relies : (sellerSystem seller).Relies (Supplies seller) where
  refl := Supplies.frame.refl
  trans := Supplies.frame.trans
  sent _ s := Supplies.frame.refl s
  entered := supplies_enter
  outside := nofun

section Tasks

variable {κ : Type}

/-- A delivery that succeeds is one of a countersigned record. -/
theorem prepareDelivery_ensures (hs : Serving seller s) (dealId : String) :
    Async.Ensures ((sellerSystem seller).rules freshIds (Serving seller) (Supplies seller))
      (fun _ t => Serving seller t ∧ ∀ r, s.deals.find? dealId = some r → SignedAt seller r t)
      (fun _ => Serving seller) (prepareDelivery seller dealId : Task Stores κ PreparedDelivery)
      s := by
  refine Async.ensures_bind (Async.ensures_atomic_of_prog
    (Supplies.frame.beginDelivery_within dealId s) (Prog.ensures_mono
      (beginDelivery_ensures dealId s) (fun _ _ h => h) (by rintro _ rfl; exact hs))) ?_
  rintro ⟨r, record, cap⟩ _ ⟨rfl, hfound, old, hold, hcommitted, hrecord⟩
  refine ⟨hs, fun v m t ht hsupplies _ => ?_⟩
  have hlater := Supplies.frame.trans hsupplies (supplies_enter m t)
  refine Async.ensures_ofExcept_bind (fun _ _ => ?_) fun _ _ => ht.enter m
  have hselected : record.termsDocumentHash = old.termsDocumentHash := by
    have hget := ObjectMap.get?_eq_some_iff.2 ⟨r, hfound, hold⟩
    obtain ⟨_, record', _, hrecord', hhash, _⟩ := hs.1.deal dealId old hget
    cases hrecord.symm.trans hrecord'
    exact hhash.symm
  have hend : Supplies seller (t.enter m)
      ((finishDelivery seller dealId r record cap).run (t.enter m)).2 := by
    refine finishDelivery_supplies (hs.2.quotes _ _ hrecord) (fun deal hdeal => ?_) cap
    obtain ⟨hid, hsame, hsigned⟩ := hlater.same_deal hfound hold hdeal
    exact ⟨hid, hselected.trans hsame.symm, hsigned (hs.2.signed _ old hold hcommitted)⟩
  have hintegrity : Integrity ((finishDelivery seller dealId r record cap).run (t.enter m)).2 :=
    (ht.enter m).1.agree (Agree.frame.finishDelivery_within
      (recordInteraction_within (fun _ _ => rfl) dealId)
      (fun r cap out => writeDeal_within r _ fun d => rfl) r record cap _)
  have hserving := And.intro hintegrity (hend.supplied (ht.enter m).2)
  refine Async.ensures_atomic_of_prog hend (Prog.ensures_mono (Prog.ensures_of_state
    (P := fun u => Serving seller u ∧ SignedAt seller r u) ⟨hserving, ?_⟩) ?_ fun _ h => h.1)
  · exact (Supplies.frame.trans hlater hend).signedAt
      ⟨old, hold, hs.2.signed _ old hold hcommitted⟩
  · rintro _ u ⟨hu, hsigned⟩
    refine ⟨hu, fun r' hfound' => ?_⟩
    cases hfound.symm.trans hfound'
    exact hsigned

/-- A call without a wait. -/
theorem serves_atomic {α : Type} {p : SellerProg α} (hs : Serving seller s)
    (hintegrity : Prog.Ensures (fun _ => Integrity) Integrity p s)
    (hp : Supplies seller s (p.run s).2) :
    Async.Ensures ((sellerSystem seller).rules freshIds (Serving seller) (Supplies seller))
      (fun _ => Serving seller) (fun _ => Serving seller) (.atomic p : Task Stores κ α) s :=
  Async.ensures_atomic_of_prog hp (Prog.ensures_of_state
    ⟨Prog.state_of_ensures hintegrity, hp.supplied hs.2⟩)

theorem recordInteraction_serving (hs : Serving seller s) (dealId : String)
    (input : HistoryInput) : Serving seller ((recordInteraction dealId input).run s).2 :=
  ⟨Prog.state_of_ensures (integrity_of_within (recordInteraction_within (fun _ _ => rfl) _ _) hs.1),
    (Supplies.recordInteraction_within dealId input s).supplied hs.2⟩

theorem recordInteraction_serves (hs : Serving seller s) (dealId : String) (input : HistoryInput) :
    Async.Ensures ((sellerSystem seller).rules freshIds (Serving seller) (Supplies seller))
      (fun _ => Serving seller) (fun _ => Serving seller)
      (.atomic (recordInteraction dealId input) : Task Stores κ Unit) s :=
  Async.ensures_atomic_of_prog (Supplies.recordInteraction_within dealId input s)
    (Prog.ensures_of_state (recordInteraction_serving hs dealId input))

theorem deliver_ensures (hs : Serving seller s) (dealId : String)
    (anchors : Option SettlementAnchors) (evidenceId : Option String) :
    Async.Ensures ((sellerSystem seller).rules freshIds (Serving seller) (Supplies seller))
      (fun _ t => Serving seller t ∧ ∀ r, s.deals.find? dealId = some r → SignedAt seller r t)
      (fun _ => Serving seller)
      (deliver seller dealId anchors evidenceId : Task Stores κ (PreparedDelivery × Value)) s := by
  refine Async.ensures_bind (prepareDelivery_ensures hs dealId) fun prepared t ht => ?_
  have hF (t u : Stores) (h : Supplies seller t u)
      (ht : ∀ r, s.deals.find? dealId = some r → SignedAt seller r t) (r : ℕ)
      (hr : s.deals.find? dealId = some r) : SignedAt seller r u :=
    h.signedAt (ht r hr)
  refine Async.ensures_bind (Async.ensures_frame hF supplies_relies.sent supplies_enter ht.2
    (serves_atomic ht.1 (integrity_of_within (Agree.frame.commandFor_within _ _ _ _) ht.1.1)
      (Supplies.frame.commandFor_within _ _ _ _ t))) fun command u hu => ?_
  exact Async.ensures_bind (Async.ensures_frame hF supplies_relies.sent supplies_enter hu.2
    (recordInteraction_serves hu.1 _ _)) fun _ _ h => h

end Tasks

/-- Every call keeps what is served in order. -/
theorem sellerBody_serves (job : SellerJob) (hs : Serving seller s) (hfresh : Fresh s job) :
    (sellerSystem seller).Keeps freshIds (Serving seller) (Supplies seller)
      (sellerBody seller job) s := by
  have hagree {α : Type} {p : SellerProg α} (hp : Prog.Within (Agree DealRecord.terms) p) :
      Prog.Ensures (fun _ => Integrity) Integrity p s := integrity_of_within hp hs.1
  have hdiscard {α : Type} {p : SellerProg α} (hp : (sellerSystem seller).Keeps freshIds
      (Serving seller) (Supplies seller) (.atomic p : Task Stores SellerJob α) s) :
      (sellerSystem seller).Keeps freshIds (Serving seller) (Supplies seller)
        (discard (.atomic p) : Task Stores SellerJob Unit) s :=
    Async.ensures_bind hp fun _ _ h => h
  cases job with
  | quote buyerAgentId body =>
      exact hdiscard (serves_atomic hs (quote_ensures hs.1 hfresh _ _)
        (Supplies.quote_supplies hs.1 hfresh _ _))
  | propose negotiationId contract buyerAddress =>
      exact hdiscard (serves_atomic hs (propose_ensures hs.1 hfresh _ _ _)
        (Supplies.propose_within _ _ _ s))
  | accept dealId sig =>
      exact hdiscard (serves_atomic hs (acceptStored_ensures hs.1 _ _ _)
        (Supplies.accept_within _ _ _ _ s))
  | countersign dealId negotiationId contract buyerAddress status sig chainId =>
      refine hdiscard (serves_atomic hs (registerAndAccept_ensures hs.1 _ _ _ _ _ _) ?_)
      exact Supplies.frame.bind (Supplies.registerLiveDeal_within _ _ _ _) (fun _ =>
        Supplies.frame.bind (Supplies.observeRuntimeStatus_within _ _ _) fun _ =>
          Supplies.accept_within _ _ _ _) s
  | record dealId input => exact recordInteraction_serves hs dealId input
  | observe dealId status summary =>
      exact serves_atomic hs
        (hagree (observeRuntimeStatus_within (fun _ _ => rfl) (fun _ _ _ => rfl) _ _ _))
        (Supplies.observeRuntimeStatus_within _ _ _ s)
  | prepare dealId =>
      exact Async.ensures_bind (prepareDelivery_ensures hs dealId) fun _ _ h => h.1
  | deliver dealId anchors evidenceId =>
      exact Async.ensures_bind (deliver_ensures hs dealId anchors evidenceId) fun _ _ h => h.1
  | revoke dealId =>
      exact serves_atomic hs
        (hagree (revokeCapability_within (fun _ _ => rfl) (fun _ => rfl) _))
        (Supplies.revokeCapability_within _ s)

variable {c c' : System.Config Failure Stores Request Reply SellerJob}
  {es : List (System.Event Reply SellerJob Moment Empty)}

theorem good_of_reachable (h : Reachable seller c) :
    System.Good (sellerSystem seller) freshIds (Serving seller) (Supplies seller) c := by
  obtain ⟨es, hmeets, hrun⟩ := h
  refine System.run_good supplies_relies (fun job m s hs hfresh => ?_) nofun
    ⟨Integrity.empty, Supplied.empty⟩ hmeets hrun
  exact sellerBody_serves job (hs.enter m) hfresh

/-- From a reachable configuration on, the records uphold what was produced for them. -/
theorem supplies_of_runFrom (h : Reachable seller c)
    (hmeets : (sellerSystem seller).machine.MeetsFrom ((sellerSystem seller).Meets freshIds) c es)
    (hrun : (sellerSystem seller).machine.runFrom c es = some c') :
    Supplies seller c.state c'.state :=
  (System.runFrom_good supplies_relies (fun job m _ hs hfresh =>
    sellerBody_serves job (hs.enter m) hfresh) nofun (good_of_reachable h) hmeets hrun).2

end Delivery

end DataSeller

end Coordination
