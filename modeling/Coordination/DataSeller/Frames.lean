import Coordination.DataSeller.Seller

/-!
# What the operations leave alone

Most operations of the seller write to one deal record and keep everything else:
the negotiations, the quotes and which deals are stored. Two stores agree under a
view of a deal record when nothing but what the view leaves out differs.
-/

namespace Coordination

namespace DataSeller

open JavaScript Library Engine

/-- The stores differ at most in what the view of a deal leaves out, in the history
counter and in the readings of clock and random bytes. -/
structure Agree {β : Type} (view : DealRecord → β) (s t : Stores) : Prop where
  negotiations : t.negotiations = s.negotiations
  quotes : t.quotes = s.quotes
  refs : t.deals.refs = s.deals.refs
  objects : ∀ r, (t.deals.object? r).map view = (s.deals.object? r).map view

/-- What a deal was agreed on. -/
def DealRecord.terms (deal : DealRecord) : String × String × Value :=
  (deal.negotiationId, deal.termsDocumentHash, deal.contract)

/-- How far a deal has come. -/
def DealRecord.standing (deal : DealRecord) : DealState × Option String :=
  (deal.state, deal.runtimeState)

namespace Agree

variable {β : Type} {view : DealRecord → β} {s t u : Stores}

theorem refl (s : Stores) : Agree view s s :=
  ⟨rfl, rfl, rfl, fun _ => rfl⟩

theorem trans (hst : Agree view s t) (htu : Agree view t u) : Agree view s u :=
  ⟨htu.negotiations.trans hst.negotiations, htu.quotes.trans hst.quotes, htu.refs.trans hst.refs,
    fun r => (htu.objects r).trans (hst.objects r)⟩

theorem find? (h : Agree view s t) (k : String) : t.deals.find? k = s.deals.find? k := by
  rw [ObjectMap.find?, h.refs]
  rfl

theorem keys (h : Agree view s t) : t.deals.keys = s.deals.keys := by
  rw [ObjectMap.keys, h.refs]
  rfl

/-- The deals under a key look the same. -/
theorem get? (h : Agree view s t) (k : String) :
    (t.deals.get? k).map view = (s.deals.get? k).map view := by
  rw [ObjectMap.get?, ObjectMap.get?, h.find?]
  cases s.deals.find? k with
  | none => rfl
  | some r => exact h.objects r

theorem exists_of_get? (h : Agree view s t) {k : String} {deal : DealRecord}
    (hdeal : t.deals.get? k = some deal) :
    ∃ old, s.deals.get? k = some old ∧ view old = view deal := by
  have hview := h.get? k
  rw [hdeal, Option.map_some] at hview
  exact Option.map_eq_some_iff.1 hview.symm

theorem symm (h : Agree view s t) : Agree view t s :=
  ⟨h.negotiations.symm, h.quotes.symm, h.refs.symm, fun r => (h.objects r).symm⟩

end Agree

/-! ## Pruning -/

/-- What deleting deals leaves alone. -/
theorem kept_foldl_deleteDeal (ids : List String) (s : Stores) :
    (ids.foldl Stores.deleteDeal s).quotes = s.quotes ∧
      (ids.foldl Stores.deleteDeal s).now = s.now ∧
      (ids.foldl Stores.deleteDeal s).random = s.random ∧
      ∀ r, (ids.foldl Stores.deleteDeal s).deals.object? r = s.deals.object? r := by
  induction ids generalizing s with
  | nil => exact ⟨rfl, rfl, rfl, fun _ => rfl⟩
  | cons d ids ih =>
      have hstep : (s.deleteDeal d).quotes = s.quotes ∧ (s.deleteDeal d).now = s.now ∧
          (s.deleteDeal d).random = s.random ∧
          ∀ r, (s.deleteDeal d).deals.object? r = s.deals.object? r := by
        rw [Stores.deleteDeal]
        cases s.deals.get? d <;> exact ⟨rfl, rfl, rfl, fun _ => rfl⟩
      obtain ⟨hquotes, hnow, hrandom, hobjects⟩ := ih (s.deleteDeal d)
      rw [List.foldl_cons]
      exact ⟨hquotes.trans hstep.1, hnow.trans hstep.2.1, hrandom.trans hstep.2.2.1,
        fun r => (hobjects r).trans (hstep.2.2.2 r)⟩

theorem deals_deleteDeal (s : Stores) (d : String) :
    (s.deleteDeal d).deals.keys = s.deals.keys.filter (fun k => k ≠ d) ∧
      ∀ k, (s.deleteDeal d).deals.find? k = if k = d then none else s.deals.find? k := by
  rw [Stores.deleteDeal]
  cases hd : s.deals.get? d with
  | none =>
      have hnone : d ∉ s.deals.keys := by
        rw [← ObjectMap.get?_isSome_iff, hd]
        simp
      refine ⟨(List.filter_eq_self.2 fun k hk => ?_).symm, fun k => ?_⟩
      · rw [decide_eq_true_eq]
        rintro rfl
        exact hnone hk
      · split_ifs with hk
        · subst hk
          rw [← Option.not_isSome_iff_eq_none, ObjectMap.find?, InsertionMap.get?_isSome_iff]
          exact hnone
        · rfl
  | some deal =>
      refine ⟨ObjectMap.keys_filterKeys .., fun k => ?_⟩
      simp only
      rw [ObjectMap.find?_filterKeys]
      by_cases hk : k = d <;> simp [hk]

/-- The deals that are left after some are deleted. -/
theorem deals_foldl_deleteDeal (ids : List String) (s : Stores) :
    (ids.foldl Stores.deleteDeal s).deals.keys = s.deals.keys.filter (fun k => k ∉ ids) ∧
      ∀ k, (ids.foldl Stores.deleteDeal s).deals.find? k =
        if k ∈ ids then none else s.deals.find? k := by
  induction ids generalizing s with
  | nil => simp
  | cons d ids ih =>
      obtain ⟨hkeys, hfind⟩ := deals_deleteDeal s d
      obtain ⟨hkeys', hfind'⟩ := ih (s.deleteDeal d)
      rw [List.foldl_cons]
      refine ⟨?_, fun k => ?_⟩
      · rw [hkeys', hkeys, List.filter_filter]
        refine List.filter_congr fun k _ => ?_
        simp only [List.mem_cons, not_or, Bool.decide_and]
        exact Bool.and_comm ..
      · rw [hfind', hfind]
        by_cases hk : k = d <;> by_cases hmem : k ∈ ids <;> simp [hk, hmem]

/-- The stores once the surplus is pruned. -/
def Stores.withoutSurplus (s : Stores) (justIssued : String) : Stores :=
  { s with
    negotiations := s.negotiations.filterKeys fun k => k ∉ s.surplusNegotiations justIssued
    quotes := s.quotes.filterKeys fun k => k ∉ s.surplusNegotiations justIssued }

theorem get?_withoutSurplus (s : Stores) (justIssued k : String) :
    (s.withoutSurplus justIssued).negotiations.get? k =
      if k ∉ s.surplusNegotiations justIssued then s.negotiations.get? k else none := by
  refine (InsertionMap.get?_filterKeys ..).trans ?_
  simp only [decide_eq_true_eq]

theorem quotes_withoutSurplus (s : Stores) (justIssued k : String) :
    (s.withoutSurplus justIssued).quotes.get? k =
      if k ∉ s.surplusNegotiations justIssued then s.quotes.get? k else none := by
  refine (InsertionMap.get?_filterKeys ..).trans ?_
  simp only [decide_eq_true_eq]

theorem mem_keys_withoutSurplus {s : Stores} {justIssued k : String} :
    k ∈ (s.withoutSurplus justIssued).negotiations.keys ↔
      k ∈ s.negotiations.keys ∧ k ∉ s.surplusNegotiations justIssued := by
  unfold Stores.withoutSurplus
  rw [InsertionMap.keys_filterKeys, List.mem_filter, decide_eq_true_eq]

theorem mem_quotes_withoutSurplus {s : Stores} {justIssued k : String} :
    k ∈ (s.withoutSurplus justIssued).quotes.keys ↔
      k ∈ s.quotes.keys ∧ k ∉ s.surplusNegotiations justIssued := by
  unfold Stores.withoutSurplus
  rw [InsertionMap.keys_filterKeys, List.mem_filter, decide_eq_true_eq]

theorem pruneNegotiations_bind_ensures {α : Type} {Q : α → Stores → Prop} {E : Stores → Prop}
    {s : Stores} {justIssued : String} {f : Unit → SellerProg α}
    (h : Prog.Ensures Q E (f ()) (s.withoutSurplus justIssued)) :
    Prog.Ensures Q E (pruneNegotiations justIssued >>= f) s :=
  h

/-! ## Insertion -/

/-- What linking a deal makes of a negotiation. -/
def linked (dealId : String) (at_ : ℕ) (negotiation : NegotiationRecord) : NegotiationRecord :=
  { negotiation with
    state := .AGREEMENT_STARTED
    updatedAt := at_
    dealIds := if dealId ∈ negotiation.dealIds then negotiation.dealIds
      else negotiation.dealIds ++ [dealId] }

theorem linkNegotiation_run {n d : String} {at_ : ℕ} (s : Stores) :
    (linkNegotiation n d at_).run s =
      match s.negotiations.get? n with
      | none => (error s!"unknown negotiation {n}", s)
      | some _ => (.ok (), { s with negotiations := s.negotiations.modify n (linked d at_) }) := by
  rw [linkNegotiation, Prog.run_bind_of_ok (Prog.run_get s)]
  cases s.negotiations.get? n <;> rfl

/-- A new deal is held before it is linked. -/
theorem insertDeal_run {dealId negotiationId buyerAddress : String} {record : QuoteRecord}
    {contract : Value} (s : Stores) :
    (insertDeal dealId negotiationId record contract buyerAddress).run s =
      let deal := proposedDeal dealId negotiationId record contract buyerAddress s.now
      match s.negotiations.get? negotiationId with
      | none =>
        (error s!"unknown negotiation {negotiationId}", { s with
          deals := s.deals.create deal
          logs := s.logs ++ [⟨deal.history, []⟩] })
      | some _ =>
        (.ok s.deals.objects.length, { s with
          deals := s.deals.create deal
          logs := s.logs ++ [⟨deal.history, []⟩]
          negotiations := s.negotiations.modify negotiationId (linked dealId s.now) }) := by
  rw [insertDeal, Prog.run_bind_of_ok (Prog.run_get s)]
  simp only
  rw [Prog.run_bind_of_ok (rfl : (createDeal _).run s = (.ok s.deals.objects.length, _)),
    Prog.run_bind, linkNegotiation_run]
  simp only
  cases s.negotiations.get? negotiationId <;> rfl

/-! ## The operations -/

/-- A relation that the stores may run through in many steps. -/
structure Frame (R : Stores → Stores → Prop) : Prop where
  refl : ∀ s, R s s
  trans : ∀ {s t u}, R s t → R t u → R s u

namespace Frame

variable {R : Stores → Stores → Prop}

theorem bind (hR : Frame R) {α γ : Type} {p : SellerProg α} {f : α → SellerProg γ}
    (hp : Prog.Within R p) (hf : ∀ a, Prog.Within R (f a)) : Prog.Within R (p >>= f) :=
  Prog.within_bind (R := R) hR.trans hp hf

theorem dealOf_within (hR : Frame R) (dealId : String) : Prog.Within R (dealOf dealId) := by
  refine hR.bind (Prog.within_get hR.refl) fun s => ?_
  split
  · exact Prog.within_pure hR.refl _
  · exact Prog.within_lift hR.refl _

theorem readDeal_within (hR : Frame R) (r : ℕ) : Prog.Within R (readDeal r) := by
  refine hR.bind (Prog.within_get hR.refl) fun s => ?_
  split
  · exact Prog.within_pure hR.refl _
  · exact Prog.within_throw hR.refl _

theorem randomHex_within (hR : Frame R) (n : ℕ) : Prog.Within R (randomHex n) :=
  hR.bind (Prog.within_get hR.refl) fun _ => Prog.within_pure hR.refl _

theorem beginDelivery_within (hR : Frame R) (dealId : String) :
    Prog.Within R (beginDelivery dealId) := by
  refine hR.bind (hR.dealOf_within dealId) fun r => ?_
  refine hR.bind (hR.readDeal_within r) fun deal => ?_
  refine hR.bind (Prog.within_lift hR.refl _) fun _ => ?_
  refine hR.bind (Prog.within_get hR.refl) fun s => ?_
  split
  · exact Prog.within_lift hR.refl _
  · exact hR.bind (hR.randomHex_within 16) fun _ => Prog.within_pure hR.refl _

theorem commandFor_within [Digests] [Canonicalize] [RecoverableEcdsa] {seller : Seller}
    (hR : Frame R) (dealId : String) (anchors : SettlementAnchors) (evidenceId : String)
    (expectedRevision : Number) :
    Prog.Within R (commandFor seller dealId anchors evidenceId expectedRevision) := by
  refine hR.bind (Prog.within_get hR.refl) fun s => ?_
  split
  · exact Prog.within_lift hR.refl _
  · exact hR.bind (Prog.within_lift hR.refl _) fun _ => Prog.within_lift hR.refl _

section Recording

variable (hR : Frame R) {dealId : String}
  (hrecord : ∀ input, Prog.Within R (recordInteraction dealId input))

include hR hrecord

theorem observeRuntimeStatus_within
    (hstatus : ∀ (r : ℕ) (state : Option String) (revision : DealRecord → Option Number),
      Prog.Within R (writeDeal r (fun deal => { deal with
        runtimeState := state, runtimeRevision := revision deal }) fun _ => rfl))
    (status : Option Value) (summary : Option String) :
    Prog.Within R (observeRuntimeStatus dealId status summary) := by
  refine hR.bind (hR.dealOf_within dealId) fun r => ?_
  refine hR.bind (Prog.within_lift hR.refl _) fun state => ?_
  split_ifs
  · refine hR.bind (Prog.within_lift hR.refl _) fun revision => ?_
    refine hR.bind (hR.readDeal_within r) fun deal => ?_
    refine hR.bind (hstatus r _ _) fun _ => ?_
    split_ifs
    · exact hrecord _
    · exact Prog.within_pure hR.refl _
  · exact Prog.within_pure hR.refl _

theorem revokeCapability_within
    (hrevoked : ∀ r, Prog.Within R
      (writeDeal r (fun deal => { deal with capabilityRevoked := true }) fun _ => rfl)) :
    Prog.Within R (revokeCapability dealId) := by
  refine hR.bind (Prog.within_get hR.refl) fun s => ?_
  split
  · exact Prog.within_pure hR.refl _
  · refine hR.bind (hR.readDeal_within _) fun deal => ?_
    split_ifs
    · exact hR.bind (hrevoked _) fun _ => hrecord _
    · exact Prog.within_pure hR.refl _

variable [Digests] [Canonicalize] [HostLocale] [RecoverableEcdsa] {seller : Seller}

theorem finishDelivery_within
    (hdelivered : ∀ (r : ℕ) (cap : String) (out : DeliveryResult),
      Prog.Within R (writeDeal r (fun deal => { deal with
        capabilityToken := some cap
        manifest := some out.manifest
        manifestBytes := some out.manifestBytes
        deliveryHash := some out.deliveryHash
        csvBytes := some out.bytes
        state := .DELIVERED_LOCAL }) fun _ => rfl))
    (r : ℕ) (record : QuoteRecord) (cap : String) :
    Prog.Within R (finishDelivery seller dealId r record cap) := by
  refine hR.bind (Prog.within_get hR.refl) fun s => ?_
  refine hR.bind (Prog.within_lift hR.refl _) fun out => ?_
  refine hR.bind (hdelivered r cap out) fun _ => hR.bind (hrecord _) fun _ => ?_
  refine hR.bind (hR.readDeal_within r) fun deal => ?_
  refine hR.bind (Prog.within_lift hR.refl _) fun termsHash => ?_
  exact hR.bind (Prog.within_lift hR.refl _) fun _ => Prog.within_pure hR.refl _

/-- Countersigning writes a deal's contract and its state. -/
theorem accept_within
    (haccepted : ∀ (r : ℕ) (accepted : Value), Prog.Within R (writeDeal r (fun deal =>
      { deal with contract := accepted, state := .ACCEPTED_LOCAL }) fun _ => rfl))
    (sig : String) (chainId : Option Number) (proposedContract : Option Value) :
    Prog.Within R (accept seller dealId sig chainId proposedContract) := by
  refine hR.bind (hR.dealOf_within dealId) fun r => ?_
  refine hR.bind (hR.readDeal_within r) fun deal => ?_
  refine hR.bind (Prog.within_get hR.refl) fun s => ?_
  split
  · exact Prog.within_lift hR.refl _
  · refine hR.bind (hrecord _) fun _ => hR.bind ?_ fun accepted => ?_
    · refine Prog.within_onError (R := R) hR.trans (Prog.within_lift hR.refl _) fun e => ?_
      exact hR.bind (hrecord _) fun _ => Prog.within_throw hR.refl _
    · exact hR.bind (haccepted r accepted) fun _ =>
        hR.bind (hrecord _) fun _ => Prog.within_pure hR.refl _

end Recording

end Frame

/-! ## Views -/

section Views

variable {β : Type} {view : DealRecord → β}

theorem Agree.frame : Frame (Agree view) :=
  ⟨Agree.refl, fun h h' => h.trans h'⟩

theorem readDeal_within (r : ℕ) : Prog.Within (Agree view) (readDeal r) :=
  Agree.frame.readDeal_within r

theorem randomHex_within (n : ℕ) : Prog.Within (Agree view) (randomHex n) :=
  Agree.frame.randomHex_within n

theorem historyEntry_within (input : HistoryInput) :
    Prog.Within (Agree view) (historyEntry input) :=
  Agree.frame.bind (Prog.within_modify fun _ => ⟨rfl, rfl, rfl, fun _ => rfl⟩) fun _ =>
    Agree.frame.bind (Prog.within_get Agree.refl) fun _ => Prog.within_pure Agree.refl _

theorem logEntry_within (r : ℕ) (entry : HistoryEntry) :
    Prog.Within (Agree view) (logEntry r entry) :=
  Prog.within_modify fun _ => ⟨rfl, rfl, rfl, fun _ => rfl⟩

/-- A write that the view does not see. -/
theorem writeDeal_within (r : ℕ) {f : DealRecord → DealRecord}
    (hf : ∀ d, (f d).dealId = d.dealId) (hview : ∀ d, view (f d) = view d) :
    Prog.Within (Agree view) (writeDeal r f hf) := by
  refine Prog.within_modify fun s => ⟨rfl, rfl, rfl, fun r' => ?_⟩
  rw [ObjectMap.object?_modify]
  split_ifs
  · rw [Option.map_map]
    congr 1
    funext d
    exact hview d
  · rfl

theorem recordInteraction_within
    (hview : ∀ (d : DealRecord) (entry : HistoryEntry), view (d.append entry) = view d)
    (dealId : String) (input : HistoryInput) :
    Prog.Within (Agree view) (recordInteraction dealId input) :=
  Agree.frame.bind (Agree.frame.dealOf_within dealId) fun r =>
    Agree.frame.bind (historyEntry_within input) fun entry =>
      Agree.frame.bind (logEntry_within r entry) fun _ =>
        writeDeal_within r _ fun d => hview d entry

theorem observeRuntimeStatus_within
    (hhistory : ∀ (d : DealRecord) (entry : HistoryEntry), view (d.append entry) = view d)
    (hstatus : ∀ (d : DealRecord) (state : Option String) (revision : Option Number),
      view { d with runtimeState := state, runtimeRevision := revision } = view d)
    (dealId : String) (status : Option Value) (summary : Option String) :
    Prog.Within (Agree view) (observeRuntimeStatus dealId status summary) :=
  Agree.frame.observeRuntimeStatus_within (recordInteraction_within hhistory dealId)
    (fun r _ _ => writeDeal_within r _ fun d => hstatus d _ _) status summary

theorem accept_within [Digests] [Canonicalize] [HostLocale] [RecoverableEcdsa] {seller : Seller}
    (hhistory : ∀ (d : DealRecord) (entry : HistoryEntry), view (d.append entry) = view d)
    (haccepted : ∀ (d : DealRecord) (accepted : Value),
      view { d with contract := accepted, state := .ACCEPTED_LOCAL } = view d)
    (dealId sig : String) (chainId : Option Number) (proposedContract : Option Value) :
    Prog.Within (Agree view) (accept seller dealId sig chainId proposedContract) :=
  Agree.frame.accept_within (recordInteraction_within hhistory dealId)
    (fun r accepted => writeDeal_within r _ fun d => haccepted d accepted) sig chainId
    proposedContract

theorem revokeCapability_within
    (hhistory : ∀ (d : DealRecord) (entry : HistoryEntry), view (d.append entry) = view d)
    (hrevoked : ∀ d : DealRecord, view { d with capabilityRevoked := true } = view d)
    (dealId : String) : Prog.Within (Agree view) (revokeCapability dealId) :=
  Agree.frame.revokeCapability_within (recordInteraction_within hhistory dealId)
    fun r => writeDeal_within r _ hrevoked

end Views

end DataSeller

end Coordination
