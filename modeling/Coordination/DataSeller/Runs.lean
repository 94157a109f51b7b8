import Coordination.DataSeller.Honest
import Coordination.DataSeller.Integrity
import Coordination.DataSeller.Quotes

/-!
# Runs of the seller

The operations of `DataSeller` in every order, as the executor and the live
coordinator call them: quotes, proposals, acceptances of a stored contract, live
registrations followed by the acceptance of the same contract, observations of the
Runtime, deliveries and revocations. A delivery waits for the artifact store, and
everything else may run meanwhile.
-/

namespace Coordination

namespace DataSeller

open JavaScript Library Engine

/-- A call of one of the operations. -/
inductive SellerJob where
  | quote (buyerAgentId : String) (body : Option Value)
  | propose (negotiationId : String) (contract : Value) (buyerAddress : String)
  | accept (dealId buyerAgreementSig : String)
  | countersign (dealId negotiationId : String) (contract : Value) (buyerAddress : String)
      (status : Value) (buyerAgreementSig : String) (chainId : Option Number)
  | record (dealId : String) (input : HistoryInput)
  | observe (dealId : String) (status : Option Value) (summary : Option String)
  | prepare (dealId : String)
  | deliver (dealId : String) (anchors : Option SettlementAnchors) (evidenceId : Option String)
  | revoke (dealId : String)

/-- The clock and the random bytes a step reads. -/
structure Moment where
  now : ℕ
  random : Bytes

/-- The stores at a moment. -/
def Stores.enter (m : Moment) (s : Stores) : Stores :=
  { s with now := m.now, random := m.random }

/-- The ids a call mints are not those of a stored negotiation or deal. -/
def Fresh (s : Stores) : SellerJob → Prop
  | .quote _ _ => mintedNegotiation s ∉ s.negotiations.keys
  | .propose _ _ _ => mintedDeal s ∉ s.deals.keys
  | _ => True

section System

variable [Digests] [Canonicalize] [HostLocale] [RecoverableEcdsa] (seller : Seller)

/-- The part of `countersign` between two waits: the deal is registered, its status
observed and the contract presented with the request accepted. -/
def registerAndAccept (dealId negotiationId : String) (contract : Value) (buyerAddress : String)
    (status : Value) (buyerAgreementSig : String) (chainId : Option Number) :
    SellerProg Value := do
  let _ ← registerLiveDeal dealId negotiationId contract buyerAddress
  observeRuntimeStatus dealId (some status)
    (some "Seller verified the buyer's proposal against the Coordination Runtime")
  accept seller dealId buyerAgreementSig chainId (some contract)

/-- A task whose result nobody waits for. -/
def discard {σ κ α : Type} (p : Task σ κ α) : Task σ κ Unit :=
  p.bind fun _ => .ret ()

/-- What a call does. -/
def sellerBody : SellerJob → Task Stores SellerJob Unit
  | .quote buyerAgentId body => discard (.atomic (quote seller buyerAgentId body))
  | .propose negotiationId contract buyerAddress =>
    discard (.atomic (propose negotiationId contract buyerAddress))
  | .accept dealId sig => discard (.atomic (accept seller dealId sig none none))
  | .countersign dealId negotiationId contract buyerAddress status sig chainId =>
    discard (.atomic (registerAndAccept seller dealId negotiationId contract buyerAddress status
      sig chainId))
  | .record dealId input => .atomic (recordInteraction dealId input)
  | .observe dealId status summary => .atomic (observeRuntimeStatus dealId status summary)
  | .prepare dealId => discard (prepareDelivery seller dealId)
  | .deliver dealId anchors evidenceId => discard (deliver seller dealId anchors evidenceId)
  | .revoke dealId => .atomic (revokeCapability dealId)

/-- The seller, called from outside in every order. -/
def sellerSystem : System Failure Stores Request Reply SellerJob Moment Empty where
  init := Stores.empty
  body := sellerBody seller
  isRequest _ := true
  sent _ s := s
  entered := Stores.enter
  outside := nofun

/-- Minted ids do not repeat. -/
def freshIds : System.Condition Stores Request Reply SellerJob Empty where
  starts job s := Fresh s job
  answers _ _ _ := True
  outside := nofun

variable {seller}

omit [Digests] [Canonicalize] [HostLocale] [RecoverableEcdsa] in
/-- The clock and the random bytes refer to nothing. -/
theorem agree_enter {β : Type} {view : DealRecord → β} (m : Moment) (s : Stores) :
    Agree view s (s.enter m) :=
  ⟨rfl, rfl, rfl, fun _ => rfl⟩

theorem registerAndAccept_ensures {s : Stores} (h : Integrity s)
    (dealId negotiationId : String) {contract : Value} (buyerAddress : String) (status : Value)
    (sig : String) (chainId : Option Number) :
    Prog.Ensures (fun _ => Integrity) Integrity
      (registerAndAccept seller dealId negotiationId contract buyerAddress status sig chainId)
      s := by
  refine Prog.ensures_bind (registerLiveDeal_ensures h dealId negotiationId contract buyerAddress)
    ?_
  rintro _ t ⟨ht, hselects⟩
  refine Prog.ensures_within_bind (R := Agree DealRecord.terms)
    (observeRuntimeStatus_within (fun _ _ => rfl) (fun _ _ _ => rfl) _ _ _) (fun _ => ht.agree)
    fun _ u hagree => ?_
  refine accept_ensures (ht.agree hagree) dealId sig chainId _ ?_
  intro deal record hdeal hrecord
  obtain ⟨old, hold, hterms⟩ := hagree.exists_of_get? hdeal
  simp only [DealRecord.terms, Prod.mk.injEq] at hterms
  rw [← hterms.1, hagree.quotes] at hrecord
  have hselects := hselects old record hold hrecord
  rw [hselects.presented]
  exact hselects

theorem acceptStored_ensures {s : Stores} (h : Integrity s) (dealId sig : String)
    (chainId : Option Number) :
    Prog.Ensures (fun _ => Integrity) Integrity (accept seller dealId sig chainId none) s := by
  refine accept_ensures h dealId sig chainId none fun deal record hdeal hrecord => ?_
  obtain ⟨negotiation, quoted, hn, hquoted, _, hselects⟩ := h.deal dealId deal hdeal
  rw [hrecord] at hquoted
  cases hquoted
  rw [h.buyer _ negotiation record hn hrecord]
  exact hselects

/-! ## The invariant of all runs -/

section Stable

variable {R : Stores → Stores → Prop} {I : Stores → Prop}
  {C : System.Condition Stores Request Reply SellerJob Empty}

/-- A program within a relation under which an invariant is kept. -/
theorem stable_of_prog {α : Type} {p : SellerProg α} (hp : Prog.Within R p)
    (hI : ∀ {s t}, R s t → I s → I t) :
    Async.Stable ((sellerSystem seller).rules C I fun _ _ => True)
      (.atomic p : Task Stores SellerJob α) :=
  Async.stable_atomic (fun _ => trivial) fun s hs => hI (hp s) hs

section Frame

variable (hR : Frame R) (hI : ∀ {s t}, R s t → I s → I t) (henter : ∀ m s, I s → I (s.enter m))
  (hrecord : ∀ dealId input, Prog.Within R (recordInteraction dealId input))
  (hdelivered : ∀ (r : ℕ) (cap : String) (out : DeliveryResult),
    Prog.Within R (writeDeal r (fun deal => { deal with
      capabilityToken := some cap
      manifest := some out.manifest
      manifestBytes := some out.manifestBytes
      deliveryHash := some out.deliveryHash
      csvBytes := some out.bytes
      state := .DELIVERED_LOCAL }) fun _ => rfl))

include hR hI henter hrecord hdelivered

theorem Frame.prepareDelivery_stable (dealId : String) :
    Async.Stable ((sellerSystem seller).rules C I fun _ _ => True)
      (prepareDelivery seller dealId : Task Stores SellerJob PreparedDelivery) := by
  refine Async.stable_bind (stable_of_prog (hR.beginDelivery_within dealId) hI) ?_
  rintro ⟨r, record, cap⟩
  refine Async.stable_bind (Async.stable_await (fun _ hs => hs) henter
    fun _ => Async.stable_ofExcept _) fun _ => ?_
  exact stable_of_prog (hR.finishDelivery_within (hrecord dealId) hdelivered r record cap) hI

theorem Frame.deliver_stable (dealId : String) (anchors : Option SettlementAnchors)
    (evidenceId : Option String) :
    Async.Stable ((sellerSystem seller).rules C I fun _ _ => True)
      (deliver seller dealId anchors evidenceId :
        Task Stores SellerJob (PreparedDelivery × Value)) := by
  refine Async.stable_bind (hR.prepareDelivery_stable hI henter hrecord hdelivered dealId)
    fun prepared => ?_
  refine Async.stable_bind (stable_of_prog (hR.commandFor_within _ _ _ _) hI) fun command => ?_
  exact Async.stable_bind (stable_of_prog (hrecord dealId _) hI) fun _ => Async.stable_ret _

end Frame

variable {β : Type} {view : DealRecord → β} (hI : ∀ {s t}, Agree view s t → I s → I t)

include hI in
theorem stable_of_within {α : Type} {p : SellerProg α} (hp : Prog.Within (Agree view) p) :
    Async.Stable ((sellerSystem seller).rules C I fun _ _ => True)
      (.atomic p : Task Stores SellerJob α) :=
  stable_of_prog hp hI

variable
  (hhistory : ∀ (d : DealRecord) (entry : HistoryEntry), view (d.append entry) = view d)
  (hdelivered : ∀ (d : DealRecord) (cap : String) (out : DeliveryResult),
    view { d with
      capabilityToken := some cap
      manifest := some out.manifest
      manifestBytes := some out.manifestBytes
      deliveryHash := some out.deliveryHash
      csvBytes := some out.bytes
      state := .DELIVERED_LOCAL } = view d)

include hI hhistory hdelivered

theorem prepareDelivery_stable (dealId : String) :
    Async.Stable ((sellerSystem seller).rules C I fun _ _ => True)
      (prepareDelivery seller dealId : Task Stores SellerJob PreparedDelivery) :=
  Agree.frame.prepareDelivery_stable hI (fun m s hs => hI (agree_enter m s) hs)
    (recordInteraction_within hhistory)
    (fun r cap out => writeDeal_within r _ fun d => hdelivered d cap out) dealId

theorem deliver_stable (dealId : String) (anchors : Option SettlementAnchors)
    (evidenceId : Option String) :
    Async.Stable ((sellerSystem seller).rules C I fun _ _ => True)
      (deliver seller dealId anchors evidenceId :
        Task Stores SellerJob (PreparedDelivery × Value)) :=
  Agree.frame.deliver_stable hI (fun m s hs => hI (agree_enter m s) hs)
    (recordInteraction_within hhistory)
    (fun r cap out => writeDeal_within r _ fun d => hdelivered d cap out) dealId anchors evidenceId

end Stable

/-- A call that ends with an invariant keeps it. -/
theorem keeps_discard {I : Stores → Prop}
    {C : System.Condition Stores Request Reply SellerJob Empty} {α : Type} {p : SellerProg α}
    {s : Stores} (hp : Prog.Ensures (fun _ => I) I p s) :
    (sellerSystem seller).Keeps C I (fun _ _ => True)
      (discard (.atomic p) : Task Stores SellerJob Unit) s :=
  Async.ensures_bind (Async.ensures_atomic_of_prog trivial hp) fun _ _ h => h

/-- Every call keeps the integrity of the stores. -/
theorem sellerBody_keeps (job : SellerJob) {s : Stores} (hs : Integrity s) (hfresh : Fresh s job) :
    (sellerSystem seller).Keeps freshIds Integrity (fun _ _ => True) (sellerBody seller job) s := by
  have hI {s t : Stores} (hagree : Agree DealRecord.terms s t) (hs : Integrity s) : Integrity t :=
    hs.agree hagree
  cases job with
  | quote buyerAgentId body => exact keeps_discard (quote_ensures hs hfresh _ _)
  | propose negotiationId contract buyerAddress =>
      exact keeps_discard (propose_ensures hs hfresh _ _ _)
  | accept dealId sig => exact keeps_discard (acceptStored_ensures hs _ _ _)
  | countersign dealId negotiationId contract buyerAddress status sig chainId =>
      exact keeps_discard (registerAndAccept_ensures hs _ _ _ _ _ _)
  | record dealId input =>
      exact stable_of_within hI (recordInteraction_within (fun _ _ => rfl) _ _) s hs
  | observe dealId status summary =>
      exact stable_of_within hI
        (observeRuntimeStatus_within (fun _ _ => rfl) (fun _ _ _ => rfl) _ _ _) s hs
  | prepare dealId =>
      exact Async.stable_bind
        (prepareDelivery_stable hI (fun _ _ => rfl) (fun _ _ _ => rfl) dealId)
        (fun _ => Async.stable_ret _) s hs
  | deliver dealId anchors evidenceId =>
      exact Async.stable_bind
        (deliver_stable hI (fun _ _ => rfl) (fun _ _ _ => rfl) dealId anchors evidenceId)
        (fun _ => Async.stable_ret _) s hs
  | revoke dealId =>
      exact stable_of_within hI (revokeCapability_within (fun _ _ => rfl) (fun _ => rfl) _) s hs

/-- A configuration that a run with fresh ids reaches. -/
def Reachable (seller : Seller) (c : System.Config Failure Stores Request Reply SellerJob) :
    Prop :=
  ∃ es, (sellerSystem seller).machine.Meets ((sellerSystem seller).Meets freshIds) es ∧
    (sellerSystem seller).machine.run es = some c

theorem integrity_of_reachable {c : System.Config Failure Stores Request Reply SellerJob}
    (h : Reachable seller c) : Integrity c.state := by
  obtain ⟨es, hmeets, hrun⟩ := h
  refine System.run_invariant (S := sellerSystem seller) (C := freshIds) (I := Integrity)
    (G := fun _ _ => True) ⟨fun _ => trivial, fun _ _ => trivial, fun _ _ => trivial,
      fun _ _ => trivial, fun _ _ _ _ => trivial⟩ Integrity.empty ?_ nofun hmeets hrun
  intro job m s hs hfresh
  exact sellerBody_keeps job (hs.agree (agree_enter m s)) hfresh

end System

/-! ## A flood of proposals -/

section Stored

variable [Digests] [Canonicalize] [HostLocale] {seller : Seller}

omit [Digests] [Canonicalize] [HostLocale] in
theorem closeNegotiation_unrecorded (s : Stores) (facts : QuoteFacts)
    (negotiation : NegotiationRecord) (summary : String) :
    Prog.Ensures (fun result _ => result.record = none) (fun _ => True)
      (closeNegotiation facts negotiation summary) s :=
  rfl

/-- An issued quote is stored under the id of its negotiation; no deal is touched. -/
theorem quote_ensures_stored (s : Stores) (buyerAgentId : String) (body : Option Value) :
    Prog.Ensures (fun result t => ∀ record, result.record = some record →
        t.quotes.get? (mintedNegotiation s) = some record ∧
        mintedNegotiation s ∈ t.negotiations.keys ∧ t.deals = s.deals ∧
        record.buyerAgentId = buyerAgentId ∧
        ∃ bytes, record.termsDocumentHash = Digests.sha256Ref bytes) (fun _ => True)
      (quote seller buyerAgentId body) s := by
  have hclosed {t : Stores} {facts : QuoteFacts} {negotiation : NegotiationRecord}
      {summary : String} {Q : QuoteRecord → Stores → Prop} :
      Prog.Ensures (fun result u => ∀ record, result.record = some record → Q record u)
        (fun _ => True) (closeNegotiation facts negotiation summary) t := by
    refine Prog.ensures_mono (closeNegotiation_unrecorded t facts negotiation summary)
      (fun result u hnone record hrecord => ?_) fun _ h => h
    rw [hnone] at hrecord
    cases hrecord
  refine Prog.ensures_lift_bind trivial fun _ _ => ?_
  refine Prog.ensures_get_bind ?_
  refine Prog.ensures_within_bind (R := fun s t => t.deals = s.deals) (fun _ => rfl)
    (fun _ _ => trivial) fun queryEntry t ht => ?_
  refine Prog.ensures_lift_bind trivial fun facts _ => ?_
  cases facts with
  | refused rejections => exact hclosed
  | accepted facts =>
      simp only
      split
      · split_ifs
        · exact hclosed
        · unfold issueQuote
          split
          · refine Prog.ensures_lift_bind trivial fun termsDocumentHash hhash => ?_
            refine Prog.ensures_within_bind (R := fun s t => t.deals = s.deals) (fun _ => rfl)
              (fun _ _ => trivial) fun answer u hu => ?_
            refine Prog.ensures_modify_bind (pruneNegotiations_bind_ensures (Prog.ensures_pure ?_))
            rintro _ ⟨⟩
            obtain ⟨bytes, _, hbytes⟩ := bind_eq_ok.1 hhash
            cases hbytes
            refine ⟨?_, ?_, hu.trans ht, rfl, bytes, rfl⟩
            · exact (Integrity.quotes_justIssued _ _).trans (InsertionMap.get?_set_self ..)
            · exact InsertionMap.get?_isSome_iff.1 (Option.isSome_of_eq_some
                ((Integrity.get?_justIssued _ _).trans (InsertionMap.get?_set_self ..)))
          · trivial
      · exact hclosed

theorem quote_stored {s s' : Stores} {buyerAgentId : String} {body : Option Value}
    {result : QuoteResult} {record : QuoteRecord}
    (hquote : (quote seller buyerAgentId body).run s = (.ok result, s'))
    (hrecord : result.record = some record) :
    s'.quotes.get? (mintedNegotiation s) = some record ∧
      mintedNegotiation s ∈ s'.negotiations.keys ∧ s'.deals = s.deals ∧
      record.buyerAgentId = buyerAgentId ∧
      ∃ bytes, record.termsDocumentHash = Digests.sha256Ref bytes := by
  have hstored := @quote_ensures_stored _ _ _ seller s buyerAgentId body
  unfold Prog.Ensures at hstored
  rw [hquote] at hstored
  exact hstored record hrecord

end Stored

section Flood

/-- The bytes of the `i`-th proposal of a flood. -/
def floodBytes (i : ℕ) : Bytes :=
  [UInt8.ofNat (i / 256), UInt8.ofNat (i % 256)]

def floodId (i : ℕ) : String :=
  "deal_" ++ toHex (floodBytes i)

theorem floodId_inj {i j : ℕ} (hi : i < 65536) (hj : j < 65536) (h : floodId i = floodId j) :
    i = j := by
  have hhex : toHex (floodBytes i) = toHex (floodBytes j) := by
    have hlist := congrArg String.toList h
    rw [floodId, floodId, String.toList_append, String.toList_append] at hlist
    exact String.toList_inj.1 (List.append_cancel_left hlist)
  have hbytes := toHex_injective hhex
  simp only [floodBytes, List.cons.injEq, and_true] at hbytes
  have hhigh := congrArg UInt8.toNat hbytes.1
  have hlow := congrArg UInt8.toNat hbytes.2
  simp only [UInt8.toNat_ofNat'] at hhigh hlow
  omega

/-- A flood has filled the stores with proposals of one quote. -/
structure Flooded (negotiationId contractBuyer hash : String) (n : ℕ) (s : Stores) : Prop where
  quote : ∃ record, s.quotes.get? negotiationId = some record ∧
    record.buyerAgentId = contractBuyer ∧ record.termsDocumentHash = hash
  negotiation : negotiationId ∈ s.negotiations.keys
  keys : s.deals.keys = (List.range n).map floodId
  proposed : ∀ d deal, s.deals.get? d = some deal → deal.standing = (.PROPOSED_LOCAL, none)

variable {negotiationId buyer hash : String} {n : ℕ} {s t : Stores}

theorem Flooded.agree (h : Flooded negotiationId buyer hash n s)
    (hagree : Agree DealRecord.standing s t) : Flooded negotiationId buyer hash n t where
  quote := hagree.quotes ▸ h.quote
  negotiation := hagree.negotiations ▸ h.negotiation
  keys := hagree.keys.trans h.keys
  proposed := by
    intro d deal hdeal
    obtain ⟨old, hold, hstanding⟩ := hagree.exists_of_get? hdeal
    rw [← hstanding]
    exact h.proposed d old hold

/-- Below the bound, with the clock at its start, nothing is reclaimed. -/
theorem Flooded.reclaimed (h : Flooded negotiationId buyer hash n s) (hnow : s.now = 0)
    (hn : n < maxReclaimableDeals) : s.reclaimed = [] := by
  have hunexpired (deal : DealRecord) : deal.expired s.now = false := by
    simp [DealRecord.expired, hnow]
  have hfew : ((s.dealRecords.filter isReclaimableDeal).filter
      fun deal => !deal.expired s.now).length ≤ n := by
    refine (List.length_filter_le _ _).trans ((List.length_filter_le _ _).trans ?_)
    refine (List.length_filterMap_le _ _).trans ?_
    rw [h.keys, List.length_map, List.length_range]
  unfold Stores.reclaimed
  simp only
  rw [Nat.sub_eq_zero_of_le (by omega), List.take_zero, List.append_nil,
    List.filter_eq_nil_iff.2 (by simp [hunexpired]), List.map_nil]

/-- The next proposal of the flood mints a new id. -/
theorem Flooded.floodId_fresh (h : Flooded negotiationId buyer hash n s) (hn : n < 65536) :
    floodId n ∉ s.deals.keys := by
  rw [h.keys]
  intro hmem
  obtain ⟨i, hi, hsame⟩ := List.mem_map.1 hmem
  have hi := List.mem_range.1 hi
  have hsame := floodId_inj (by omega) hn hsame
  omega

/-- The deal just proposed joins the others. -/
theorem Flooded.insert (h : Flooded negotiationId buyer hash n s) (hn : n < 65536)
    (record : QuoteRecord) (contract : Value) (buyerAddress : String) :
    Prog.Ensures (fun _ => Flooded negotiationId buyer hash (n + 1))
      (Flooded negotiationId buyer hash (n + 1))
      (insertDeal (floodId n) negotiationId record contract buyerAddress) s := by
  have hfresh := h.floodId_fresh hn
  obtain ⟨negotiation, hnegotiation⟩ :=
    Option.isSome_iff_exists.1 (InsertionMap.get?_isSome_iff.2 h.negotiation)
  have hkeys : (s.deals.create (proposedDeal (floodId n) negotiationId record contract buyerAddress
      s.now)).keys = (List.range (n + 1)).map floodId := by
    refine (ObjectMap.keys_create ..).trans ((if_neg hfresh).trans ?_)
    rw [h.keys, List.range_succ, List.map_append]
    rfl
  have hproposed : ∀ d deal, (s.deals.create (proposedDeal (floodId n) negotiationId record
      contract buyerAddress s.now)).get? d = some deal →
        deal.standing = (.PROPOSED_LOCAL, none) := by
    intro d deal hdeal
    by_cases hd : d = floodId n
    · subst hd
      rw [← Option.some.inj ((ObjectMap.get?_create_self s.deals (proposedDeal (floodId n)
        negotiationId record contract buyerAddress s.now)).symm.trans hdeal)]
      rfl
    · exact h.proposed d deal ((ObjectMap.get?_create_of_ne s.deals hd).symm.trans hdeal)
  unfold Prog.Ensures
  rw [insertDeal_run]
  simp only [hnegotiation]
  refine ⟨h.quote, ?_, hkeys, hproposed⟩
  rw [InsertionMap.keys_modify]
  exact h.negotiation

variable [Digests] [Canonicalize]

/-- One more proposal of the flood, whatever becomes of its acknowledgement. -/
theorem Flooded.propose (h : Flooded negotiationId buyer hash n s) (hnow : s.now = 0)
    (hrandom : s.random = floodBytes n) (hbound : n < maxReclaimableDeals) (hn : n < 65536)
    {contract : Value} (hselects : Selects contract buyer hash) (buyerAddress : String) :
    Prog.Ensures (fun _ => Flooded negotiationId buyer hash (n + 1))
      (Flooded negotiationId buyer hash (n + 1))
      (propose negotiationId contract buyerAddress) s := by
  refine Prog.ensures_modify_bind ?_
  rw [h.reclaimed hnow hbound, List.foldl_nil]
  obtain ⟨record, hrecord, hbuyer, hhash⟩ := h.quote
  have hselected : (selectedQuote negotiationId contract).run s = (.ok record, s) :=
    selectedQuote_run hrecord (by rw [hbuyer, hhash]; exact hselects)
  have hid : "deal_" ++ toHex (s.random.take 6) = floodId n := by
    rw [hrandom]
    rfl
  unfold Prog.Ensures
  rw [Prog.run_bind_of_ok hselected]
  refine Prog.ensures_get_bind ?_
  simp only [hid]
  have hwithin (input : HistoryInput) :
      Prog.Within (Agree DealRecord.standing) (recordInteraction (floodId n) input) :=
    recordInteraction_within (fun _ _ => rfl) (floodId n) input
  refine Prog.ensures_bind (h.insert hn record contract buyerAddress) fun _ t ht => ?_
  refine Prog.ensures_within_bind (hwithin _) (fun _ => ht.agree) fun _ u hu => ?_
  refine Prog.ensures_lift_bind (ht.agree hu) fun _ _ => ?_
  exact Prog.ensures_within_bind (hwithin _) (fun _ => (ht.agree hu).agree)
    fun _ v hv => (ht.agree hu).agree hv

end Flood

/-! ## Calls from outside -/

section Calls

variable [Digests] [Canonicalize] [HostLocale] [RecoverableEcdsa] {seller : Seller}
  {c : System.Config Failure Stores Request Reply SellerJob}

theorem reachable_init : Reachable seller ⟨Stores.empty, [], []⟩ :=
  ⟨[], trivial, rfl⟩

/-- A call that mints fresh ids leads from one reachable configuration to another. -/
theorem Reachable.request (h : Reachable seller c) (job : SellerJob) (m : Moment)
    (hfresh : Fresh (c.state.enter m) job) :
    Reachable seller ((sellerSystem seller).settle c (sellerBody seller job) (c.state.enter m)) := by
  obtain ⟨es, hmeets, hrun⟩ := h
  refine ⟨es ++ [.request job m], ?_, ?_⟩
  · refine (Machine.meetsFrom_append _).2 ⟨hmeets, fun u hu => ⟨?_, fun _ _ => trivial⟩⟩
    cases hrun.symm.trans hu
    exact hfresh
  · exact (Machine.runFrom_append _).2 ⟨c, hrun, rfl⟩

/-- A call without a wait is over when it returns. -/
theorem settle_discard {α : Type} (p : SellerProg α) (s : Stores) :
    ((sellerSystem seller).settle c (discard (.atomic p)) s).state = (p.run s).2 := by
  have hadvance : (discard (.atomic p) : Task Stores SellerJob Unit).advance s =
      (.ended ((p.run s).1.map fun _ => ()), (p.run s).2, []) := by
    simp only [discard, Async.atomic, Async.bind, Async.advance]
    rcases p.run s with ⟨_ | a, t⟩ <;> rfl
  rw [System.settle, hadvance]

end Calls

section Filling

variable [Digests] [Canonicalize] [HostLocale] [RecoverableEcdsa] {seller : Seller}
  {buyerAgentId : String} {body : Option Value} {s' : Stores} {result : QuoteResult}
  {record : QuoteRecord}

/-- A contract with the members a proposal is selected by. -/
def selectingContract (buyerAgentId hash : String) : Value :=
  .obj [
    ("buyerAgentId", .str buyerAgentId),
    ("acceptanceCriteria", .str (buildAcceptanceCriteria hash "https://seller.example"))]

omit [Canonicalize] [HostLocale] [RecoverableEcdsa] in
theorem selectingContract_selects (hsized : Sized) (buyerAgentId : String) (bytes : Bytes) :
    Selects (selectingContract buyerAgentId (Digests.sha256Ref bytes)) buyerAgentId
      (Digests.sha256Ref bytes) := by
  have hparse := parse_buildAcceptanceCriteria (length_digest hsized bytes)
    (toHex_isLowerHex _)
    (by decide +kernel : "https://seller.example".toList.all (fun c => !isSpace c) = true)
  exact ⟨rfl, _, _, rfl, hparse, rfl⟩

/-- Where a quote was issued, the stores fill up with proposals of it. -/
theorem exists_flooded (hsized : Sized)
    (hquote : (quote seller buyerAgentId body).run Stores.empty = (.ok result, s'))
    (hrecord : result.record = some record) :
    ∃ hash, ∀ n ≤ 1024, ∃ c, Reachable seller c ∧
      Flooded (mintedNegotiation Stores.empty) buyerAgentId hash n c.state := by
  obtain ⟨hget, hkey, hdeals, hbuyer, bytes, hbytes⟩ := quote_stored hquote hrecord
  refine ⟨Digests.sha256Ref bytes, fun n hn => ?_⟩
  induction n with
  | zero =>
      refine ⟨_, reachable_init.request (.quote buyerAgentId body) ⟨0, []⟩ List.not_mem_nil, ?_⟩
      rw [sellerBody, settle_discard]
      have hstate : ((quote seller buyerAgentId body).run Stores.empty).2 = s' := by rw [hquote]
      refine hstate ▸ ⟨⟨record, hget, hbuyer, hbytes⟩, hkey, ?_, ?_⟩
      · rw [hdeals]
        rfl
      · rw [hdeals]
        simp [Stores.empty]
  | succ n ih =>
      obtain ⟨c, hreachable, hflooded⟩ := ih (by omega)
      have hentered : Flooded _ _ _ n (c.state.enter ⟨0, floodBytes n⟩) :=
        hflooded.agree (agree_enter _ _)
      refine ⟨_, hreachable.request (.propose (mintedNegotiation Stores.empty)
        (selectingContract buyerAgentId (Digests.sha256Ref bytes)) "") ⟨0, floodBytes n⟩
          (hentered.floodId_fresh (by omega)), ?_⟩
      rw [sellerBody, settle_discard]
      exact Prog.state_of_ensures (hentered.propose rfl rfl (by unfold maxReclaimableDeals; omega)
        (by omega) (selectingContract_selects hsized buyerAgentId bytes) "")

end Filling

section Demo

attribute [local instance] Digests.checksum HostLocale.ascii Canonicalize.plain
  RecoverableEcdsa.transparent

/-- A seller whose stores fill up. -/
theorem exists_demo_flooded : ∃ hash, ∀ n ≤ 1024, ∃ c,
    Reachable (demoSeller oneTractCorpus) c ∧
      Flooded (mintedNegotiation Stores.empty) demoBuyer hash n c.state := by
  obtain ⟨result, s', record, hquote, hrecord⟩ := exists_issued (by decide +kernel :
    (issuedRecord ((quote (demoSeller oneTractCorpus) demoBuyer (some oneMeasure)).run
      Stores.empty)).isSome = true)
  exact exists_flooded checksum_sized hquote hrecord

end Demo

section System

variable [Digests] [Canonicalize] [HostLocale] [RecoverableEcdsa] {seller : Seller}

/-- Every reachable state has referential integrity; a stored deal finds its quote
and its negotiation. -/
theorem seller_integrity {c : System.Config Failure Stores Request Reply SellerJob}
    (h : Reachable seller c) :
    Integrity c.state ∧ ∀ d deal, c.state.deals.get? d = some deal →
      c.state.quotes.get? deal.negotiationId ≠ none ∧
      c.state.negotiations.get? deal.negotiationId ≠ none := by
  have hintegrity := integrity_of_reachable h
  refine ⟨hintegrity, fun d deal hdeal => ?_⟩
  obtain ⟨negotiation, record, hn, hrecord, _⟩ := hintegrity.deal d deal hdeal
  rw [hn, hrecord]
  exact ⟨nofun, nofun⟩

end System

section Demo

attribute [local instance] Digests.checksum HostLocale.ascii Canonicalize.plain
  RecoverableEcdsa.transparent

/-- A store with one deal has referential integrity, and the deal finds its quote. -/
theorem demo_integrity : ∃ c, Reachable (demoSeller oneTractCorpus) c ∧
    c.state.deals.keys = [floodId 0] ∧ Integrity c.state ∧
    ∀ d deal, c.state.deals.get? d = some deal →
      c.state.quotes.get? deal.negotiationId ≠ none ∧
      c.state.negotiations.get? deal.negotiationId ≠ none := by
  obtain ⟨hash, hfull⟩ := exists_demo_flooded
  obtain ⟨c, hreachable, hflooded⟩ := hfull 1 (by decide)
  exact ⟨c, hreachable, hflooded.keys, seller_integrity hreachable⟩

end Demo

end DataSeller

end Coordination
