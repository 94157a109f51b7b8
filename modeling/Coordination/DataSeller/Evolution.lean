import Coordination.DataSeller.Integrity

/-!
# How a deal record changes

A deal record is created by a proposal, written to by the operations and dropped
from the store by a prune. A dropped record is never held again: what the store
holds under an id later is a new record. `Evolves R` says this of two states of
the stores, where `R` says how the records themselves have changed.
-/

namespace Coordination

namespace DataSeller

open JavaScript Library Engine

/-! ## Registrations -/

namespace Frame

variable {R : Stores → Stores → Prop} (hR : Frame R) (hprune : Prog.Within R pruneDeals)
  (hinsert : ∀ (s : Stores) (dealId negotiationId : String) (record : QuoteRecord)
    (contract : Value) (buyerAddress : String), s.quotes.get? negotiationId = some record →
      R s ((insertDeal dealId negotiationId record contract buyerAddress).run s).2)
  (hrecord : ∀ dealId input, Prog.Within R (recordInteraction dealId input))

include hR hprune hinsert hrecord

/-- A proposal prunes the deals, holds a new one and records on it. -/
theorem propose_within [Digests] [Canonicalize] (negotiationId : String) (contract : Value)
    (buyerAddress : String) : Prog.Within R (propose negotiationId contract buyerAddress) := by
  refine fun s => Prog.state_of_ensures (P := R s) ?_
  refine Prog.ensures_within_bind hprune (fun _ h => h) fun _ t ht => ?_
  refine Prog.ensures_bind (Prog.ensures_mono (selectedQuote_ensures negotiationId contract)
    (fun _ _ h => h) (by rintro _ rfl; exact ht)) ?_
  rintro record _ ⟨rfl, hquote, _⟩
  refine Prog.ensures_get_bind ?_
  refine Prog.ensures_bind (Prog.ensures_of_state
    (hR.trans ht (hinsert _ _ _ _ contract buyerAddress hquote))) fun _ u hu => ?_
  refine Prog.ensures_within_bind (hrecord _ _) (fun _ => hR.trans hu) fun _ v hv => ?_
  refine Prog.ensures_lift_bind (hR.trans hu hv) fun _ _ => ?_
  exact Prog.ensures_within_bind (hrecord _ _) (fun _ => hR.trans (hR.trans hu hv))
    fun _ w hw => hR.trans (hR.trans hu hv) hw

theorem registerLiveDeal_within [HostLocale] (dealId negotiationId : String) (contract : Value)
    (buyerAddress : String) :
    Prog.Within R (registerLiveDeal dealId negotiationId contract buyerAddress) := by
  refine fun s => Prog.state_of_ensures (P := R s) ?_
  refine Prog.ensures_within_bind hprune (fun _ h => h) fun _ t ht => ?_
  refine Prog.ensures_bind (Prog.ensures_mono (selectedQuote_ensures negotiationId contract)
    (fun _ _ h => h) (by rintro _ rfl; exact ht)) ?_
  rintro record u ⟨rfl, hquote, _⟩
  refine Prog.ensures_get_bind ?_
  cases u.deals.find? dealId with
  | some r =>
      refine Prog.ensures_within_bind (hR.readDeal_within r) (fun _ => hR.trans ht)
        fun existing v hv => ?_
      exact Prog.ensures_lift_bind (hR.trans ht hv) fun _ _ => hR.trans ht hv
  | none =>
      refine Prog.ensures_bind (Prog.ensures_of_state
        (hR.trans ht (hinsert _ _ _ _ contract buyerAddress hquote))) fun _ v hv => ?_
      exact Prog.ensures_within_bind (hrecord _ _) (fun _ => hR.trans hv)
        fun _ w hw => hR.trans hv hw

end Frame

/-! ## Records -/

/-- A deal record without its history. -/
def DealRecord.core (deal : DealRecord) : DealRecord :=
  { deal with history := [], updatedAt := 0 }

/-- A record as a proposal leaves it. -/
def IsProposed (deal : DealRecord) : Prop :=
  ∃ dealId negotiationId record contract buyerAddress now,
    deal = proposedDeal dealId negotiationId record contract buyerAddress now

/-- Records persist and change by `R`; what the store holds is an old record that it
has held throughout, or a new one that a proposal created. -/
structure Evolves (R : DealRecord → DealRecord → Prop) (s t : Stores) : Prop where
  refs : ∀ k r, t.deals.find? k = some r →
    s.deals.find? k = some r ∨ s.deals.object? r = none
  objects : ∀ r old, s.deals.object? r = some old →
    ∃ new, t.deals.object? r = some new ∧ new.dealId = old.dealId ∧ R old new
  created : ∀ r new, t.deals.object? r = some new → s.deals.object? r = none →
    ∃ first, IsProposed first ∧ new.dealId = first.dealId ∧ R first new

/-- How records may change: not by their history alone, and step by step. -/
structure Change (R : DealRecord → DealRecord → Prop) : Prop where
  core : ∀ {a b}, a.core = b.core → R a b
  trans : ∀ {a b c}, R a b → R b c → R a c

/-- The deals are the same. -/
def SameDeals (s t : Stores) : Prop :=
  t.deals = s.deals

namespace Evolves

variable {R : DealRecord → DealRecord → Prop} {s t u : Stores}

theorem of_deals (hR : Change R) (h : t.deals = s.deals) : Evolves R s t := by
  refine ⟨fun k r hr => Or.inl ?_, fun r old hold => ⟨old, ?_, rfl, hR.core rfl⟩, ?_⟩
  · rw [← h, hr]
  · rw [h, hold]
  · intro r new hnew hnone
    rw [h, hnone] at hnew
    cases hnew

theorem refl (hR : Change R) (s : Stores) : Evolves R s s :=
  of_deals hR rfl

theorem trans (hR : Change R) (hst : Evolves R s t) (htu : Evolves R t u) : Evolves R s u := by
  refine ⟨fun k r hr => ?_, fun r old hold => ?_, fun r new hnew hnone => ?_⟩
  · rcases htu.refs k r hr with hr | hnone
    · exact hst.refs k r hr
    · refine Or.inr ?_
      cases hs : s.deals.object? r with
      | none => rfl
      | some old =>
          obtain ⟨new, hnew, _⟩ := hst.objects r old hs
          rw [hnone] at hnew
          cases hnew
  · obtain ⟨mid, hmid, hid, hold⟩ := hst.objects r old hold
    obtain ⟨new, hnew, hid', hmid⟩ := htu.objects r mid hmid
    exact ⟨new, hnew, hid'.trans hid, hR.trans hold hmid⟩
  · cases ht : t.deals.object? r with
    | none => exact htu.created r new hnew ht
    | some mid =>
        obtain ⟨first, hfirst, hid, hmid⟩ := hst.created r mid ht hnone
        obtain ⟨new', hnew', hid', hchange⟩ := htu.objects r mid ht
        rw [hnew] at hnew'
        cases hnew'
        exact ⟨first, hfirst, hid'.trans hid, hR.trans hmid hchange⟩

/-- Stores that agree under a view of the records. -/
theorem of_agree {β : Type} {view : DealRecord → β}
    (hview : ∀ a b, view a = view b → b.dealId = a.dealId ∧ R a b) (h : Agree view s t) :
    Evolves R s t := by
  have hobject (r : ℕ) (old : DealRecord) (hold : s.deals.object? r = some old) :
      ∃ new, t.deals.object? r = some new ∧ view old = view new := by
    have hr := h.objects r
    rw [hold, Option.map_some] at hr
    obtain ⟨new, hnew, hsame⟩ := Option.map_eq_some_iff.1 hr
    exact ⟨new, hnew, hsame.symm⟩
  refine ⟨fun k r hr => Or.inl ?_, fun r old hold => ?_, fun r new hnew hnone => ?_⟩
  · rw [← h.find? k, hr]
  · obtain ⟨new, hnew, hsame⟩ := hobject r old hold
    exact ⟨new, hnew, hview old new hsame⟩
  · have hr := h.objects r
    rw [hnew, hnone] at hr
    cases hr

theorem of_core (hR : Change R) (h : Agree DealRecord.core s t) : Evolves R s t :=
  of_agree (fun a b (hcore : a.core = b.core) =>
    ⟨(congrArg DealRecord.dealId hcore).symm, hR.core hcore⟩) h

/-- A write to one record. -/
theorem of_modify (hR : Change R) {r : ℕ} {f : DealRecord → DealRecord}
    {hf : ∀ d, (f d).dealId = d.dealId} (hold : ∀ d, s.deals.object? r = some d → R d (f d)) :
    Evolves R s { s with deals := s.deals.modify r f hf } := by
  refine ⟨fun k r' hr => Or.inl hr, fun r' old hr' => ?_, fun r' new hnew hnone => ?_⟩
  · simp only [ObjectMap.object?_modify]
    split_ifs with heq
    · subst heq
      exact ⟨f old, by rw [hr']; rfl, hf old, hold old hr'⟩
    · exact ⟨old, hr', rfl, hR.core rfl⟩
  · simp only [ObjectMap.object?_modify, hnone, Option.map_none, ite_self] at hnew
    cases hnew

theorem of_create (hR : Change R) {deal : DealRecord} (hdeal : IsProposed deal) :
    Evolves R s { s with deals := s.deals.create deal } := by
  have hobjects (r : ℕ) (new : DealRecord) (hnew : (s.deals.create deal).object? r = some new) :
      s.deals.object? r = some new ∨ r = s.deals.objects.length ∧ new = deal := by
    change (s.deals.objects ++ [deal])[r]? = some new at hnew
    rw [List.getElem?_append] at hnew
    split_ifs at hnew with hlt
    · exact Or.inl hnew
    · obtain ⟨hr, hnew⟩ := List.getElem?_eq_some_iff.1 hnew
      simp only [List.length_singleton] at hr
      refine Or.inr ⟨by omega, ?_⟩
      rw [← hnew]
      simp
  refine ⟨fun k r hr => ?_, fun r old hold => ?_, fun r new hnew hnone => ?_⟩
  · by_cases hk : k = deal.dealId
    · subst hk
      refine Or.inr ?_
      have hself := (ObjectMap.find?_create_self s.deals deal).symm.trans hr
      rw [← Option.some.inj hself, ObjectMap.object?]
      simp
    · exact Or.inl ((ObjectMap.find?_create_of_ne s.deals hk).symm.trans hr)
  · exact ⟨old, ObjectMap.object?_create deal hold, rfl, hR.core rfl⟩
  · rcases hobjects r new hnew with hold | ⟨_, rfl⟩
    · rw [hnone] at hold
      cases hold
    · exact ⟨new, hdeal, rfl, hR.core rfl⟩

theorem of_deleteDeals (hR : Change R) (ids : List String) :
    Evolves R s (ids.foldl Stores.deleteDeal s) := by
  obtain ⟨_, _, _, hobjects⟩ := kept_foldl_deleteDeal ids s
  obtain ⟨_, hfind⟩ := deals_foldl_deleteDeal ids s
  refine ⟨fun k r hr => Or.inl ?_, fun r old hold => ⟨old, ?_, rfl, hR.core rfl⟩, ?_⟩
  · rw [hfind] at hr
    split_ifs at hr
    exact hr
  · rw [hobjects, hold]
  · intro r new hnew hnone
    rw [hobjects, hnone] at hnew
    cases hnew

/-! ## The operations -/

theorem frame (hR : Change R) : Frame (Evolves R) :=
  ⟨refl hR, fun h h' => h.trans hR h'⟩

theorem within_bind (hR : Change R) {α β : Type} {p : SellerProg α} {f : α → SellerProg β}
    (hp : Prog.Within (Evolves R) p) (hf : ∀ a, Prog.Within (Evolves R) (f a)) :
    Prog.Within (Evolves R) (p >>= f) :=
  (frame hR).bind hp hf

theorem within_core (hR : Change R) {α : Type} {p : SellerProg α}
    (hp : Prog.Within (Agree DealRecord.core) p) : Prog.Within (Evolves R) p :=
  fun s => of_core hR (hp s)

theorem within_deals (hR : Change R) {α : Type} {p : SellerProg α}
    (hp : Prog.Within SameDeals p) : Prog.Within (Evolves R) p :=
  fun s => of_deals hR (hp s)

theorem pruneDeals_within (hR : Change R) : Prog.Within (Evolves R) pruneDeals :=
  fun s => of_deleteDeals hR s.reclaimed

theorem recordInteraction_within (hR : Change R) (dealId : String) (input : HistoryInput) :
    Prog.Within (Evolves R) (recordInteraction dealId input) :=
  within_core hR (DataSeller.recordInteraction_within (fun _ _ => rfl) dealId input)

theorem insertDeal_within (hR : Change R) (dealId negotiationId : String) (record : QuoteRecord)
    (contract : Value) (buyerAddress : String) :
    Prog.Within (Evolves R) (insertDeal dealId negotiationId record contract buyerAddress) := by
  intro s
  have hcreate := of_create (s := s) hR ⟨dealId, negotiationId, record, contract, buyerAddress,
    s.now, rfl⟩
  rw [insertDeal_run]
  simp only
  split
  · exact hcreate.trans hR (of_deals hR rfl)
  · exact hcreate.trans hR (of_deals hR rfl)

theorem writeDeal_within (hR : Change R) (r : ℕ) {f : DealRecord → DealRecord}
    (hf : ∀ d, (f d).dealId = d.dealId) (hchange : ∀ d, R d (f d)) :
    Prog.Within (Evolves R) (writeDeal r f hf) :=
  Prog.within_modify fun _ => of_modify hR fun d _ => hchange d

/-- A program that leaves a view of the records alone. -/
theorem within_view {β : Type} {view : DealRecord → β}
    (hview : ∀ a b, view a = view b → R a b) {α : Type} {p : SellerProg α}
    (hp : Prog.Within (Agree fun d => (d.dealId, view d)) p) : Prog.Within (Evolves R) p := by
  refine fun s => of_agree (fun a b hsame => ?_) (hp s)
  rw [Prod.mk.injEq] at hsame
  exact ⟨hsame.1.symm, hview a b hsame.2⟩

variable [Digests] [Canonicalize] [HostLocale]

omit [HostLocale] in
theorem propose_within (hR : Change R) (negotiationId : String) (contract : Value)
    (buyerAddress : String) :
    Prog.Within (Evolves R) (propose negotiationId contract buyerAddress) :=
  (frame hR).propose_within (pruneDeals_within hR)
    (fun s _ _ _ _ _ _ => insertDeal_within hR _ _ _ _ _ s) (recordInteraction_within hR) _ _ _

omit [Digests] [Canonicalize] in
theorem registerLiveDeal_within (hR : Change R) (dealId negotiationId : String) (contract : Value)
    (buyerAddress : String) :
    Prog.Within (Evolves R) (registerLiveDeal dealId negotiationId contract buyerAddress) :=
  (frame hR).registerLiveDeal_within (pruneDeals_within hR)
    (fun s _ _ _ _ _ _ => insertDeal_within hR _ _ _ _ _ s) (recordInteraction_within hR) _ _ _ _

/-- A quote touches no deal. -/
theorem quote_within (seller : Seller) (hR : Change R) (buyerAgentId : String)
    (body : Option Value) : Prog.Within (Evolves R) (quote seller buyerAgentId body) := by
  have hentry (input : HistoryInput) : Prog.Within (Evolves R) (historyEntry input) :=
    within_core hR (historyEntry_within input)
  have hlift {α : Type} (x : Except Failure α) : Prog.Within (Evolves R) (Prog.lift x) :=
    Prog.within_lift (refl hR) x
  have hmodify {f : Stores → Stores} (hf : ∀ s, (f s).deals = s.deals) :
      Prog.Within (Evolves R) (Prog.modify f : SellerProg Unit) :=
    fun s => of_deals hR (hf s)
  have hclose (facts : QuoteFacts) (negotiation : NegotiationRecord) (summary : String) :
      Prog.Within (Evolves R) (closeNegotiation facts negotiation summary) :=
    within_bind hR (hentry _) fun _ => within_bind hR (hmodify fun _ => rfl) fun _ =>
      within_bind hR (hmodify fun _ => rfl) fun _ => Prog.within_pure (refl hR) _
  refine within_bind hR (hlift _) fun _ => ?_
  refine within_bind hR (within_core hR (randomHex_within 8)) fun suffix => ?_
  refine within_bind hR (hentry _) fun queryEntry => ?_
  refine within_bind hR (hlift _) fun facts => ?_
  split
  · exact hclose _ _ _
  · split
    · split_ifs
      · exact hclose _ _ _
      · unfold issueQuote
        split
        · refine within_bind hR (hlift _) fun _ => within_bind hR (hentry _) fun _ => ?_
          exact within_bind hR (hmodify fun _ => rfl) fun _ =>
            within_bind hR (hmodify fun _ => rfl) fun _ => Prog.within_pure (refl hR) _
        · exact Prog.within_throw (refl hR) _
    · exact hclose _ _ _

end Evolves

end DataSeller

end Coordination
