import Coordination.DataSeller.Acceptance
import Coordination.DataSeller.Frames

/-!
# Referential integrity of the stores

Negotiations, quotes and deals refer to each other. Every operation leaves the
stores with all references answered: a deal finds its negotiation and its quote, a
negotiation lists its deals, and a contract selects the quote it was proposed
against. What may run in between two steps of a delivery changes nothing about it.
-/

namespace Coordination

namespace DataSeller

open JavaScript Library Engine

/-- A contract names a buyer and pins a terms document. -/
def Selects (contract : Value) (buyerAgentId termsDocumentHash : String) : Prop :=
  field contract "buyerAgentId" = some (.str buyerAgentId) ∧
    ∃ text commitment, textOrEmpty (field contract "acceptanceCriteria") = .ok text ∧
      parseAcceptanceCriteria text = some commitment ∧
      commitment.termsDocumentHash = termsDocumentHash

/-- A contract that selects a quote is one that was presented. -/
theorem Selects.presented {contract : Value} {buyerAgentId termsDocumentHash : String}
    (h : Selects contract buyerAgentId termsDocumentHash) (stored : Option Value) :
    (orElse (some contract) stored).getD .null = contract := by
  rw [eq_obj_of_field h.1]
  rfl

/-- Every reference between the stores is answered. -/
structure Integrity (s : Stores) : Prop where
  quotes_subset : ∀ n ∈ s.quotes.keys, n ∈ s.negotiations.keys
  buyer : ∀ n negotiation record, s.negotiations.get? n = some negotiation →
    s.quotes.get? n = some record → record.buyerAgentId = negotiation.buyerAgentId
  deal : ∀ d deal, s.deals.get? d = some deal → ∃ negotiation record,
    s.negotiations.get? deal.negotiationId = some negotiation ∧
    s.quotes.get? deal.negotiationId = some record ∧
    deal.termsDocumentHash = record.termsDocumentHash ∧
    Selects deal.contract negotiation.buyerAgentId record.termsDocumentHash
  dealIds : ∀ n negotiation, s.negotiations.get? n = some negotiation →
    negotiation.dealIds.Nodup ∧ ∀ d, d ∈ negotiation.dealIds ↔
      ∃ deal, s.deals.get? d = some deal ∧ deal.negotiationId = n
  started : ∀ n negotiation, s.negotiations.get? n = some negotiation →
    (negotiation.state = .AGREEMENT_STARTED ↔ negotiation.dealIds ≠ [])

namespace Integrity

variable {s t : Stores}

theorem empty : Integrity Stores.empty where
  quotes_subset := by simp [Stores.empty, InsertionMap.keys, InsertionMap.empty]
  buyer := by simp [Stores.empty]
  deal := by simp [Stores.empty]
  dealIds := by simp [Stores.empty]
  started := by simp [Stores.empty]

/-- Integrity is about what the deals were agreed on only. -/
theorem agree (h : Integrity s) (hagree : Agree DealRecord.terms s t) : Integrity t where
  quotes_subset := by
    rw [hagree.quotes, hagree.negotiations]
    exact h.quotes_subset
  buyer := by
    rw [hagree.quotes, hagree.negotiations]
    exact h.buyer
  deal := by
    intro d deal hdeal
    obtain ⟨old, hold, hterms⟩ := hagree.exists_of_get? hdeal
    simp only [DealRecord.terms, Prod.mk.injEq] at hterms
    rw [hagree.quotes, hagree.negotiations, ← hterms.1, ← hterms.2.1, ← hterms.2.2]
    exact h.deal d old hold
  dealIds := by
    intro n negotiation hn
    rw [hagree.negotiations] at hn
    obtain ⟨hnodup, hdeals⟩ := h.dealIds n negotiation hn
    refine ⟨hnodup, fun d => (hdeals d).trans ⟨?_, ?_⟩⟩
    · rintro ⟨deal, hdeal, hnegotiation⟩
      obtain ⟨new, hnew, hterms⟩ := hagree.symm.exists_of_get? hdeal
      simp only [DealRecord.terms, Prod.mk.injEq] at hterms
      exact ⟨new, hnew, hterms.1.trans hnegotiation⟩
    · rintro ⟨deal, hdeal, hnegotiation⟩
      obtain ⟨old, hold, hterms⟩ := hagree.exists_of_get? hdeal
      simp only [DealRecord.terms, Prod.mk.injEq] at hterms
      exact ⟨old, hold, hterms.1.trans hnegotiation⟩
  started := by
    rw [hagree.negotiations]
    exact h.started

/-! ## Pruning -/

/-- The deals under a name once one deal is gone. -/
theorem get?_filterKeys_ne {m : ObjectMap DealRecord.dealId} {dealId d : String}
    {deal : DealRecord} :
    (m.filterKeys fun k => k ≠ dealId).get? d = some deal ↔ d ≠ dealId ∧ m.get? d = some deal := by
  rw [ObjectMap.get?_filterKeys]
  by_cases hd : d = dealId <;> simp [hd]

/-- What `deleteDeal` leaves of a negotiation. -/
theorem exists_of_deleteDeal {s : Stores} {dealId n : String} {deleted : DealRecord}
    {negotiation : NegotiationRecord} (hdeleted : s.deals.get? dealId = some deleted)
    (hn : (s.deleteDeal dealId).negotiations.get? n = some negotiation) :
    ∃ old, s.negotiations.get? n = some old ∧ negotiation.buyerAgentId = old.buyerAgentId ∧
      (n ≠ deleted.negotiationId → negotiation = old) ∧
      (n = deleted.negotiationId →
        negotiation.dealIds = old.dealIds.filter (fun id => id ≠ dealId) ∧
        negotiation.state =
          if (old.dealIds.filter fun id => id ≠ dealId).length = 0 then .QUOTED
          else old.state) := by
  simp only [Stores.deleteDeal, hdeleted, InsertionMap.get?_modify] at hn
  by_cases hname : n = deleted.negotiationId
  · rw [if_pos hname] at hn
    obtain ⟨old, hold, hnew⟩ := Option.map_eq_some_iff.1 hn
    refine ⟨old, hold, ?_, fun hne => absurd hname hne, fun _ => ?_⟩
    · rw [← hnew]
    · rw [← hnew]
      exact ⟨rfl, rfl⟩
  · rw [if_neg hname] at hn
    exact ⟨negotiation, hn, rfl, fun _ => rfl, fun heq => absurd heq hname⟩

/-- A deal that is gone is no longer listed, and every other one still is. -/
theorem deleteDeal (h : Integrity s) (dealId : String) : Integrity (s.deleteDeal dealId) := by
  cases hdeleted : s.deals.get? dealId with
  | none =>
      rw [Stores.deleteDeal, hdeleted]
      exact h
  | some deleted =>
      have hdeals : (s.deleteDeal dealId).deals = s.deals.filterKeys fun k => k ≠ dealId := by
        rw [Stores.deleteDeal, hdeleted]
      have hquotes : (s.deleteDeal dealId).quotes = s.quotes := by
        rw [Stores.deleteDeal, hdeleted]
      have hkeys : (s.deleteDeal dealId).negotiations.keys = s.negotiations.keys := by
        rw [Stores.deleteDeal, hdeleted]
        exact InsertionMap.keys_modify ..
      refine ⟨?_, ?_, ?_, ?_, ?_⟩
      · rw [hquotes, hkeys]
        exact h.quotes_subset
      · intro n negotiation record hn hrecord
        obtain ⟨old, hold, hbuyer, _⟩ := exists_of_deleteDeal hdeleted hn
        rw [hquotes] at hrecord
        rw [hbuyer]
        exact h.buyer n old record hold hrecord
      · intro d deal hdeal
        rw [hdeals, get?_filterKeys_ne] at hdeal
        obtain ⟨negotiation, record, hn, hrecord, hhash, hselects⟩ := h.deal d deal hdeal.2
        have hsome := (InsertionMap.get?_isSome_iff.2 (hkeys ▸ InsertionMap.get?_isSome_iff.1
          (Option.isSome_of_eq_some hn)) :
          ((s.deleteDeal dealId).negotiations.get? deal.negotiationId).isSome = true)
        obtain ⟨new, hnew⟩ := Option.isSome_iff_exists.1 hsome
        obtain ⟨old, hold, hbuyer, _⟩ := exists_of_deleteDeal hdeleted hnew
        rw [hn] at hold
        cases hold
        exact ⟨new, record, hnew, hquotes ▸ hrecord, hhash, hbuyer ▸ hselects⟩
      · intro n negotiation hn
        obtain ⟨old, hold, _, hother, hsame⟩ := exists_of_deleteDeal hdeleted hn
        obtain ⟨hnodup, hlisted⟩ := h.dealIds n old hold
        have hfilter : negotiation.dealIds = old.dealIds.filter fun id => id ≠ dealId := by
          by_cases hname : n = deleted.negotiationId
          · exact (hsame hname).1
          · rw [hother hname, List.filter_eq_self.2]
            intro d hd
            rw [decide_eq_true_eq]
            rintro rfl
            obtain ⟨deal, hdeal, hdealName⟩ := (hlisted _).1 hd
            rw [hdeleted] at hdeal
            cases hdeal
            exact hname hdealName.symm
        rw [hfilter]
        refine ⟨hnodup.filter _, fun d => ?_⟩
        rw [List.mem_filter, hlisted d, hdeals]
        simp only [get?_filterKeys_ne, decide_eq_true_eq]
        constructor
        · rintro ⟨⟨deal, hdeal, hname⟩, hd⟩
          exact ⟨deal, ⟨hd, hdeal⟩, hname⟩
        · rintro ⟨deal, ⟨hd, hdeal⟩, hname⟩
          exact ⟨⟨deal, hdeal, hname⟩, hd⟩
      · intro n negotiation hn
        obtain ⟨old, hold, _, hother, hsame⟩ := exists_of_deleteDeal hdeleted hn
        by_cases hname : n = deleted.negotiationId
        · obtain ⟨hdealIds, hstate⟩ := hsame hname
          rw [hstate, hdealIds]
          split_ifs with hnone
          · rw [List.eq_nil_of_length_eq_zero hnone]
            simp
          · have hsome : old.dealIds.filter (fun id => id ≠ dealId) ≠ [] := by
              rintro hnil
              rw [hnil] at hnone
              exact hnone rfl
            have hold_ne : old.dealIds ≠ [] := by
              rintro hnil
              rw [hnil] at hsome
              exact hsome rfl
            exact iff_of_true ((h.started n old hold).2 hold_ne) hsome
        · rw [hother hname]
          exact h.started n old hold

theorem pruneDeals (h : Integrity s) : Integrity (s.reclaimed.foldl Stores.deleteDeal s) := by
  suffices hfold : ∀ (ids : List String) {s : Stores}, Integrity s →
      Integrity (ids.foldl Stores.deleteDeal s) from hfold _ h
  intro ids
  induction ids with
  | nil => exact fun h => h
  | cons d ids ih => exact fun h => ih (h.deleteDeal d)

/-- Negotiations that no deal refers to may go, with their quotes. -/
theorem forget (h : Integrity s) {gone : List String}
    (hgone : ∀ d deal, s.deals.get? d = some deal → deal.negotiationId ∉ gone) :
    Integrity { s with
      negotiations := s.negotiations.filterKeys fun k => k ∉ gone
      quotes := s.quotes.filterKeys fun k => k ∉ gone } := by
  have hkept {α : Type} {m : InsertionMap String α} {n : String} {a : α} :
      (m.filterKeys fun k => k ∉ gone).get? n = some a ↔ n ∉ gone ∧ m.get? n = some a := by
    rw [InsertionMap.get?_filterKeys]
    by_cases hn : n ∈ gone <;> simp [hn]
  refine ⟨?_, ?_, ?_, ?_, ?_⟩
  · intro n hn
    simp only [InsertionMap.keys_filterKeys, List.mem_filter] at hn ⊢
    exact ⟨h.quotes_subset n hn.1, hn.2⟩
  · intro n negotiation record hn hrecord
    exact h.buyer n negotiation record (hkept.1 hn).2 (hkept.1 hrecord).2
  · intro d deal hdeal
    obtain ⟨negotiation, record, hn, hrecord, hterms⟩ := h.deal d deal hdeal
    have hstays := hgone d deal hdeal
    exact ⟨negotiation, record, hkept.2 ⟨hstays, hn⟩, hkept.2 ⟨hstays, hrecord⟩, hterms⟩
  · intro n negotiation hn
    exact h.dealIds n negotiation (hkept.1 hn).2
  · intro n negotiation hn
    exact h.started n negotiation (hkept.1 hn).2

theorem mem_dealRecords {deal : DealRecord} :
    deal ∈ s.dealRecords ↔ ∃ d, s.deals.get? d = some deal := by
  unfold Stores.dealRecords
  rw [List.mem_filterMap]
  constructor
  · rintro ⟨d, _, hdeal⟩
    exact ⟨d, hdeal⟩
  · rintro ⟨d, hdeal⟩
    exact ⟨d, ObjectMap.get?_isSome_iff.1 (Option.isSome_of_eq_some hdeal), hdeal⟩

/-- The negotiation just issued is not part of the surplus. -/
theorem justIssued_notMem_surplus (s : Stores) (justIssued : String) :
    justIssued ∉ s.surplusNegotiations justIssued := by
  intro hmem
  have hunreferenced := List.of_mem_filter (List.mem_of_mem_take hmem)
  rw [decide_eq_true_eq] at hunreferenced
  exact hunreferenced List.mem_cons_self

theorem get?_justIssued (s : Stores) (justIssued : String) :
    (s.withoutSurplus justIssued).negotiations.get? justIssued =
      s.negotiations.get? justIssued := by
  rw [get?_withoutSurplus, if_pos (justIssued_notMem_surplus s justIssued)]

theorem quotes_justIssued (s : Stores) (justIssued : String) :
    (s.withoutSurplus justIssued).quotes.get? justIssued = s.quotes.get? justIssued := by
  rw [quotes_withoutSurplus, if_pos (justIssued_notMem_surplus s justIssued)]

/-- The surplus is made of negotiations that no deal refers to. -/
theorem notMem_surplus {justIssued d : String} {deal : DealRecord}
    (hdeal : s.deals.get? d = some deal) :
    deal.negotiationId ∉ s.surplusNegotiations justIssued := by
  intro hmem
  have hunreferenced := List.of_mem_filter (List.mem_of_mem_take hmem)
  rw [decide_eq_true_eq] at hunreferenced
  exact hunreferenced (List.mem_cons_of_mem _
    (List.mem_map.2 ⟨deal, mem_dealRecords.2 ⟨d, hdeal⟩, rfl⟩))

/-! ## New entries -/

theorem get?_isSome_of_deal (h : Integrity s) {d : String} {deal : DealRecord}
    (hdeal : s.deals.get? d = some deal) : deal.negotiationId ∈ s.negotiations.keys := by
  obtain ⟨negotiation, _, hn, _⟩ := h.deal d deal hdeal
  exact InsertionMap.get?_isSome_iff.1 (Option.isSome_of_eq_some hn)

/-- A negotiation under a new name, with or without a quote. -/
theorem issue (h : Integrity s) {n : String} {negotiation : NegotiationRecord}
    {quotes : InsertionMap String QuoteRecord} (hfresh : n ∉ s.negotiations.keys)
    (hdealIds : negotiation.dealIds = []) (hstate : negotiation.state ≠ .AGREEMENT_STARTED)
    (hquotes : quotes = s.quotes ∨ ∃ record, quotes = s.quotes.set n record ∧
      record.buyerAgentId = negotiation.buyerAgentId) :
    Integrity { s with negotiations := s.negotiations.set n negotiation, quotes } := by
  have hold {k : String} (hk : k ∈ s.negotiations.keys) : k ≠ n := by
    rintro rfl
    exact hfresh hk
  have hquoted {k : String} (hk : k ≠ n) : quotes.get? k = s.quotes.get? k := by
    rcases hquotes with rfl | ⟨record, rfl, _⟩
    · rfl
    · exact InsertionMap.get?_set_of_ne _ _ hk
  have hnew {k : String} {found : NegotiationRecord}
      (hk : (s.negotiations.set n negotiation).get? k = some found) :
      k = n ∧ found = negotiation ∨ k ≠ n ∧ s.negotiations.get? k = some found := by
    by_cases hkn : k = n
    · subst hkn
      rw [InsertionMap.get?_set_self] at hk
      exact Or.inl ⟨rfl, (Option.some.inj hk).symm⟩
    · rw [InsertionMap.get?_set_of_ne _ _ hkn] at hk
      exact Or.inr ⟨hkn, hk⟩
  refine ⟨?_, ?_, ?_, ?_, ?_⟩
  · intro k hk
    rw [InsertionMap.keys_set, if_neg hfresh, List.mem_append]
    by_cases hkn : k = n
    · exact Or.inr (List.mem_singleton.2 hkn)
    · left
      apply h.quotes_subset
      rw [← InsertionMap.get?_isSome_iff, ← hquoted hkn]
      exact InsertionMap.get?_isSome_iff.2 hk
  · intro k found record hk hrecord
    rcases hnew hk with ⟨rfl, rfl⟩ | ⟨hkn, hk⟩
    · rcases hquotes with rfl | ⟨issued, rfl, hbuyer⟩
      · exact absurd (h.quotes_subset k (InsertionMap.get?_isSome_iff.1
          (Option.isSome_of_eq_some hrecord))) hfresh
      · rw [InsertionMap.get?_set_self] at hrecord
        cases hrecord
        exact hbuyer
    · exact h.buyer k found record hk (hquoted hkn ▸ hrecord)
  · intro d deal hdeal
    have hne := hold (h.get?_isSome_of_deal hdeal)
    obtain ⟨found, record, hn, hrecord, hterms⟩ := h.deal d deal hdeal
    exact ⟨found, record, (InsertionMap.get?_set_of_ne _ _ hne).trans hn,
      (hquoted hne).trans hrecord, hterms⟩
  · intro k found hk
    rcases hnew hk with ⟨rfl, rfl⟩ | ⟨hkn, hk⟩
    · rw [hdealIds]
      refine ⟨List.nodup_nil, fun d => ⟨nofun, ?_⟩⟩
      rintro ⟨deal, hdeal, rfl⟩
      exact absurd (h.get?_isSome_of_deal hdeal) hfresh
    · exact h.dealIds k found hk
  · intro k found hk
    rcases hnew hk with ⟨rfl, rfl⟩ | ⟨hkn, hk⟩
    · rw [hdealIds]
      exact iff_of_false hstate (fun hne => hne rfl)
    · exact h.started k found hk

/-- A new deal against a quote, linked to its negotiation. -/
theorem insert (h : Integrity s) {deal : DealRecord} {record : QuoteRecord} {at_ : ℕ}
    (hfresh : deal.dealId ∉ s.deals.keys)
    (hrecord : s.quotes.get? deal.negotiationId = some record)
    (hhash : deal.termsDocumentHash = record.termsDocumentHash)
    (hselects : Selects deal.contract record.buyerAgentId record.termsDocumentHash) :
    Integrity { s with
      deals := s.deals.create deal
      negotiations := s.negotiations.modify deal.negotiationId (linked deal.dealId at_) } := by
  have hnone : s.deals.get? deal.dealId = none := by
    rw [← Option.not_isSome_iff_eq_none, ObjectMap.get?_isSome_iff]
    exact hfresh
  have hget {d : String} {found : DealRecord} :
      (s.deals.create deal).get? d = some found ↔
        d = deal.dealId ∧ found = deal ∨ d ≠ deal.dealId ∧ s.deals.get? d = some found := by
    by_cases hd : d = deal.dealId
    · subst hd
      rw [ObjectMap.get?_create_self]
      constructor
      · intro heq
        exact Or.inl ⟨rfl, (Option.some.inj heq).symm⟩
      · rintro (⟨_, rfl⟩ | ⟨hne, _⟩)
        · rfl
        · exact absurd rfl hne
    · rw [ObjectMap.get?_create_of_ne _ hd]
      simp [hd]
  have hnegotiation {n : String} {found : NegotiationRecord}
      (hn : (s.negotiations.modify deal.negotiationId (linked deal.dealId at_)).get? n =
        some found) :
      ∃ old, s.negotiations.get? n = some old ∧
        (found = if n = deal.negotiationId then linked deal.dealId at_ old else old) := by
    rw [InsertionMap.get?_modify] at hn
    split_ifs at hn with hname
    · obtain ⟨old, hold, hfound⟩ := Option.map_eq_some_iff.1 hn
      exact ⟨old, hold, by rw [if_pos hname]; exact hfound.symm⟩
    · exact ⟨found, hn, by rw [if_neg hname]⟩
  have hmodified {n : String} {old : NegotiationRecord} (hold : s.negotiations.get? n = some old) :
      ∃ new, (s.negotiations.modify deal.negotiationId (linked deal.dealId at_)).get? n =
        some new ∧ new.buyerAgentId = old.buyerAgentId := by
    rw [InsertionMap.get?_modify, hold]
    split_ifs
    · exact ⟨_, rfl, rfl⟩
    · exact ⟨old, rfl, rfl⟩
  refine ⟨?_, ?_, ?_, ?_, ?_⟩
  · intro n hn
    rw [InsertionMap.keys_modify]
    exact h.quotes_subset n hn
  · intro n found quoted hn hquoted
    obtain ⟨old, hold, rfl⟩ := hnegotiation hn
    have hbuyer := h.buyer n old quoted hold hquoted
    split_ifs
    · exact hbuyer
    · exact hbuyer
  · intro d found hfound
    rcases hget.1 hfound with ⟨rfl, rfl⟩ | ⟨hd, hfound⟩
    · have hkey := h.quotes_subset _ (InsertionMap.get?_isSome_iff.1
        (Option.isSome_of_eq_some hrecord))
      obtain ⟨old, hold⟩ := Option.isSome_iff_exists.1 (InsertionMap.get?_isSome_iff.2 hkey)
      obtain ⟨new, hnew, hbuyer⟩ := hmodified hold
      refine ⟨new, record, hnew, hrecord, hhash, ?_⟩
      rw [hbuyer, ← h.buyer _ old record hold hrecord]
      exact hselects
    · obtain ⟨old, quoted, hold, hquoted, hterms, hselected⟩ := h.deal d found hfound
      obtain ⟨new, hnew, hbuyer⟩ := hmodified hold
      exact ⟨new, quoted, hnew, hquoted, hterms, hbuyer ▸ hselected⟩
  · intro n found hn
    obtain ⟨old, hold, rfl⟩ := hnegotiation hn
    obtain ⟨hnodup, hlisted⟩ := h.dealIds n old hold
    have hunlisted : deal.dealId ∉ old.dealIds := by
      rw [hlisted]
      rintro ⟨other, hother, _⟩
      rw [hnone] at hother
      cases hother
    split_ifs with hname
    · simp only [linked, if_neg hunlisted]
      refine ⟨hnodup.append (List.nodup_singleton _) (by simpa using hunlisted), fun d => ?_⟩
      rw [List.mem_append, List.mem_singleton, hlisted]
      simp only [hget]
      constructor
      · rintro (⟨other, hother, hnamed⟩ | rfl)
        · refine ⟨other, Or.inr ⟨?_, hother⟩, hnamed⟩
          rintro rfl
          rw [hnone] at hother
          cases hother
        · exact ⟨deal, Or.inl ⟨rfl, rfl⟩, hname.symm⟩
      · rintro ⟨other, ⟨rfl, rfl⟩ | ⟨hd, hother⟩, hnamed⟩
        · exact Or.inr rfl
        · exact Or.inl ⟨other, hother, hnamed⟩
    · refine ⟨hnodup, fun d => (hlisted d).trans ?_⟩
      simp only [hget]
      constructor
      · rintro ⟨other, hother, hnamed⟩
        refine ⟨other, Or.inr ⟨?_, hother⟩, hnamed⟩
        rintro rfl
        rw [hnone] at hother
        cases hother
      · rintro ⟨other, ⟨rfl, rfl⟩ | ⟨hd, hother⟩, hnamed⟩
        · exact absurd hnamed.symm hname
        · exact ⟨other, hother, hnamed⟩
  · intro n found hn
    obtain ⟨old, hold, rfl⟩ := hnegotiation hn
    split_ifs with hname
    · refine iff_of_true rfl ?_
      simp only [linked]
      split_ifs with hmem
      · exact List.ne_nil_of_mem hmem
      · simp
    · exact h.started n old hold

/-- A deal's contract replaced by one that selects the same quote. -/
theorem rewrite (h : Integrity s) {d : String} {r : ℕ} {f : DealRecord → DealRecord}
    {hf : ∀ deal, (f deal).dealId = deal.dealId} (hd : s.deals.find? d = some r)
    (hname : ∀ deal, (f deal).negotiationId = deal.negotiationId)
    (hhash : ∀ deal, (f deal).termsDocumentHash = deal.termsDocumentHash)
    (hselects : ∀ deal record, s.deals.get? d = some deal →
      s.quotes.get? deal.negotiationId = some record →
        Selects (f deal).contract record.buyerAgentId record.termsDocumentHash) :
    Integrity { s with deals := s.deals.modify r f hf } := by
  have hget {k : String} {deal : DealRecord}
      (hk : (s.deals.modify r f hf).get? k = some deal) :
      ∃ old, s.deals.get? k = some old ∧ (k = d ∧ deal = f old ∨ deal = old) := by
    rw [ObjectMap.get?_modify] at hk
    split_ifs at hk with hfound
    · obtain ⟨old, hold, rfl⟩ := Option.map_eq_some_iff.1 hk
      exact ⟨old, hold, Or.inl ⟨ObjectMap.find?_inj hfound hd, rfl⟩⟩
    · exact ⟨deal, hk, Or.inr rfl⟩
  have hmodified {k : String} {old : DealRecord} (hold : s.deals.get? k = some old) :
      ∃ deal, (s.deals.modify r f hf).get? k = some deal ∧
        deal.negotiationId = old.negotiationId := by
    rw [ObjectMap.get?_modify, hold]
    split_ifs
    · exact ⟨f old, rfl, hname old⟩
    · exact ⟨old, rfl, rfl⟩
  refine ⟨h.quotes_subset, h.buyer, ?_, ?_, h.started⟩
  · intro k deal hdeal
    obtain ⟨old, hold, ⟨rfl, rfl⟩ | rfl⟩ := hget hdeal
    · obtain ⟨negotiation, record, hn, hrecord, hterms, _⟩ := h.deal k old hold
      rw [hname, hhash]
      refine ⟨negotiation, record, hn, hrecord, hterms, ?_⟩
      rw [← h.buyer _ negotiation record hn hrecord]
      exact hselects old record hold hrecord
    · exact h.deal k deal hold
  · intro n negotiation hn
    obtain ⟨hnodup, hlisted⟩ := h.dealIds n negotiation hn
    refine ⟨hnodup, fun k => (hlisted k).trans ⟨?_, ?_⟩⟩
    · rintro ⟨old, hold, hnamed⟩
      obtain ⟨deal, hdeal, hsame⟩ := hmodified hold
      exact ⟨deal, hdeal, hsame.trans hnamed⟩
    · rintro ⟨deal, hdeal, hnamed⟩
      obtain ⟨old, hold, ⟨_, rfl⟩ | rfl⟩ := hget hdeal
      · exact ⟨old, hold, (hname old).symm.trans hnamed⟩
      · exact ⟨deal, hold, hnamed⟩

end Integrity

/-! ## The operations -/

section Operations

variable {s : Stores}

/-- Nothing a program does concerns what the deals were agreed on. -/
theorem integrity_of_within {α : Type} {p : SellerProg α}
    (hp : Prog.Within (Agree DealRecord.terms) p) (h : Integrity s) :
    Prog.Ensures (fun _ => Integrity) Integrity p s :=
  Prog.ensures_mono (Prog.ensures_of_within hp) (fun _ _ => h.agree) fun _ => h.agree

theorem selectedQuote_ensures (negotiationId : String) (contract : Value) :
    Prog.Ensures (fun record t => t = s ∧ s.quotes.get? negotiationId = some record ∧
        Selects contract record.buyerAgentId record.termsDocumentHash) (fun t => t = s)
      (selectedQuote negotiationId contract) s := by
  refine Prog.ensures_get_bind ?_
  cases hrecord : s.quotes.get? negotiationId with
  | none => exact rfl
  | some record =>
      refine Prog.ensures_lift_bind rfl fun pinned hpinned => ?_
      refine Prog.ensures_lift_bind rfl fun text htext => ?_
      cases hcommitment : parseAcceptanceCriteria text with
      | none => exact rfl
      | some commitment =>
          refine Prog.ensures_lift_bind rfl fun _ hhash => ?_
          refine Prog.ensures_lift_bind rfl fun buyer hbuyer => ?_
          refine Prog.ensures_lift_bind rfl fun _ hsame => ?_
          refine ⟨rfl, rfl, ?_, text, commitment, ?_, hcommitment,
            not_not.1 (throwIf_eq_ok.1 hhash)⟩
          · have hsame := Bool.eq_true_of_not_eq_false (throwIf_eq_ok.1 hsame)
            rw [← prop_eq_ok hbuyer]
            exact strictEq_str hsame
          · rw [← prop_eq_ok hpinned]
            exact htext

/-- A contract that selects the stored quote finds it. -/
theorem selectedQuote_run {negotiationId : String} {contract : Value} {record : QuoteRecord}
    (hrecord : s.quotes.get? negotiationId = some record)
    (hselects : Selects contract record.buyerAgentId record.termsDocumentHash) :
    (selectedQuote negotiationId contract).run s = (.ok record, s) := by
  obtain ⟨hbuyer, text, commitment, htext, hparse, hhash⟩ := hselects
  have hobject : contract ≠ .null := by
    rw [eq_obj_of_field hbuyer]
    exact nofun
  unfold selectedQuote
  rw [Prog.run_bind_of_ok (Prog.run_get s)]
  simp only [hrecord]
  rw [Prog.run_bind_of_ok (Prog.run_lift_eq.2 ⟨prop_eq hobject _, rfl⟩),
    Prog.run_bind_of_ok (Prog.run_lift_eq.2 ⟨htext, rfl⟩)]
  simp only [hparse]
  rw [Prog.run_bind_of_ok (a := ()) (Prog.run_lift_eq.2 ⟨throwIf_eq_ok.2 (not_not.2 hhash), rfl⟩),
    Prog.run_bind_of_ok (Prog.run_lift_eq.2 ⟨prop_eq hobject _, rfl⟩), hbuyer,
    Prog.run_bind_of_ok (a := ()) (Prog.run_lift_eq.2 ⟨throwIf_eq_ok.2 (by simp), rfl⟩)]
  rfl

theorem dealOf_ensures (dealId : String) :
    Prog.Ensures (fun r t => t = s ∧ s.deals.find? dealId = some r) (fun t => t = s)
      (dealOf dealId) s := by
  refine Prog.ensures_get_bind ?_
  cases hfound : s.deals.find? dealId with
  | none => exact rfl
  | some r => exact ⟨rfl, rfl⟩

theorem readDeal_ensures (r : ℕ) :
    Prog.Ensures (fun deal t => t = s ∧ s.deals.object? r = some deal) (fun t => t = s)
      (readDeal r) s := by
  refine Prog.ensures_get_bind ?_
  cases hfound : s.deals.object? r with
  | none => exact rfl
  | some deal => exact ⟨rfl, rfl⟩

theorem pruneDeals_ensures (h : Integrity s) :
    Prog.Ensures (fun _ => Integrity) Integrity pruneDeals s :=
  h.pruneDeals

/-- What `insertDeal` and the history entry after it leave behind. -/
theorem insertDeal_ensures (h : Integrity s) {dealId negotiationId buyerAddress : String}
    {record : QuoteRecord} {contract : Value} (hfresh : dealId ∉ s.deals.keys)
    (hrecord : s.quotes.get? negotiationId = some record)
    (hselects : Selects contract record.buyerAgentId record.termsDocumentHash) :
    Prog.Ensures (fun _ t => Integrity t ∧ t.quotes = s.quotes ∧
        ∃ deal, t.deals.get? dealId = some deal ∧ deal.negotiationId = negotiationId) Integrity
      (insertDeal dealId negotiationId record contract buyerAddress) s := by
  have hkey := h.quotes_subset _ (InsertionMap.get?_isSome_iff.1 (Option.isSome_of_eq_some hrecord))
  obtain ⟨negotiation, hnegotiation⟩ :=
    Option.isSome_iff_exists.1 (InsertionMap.get?_isSome_iff.2 hkey)
  have hinserted := @Integrity.insert s h (proposedDeal dealId negotiationId record contract
    buyerAddress s.now) record s.now hfresh hrecord rfl hselects
  unfold Prog.Ensures
  rw [insertDeal_run]
  simp only [hnegotiation]
  exact ⟨hinserted.agree ⟨rfl, rfl, rfl, fun _ => rfl⟩, trivial, _,
    ObjectMap.get?_create_self s.deals
      (proposedDeal dealId negotiationId record contract buyerAddress s.now), rfl⟩

theorem recordInteraction_ensures (h : Integrity s) (dealId : String) (input : HistoryInput) :
    Prog.Ensures (fun _ => Integrity) Integrity (recordInteraction dealId input) s :=
  integrity_of_within (recordInteraction_within (fun _ _ => rfl) dealId input) h

/-- The store of a pruned state lacks what the store of the state lacks. -/
theorem notMem_keys_pruned {d : String} (hd : d ∉ s.deals.keys) :
    d ∉ (s.reclaimed.foldl Stores.deleteDeal s).deals.keys := by
  rw [(deals_foldl_deleteDeal s.reclaimed s).1]
  exact fun hmem => hd (List.mem_of_mem_filter hmem)

section Seller

variable [Digests] [Canonicalize] [HostLocale] [RecoverableEcdsa] {seller : Seller}

omit [Digests] [Canonicalize] [HostLocale] [RecoverableEcdsa] in
theorem pruneNegotiations_ensures (h : Integrity s) (justIssued : String) :
    Prog.Ensures (fun _ => Integrity) Integrity (pruneNegotiations justIssued) s :=
  h.forget fun _ _ hdeal => Integrity.notMem_surplus hdeal

omit [Digests] [Canonicalize] [HostLocale] [RecoverableEcdsa] in
theorem closeNegotiation_ensures (h : Integrity s) {facts : QuoteFacts}
    {negotiation : NegotiationRecord} {summary : String}
    (hfresh : negotiation.negotiationId ∉ s.negotiations.keys) (hdealIds : negotiation.dealIds = [])
    (hstate : negotiation.state ≠ .AGREEMENT_STARTED) :
    Prog.Ensures (fun _ => Integrity) Integrity (closeNegotiation facts negotiation summary) s := by
  refine Prog.ensures_within_bind (R := Agree DealRecord.terms) (historyEntry_within _)
    (fun _ => h.agree) fun answer t hagree => ?_
  have ht : Integrity t := h.agree hagree
  have hfresh : negotiation.negotiationId ∉ t.negotiations.keys := by
    rw [hagree.negotiations]
    exact hfresh
  refine Prog.ensures_modify_bind ?_
  refine Prog.ensures_bind (pruneNegotiations_ensures ?_ _) fun _ u hu => hu
  exact ht.issue hfresh hdealIds hstate (Or.inl rfl)

omit [HostLocale] [RecoverableEcdsa] in
theorem issueQuote_ensures (h : Integrity s) {facts : QuoteAccepted}
    {negotiation : NegotiationRecord} {statsHash : String}
    (hfresh : negotiation.negotiationId ∉ s.negotiations.keys)
    (hdealIds : negotiation.dealIds = []) :
    Prog.Ensures (fun _ => Integrity) Integrity (issueQuote seller facts negotiation statsHash)
      s := by
  unfold issueQuote
  split
  · refine Prog.ensures_lift_bind h fun termsDocumentHash _ => ?_
    refine Prog.ensures_within_bind (R := Agree DealRecord.terms) (historyEntry_within _)
      (fun _ => h.agree) fun answer t hagree => ?_
    have ht : Integrity t := h.agree hagree
    have hfresh : negotiation.negotiationId ∉ t.negotiations.keys := by
      rw [hagree.negotiations]
      exact hfresh
    refine Prog.ensures_modify_bind ?_
    refine Prog.ensures_bind (pruneNegotiations_ensures ?_ _) fun _ u hu => hu
    exact ht.issue hfresh hdealIds nofun (Or.inr ⟨_, rfl, rfl⟩)
  · exact h

/-- The id the next quote mints. -/
def mintedNegotiation (s : Stores) : String :=
  "neg_" ++ toHex (s.random.take 8)

/-- The id the next proposal mints. -/
def mintedDeal (s : Stores) : String :=
  "deal_" ++ toHex (s.random.take 6)

omit [RecoverableEcdsa] in
theorem quote_ensures (h : Integrity s) (hfresh : mintedNegotiation s ∉ s.negotiations.keys)
    (buyerAgentId : String) (body : Option Value) :
    Prog.Ensures (fun _ => Integrity) Integrity (quote seller buyerAgentId body) s := by
  refine Prog.ensures_lift_bind h fun _ _ => ?_
  refine Prog.ensures_get_bind ?_
  refine Prog.ensures_within_bind (R := Agree DealRecord.terms) (historyEntry_within _)
    (fun _ => h.agree) fun queryEntry t hagree => ?_
  have ht : Integrity t := h.agree hagree
  have hfresh : mintedNegotiation s ∉ t.negotiations.keys := hagree.negotiations ▸ hfresh
  refine Prog.ensures_lift_bind ht fun facts _ => ?_
  cases facts with
  | refused rejections => exact closeNegotiation_ensures ht hfresh rfl nofun
  | accepted facts =>
      simp only
      split
      · split_ifs
        · exact closeNegotiation_ensures ht hfresh rfl nofun
        · exact issueQuote_ensures ht hfresh rfl
      · exact closeNegotiation_ensures ht hfresh rfl nofun

omit [HostLocale] [RecoverableEcdsa] in
theorem propose_ensures (h : Integrity s) (hfresh : mintedDeal s ∉ s.deals.keys)
    (negotiationId : String) (contract : Value) (buyerAddress : String) :
    Prog.Ensures (fun _ => Integrity) Integrity (propose negotiationId contract buyerAddress)
      s := by
  refine Prog.ensures_modify_bind ?_
  have hpruned := h.pruneDeals
  refine Prog.ensures_bind (Prog.ensures_mono (selectedQuote_ensures negotiationId contract)
    (fun _ _ h => h) (by rintro _ rfl; exact hpruned)) ?_
  rintro record _ ⟨rfl, hrecord, hselects⟩
  refine Prog.ensures_get_bind ?_
  have hminted : mintedDeal (s.reclaimed.foldl Stores.deleteDeal s) ∉
      (s.reclaimed.foldl Stores.deleteDeal s).deals.keys := by
    rw [mintedDeal, (kept_foldl_deleteDeal s.reclaimed s).2.2.1]
    exact notMem_keys_pruned hfresh
  refine Prog.ensures_bind (insertDeal_ensures hpruned hminted hrecord hselects) fun _ t ht => ?_
  refine Prog.ensures_bind (recordInteraction_ensures ht.1 _ _) fun _ u hu => ?_
  refine Prog.ensures_lift_bind hu fun _ _ => ?_
  exact Prog.ensures_bind (recordInteraction_ensures hu _ _) fun _ v hv => hv

omit [Digests] [Canonicalize] [RecoverableEcdsa] in
/-- A live deal is registered once; a retry finds the deal of its own quote. -/
theorem registerLiveDeal_ensures (h : Integrity s) (dealId negotiationId : String)
    (contract : Value) (buyerAddress : String) :
    Prog.Ensures (fun _ t => Integrity t ∧ ∀ deal record, t.deals.get? dealId = some deal →
        t.quotes.get? deal.negotiationId = some record →
          Selects contract record.buyerAgentId record.termsDocumentHash) Integrity
      (registerLiveDeal dealId negotiationId contract buyerAddress) s := by
  refine Prog.ensures_modify_bind ?_
  have hpruned := h.pruneDeals
  refine Prog.ensures_bind (Prog.ensures_mono (selectedQuote_ensures negotiationId contract)
    (fun _ _ h => h) (by rintro _ rfl; exact hpruned)) ?_
  rintro record _ ⟨rfl, hrecord, hselects⟩
  refine Prog.ensures_get_bind ?_
  cases hfound : (s.reclaimed.foldl Stores.deleteDeal s).deals.find? dealId with
  | some r =>
      refine Prog.ensures_bind (Prog.ensures_mono (readDeal_ensures r) (fun _ _ h => h)
        (by rintro _ rfl; exact hpruned)) ?_
      rintro existing _ ⟨rfl, hobject⟩
      have hexisting := ObjectMap.get?_eq_some_iff.2 ⟨r, hfound, hobject⟩
      refine Prog.ensures_lift_bind hpruned fun _ hsame => ⟨hpruned, ?_⟩
      intro deal quoted hdeal hquoted
      have hname := not_not.1 (not_or.1 (throwIf_eq_ok.1 hsame)).1
      rw [hexisting] at hdeal
      cases hdeal
      rw [hname, hrecord] at hquoted
      cases hquoted
      exact hselects
  | none =>
      have hfresh : dealId ∉ (s.reclaimed.foldl Stores.deleteDeal s).deals.keys := by
        rw [← ObjectMap.get?_isSome_iff, ObjectMap.get?, hfound]
        simp
      refine Prog.ensures_bind (insertDeal_ensures hpruned hfresh hrecord hselects) ?_
      rintro _ t ⟨ht, hquotes, deal, hdeal, hname⟩
      refine Prog.ensures_within_bind (R := Agree DealRecord.terms)
        (recordInteraction_within (fun _ _ => rfl) _ _) (fun _ => ht.agree) fun _ u hagree => ?_
      refine ⟨ht.agree hagree, fun found quoted hfound hquoted => ?_⟩
      obtain ⟨old, hold, hterms⟩ := hagree.exists_of_get? hfound
      rw [hdeal] at hold
      cases hold
      simp only [DealRecord.terms, Prod.mk.injEq] at hterms
      rw [← hterms.1, hname, hagree.quotes, hquotes, hrecord] at hquoted
      cases hquoted
      exact hselects

/-- The countersigned contract selects what the proposal did. -/
theorem selects_of_countersignTerms {deal : DealRecord} {record : QuoteRecord}
    {proposal accepted : Value} {sig buyerAgentId termsDocumentHash : String}
    {chainId : Option Number}
    (h : countersignTerms seller deal record proposal sig chainId = .ok accepted)
    (hselects : Selects proposal buyerAgentId termsDocumentHash) :
    Selects accepted buyerAgentId termsDocumentHash := by
  obtain ⟨recomputed, _, h₁⟩ := bind_eq_ok.1 h
  have hfield {k : String} (hk : k ≠ "signatures") : field accepted k = field proposal k :=
    field_of_acceptTerms (Prod.ext h₁ rfl) hk
  obtain ⟨hbuyer, hpins⟩ := hselects
  refine ⟨(hfield (by decide)).trans hbuyer, ?_⟩
  rw [hfield (by decide)]
  exact hpins

/-- Accepting a contract that selects the quote of the deal. -/
theorem accept_ensures (h : Integrity s) (dealId sig : String) (chainId : Option Number)
    (proposedContract : Option Value)
    (hproposal : ∀ deal record, s.deals.get? dealId = some deal →
      s.quotes.get? deal.negotiationId = some record →
        Selects ((orElse proposedContract (some deal.contract)).getD .null) record.buyerAgentId
          record.termsDocumentHash) :
    Prog.Ensures (fun _ => Integrity) Integrity
      (accept seller dealId sig chainId proposedContract) s := by
  refine Prog.ensures_bind (Prog.ensures_mono (dealOf_ensures dealId) (fun _ _ h => h)
    (by rintro _ rfl; exact h)) ?_
  rintro r _ ⟨rfl, hfound⟩
  refine Prog.ensures_bind (Prog.ensures_mono (readDeal_ensures r) (fun _ _ h => h)
    (by rintro _ rfl; exact h)) ?_
  rintro deal _ ⟨rfl, hobject⟩
  refine Prog.ensures_get_bind ?_
  have hdeal := ObjectMap.get?_eq_some_iff.2 ⟨r, hfound, hobject⟩
  cases hrecord : InsertionMap.get? _ deal.negotiationId with
  | none => exact h
  | some record =>
      have hselects := hproposal deal record hdeal hrecord
      refine Prog.ensures_within_bind (R := Agree DealRecord.terms)
        (recordInteraction_within (fun _ _ => rfl) _ _) (fun _ => h.agree) fun _ t hagree => ?_
      have ht : Integrity t := h.agree hagree
      refine Prog.ensures_bind (Q := fun accepted t' => t' = t ∧ countersignTerms seller deal record
        ((orElse proposedContract (some deal.contract)).getD .null) sig chainId = .ok accepted)
        (Prog.ensures_onError (F := fun t' => t' = t)
          (Prog.ensures_lift (fun _ hok => ⟨rfl, hok⟩) rfl) ?_) ?_
      · rintro e _ rfl
        exact Prog.ensures_bind (recordInteraction_ensures ht _ _) fun _ u hu => hu
      · rintro accepted _ ⟨rfl, haccepted⟩
        refine Prog.ensures_modify_bind ?_
        refine Prog.ensures_bind (recordInteraction_ensures ?_ _ _) fun _ u hu => hu
        refine ht.rewrite ((hagree.find? dealId).trans hfound) (fun _ => rfl) (fun _ => rfl) ?_
        intro found quoted hfound' hquoted
        obtain ⟨old, hold, hterms⟩ := hagree.exists_of_get? hfound'
        rw [hdeal] at hold
        cases hold
        simp only [DealRecord.terms, Prod.mk.injEq] at hterms
        rw [← hterms.1, hagree.quotes, hrecord] at hquoted
        cases hquoted
        exact selects_of_countersignTerms haccepted hselects

end Seller

end Operations

end DataSeller

end Coordination
