import Coordination.Library.Recent
import Coordination.DataSeller.Evolution
import Coordination.DataSeller.Runs

/-!
# The history of a deal

A deal starts with the history of its negotiation and gets an entry with each
interaction; it keeps the recent tail. The logs of the stores keep everything:
`Chronicled` says what each history is in terms of its log, and every call keeps it,
with the deals and negotiations it does not touch.
-/

namespace Coordination

namespace DataSeller

open JavaScript Library Engine

/-! ## Numbered entries -/

/-- Entries with rising numbers up to `n`. -/
structure Numbered (n : ℕ) (entries : List HistoryEntry) : Prop where
  rising : entries.Pairwise fun a b => a.sequence < b.sequence
  le : ∀ entry ∈ entries, entry.sequence ≤ n

namespace Numbered

variable {m n : ℕ} {entries : List HistoryEntry} {entry : HistoryEntry}

theorem mono (h : Numbered n entries) (hn : n ≤ m) : Numbered m entries :=
  ⟨h.rising, fun entry hentry => (h.le entry hentry).trans hn⟩

/-- The entry with the next number comes last. -/
theorem snoc (h : Numbered n entries) (hentry : entry.sequence = n + 1) :
    Numbered (n + 1) (entries ++ [entry]) := by
  refine ⟨List.pairwise_append.2 ⟨h.rising, List.pairwise_singleton .., ?_⟩, ?_⟩
  · intro old hold last hlast
    rw [List.mem_singleton.1 hlast, hentry]
    exact Nat.lt_succ_of_le (h.le old hold)
  · intro found hfound
    rcases List.mem_append.1 hfound with hold | hlast
    · exact (h.le found hold).trans (Nat.le_succ n)
    · rw [List.mem_singleton.1 hlast, hentry]

theorem singleton (hentry : entry.sequence = n + 1) : Numbered (n + 1) [entry] :=
  @snoc n [] entry ⟨.nil, nofun⟩ hentry

end Numbered

/-! ## Logs -/

/-- All entries of a deal, from its negotiation and its own, in order. -/
def HistoryLog.total (log : HistoryLog) : List HistoryEntry :=
  log.copied ++ log.recorded

theorem DealRecord.history_append (deal : DealRecord) (entry : HistoryEntry) :
    (deal.append entry).history = (deal.history ++ [entry]).rtake maxHistoryEntriesPerDeal := by
  simp only [DealRecord.append, List.rtake]

/-- A deal keeps the recent tail of its log, which is numbered up to `n`. -/
structure HistoryLog.Tells (n : ℕ) (log : HistoryLog) (deal : DealRecord) : Prop where
  history : deal.history = log.total.rtake maxHistoryEntriesPerDeal
  numbered : Numbered n log.total

namespace HistoryLog.Tells

variable {m n : ℕ} {log : HistoryLog} {deal : DealRecord}

theorem mono (h : log.Tells n deal) (hn : n ≤ m) : log.Tells m deal :=
  ⟨h.history, h.numbered.mono hn⟩

theorem rewrite (h : log.Tells n deal) {f : DealRecord → DealRecord}
    (hf : ∀ d, (f d).history = d.history) : log.Tells n (f deal) :=
  ⟨(hf deal).trans h.history, h.numbered⟩

/-- A new deal holds all of its log. -/
theorem start (hnumbered : Numbered n deal.history)
    (hlength : deal.history.length ≤ maxHistoryEntriesPerDeal) :
    HistoryLog.Tells n ⟨deal.history, []⟩ deal := by
  have htotal : HistoryLog.total ⟨deal.history, []⟩ = deal.history := List.append_nil _
  refine ⟨?_, ?_⟩
  · rw [htotal, rtake_of_length_le hlength]
  · rw [htotal]
    exact hnumbered

/-- What is appended to the log is appended to the deal, and its first entries fall away. -/
theorem append (h : log.Tells n deal) {entry : HistoryEntry} (hentry : entry.sequence = n + 1) :
    HistoryLog.Tells (n + 1) { log with recorded := log.recorded ++ [entry] }
      (deal.append entry) := by
  have htotal : HistoryLog.total { log with recorded := log.recorded ++ [entry] } =
      log.total ++ [entry] := (List.append_assoc ..).symm
  refine ⟨?_, ?_⟩
  · calc (deal.append entry).history
        = (deal.history ++ [entry]).rtake maxHistoryEntriesPerDeal := deal.history_append entry
      _ = (log.total ++ [entry]).rtake maxHistoryEntriesPerDeal := by
          rw [h.history, rtake_append_singleton]
      _ = _ := by rw [htotal]
  · rw [htotal]
    exact h.numbered.snoc hentry

end HistoryLog.Tells

/-! ## Sources -/

/-- Quotes have the history of their negotiation, and so has the log of a deal that is
held, where it was copied. -/
structure Sourced (s : Stores) : Prop where
  quotes : ∀ n record, s.quotes.get? n = some record →
    ∃ negotiation, s.negotiations.get? n = some negotiation ∧
      negotiation.history = record.history
  copied : ∀ d r deal log, s.deals.find? d = some r → s.deals.object? r = some deal →
    s.logs[r]? = some log → ∃ negotiation,
      s.negotiations.get? deal.negotiationId = some negotiation ∧
        negotiation.history = log.copied

namespace Sourced

variable {s : Stores}

theorem empty : Sourced Stores.empty where
  quotes := by simp [Stores.empty]
  copied := by simp [Stores.empty, ObjectMap.object?, ObjectMap.empty]

/-- A write that leaves the negotiation of the deal, and notes of what is recorded. -/
theorem rewrite (h : Sourced s) (r : ℕ) {f : DealRecord → DealRecord}
    (hf : ∀ d, (f d).dealId = d.dealId) (hname : ∀ d, (f d).negotiationId = d.negotiationId)
    {g : HistoryLog → HistoryLog} (hg : ∀ log, (g log).copied = log.copied) :
    Sourced { s with deals := s.deals.modify r f hf, logs := s.logs.modify r g } where
  quotes := h.quotes
  copied := by
    intro d r' deal log hr hdeal hlog
    have hdeal := (ObjectMap.object?_modify s.deals r f hf r').symm.trans hdeal
    by_cases heq : r' = r
    · subst heq
      rw [if_pos rfl] at hdeal
      rw [List.getElem?_modify_eq] at hlog
      obtain ⟨old, hold, rfl⟩ := Option.map_eq_some_iff.1 hdeal
      obtain ⟨before, hbefore, rfl⟩ := Option.map_eq_some_iff.1 hlog
      rw [hname, hg]
      exact h.copied d r' old before hr hold hbefore
    · rw [if_neg heq] at hdeal
      rw [List.getElem?_modify_ne _ _ (Ne.symm heq)] at hlog
      exact h.copied d r' deal log hr hdeal hlog

/-- A new deal starts with the history of its negotiation. -/
theorem create (h : Sourced s) (hlogs : s.logs.length = s.deals.objects.length)
    {deal : DealRecord} {record : QuoteRecord}
    (hrecord : s.quotes.get? deal.negotiationId = some record)
    (hhistory : deal.history = record.history) :
    Sourced { s with
      deals := s.deals.create deal, logs := s.logs ++ [⟨deal.history, []⟩] } where
  quotes := h.quotes
  copied := by
    intro d r found log hr hfound hlog
    by_cases hd : d = deal.dealId
    · subst hd
      have hself := (ObjectMap.find?_create_self s.deals deal).symm.trans hr
      obtain rfl := Option.some.inj hself
      rw [ObjectMap.object?, ObjectMap.create, List.getElem?_append_right le_rfl, Nat.sub_self]
        at hfound
      rw [← hlogs, List.getElem?_append_right le_rfl, Nat.sub_self] at hlog
      cases hfound
      cases hlog
      obtain ⟨negotiation, hnegotiation, hsame⟩ := h.quotes _ record hrecord
      exact ⟨negotiation, hnegotiation, hsame.trans hhistory.symm⟩
    · have hr := (ObjectMap.find?_create_of_ne s.deals hd).symm.trans hr
      obtain ⟨old, hold, _⟩ := ObjectMap.exists_of_find? hr
      have hlt : r < s.logs.length := hlogs ▸ (List.getElem?_eq_some_iff.1 hold).1
      have hsame := (ObjectMap.object?_create deal hold).symm.trans hfound
      obtain rfl := Option.some.inj hsame
      rw [List.getElem?_append_left hlt] at hlog
      exact h.copied d r old log hr hold hlog

theorem drop (h : Sourced s) (p : String → Bool) :
    Sourced { s with deals := s.deals.filterKeys p } where
  quotes := h.quotes
  copied := by
    intro d r deal log hr hdeal hlog
    simp only [ObjectMap.find?_filterKeys] at hr
    split_ifs at hr
    exact h.copied d r deal log hr hdeal hlog

/-- Other negotiations, among which those with a quote or a deal are as they were. -/
theorem renegotiate (h : Sourced s) {negotiations : InsertionMap String NegotiationRecord}
    (hkept : ∀ n negotiation, s.negotiations.get? n = some negotiation →
      ∃ new, negotiations.get? n = some new ∧ new.history = negotiation.history) :
    Sourced { s with negotiations } where
  quotes := by
    intro n record hrecord
    obtain ⟨negotiation, hn, hhistory⟩ := h.quotes n record hrecord
    obtain ⟨new, hnew, hsame⟩ := hkept n negotiation hn
    exact ⟨new, hnew, hsame.trans hhistory⟩
  copied := by
    intro d r deal log hr hdeal hlog
    obtain ⟨negotiation, hn, hhistory⟩ := h.copied d r deal log hr hdeal hlog
    obtain ⟨new, hnew, hsame⟩ := hkept _ negotiation hn
    exact ⟨new, hnew, hsame.trans hhistory⟩

/-- A write to a negotiation that leaves its history. -/
theorem annotate (h : Sourced s) (k : String) {f : NegotiationRecord → NegotiationRecord}
    (hf : ∀ negotiation, (f negotiation).history = negotiation.history) :
    Sourced { s with negotiations := s.negotiations.modify k f } := by
  refine h.renegotiate fun n negotiation hn => ?_
  rw [InsertionMap.get?_modify, hn]
  split_ifs
  · exact ⟨f negotiation, rfl, hf negotiation⟩
  · exact ⟨negotiation, rfl, rfl⟩

/-- A negotiation is entered under a new name. -/
theorem enter (h : Sourced s) {negotiation : NegotiationRecord}
    (hfresh : negotiation.negotiationId ∉ s.negotiations.keys) :
    Sourced { s with
      negotiations := s.negotiations.set negotiation.negotiationId negotiation } := by
  refine h.renegotiate fun n old hold => ⟨old, ?_, rfl⟩
  have hne : n ≠ negotiation.negotiationId := by
    rintro rfl
    exact hfresh (InsertionMap.get?_isSome_iff.1 (Option.isSome_of_eq_some hold))
  rw [InsertionMap.get?_set_of_ne _ _ hne, hold]

/-- A quote is stored with its negotiation. -/
theorem issue (h : Sourced s) {negotiation : NegotiationRecord} {record : QuoteRecord}
    (hnegotiation : s.negotiations.get? negotiation.negotiationId = some negotiation)
    (hhistory : negotiation.history = record.history) :
    Sourced { s with quotes := s.quotes.set negotiation.negotiationId record } where
  quotes := by
    intro n found hfound
    by_cases hn : n = negotiation.negotiationId
    · subst hn
      obtain rfl := Option.some.inj ((InsertionMap.get?_set_self ..).symm.trans hfound)
      exact ⟨negotiation, hnegotiation, hhistory⟩
    · exact h.quotes n found ((InsertionMap.get?_set_of_ne _ _ hn).symm.trans hfound)
  copied := h.copied

/-- No negotiation of a stored deal or of a quote that stays is part of the surplus. -/
theorem forget (h : Sourced s) (justIssued : String) : Sourced (s.withoutSurplus justIssued) := by
  refine ⟨fun n record hrecord => ?_, fun d r deal log hr hdeal hlog => ?_⟩
  · rw [quotes_withoutSurplus] at hrecord
    split_ifs at hrecord with hkept
    rw [get?_withoutSurplus, if_pos hkept]
    exact h.quotes n record hrecord
  · have hkept : deal.negotiationId ∉ s.surplusNegotiations justIssued :=
      Integrity.notMem_surplus (ObjectMap.get?_eq_some_iff.2 ⟨r, hr, hdeal⟩)
    rw [get?_withoutSurplus, if_pos hkept]
    exact h.copied d r deal log hr hdeal hlog

end Sourced

/-! ## The invariant -/

/-- Every log tells of its deal and every quote has a numbered history; where minted
ids have been fresh, both have them from their negotiations. -/
structure Chronicled (fresh : Prop) (s : Stores) : Prop where
  told : List.Forall₂ (HistoryLog.Tells s.historySequence) s.logs s.deals.objects
  quoted : ∀ n record, s.quotes.get? n = some record →
    Numbered s.historySequence record.history ∧
      record.history.length ≤ maxHistoryEntriesPerDeal
  sourced : fresh → Sourced s

namespace Chronicled

variable {fresh : Prop} {s : Stores}

theorem empty : Chronicled fresh Stores.empty where
  told := .nil
  quoted := by simp [Stores.empty]
  sourced := fun _ => Sourced.empty

theorem enter (h : Chronicled fresh s) (m : Moment) : Chronicled fresh (s.enter m) :=
  ⟨h.told, h.quoted, fun hfresh => ⟨(h.sourced hfresh).quotes, (h.sourced hfresh).copied⟩⟩

/-- The counter only goes up. -/
theorem count (h : Chronicled fresh s) {n : ℕ} (hn : s.historySequence ≤ n) :
    Chronicled fresh { s with historySequence := n } where
  told := h.told.imp fun _ _ htells => htells.mono hn
  quoted := fun k record hrecord =>
    ⟨(h.quoted k record hrecord).1.mono hn, (h.quoted k record hrecord).2⟩
  sourced := fun hfresh => ⟨(h.sourced hfresh).quotes, (h.sourced hfresh).copied⟩

/-- A write that leaves the history and the negotiation of the deal. -/
theorem rewrite (h : Chronicled fresh s) (r : ℕ) {f : DealRecord → DealRecord}
    (hf : ∀ d, (f d).dealId = d.dealId) (hhistory : ∀ d, (f d).history = d.history)
    (hname : ∀ d, (f d).negotiationId = d.negotiationId) :
    Chronicled fresh { s with deals := s.deals.modify r f hf } := by
  have htold := forall₂_modify (f := id) (fun _ _ htells => htells)
    (fun _ _ htells => htells.rewrite hhistory) h.told r
  have hsourced (hfresh : fresh) :=
    (h.sourced hfresh).rewrite r hf hname (g := id) fun _ => rfl
  rw [List.modify_id] at htold hsourced
  exact ⟨htold, h.quoted, hsourced⟩

/-- One more entry on a deal. -/
theorem record (h : Chronicled fresh s) (r : ℕ) {entry : HistoryEntry}
    (hentry : entry.sequence = s.historySequence + 1) :
    Chronicled fresh { s with
      historySequence := s.historySequence + 1
      logs := s.logs.modify r fun log => { log with recorded := log.recorded ++ [entry] }
      deals := s.deals.modify r (fun deal => deal.append entry) fun _ => rfl } where
  told := forall₂_modify (fun _ _ htells => htells.mono (Nat.le_succ _))
    (fun _ _ htells => htells.append hentry) h.told r
  quoted := (h.count (Nat.le_succ _)).quoted
  sourced := fun hfresh =>
    ((h.count (Nat.le_succ _)).sourced hfresh).rewrite (f := fun deal => deal.append entry)
      (g := fun log => { log with recorded := log.recorded ++ [entry] }) r (fun _ => rfl)
      (fun _ => rfl) fun _ => rfl

/-- A new deal starts with the history of the quote it selects. -/
theorem create (h : Chronicled fresh s) {deal : DealRecord} {record : QuoteRecord}
    (hrecord : s.quotes.get? deal.negotiationId = some record)
    (hhistory : deal.history = record.history) :
    Chronicled fresh { s with
      deals := s.deals.create deal, logs := s.logs ++ [⟨deal.history, []⟩] } where
  told := by
    obtain ⟨hnumbered, hlength⟩ := h.quoted _ record hrecord
    rw [← hhistory] at hnumbered hlength
    exact List.rel_append h.told (.cons (.start hnumbered hlength) .nil)
  quoted := h.quoted
  sourced := fun hfresh => (h.sourced hfresh).create h.told.length_eq hrecord hhistory

/-- Deals that are no longer held keep their logs. -/
theorem drop (h : Chronicled fresh s) (p : String → Bool) :
    Chronicled fresh { s with deals := s.deals.filterKeys p } :=
  ⟨h.told, h.quoted, fun hfresh => (h.sourced hfresh).drop p⟩

theorem annotate (h : Chronicled fresh s) (k : String)
    {f : NegotiationRecord → NegotiationRecord}
    (hf : ∀ negotiation, (f negotiation).history = negotiation.history) :
    Chronicled fresh { s with negotiations := s.negotiations.modify k f } :=
  ⟨h.told, h.quoted, fun hfresh => (h.sourced hfresh).annotate k hf⟩

theorem forget (h : Chronicled fresh s) (justIssued : String) :
    Chronicled fresh (s.withoutSurplus justIssued) := by
  refine ⟨h.told, fun n record hrecord => ?_, fun hfresh =>
    (h.sourced hfresh).forget justIssued⟩
  rw [quotes_withoutSurplus] at hrecord
  split_ifs at hrecord
  exact h.quoted n record hrecord

/-- A negotiation is entered, with the quote where one is issued. -/
theorem negotiate (h : Chronicled fresh s) {negotiation : NegotiationRecord}
    (hfresh : fresh → negotiation.negotiationId ∉ s.negotiations.keys) :
    Chronicled fresh { s with
      negotiations := s.negotiations.set negotiation.negotiationId negotiation } :=
  ⟨h.told, h.quoted, fun hf => (h.sourced hf).enter (hfresh hf)⟩

theorem issue (h : Chronicled fresh s) {negotiation : NegotiationRecord} {record : QuoteRecord}
    (hfresh : fresh → negotiation.negotiationId ∉ s.negotiations.keys)
    (hhistory : negotiation.history = record.history)
    (hnumbered : Numbered s.historySequence record.history)
    (hlength : record.history.length ≤ maxHistoryEntriesPerDeal) :
    Chronicled fresh { s with
      negotiations := s.negotiations.set negotiation.negotiationId negotiation
      quotes := s.quotes.set negotiation.negotiationId record } where
  told := h.told
  quoted := by
    intro n found hfound
    by_cases hn : n = negotiation.negotiationId
    · subst hn
      obtain rfl := Option.some.inj ((InsertionMap.get?_set_self ..).symm.trans hfound)
      exact ⟨hnumbered, hlength⟩
    · exact h.quoted n found ((InsertionMap.get?_set_of_ne _ _ hn).symm.trans hfound)
  sourced := fun hf =>
    ((h.sourced hf).enter (hfresh hf)).issue (InsertionMap.get?_set_self ..) hhistory

/-! ## Calls -/

/-- A step keeps the invariant. -/
def Kept (fresh : Prop) (s t : Stores) : Prop :=
  Chronicled fresh s → Chronicled fresh t

theorem frame : Frame (Kept fresh) :=
  ⟨fun _ => id, fun hst htu hs => htu (hst hs)⟩

theorem recordInteraction_within (dealId : String) (input : HistoryInput) :
    Prog.Within (Kept fresh) (recordInteraction dealId input) := by
  refine fun s hs => Prog.state_of_ensures ?_
  refine Prog.ensures_bind (Prog.ensures_mono (dealOf_ensures dealId) (fun _ _ h => h)
    (by rintro _ rfl; exact hs)) ?_
  rintro r _ ⟨rfl, _⟩
  exact hs.record r rfl

theorem writeDeal_within (r : ℕ) {f : DealRecord → DealRecord}
    (hf : ∀ d, (f d).dealId = d.dealId) (hhistory : ∀ d, (f d).history = d.history)
    (hname : ∀ d, (f d).negotiationId = d.negotiationId) :
    Prog.Within (Kept fresh) (writeDeal r f hf) :=
  Prog.within_modify fun _ hs => hs.rewrite r hf hhistory hname

theorem pruneDeals_within : Prog.Within (Kept fresh) pruneDeals := by
  have hstep {s : Stores} (hs : Chronicled fresh s) (d : String) :
      Chronicled fresh (s.deleteDeal d) := by
    unfold Stores.deleteDeal
    split
    · exact hs
    · exact (hs.drop _).annotate _ fun _ => rfl
  have hall (ids : List String) {s : Stores} (hs : Chronicled fresh s) :
      Chronicled fresh (ids.foldl Stores.deleteDeal s) := by
    induction ids generalizing s with
    | nil => exact hs
    | cons d ids ih => exact ih (hstep hs d)
  exact fun s hs => hall s.reclaimed hs

theorem insertDeal_run (hs : Chronicled fresh s) {dealId negotiationId : String}
    {record : QuoteRecord} (contract : Value) (buyerAddress : String)
    (hrecord : s.quotes.get? negotiationId = some record) :
    Chronicled fresh ((insertDeal dealId negotiationId record contract buyerAddress).run s).2 := by
  have hcreated := @Chronicled.create fresh s hs (proposedDeal dealId negotiationId record contract
    buyerAddress s.now) record hrecord rfl
  rw [DataSeller.insertDeal_run]
  cases s.negotiations.get? negotiationId with
  | none => exact hcreated
  | some _ => exact hcreated.annotate negotiationId fun _ => rfl

theorem historyEntry_ensures (s : Stores) (input : HistoryInput) :
    Prog.Ensures (fun entry t => t = { s with historySequence := s.historySequence + 1 } ∧
        entry.sequence = s.historySequence + 1) (fun _ => False) (historyEntry input) s :=
  ⟨rfl, rfl⟩

theorem closeNegotiation_ensures (hs : Chronicled fresh s) {negotiation : NegotiationRecord}
    (hfresh : fresh → negotiation.negotiationId ∉ s.negotiations.keys) (facts : QuoteFacts)
    (summary : String) :
    Prog.Ensures (fun _ => Chronicled fresh) (Chronicled fresh)
      (closeNegotiation facts negotiation summary) s := by
  refine Prog.ensures_bind (Prog.ensures_mono (historyEntry_ensures s _) (fun _ _ h => h)
    fun _ => False.elim) ?_
  rintro answer _ ⟨rfl, _⟩
  refine Prog.ensures_modify_bind (pruneNegotiations_bind_ensures (Prog.ensures_pure ?_))
  refine Chronicled.forget ?_ _
  exact (hs.count (Nat.le_succ _)).negotiate hfresh

theorem issueQuote_ensures [Digests] [Canonicalize] (seller : Seller) (hs : Chronicled fresh s)
    {negotiation : NegotiationRecord}
    (hfresh : fresh → negotiation.negotiationId ∉ s.negotiations.keys)
    (hnumbered : Numbered s.historySequence negotiation.history)
    (hlength : negotiation.history.length < maxHistoryEntriesPerDeal) (facts : QuoteAccepted)
    (statsHash : String) :
    Prog.Ensures (fun _ => Chronicled fresh) (Chronicled fresh)
      (issueQuote seller facts negotiation statsHash) s := by
  unfold issueQuote
  split
  · refine Prog.ensures_lift_bind hs fun termsDocumentHash _ => ?_
    refine Prog.ensures_bind (Prog.ensures_mono (historyEntry_ensures s _) (fun _ _ h => h)
      fun _ => False.elim) ?_
    rintro answer _ ⟨rfl, hanswer⟩
    have hgrown : (negotiation.history ++ [answer]).length ≤ maxHistoryEntriesPerDeal := by
      rw [List.length_append]
      exact hlength
    refine Prog.ensures_modify_bind (pruneNegotiations_bind_ensures (Prog.ensures_pure ?_))
    refine Chronicled.forget ?_ _
    exact (hs.count (Nat.le_succ _)).issue hfresh rfl (hnumbered.snoc hanswer) hgrown
  · exact hs

variable [Digests] [Canonicalize] [HostLocale] {seller : Seller}

/-- A negotiation starts with the entry of its query and gets that of the answer. -/
theorem quote_ensures (hs : Chronicled fresh s)
    (hfresh : fresh → mintedNegotiation s ∉ s.negotiations.keys) (buyerAgentId : String)
    (body : Option Value) :
    Prog.Ensures (fun _ => Chronicled fresh) (Chronicled fresh) (quote seller buyerAgentId body)
      s := by
  refine Prog.ensures_lift_bind hs fun _ _ => ?_
  refine Prog.ensures_get_bind ?_
  refine Prog.ensures_bind (Prog.ensures_mono (historyEntry_ensures s _) (fun _ _ h => h)
    fun _ => False.elim) ?_
  rintro queryEntry _ ⟨rfl, hquery⟩
  have ht := hs.count (Nat.le_succ _)
  have hnumbered := Numbered.singleton hquery
  have hlength : [queryEntry].length < maxHistoryEntriesPerDeal :=
    (by decide : 1 < maxHistoryEntriesPerDeal)
  refine Prog.ensures_lift_bind ht fun facts _ => ?_
  cases facts with
  | refused rejections => exact ht.closeNegotiation_ensures hfresh _ _
  | accepted facts =>
      simp only
      split
      · split_ifs
        · exact ht.closeNegotiation_ensures hfresh _ _
        · exact ht.issueQuote_ensures seller hfresh hnumbered hlength _ _
      · exact ht.closeNegotiation_ensures hfresh _ _

variable [RecoverableEcdsa]

/-- Every call keeps the chronicle, whatever deals and negotiations it is about. -/
theorem sellerBody_keeps {C : System.Condition Stores Request Reply SellerJob Empty}
    (job : SellerJob) (hs : Chronicled fresh s) (hfresh : fresh → Fresh s job) :
    (sellerSystem seller).Keeps C (Chronicled fresh) (fun _ _ => True) (sellerBody seller job)
      s := by
  have hwithin {α : Type} {p : SellerProg α}
      (hp : Prog.Within (Kept fresh) p) :
      Prog.Ensures (fun _ => Chronicled fresh) (Chronicled fresh) p s :=
    Prog.ensures_of_state (hp s hs)
  have hobserve (dealId : String) (status : Option Value) (summary : Option String) :
      Prog.Within (Kept fresh)
        (observeRuntimeStatus dealId status summary) :=
    frame.observeRuntimeStatus_within (recordInteraction_within dealId)
      (fun r _ _ => writeDeal_within r _ (fun _ => rfl) fun _ => rfl) status summary
  have haccept (dealId sig : String) (chainId : Option Number) (proposed : Option Value) :
      Prog.Within (Kept fresh)
        (accept seller dealId sig chainId proposed) :=
    frame.accept_within (recordInteraction_within dealId)
      (fun r _ => writeDeal_within r _ (fun _ => rfl) fun _ => rfl) sig chainId proposed
  have hinsert (s : Stores) (dealId negotiationId : String) (record : QuoteRecord)
      (contract : Value) (buyerAddress : String)
      (hrecord : s.quotes.get? negotiationId = some record) :
      Kept fresh s ((insertDeal dealId negotiationId record contract buyerAddress).run s).2 :=
    fun hs => hs.insertDeal_run contract buyerAddress hrecord
  have hdelivered (r : ℕ) (cap : String) (out : DeliveryResult) :
      Prog.Within (Kept fresh) (writeDeal r (fun deal => { deal with
        capabilityToken := some cap
        manifest := some out.manifest
        manifestBytes := some out.manifestBytes
        deliveryHash := some out.deliveryHash
        csvBytes := some out.bytes
        state := .DELIVERED_LOCAL }) fun _ => rfl) :=
    writeDeal_within r _ (fun _ => rfl) fun _ => rfl
  cases job with
  | quote buyerAgentId body => exact keeps_discard (quote_ensures hs hfresh _ _)
  | propose negotiationId contract buyerAddress =>
      exact keeps_discard (hwithin
        (frame.propose_within pruneDeals_within hinsert recordInteraction_within _ _ _))
  | accept dealId sig => exact keeps_discard (hwithin (haccept _ _ _ _))
  | countersign dealId negotiationId contract buyerAddress status sig chainId =>
      refine keeps_discard (hwithin (frame.bind (frame.registerLiveDeal_within pruneDeals_within
        hinsert recordInteraction_within _ _ _ _) fun _ => ?_))
      exact frame.bind (hobserve _ _ _) fun _ => haccept _ _ _ _
  | record dealId input =>
      exact stable_of_prog (recordInteraction_within dealId input) (fun h => h) s hs
  | observe dealId status summary =>
      exact stable_of_prog (hobserve dealId status summary) (fun h => h) s hs
  | prepare dealId =>
      exact Async.stable_bind (frame.prepareDelivery_stable (fun h => h) (fun m _ h => h.enter m)
        recordInteraction_within hdelivered dealId) (fun _ => Async.stable_ret _) s hs
  | deliver dealId anchors evidenceId =>
      exact Async.stable_bind (frame.deliver_stable (fun h => h) (fun m _ h => h.enter m)
        recordInteraction_within hdelivered dealId anchors evidenceId)
        (fun _ => Async.stable_ret _) s hs
  | revoke dealId =>
      exact stable_of_prog (frame.revokeCapability_within (recordInteraction_within dealId)
        fun r => writeDeal_within r _ (fun _ => rfl) fun _ => rfl) (fun h => h) s hs

end Chronicled

/-! ## Histories in every run -/

section Runs

variable [Digests] [Canonicalize] [HostLocale] [RecoverableEcdsa] {seller : Seller}
  {es : List (System.Event Reply SellerJob Moment Empty)}
  {c : System.Config Failure Stores Request Reply SellerJob}

theorem chronicled_of_run {C : System.Condition Stores Request Reply SellerJob Empty}
    {fresh : Prop} (hC : fresh → ∀ job s, C.starts job s → Fresh s job)
    (hmeets : (sellerSystem seller).machine.Meets ((sellerSystem seller).Meets C) es)
    (hrun : (sellerSystem seller).machine.run es = some c) : Chronicled fresh c.state := by
  refine System.run_invariant (S := sellerSystem seller) (C := C) (I := Chronicled fresh)
    (G := fun _ _ => True) ⟨fun _ => trivial, fun _ _ => trivial, fun _ _ => trivial,
      fun _ _ => trivial, fun _ _ _ _ => trivial⟩ Chronicled.empty ?_ nofun hmeets hrun
  intro job m s hs hstarts
  exact Chronicled.sellerBody_keeps job (hs.enter m) fun hfresh => hC hfresh job _ hstarts

/-- In every run, the history of a deal is the recent tail of what it started with
and what was recorded on it, with rising numbers. Where the minted ids were fresh, a
stored deal started with the history of its negotiation. -/
theorem history_recent (hrun : (sellerSystem seller).machine.run es = some c) {r : ℕ}
    {deal : DealRecord} (hdeal : c.state.deals.object? r = some deal) :
    ∃ log, c.state.logs[r]? = some log ∧
      deal.history = (log.copied ++ log.recorded).rtake
        (min maxHistoryEntriesPerDeal (log.copied ++ log.recorded).length) ∧
      ((log.copied ++ log.recorded).Pairwise fun a b => a.sequence < b.sequence) ∧
      ((sellerSystem seller).machine.Meets ((sellerSystem seller).Meets freshIds) es →
        c.state.deals.find? deal.dealId = some r →
          ∃ negotiation, c.state.negotiations.get? deal.negotiationId = some negotiation ∧
            log.copied = negotiation.history) := by
  have hany : Chronicled False c.state :=
    chronicled_of_run (C := System.Condition.any) False.elim (System.meets_any _ es) hrun
  obtain ⟨log, hlog, htells⟩ := exists_of_forall₂ hany.told hdeal
  refine ⟨log, hlog, ?_, htells.numbered.rising, fun hmeets hheld => ?_⟩
  · calc deal.history
        = log.total.rtake maxHistoryEntriesPerDeal := htells.history
      _ = (log.total.rtake log.total.length).rtake maxHistoryEntriesPerDeal := by
          rw [rtake_of_length_le le_rfl]
      _ = _ := rtake_rtake ..
  · have hfresh : Chronicled True c.state :=
      chronicled_of_run (C := freshIds) (fun _ _ _ h => h) hmeets hrun
    obtain ⟨negotiation, hn, hcopied⟩ :=
      (hfresh.sourced trivial).copied _ r deal log hheld hdeal hlog
    exact ⟨negotiation, hn, hcopied.symm⟩

end Runs

section Demo

attribute [local instance] Digests.checksum HostLocale.ascii Canonicalize.plain
  RecoverableEcdsa.transparent

/-- The history of a deal that was proposed in a run. -/
theorem history_recent_demo : ∃ c deal r log,
    Reachable (demoSeller oneTractCorpus) c ∧ c.state.deals.find? (floodId 0) = some r ∧
      c.state.deals.object? r = some deal ∧ c.state.logs[r]? = some log ∧
      deal.history = (log.copied ++ log.recorded).rtake
        (min maxHistoryEntriesPerDeal (log.copied ++ log.recorded).length) ∧
      ((log.copied ++ log.recorded).Pairwise fun a b => a.sequence < b.sequence) ∧
      ∃ negotiation, c.state.negotiations.get? deal.negotiationId = some negotiation ∧
        log.copied = negotiation.history := by
  obtain ⟨hash, hfull⟩ := exists_demo_flooded
  obtain ⟨c, hreachable, hflooded⟩ := hfull 1 (by decide)
  have hheld : floodId 0 ∈ c.state.deals.keys := by
    rw [hflooded.keys]
    exact List.mem_cons_self
  obtain ⟨deal, hget⟩ := Option.isSome_iff_exists.1 (ObjectMap.get?_isSome_iff.2 hheld)
  obtain ⟨r, hr, hdeal⟩ := ObjectMap.get?_eq_some_iff.1 hget
  have hname := ObjectMap.key_of_find? hr hdeal
  have hrun := hreachable
  obtain ⟨es, hmeets, hrun⟩ := hrun
  obtain ⟨log, hlog, hhistory, hrising, hsourced⟩ := history_recent hrun hdeal
  exact ⟨c, deal, r, log, hreachable, hr, hdeal, hlog, hhistory, hrising,
    hsourced hmeets (hname ▸ hr)⟩

end Demo

end DataSeller

end Coordination
