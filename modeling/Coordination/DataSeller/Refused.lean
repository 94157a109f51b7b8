import Coordination.DataSeller.Integrity

/-!
# An acceptance that fails

`accept` records that it was asked, checks, and writes to the deal only after the last check.
When it throws, it has appended to the history of that deal and done nothing else.
-/

namespace Coordination

namespace DataSeller

open JavaScript Library Engine

/-- The stores differ in some entries appended to the history of one deal, which the counter of
the entries has counted. -/
structure Recorded (dealId : String) (s t : Stores) : Prop where
  negotiations : t.negotiations = s.negotiations
  quotes : t.quotes = s.quotes
  refs : t.deals.refs = s.deals.refs
  others : ∀ k, k ≠ dealId → t.deals.get? k = s.deals.get? k
  deal : ∃ entries : List HistoryEntry,
    t.deals.get? dealId = (s.deals.get? dealId).map (fun d => entries.foldl DealRecord.append d) ∧
      (s.deals.get? dealId ≠ none → t.historySequence = s.historySequence + entries.length)

namespace Recorded

variable {dealId : String} {s t u : Stores}

theorem refl (s : Stores) : Recorded dealId s s :=
  ⟨rfl, rfl, rfl, fun _ _ => rfl, [], by simp⟩

theorem trans (hst : Recorded dealId s t) (htu : Recorded dealId t u) : Recorded dealId s u := by
  obtain ⟨before, hbefore, hcount⟩ := hst.deal
  obtain ⟨after, hafter, hcount'⟩ := htu.deal
  refine ⟨htu.negotiations.trans hst.negotiations, htu.quotes.trans hst.quotes,
    htu.refs.trans hst.refs, fun k hk => (htu.others k hk).trans (hst.others k hk),
    before ++ after, ?_, fun hdeal => ?_⟩
  · rw [hafter, hbefore, Option.map_map]
    congr 1
    funext d
    exact (List.foldl_append ..).symm
  · have hdeal' : t.deals.get? dealId ≠ none := by
      rw [hbefore]
      simpa using hdeal
    rw [hcount' hdeal', hcount hdeal, List.length_append, Nat.add_assoc]

theorem find? (h : Recorded dealId s t) (k : String) : t.deals.find? k = s.deals.find? k := by
  rw [ObjectMap.find?, h.refs]
  rfl

theorem keys (h : Recorded dealId s t) : t.deals.keys = s.deals.keys := by
  rw [ObjectMap.keys, h.refs]
  rfl

end Recorded

/-- Entries change the history of a deal and its time of change. -/
theorem foldl_append_eq (entries : List HistoryEntry) (d : DealRecord) :
    ∃ history updatedAt, entries.foldl DealRecord.append d =
      { d with history, updatedAt } := by
  induction entries generalizing d with
  | nil => exact ⟨d.history, d.updatedAt, rfl⟩
  | cons entry entries ih =>
      obtain ⟨history, updatedAt, h⟩ := ih (d.append entry)
      exact ⟨history, updatedAt, h⟩

/-- An interaction of a deal that is stored is recorded. -/
theorem recordInteraction_recorded {dealId : String} {s : Stores} {r : ℕ}
    (hfound : s.deals.find? dealId = some r) (input : HistoryInput) :
    Prog.Ensures (fun _ t => Recorded dealId s t) (fun _ => False)
      (recordInteraction dealId input) s := by
  have hdeals (k : String) {f : DealRecord → DealRecord} (hf : ∀ d, (f d).dealId = d.dealId) :
      (s.deals.modify r f hf).get? k =
        if k = dealId then (s.deals.get? k).map f else s.deals.get? k := by
    rw [ObjectMap.get?_modify]
    refine if_congr ⟨fun hk => ObjectMap.find?_inj hk hfound, ?_⟩ rfl rfl
    rintro rfl
    exact hfound
  refine Prog.ensures_bind (Q := fun found t => found = r ∧ t = s) (Prog.ensures_get_bind ?_) ?_
  · rw [hfound]
    exact ⟨rfl, rfl⟩
  · rintro _ _ ⟨rfl, rfl⟩
    have hkey (entry : HistoryEntry) (d : DealRecord) : (d.append entry).dealId = d.dealId := rfl
    exact ⟨rfl, rfl, rfl, fun k hk => (hdeals k (hkey _)).trans (if_neg hk), [_],
      (hdeals dealId (hkey _)).trans (if_pos rfl), fun _ => rfl⟩

/-- What an acceptance that fails leaves of the stores: only the history of the deal and its time
of change may differ. -/
structure Unharmed (dealId : String) (s t : Stores) : Prop where
  negotiations : t.negotiations = s.negotiations
  quotes : t.quotes = s.quotes
  keys : t.deals.keys = s.deals.keys
  others : ∀ k, k ≠ dealId → t.deals.get? k = s.deals.get? k
  deal : ∀ d, s.deals.get? dealId = some d →
    ∃ history updatedAt, t.deals.get? dealId = some { d with history, updatedAt }

theorem unharmed_of_recorded {dealId : String} {s t : Stores} (h : Recorded dealId s t) :
    Unharmed dealId s t := by
  refine ⟨h.negotiations, h.quotes, h.keys, h.others, fun d hd => ?_⟩
  obtain ⟨entries, hentries, _⟩ := h.deal
  obtain ⟨history, updatedAt, heq⟩ := foldl_append_eq entries d
  exact ⟨history, updatedAt, by rw [hentries, hd, Option.map_some, heq]⟩

section Seller

variable [Digests] [Canonicalize] [HostLocale] [RecoverableEcdsa] (seller : Seller)

/-- An acceptance that fails has recorded that it was asked for, and at most that. -/
theorem accept_recorded (dealId sig : String) (chainId : Option Number)
    (proposedContract : Option Value) (s : Stores) :
    Prog.Ensures (fun _ _ => True) (Recorded dealId s)
      (accept seller dealId sig chainId proposedContract) s := by
  refine Prog.ensures_bind (Prog.ensures_mono (dealOf_ensures dealId) (fun _ _ h => h)
    (by rintro _ rfl; exact Recorded.refl _)) ?_
  rintro r t ⟨ht, hfound⟩
  obtain rfl := ht.symm
  refine Prog.ensures_bind (Prog.ensures_mono (readDeal_ensures r) (fun _ _ h => h)
    (by rintro _ rfl; exact Recorded.refl _)) ?_
  rintro deal t ⟨ht, _⟩
  obtain rfl := ht.symm
  refine Prog.ensures_get_bind ?_
  cases InsertionMap.get? s.quotes deal.negotiationId with
  | none => exact Recorded.refl _
  | some record =>
      refine Prog.ensures_bind (Prog.ensures_mono (recordInteraction_recorded hfound _)
        (fun _ _ h => h) fun _ => False.elim) fun _ t hasked => ?_
      have hfound' : t.deals.find? dealId = some r := (hasked.find? dealId).trans hfound
      refine Prog.ensures_bind (Q := fun _ => Recorded dealId s) (Prog.ensures_onError
        (F := fun u => u = t) (Prog.ensures_lift (fun _ _ => hasked) rfl) ?_) fun accepted u hu => ?_
      · -- a check has failed: the refusal is recorded
        rintro e _ rfl
        exact Prog.ensures_bind (Prog.ensures_mono (recordInteraction_recorded hfound' _)
          (fun _ _ h => hasked.trans h) fun _ => False.elim) fun _ _ h => h
      · -- nothing fails from the first write on
        refine Prog.ensures_modify_bind (Prog.ensures_bind (Prog.ensures_mono
          (recordInteraction_recorded (r := r) ?_ _) (fun _ _ _ => trivial) fun _ => False.elim)
          fun _ _ _ => trivial)
        exact (hu.find? dealId).trans hfound

/-- From any stores, `accept` returns or leaves the deal as it was, but for its history and its
time of change, and everything else. -/
theorem accept_fails_unharmed (dealId sig : String) (chainId : Option Number)
    (proposedContract : Option Value) (s : Stores) :
    Prog.Ensures (fun _ _ => True) (Unharmed dealId s)
      (accept seller dealId sig chainId proposedContract) s :=
  Prog.ensures_mono (accept_recorded seller dealId sig chainId proposedContract s)
    (fun _ _ h => h) fun _ => unharmed_of_recorded

end Seller

end DataSeller

end Coordination
