import Coordination.DataSeller.Bounds

/-!
# What a registration evicts

A proposal and a live registration make room before they look at what they were
sent. A call that then fails, or that finds its deal registered already, has made
room all the same. It drops no deal within its time exactly when there was room, and
it finds the deal of a retry exactly when that deal was not past its time either.
-/

namespace Coordination

namespace DataSeller

open JavaScript Library Engine

/-- There is room for one more reclaimable deal. -/
def Stores.HasRoom (s : Stores) : Prop :=
  s.keptDeals.length < maxReclaimableDeals

/-- The deals within their time are the same records after as before. -/
def KeepsDeals (s t : Stores) : Prop :=
  ∀ d deal, s.deals.get? d = some deal → deal.expired s.now = false →
    t.deals.find? d = s.deals.find? d

/-- The deals that were stored still are, and every other one is new. -/
structure Extends (s t : Stores) : Prop where
  kept : ∀ d r, s.deals.find? d = some r → t.deals.find? d = some r
  new : ∀ d r, t.deals.find? d = some r →
    s.deals.find? d = some r ∨ s.deals.objects.length ≤ r

/-! ## Pruning -/

theorem find?_pruned (s : Stores) (d : String) :
    s.pruned.deals.find? d = if d ∈ s.reclaimed then none else s.deals.find? d :=
  (deals_foldl_deleteDeal s.reclaimed s).2 d

/-- The names of the pruned deals are those of the records. -/
theorem mem_reclaimed {s : Stores} {d : String} {deal : DealRecord}
    (hdeal : s.deals.get? d = some deal) :
    d ∈ s.reclaimed ↔ isReclaimableDeal deal = true ∧ (deal.expired s.now = true ∨
      deal ∈ s.keptDeals.take (s.keptDeals.length - (maxReclaimableDeals - 1))) := by
  have hname {k : String} {other : DealRecord} (h : s.deals.get? k = some other) :
      other.dealId = k := by
    obtain ⟨r, hr, hobject⟩ := ObjectMap.get?_eq_some_iff.1 h
    exact ObjectMap.key_of_find? hr hobject
  have hsame {other : DealRecord} (hother : other ∈ s.dealRecords) (hd : other.dealId = d) :
      other = deal := by
    obtain ⟨k, hk⟩ := Integrity.mem_dealRecords.1 hother
    rw [← hname hk, hd, hdeal] at hk
    exact (Option.some.inj hk).symm
  have hstored : deal ∈ s.dealRecords := Integrity.mem_dealRecords.2 ⟨d, hdeal⟩
  have hkept {other : DealRecord} (h : other ∈ s.keptDeals) :
      other ∈ s.dealRecords ∧ isReclaimableDeal other = true :=
    List.mem_filter.1 (List.mem_of_mem_filter h)
  change d ∈ (((s.dealRecords.filter isReclaimableDeal).filter fun deal => deal.expired s.now) ++
    s.keptDeals.take (s.keptDeals.length - (maxReclaimableDeals - 1))).map DealRecord.dealId ↔ _
  rw [List.mem_map]
  constructor
  · rintro ⟨other, hother, hd⟩
    rcases List.mem_append.1 hother with hother | hother
    · obtain ⟨hmem, hexpired⟩ := List.mem_filter.1 hother
      obtain ⟨hrecord, hreclaimable⟩ := List.mem_filter.1 hmem
      rw [hsame hrecord hd] at hreclaimable hexpired
      exact ⟨hreclaimable, Or.inl hexpired⟩
    · obtain ⟨hrecord, hreclaimable⟩ := hkept (List.mem_of_mem_take hother)
      rw [hsame hrecord hd] at hreclaimable hother
      exact ⟨hreclaimable, Or.inr hother⟩
  · rintro ⟨hreclaimable, hexpired | hsurplus⟩
    · exact ⟨deal, List.mem_append_left _ (List.mem_filter.2
        ⟨List.mem_filter.2 ⟨hstored, hreclaimable⟩, hexpired⟩), hname hdeal⟩
    · exact ⟨deal, List.mem_append_right _ hsurplus, hname hdeal⟩

/-- With room, only deals past their time are pruned. -/
theorem Stores.HasRoom.notMem_reclaimed {s : Stores} (h : s.HasRoom) {d : String}
    {deal : DealRecord} (hdeal : s.deals.get? d = some deal)
    (hlive : ¬ (isReclaimableDeal deal = true ∧ deal.expired s.now = true)) :
    d ∉ s.reclaimed := by
  intro hmem
  obtain ⟨hreclaimable, hexpired | hsurplus⟩ := (mem_reclaimed hdeal).1 hmem
  · exact hlive ⟨hreclaimable, hexpired⟩
  · have hnone : s.keptDeals.length - (maxReclaimableDeals - 1) = 0 := by
      unfold Stores.HasRoom at h
      omega
    rw [hnone, List.take_zero] at hsurplus
    exact List.not_mem_nil hsurplus

/-- Without room, a deal within its time is pruned. -/
theorem exists_reclaimed {s : Stores} (h : ¬ s.HasRoom) : ∃ d deal,
    s.deals.get? d = some deal ∧ deal.expired s.now = false ∧ d ∈ s.reclaimed := by
  have hpositive := maxReclaimableDeals_pos
  unfold Stores.HasRoom at h
  obtain ⟨deal, rest, hkept⟩ := List.exists_cons_of_ne_nil
    (List.ne_nil_of_length_pos (by omega : 0 < s.keptDeals.length))
  have hsurplus : deal ∈ s.keptDeals.take (s.keptDeals.length - (maxReclaimableDeals - 1)) := by
    obtain ⟨n, hn⟩ : ∃ n, s.keptDeals.length - (maxReclaimableDeals - 1) = n + 1 :=
      ⟨s.keptDeals.length - maxReclaimableDeals, by omega⟩
    rw [hn, hkept, List.take_succ_cons]
    exact List.mem_cons_self
  obtain ⟨hmem, hunexpired⟩ := List.mem_filter.1 (List.mem_of_mem_take hsurplus)
  obtain ⟨hrecord, hreclaimable⟩ := List.mem_filter.1 hmem
  obtain ⟨d, hdeal⟩ := Integrity.mem_dealRecords.1 hrecord
  exact ⟨d, deal, hdeal, by simpa using hunexpired,
    (mem_reclaimed hdeal).2 ⟨hreclaimable, Or.inr hsurplus⟩⟩

/-- Whatever is added after the pruning, the deals within their time are kept exactly
when there was room. -/
theorem keepsDeals_iff {s t : Stores} (h : Extends s.pruned t) :
    KeepsDeals s t ↔ s.HasRoom := by
  constructor
  · intro hkeeps
    by_contra hfull
    obtain ⟨d, deal, hdeal, hunexpired, hreclaimed⟩ := exists_reclaimed hfull
    obtain ⟨r, hr, hobject⟩ := ObjectMap.get?_eq_some_iff.1 hdeal
    have hfound := (hkeeps d deal hdeal hunexpired).trans hr
    rcases h.new d r hfound with hold | hnew
    · rw [find?_pruned, if_pos hreclaimed] at hold
      cases hold
    · have hpruned : s.pruned.deals.object? r = some deal :=
        ((kept_foldl_deleteDeal s.reclaimed s).2.2.2 r).trans hobject
      exact absurd (List.getElem?_eq_some_iff.1 hpruned).1 (not_lt.2 hnew)
  · intro hroom d deal hdeal hunexpired
    obtain ⟨r, hr, _⟩ := ObjectMap.get?_eq_some_iff.1 hdeal
    rw [hr]
    refine h.kept d r ?_
    rw [find?_pruned, if_neg (hroom.notMem_reclaimed hdeal (by simp [hunexpired])), hr]

/-! ## The calls -/

namespace Extends

variable {s t u : Stores}

theorem refl (s : Stores) : Extends s s :=
  ⟨fun _ _ h => h, fun _ _ h => Or.inl h⟩

theorem of_agree {β : Type} {view : DealRecord → β} (h : Extends s t) (hagree : Agree view t u) :
    Extends s u := by
  refine ⟨fun d r hr => ?_, fun d r hr => h.new d r ?_⟩
  · rw [hagree.find?]
    exact h.kept d r hr
  · rw [← hagree.find?]
    exact hr

/-- A deal held under a name that was free. -/
theorem insertDeal_ensures {dealId negotiationId buyerAddress : String} {record : QuoteRecord}
    {contract : Value} (hfresh : dealId ∉ s.deals.keys) :
    Prog.Ensures (fun r t => Extends s t ∧ s.deals.objects.length ≤ r) (Extends s)
      (insertDeal dealId negotiationId record contract buyerAddress) s := by
  have hcreated {t : Stores} (ht : t.deals = s.deals.create
      (proposedDeal dealId negotiationId record contract buyerAddress s.now)) : Extends s t := by
    have hself := ObjectMap.find?_create_self s.deals
      (proposedDeal dealId negotiationId record contract buyerAddress s.now)
    refine ⟨fun d r hr => ?_, fun d r hr => ?_⟩
    · have hne : d ≠ dealId := by
        rintro rfl
        exact hfresh (InsertionMap.get?_isSome_iff.1 (Option.isSome_of_eq_some hr))
      rw [ht, ObjectMap.find?_create_of_ne _ hne]
      exact hr
    · rw [ht] at hr
      by_cases hd : d = dealId
      · subst hd
        exact Or.inr (Option.some.inj (hself.symm.trans hr)).le
      · exact Or.inl ((ObjectMap.find?_create_of_ne s.deals hd).symm.trans hr)
  unfold Prog.Ensures
  rw [insertDeal_run]
  cases s.negotiations.get? negotiationId with
  | none => exact hcreated rfl
  | some _ => exact ⟨hcreated rfl, le_rfl⟩

end Extends

theorem propose_extends [Digests] [Canonicalize] {s : Stores}
    (hfresh : mintedDeal s ∉ s.deals.keys) (negotiationId : String) (contract : Value)
    (buyerAddress : String) :
    Prog.Ensures (fun _ => Extends s.pruned) (Extends s.pruned)
      (propose negotiationId contract buyerAddress) s := by
  have hwithin (dealId : String) (input : HistoryInput) :
      Prog.Within (Agree DealRecord.terms) (recordInteraction dealId input) :=
    recordInteraction_within (fun _ _ => rfl) dealId input
  have hrefl := Extends.refl s.pruned
  refine Prog.ensures_modify_bind ?_
  refine Prog.ensures_bind (Prog.ensures_mono (selectedQuote_ensures negotiationId contract)
    (fun _ _ h => h) (by rintro _ rfl; exact hrefl)) ?_
  rintro record _ ⟨rfl, _⟩
  refine Prog.ensures_get_bind ?_
  have hminted : mintedDeal s.pruned ∉ s.pruned.deals.keys := by
    rw [mintedDeal, Stores.pruned, (kept_foldl_deleteDeal s.reclaimed s).2.2.1]
    exact notMem_keys_pruned hfresh
  refine Prog.ensures_bind (Extends.insertDeal_ensures hminted) fun _ t ht => ?_
  refine Prog.ensures_within_bind (hwithin _ _) (fun _ => ht.1.of_agree) fun _ u hu => ?_
  refine Prog.ensures_lift_bind (ht.1.of_agree hu) fun _ _ => ?_
  exact Prog.ensures_within_bind (hwithin _ _) (fun _ => (ht.1.of_agree hu).of_agree)
    fun _ v hv => (ht.1.of_agree hu).of_agree hv

/-- The reference a registration returns is the stored one, or that of a new record. -/
theorem registerLiveDeal_extends [HostLocale] (s : Stores) (dealId negotiationId : String)
    (contract : Value) (buyerAddress : String) :
    Prog.Ensures (fun r t => Extends s.pruned t ∧
        (s.pruned.deals.find? dealId = some r ∨ s.pruned.deals.objects.length ≤ r))
      (Extends s.pruned) (registerLiveDeal dealId negotiationId contract buyerAddress) s := by
  have hrefl := Extends.refl s.pruned
  refine Prog.ensures_modify_bind ?_
  refine Prog.ensures_bind (Prog.ensures_mono (selectedQuote_ensures negotiationId contract)
    (fun _ _ h => h) (by rintro _ rfl; exact hrefl)) ?_
  rintro record _ ⟨rfl, _⟩
  refine Prog.ensures_get_bind ?_
  rw [show s.reclaimed.foldl Stores.deleteDeal s = s.pruned from rfl]
  cases hfound : s.pruned.deals.find? dealId with
  | some r =>
      refine Prog.ensures_bind (Prog.ensures_mono (readDeal_ensures r) (fun _ _ h => h)
        (by rintro _ rfl; exact hrefl)) ?_
      rintro existing _ ⟨rfl, _⟩
      exact Prog.ensures_lift_bind hrefl fun _ _ => ⟨hrefl, Or.inl rfl⟩
  | none =>
      have hfresh : dealId ∉ s.pruned.deals.keys := by
        rw [← ObjectMap.get?_isSome_iff, ObjectMap.get?, hfound]
        simp
      refine Prog.ensures_bind (Extends.insertDeal_ensures hfresh) fun r t ht => ?_
      refine Prog.ensures_within_bind (R := Agree DealRecord.terms)
        (recordInteraction_within (fun _ _ => rfl) _ _) (fun _ => ht.1.of_agree) fun _ u hu => ?_
      exact ⟨ht.1.of_agree hu, Or.inr ht.2⟩

/-! ## Retries -/

/-- A registration repeats one that is stored. -/
structure Retries [HostLocale] (s : Stores) (dealId negotiationId : String) (contract : Value)
    (buyerAddress : String) (r : ℕ) (existing : DealRecord) : Prop where
  found : s.deals.find? dealId = some r
  stored : s.deals.object? r = some existing
  quote : ∃ record, s.quotes.get? negotiationId = some record ∧
    Selects contract record.buyerAgentId record.termsDocumentHash ∧
    existing.termsDocumentHash = record.termsDocumentHash
  negotiationId : existing.negotiationId = negotiationId
  buyerAddress : HostLocale.toLowerCase existing.buyerAddress = HostLocale.toLowerCase buyerAddress

/-- A retry that finds its deal returns it and adds nothing. -/
theorem Retries.run [HostLocale] {s : Stores} {dealId negotiationId buyerAddress : String}
    {contract : Value} {r : ℕ} {existing : DealRecord}
    (h : Retries s dealId negotiationId contract buyerAddress r existing)
    (hkept : dealId ∉ s.reclaimed) :
    (registerLiveDeal dealId negotiationId contract buyerAddress).run s = (.ok r, s.pruned) := by
  obtain ⟨record, hrecord, hselects, hhash⟩ := h.quote
  have hkeep := kept_foldl_deleteDeal s.reclaimed s
  have hselected : (selectedQuote negotiationId contract).run s.pruned = (.ok record, s.pruned) :=
    selectedQuote_run ((congrArg (·.get? negotiationId) hkeep.1).trans hrecord) hselects
  have hfound : s.pruned.deals.find? dealId = some r := by
    rw [find?_pruned, if_neg hkept, h.found]
  have hread : (readDeal r).run s.pruned = (.ok existing, s.pruned) := by
    unfold readDeal
    rw [Prog.run_bind_of_ok (Prog.run_get _), Stores.pruned, hkeep.2.2.2 r, h.stored]
    rfl
  have hprune : pruneDeals.run s = (.ok (), s.pruned) := rfl
  unfold registerLiveDeal
  rw [Prog.run_bind_of_ok hprune, Prog.run_bind_of_ok hselected,
    Prog.run_bind_of_ok (Prog.run_get _)]
  simp only [hfound]
  rw [Prog.run_bind_of_ok hread, Prog.run_bind_of_ok (a := ()) (Prog.run_lift_eq.2
    ⟨throwIf_eq_ok.2 (by simp [h.negotiationId, hhash, h.buyerAddress]), rfl⟩)]
  rfl

/-- A registration drops no deal within its time exactly when there was room; a retry
finds its deal exactly when that one is not past its time either. -/
theorem registration_keeps_iff [Digests] [Canonicalize] [HostLocale] (s : Stores) :
    (∀ negotiationId contract buyerAddress e t, mintedDeal s ∉ s.deals.keys →
      (propose negotiationId contract buyerAddress).run s = (.error e, t) →
        (KeepsDeals s t ↔ s.HasRoom)) ∧
    (∀ dealId negotiationId contract buyerAddress e t,
      (registerLiveDeal dealId negotiationId contract buyerAddress).run s = (.error e, t) →
        (KeepsDeals s t ↔ s.HasRoom)) ∧
    ∀ dealId negotiationId contract buyerAddress r existing result t,
      Retries s dealId negotiationId contract buyerAddress r existing →
      (registerLiveDeal dealId negotiationId contract buyerAddress).run s = (result, t) →
        (KeepsDeals s t ∧ result = .ok r ∧ t.deals.find? dealId = some r ↔
          s.HasRoom ∧ ¬ (isReclaimableDeal existing = true ∧ existing.expired s.now = true)) := by
  refine ⟨?_, ?_, ?_⟩
  · intro negotiationId contract buyerAddress e t hfresh hrun
    have hextends := Prog.state_of_ensures
      (propose_extends hfresh negotiationId contract buyerAddress)
    rw [hrun] at hextends
    exact keepsDeals_iff hextends
  · intro dealId negotiationId contract buyerAddress e t hrun
    have hextends := Prog.state_of_ensures (Prog.ensures_mono
      (registerLiveDeal_extends s dealId negotiationId contract buyerAddress)
      (fun _ _ h => h.1) fun _ h => h)
    rw [hrun] at hextends
    exact keepsDeals_iff hextends
  · intro dealId negotiationId contract buyerAddress r existing result t hretry hrun
    have hdeal := ObjectMap.get?_eq_some_iff.2 ⟨r, hretry.found, hretry.stored⟩
    have hextends := registerLiveDeal_extends s dealId negotiationId contract buyerAddress
    unfold Prog.Ensures at hextends
    constructor
    · rintro ⟨hkeeps, rfl, hfound⟩
      rw [hrun] at hextends
      refine ⟨(keepsDeals_iff hextends.1).1 hkeeps, ?_⟩
      rintro ⟨hreclaimable, hexpired⟩
      have hgone : dealId ∈ s.reclaimed := (mem_reclaimed hdeal).2 ⟨hreclaimable, Or.inl hexpired⟩
      rcases hextends.2 with hold | hnew
      · rw [find?_pruned, if_pos hgone] at hold
        cases hold
      · have hpruned : s.pruned.deals.object? r = some existing :=
          ((kept_foldl_deleteDeal s.reclaimed s).2.2.2 r).trans hretry.stored
        exact absurd (List.getElem?_eq_some_iff.1 hpruned).1 (not_lt.2 hnew)
    · rintro ⟨hroom, hlive⟩
      have hkept := hroom.notMem_reclaimed hdeal hlive
      rw [hretry.run hkept] at hrun
      cases hrun
      refine ⟨(keepsDeals_iff (Extends.refl s.pruned)).2 hroom, rfl, ?_⟩
      rw [find?_pruned, if_neg hkept, hretry.found]

/-! ## A full store -/

/-- A proposal that selects nothing throws once the stores are pruned. -/
theorem propose_null_throws [Digests] [Canonicalize] (s : Stores)
    (negotiationId buyerAddress : String) :
    ∃ e, (propose negotiationId .null buyerAddress).run s = (.error e, s.pruned) := by
  have hensures := selectedQuote_ensures (s := s.pruned) negotiationId .null
  have hprune : pruneDeals.run s = (.ok (), s.pruned) := rfl
  unfold Prog.Ensures at hensures
  rcases hrun : (selectedQuote negotiationId .null).run s.pruned with ⟨e | record, t⟩
  · rw [hrun] at hensures
    cases hensures
    refine ⟨e, ?_⟩
    rw [propose, Prog.run_bind_of_ok hprune, Prog.run_bind_of_error hrun]
  · rw [hrun] at hensures
    cases hensures.2.2.1

theorem length_dealRecords (s : Stores) : s.dealRecords.length = s.deals.keys.length := by
  refine List.filterMap_length_eq_length.2 fun d hd => ?_
  exact ObjectMap.get?_isSome_iff.2 hd

theorem Flooded.length_keptDeals {negotiationId buyer hash : String} {n : ℕ} {s : Stores}
    (h : Flooded negotiationId buyer hash n s) (hnow : s.now = 0) : s.keptDeals.length = n := by
  have hall : s.keptDeals = s.dealRecords := by
    unfold Stores.keptDeals
    rw [List.filter_filter]
    refine List.filter_eq_self.2 fun deal hdeal => ?_
    obtain ⟨d, hd⟩ := Integrity.mem_dealRecords.1 hdeal
    have hstanding := h.proposed d deal hd
    simp only [DealRecord.standing, Prod.mk.injEq] at hstanding
    simp [isReclaimableDeal, DealRecord.expired, hstanding, hnow]
  rw [hall, length_dealRecords, h.keys, List.length_map, List.length_range]

section Demo

attribute [local instance] Digests.checksum HostLocale.ascii Canonicalize.plain
  RecoverableEcdsa.transparent

/-- With one place left, a proposal that throws drops no deal. -/
theorem demo_keeps : ∃ c e t, Reachable (demoSeller oneTractCorpus) c ∧
    c.state.deals.keys.length = 1023 ∧
    (propose "neg_0" .null "").run (c.state.enter ⟨0, floodBytes 1023⟩) = (.error e, t) ∧
    KeepsDeals (c.state.enter ⟨0, floodBytes 1023⟩) t := by
  obtain ⟨hash, hfull⟩ := exists_demo_flooded
  obtain ⟨c, hreachable, hflooded⟩ := hfull 1023 (by omega)
  have hentered := hflooded.agree (agree_enter ⟨0, floodBytes 1023⟩ c.state)
  obtain ⟨e, hrun⟩ := propose_null_throws (c.state.enter ⟨0, floodBytes 1023⟩) "neg_0" ""
  refine ⟨c, e, _, hreachable, ?_, hrun, ?_⟩
  · rw [hflooded.keys, List.length_map, List.length_range]
  · refine ((registration_keeps_iff _).1 _ _ _ _ _ (hentered.floodId_fresh (by omega)) hrun).2 ?_
    unfold Stores.HasRoom maxReclaimableDeals
    rw [hentered.length_keptDeals rfl]
    omega

/-- A proposal that throws drops a deal within its time when the store is full. -/
theorem failed_proposal_evicts :
    ¬ ∀ (seller : Seller) (c : System.Config Failure Stores Request Reply SellerJob),
      Reachable seller c → ∀ m negotiationId contract buyerAddress e t,
        (propose negotiationId contract buyerAddress).run (c.state.enter m) = (.error e, t) →
          ∀ d deal, (c.state.enter m).deals.get? d = some deal →
            deal.expired (c.state.enter m).now = false → d ∈ t.deals.keys := by
  intro hkeeps
  obtain ⟨hash, hfull⟩ := exists_demo_flooded
  obtain ⟨c, hreachable, hflooded⟩ := hfull 1024 le_rfl
  have hentered := hflooded.agree (agree_enter ⟨0, []⟩ c.state)
  obtain ⟨e, hrun⟩ := propose_null_throws (c.state.enter ⟨0, []⟩) "neg_0" ""
  have hfull : ¬ (c.state.enter ⟨0, []⟩).HasRoom := by
    unfold Stores.HasRoom maxReclaimableDeals
    rw [hentered.length_keptDeals rfl]
    omega
  obtain ⟨d, deal, hdeal, hunexpired, hreclaimed⟩ := exists_reclaimed hfull
  have hkey := hkeeps _ c hreachable _ _ _ _ e _ hrun d deal hdeal hunexpired
  rw [Stores.pruned, (deals_foldl_deleteDeal _ _).1, List.mem_filter, decide_eq_true_eq] at hkey
  exact hkey.2 hreclaimed

end Demo

end DataSeller

end Coordination
