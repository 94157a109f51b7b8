import Mathlib.Data.Finset.Card
import Mathlib.Data.Finset.Dedup
import Coordination.DataSeller.Evolution
import Coordination.DataSeller.Runs

/-!
# The bounds of the stores

However many buyers ask, the deals that may be reclaimed stay below their cap after
every registration, and the negotiations stay below theirs after every quote, unless
stored deals refer to more of them. A registration prunes before it looks at what it
was sent, so the deals it drops are dropped whether or not it succeeds.
-/

namespace Coordination

namespace DataSeller

open JavaScript Library Engine

theorem maxReclaimableDeals_pos : 0 < maxReclaimableDeals := by
  unfold maxReclaimableDeals
  decide

/-! ## Reclaimable deals -/

/-- How many stored deals may be reclaimed. -/
def Stores.reclaimableCount (s : Stores) : ℕ :=
  (s.dealRecords.filter isReclaimableDeal).length

/-- The names of the stored deals that may be reclaimed. -/
def Stores.reclaimableIds (s : Stores) : List String :=
  s.deals.keys.filter fun d => (s.deals.get? d).any isReclaimableDeal

/-- The reclaimable deals that have not outlived their time. -/
def Stores.keptDeals (s : Stores) : List DealRecord :=
  (s.dealRecords.filter isReclaimableDeal).filter fun deal => !deal.expired s.now

theorem reclaimableCount_eq (s : Stores) : s.reclaimableCount = s.reclaimableIds.length := by
  unfold Stores.reclaimableCount Stores.reclaimableIds Stores.dealRecords
  induction s.deals.keys with
  | nil => rfl
  | cons d keys ih =>
      rw [List.filterMap_cons, List.filter_cons]
      cases hd : s.deals.get? d with
      | none => simpa using ih
      | some deal =>
          simp only [List.filter_cons, Option.any_some]
          split_ifs
          · rw [List.length_cons, List.length_cons, ih]
          · exact ih

/-- Whether a deal may be reclaimed is a matter of how far it has come. -/
theorem any_isReclaimableDeal (o : Option DealRecord) :
    o.any isReclaimableDeal = (o.map DealRecord.standing).any fun standing =>
      (standing.2.all fun state => state ∈ ["PROPOSED", "EXPIRED", "CANCELLED"]) &&
        (standing.1 = .PROPOSED_LOCAL ∨ standing.1 = .ACCEPTED_LOCAL) := by
  cases o <;> rfl

/-- At most one deal more may be reclaimed when the deals under the other names
stand where they stood. -/
theorem reclaimableCount_le {s t : Stores} {d : String}
    (hkeys : ∀ k ∈ t.deals.keys, k ≠ d → k ∈ s.deals.keys)
    (hsame : ∀ k, k ≠ d → (t.deals.get? k).map DealRecord.standing =
      (s.deals.get? k).map DealRecord.standing) :
    t.reclaimableCount ≤ s.reclaimableCount + 1 := by
  rw [reclaimableCount_eq, reclaimableCount_eq]
  have hnodup : t.reclaimableIds.Nodup := t.deals.refs.keys_nodup.filter _
  have hsubset : t.reclaimableIds ⊆ d :: s.reclaimableIds := by
    intro k hk
    by_cases hkd : k = d
    · exact hkd ▸ List.mem_cons_self
    · refine List.mem_cons_of_mem _ (List.mem_filter.2 ⟨hkeys k (List.mem_of_mem_filter hk) hkd, ?_⟩)
      have hstands : (t.deals.get? k).any isReclaimableDeal = true := (List.mem_filter.1 hk).2
      rw [any_isReclaimableDeal, ← hsame k hkd, ← any_isReclaimableDeal]
      exact hstands
  exact (List.subperm_of_subset hnodup hsubset).length_le

/-! ## Pruning -/

/-- The stores once the reclaimable deals over the bound are gone. -/
def Stores.pruned (s : Stores) : Stores :=
  s.reclaimed.foldl Stores.deleteDeal s

theorem get?_pruned (s : Stores) (d : String) :
    s.pruned.deals.get? d = if d ∈ s.reclaimed then none else s.deals.get? d := by
  have hfind := (deals_foldl_deleteDeal s.reclaimed s).2 d
  have hobjects := (kept_foldl_deleteDeal s.reclaimed s).2.2.2
  unfold Stores.pruned
  rw [ObjectMap.get?, hfind]
  split_ifs
  · rfl
  · rw [ObjectMap.get?]
    exact Option.bind_congr fun r _ => hobjects r

theorem dealRecords_pruned (s : Stores) :
    s.pruned.dealRecords = s.dealRecords.filter fun deal => deal.dealId ∉ s.reclaimed := by
  unfold Stores.dealRecords
  rw [Stores.pruned, (deals_foldl_deleteDeal s.reclaimed s).1]
  induction s.deals.keys with
  | nil => rfl
  | cons d keys ih =>
      rw [List.filter_cons, List.filterMap_cons]
      cases hd : s.deals.get? d with
      | none =>
          split_ifs with hkept
          · rw [List.filterMap_cons, ← Stores.pruned, get?_pruned, hd, ite_self]
            exact ih
          · exact ih
      | some deal =>
          obtain ⟨r, hr, hobject⟩ := ObjectMap.get?_eq_some_iff.1 hd
          have hname : deal.dealId = d := ObjectMap.key_of_find? hr hobject
          simp only [List.filter_cons, hname]
          split_ifs with hkept
          · rw [List.filterMap_cons, ← Stores.pruned, get?_pruned, if_neg (of_decide_eq_true hkept),
              hd]
            simp only
            rw [Stores.pruned, ih]
          · exact ih

/-- What the pruning leaves of the reclaimable deals makes room for one more. -/
theorem reclaimableCount_pruned (s : Stores) :
    s.pruned.reclaimableCount + 1 ≤ maxReclaimableDeals := by
  have hpositive := maxReclaimableDeals_pos
  have hcommute : s.pruned.dealRecords.filter isReclaimableDeal =
      (s.dealRecords.filter isReclaimableDeal).filter fun deal => deal.dealId ∉ s.reclaimed := by
    rw [dealRecords_pruned, List.filter_filter, List.filter_filter]
    exact List.filter_congr fun _ _ => Bool.and_comm ..
  have hunexpired : (s.dealRecords.filter isReclaimableDeal).filter
      (fun deal => deal.dealId ∉ s.reclaimed) =
        s.keptDeals.filter fun deal => deal.dealId ∉ s.reclaimed := by
    unfold Stores.keptDeals
    conv_rhs => rw [List.filter_filter]
    refine List.filter_congr fun deal hdeal => ?_
    cases hexpired : deal.expired s.now with
    | false => simp
    | true =>
        have hgone : deal.dealId ∈ s.reclaimed := List.mem_map.2
          ⟨deal, List.mem_append_left _ (List.mem_filter.2 ⟨hdeal, hexpired⟩), rfl⟩
        simp [hgone]
  have hsurplus : (s.keptDeals.take (s.keptDeals.length - (maxReclaimableDeals - 1))).filter
      (fun deal => deal.dealId ∉ s.reclaimed) = [] := by
    rw [List.filter_eq_nil_iff]
    intro deal hdeal
    have hgone : deal.dealId ∈ s.reclaimed :=
      List.mem_map.2 ⟨deal, List.mem_append_right _ hdeal, rfl⟩
    simp [hgone]
  unfold Stores.reclaimableCount
  rw [hcommute, hunexpired,
    ← List.take_append_drop (s.keptDeals.length - (maxReclaimableDeals - 1)) s.keptDeals,
    List.filter_append, hsurplus, List.nil_append]
  have hleft := List.length_filter_le (fun deal => decide (deal.dealId ∉ s.reclaimed))
    (s.keptDeals.drop (s.keptDeals.length - (maxReclaimableDeals - 1)))
  rw [List.length_drop] at hleft
  omega

/-! ## Registration -/

theorem Agree.reclaimableCount {s t : Stores} (h : Agree DealRecord.standing s t) :
    t.reclaimableCount = s.reclaimableCount := by
  rw [reclaimableCount_eq, reclaimableCount_eq, Stores.reclaimableIds, Stores.reclaimableIds,
    h.keys]
  congr 1
  refine List.filter_congr fun d _ => ?_
  rw [any_isReclaimableDeal, h.get?, ← any_isReclaimableDeal]

theorem Agree.bounded {s t : Stores} (h : Agree DealRecord.standing s t) {n : ℕ}
    (hs : s.reclaimableCount ≤ n) : t.reclaimableCount ≤ n :=
  h.reclaimableCount.trans_le hs

theorem insertDeal_bound {s : Stores} {n : ℕ} (hs : s.reclaimableCount + 1 ≤ n)
    (dealId negotiationId : String) (record : QuoteRecord) (contract : Value)
    (buyerAddress : String) :
    Prog.Ensures (fun _ t => t.reclaimableCount ≤ n) (fun t => t.reclaimableCount ≤ n)
      (insertDeal dealId negotiationId record contract buyerAddress) s := by
  have hcreated {t : Stores} (ht : t.deals = s.deals.create
      (proposedDeal dealId negotiationId record contract buyerAddress s.now)) :
      t.reclaimableCount ≤ n := by
    refine (reclaimableCount_le (s := s) (d := dealId) ?_ ?_).trans hs
    · intro k hk hne
      rw [ht, ObjectMap.keys_create] at hk
      split_ifs at hk
      · exact hk
      · rcases List.mem_append.1 hk with hk | hk
        · exact hk
        · exact absurd (List.mem_singleton.1 hk) hne
    · intro k hne
      rw [ht, ObjectMap.get?_create_of_ne _ hne]
  unfold Prog.Ensures
  rw [insertDeal_run]
  cases s.negotiations.get? negotiationId with
  | none => exact hcreated rfl
  | some _ => exact hcreated rfl

theorem propose_bound [Digests] [Canonicalize] (s : Stores) (negotiationId : String)
    (contract : Value) (buyerAddress : String) :
    Prog.Ensures (fun _ t => t.reclaimableCount ≤ maxReclaimableDeals)
      (fun t => t.reclaimableCount ≤ maxReclaimableDeals)
      (propose negotiationId contract buyerAddress) s := by
  refine Prog.ensures_modify_bind ?_
  have hpruned := reclaimableCount_pruned s
  have hroom : s.pruned.reclaimableCount ≤ maxReclaimableDeals := Nat.le_of_succ_le hpruned
  have hwithin (dealId : String) (input : HistoryInput) :
      Prog.Within (Agree DealRecord.standing) (recordInteraction dealId input) :=
    recordInteraction_within (fun _ _ => rfl) dealId input
  refine Prog.ensures_bind (Prog.ensures_mono (selectedQuote_ensures negotiationId contract)
    (fun _ _ h => h) (by rintro _ rfl; exact hroom)) ?_
  rintro record _ ⟨rfl, _⟩
  refine Prog.ensures_get_bind (Prog.ensures_bind
    (insertDeal_bound hpruned _ negotiationId record contract buyerAddress) fun _ t ht => ?_)
  refine Prog.ensures_within_bind (hwithin _ _) (fun _ h => h.bounded ht) fun _ u hu => ?_
  refine Prog.ensures_lift_bind (hu.bounded ht) fun _ _ => ?_
  refine Prog.ensures_within_bind (hwithin _ _) (fun _ h => h.bounded (hu.bounded ht))
    fun _ v hv => ?_
  exact Prog.ensures_pure (hv.bounded (hu.bounded ht))

theorem registerLiveDeal_bound [HostLocale] (s : Stores) (dealId negotiationId : String)
    (contract : Value) (buyerAddress : String) :
    Prog.Ensures (fun _ t => t.reclaimableCount ≤ maxReclaimableDeals)
      (fun t => t.reclaimableCount ≤ maxReclaimableDeals)
      (registerLiveDeal dealId negotiationId contract buyerAddress) s := by
  refine Prog.ensures_modify_bind ?_
  have hpruned := reclaimableCount_pruned s
  have hroom : s.pruned.reclaimableCount ≤ maxReclaimableDeals := Nat.le_of_succ_le hpruned
  refine Prog.ensures_bind (Prog.ensures_mono (selectedQuote_ensures negotiationId contract)
    (fun _ _ h => h) (by rintro _ rfl; exact hroom)) ?_
  rintro record _ ⟨rfl, _⟩
  refine Prog.ensures_get_bind ?_
  split
  · refine Prog.ensures_bind (Prog.ensures_mono (readDeal_ensures _) (fun _ _ h => h)
      (by rintro _ rfl; exact hroom)) ?_
    rintro existing _ ⟨rfl, _⟩
    exact Prog.ensures_lift_bind hroom fun _ _ => hroom
  · refine Prog.ensures_bind
      (insertDeal_bound hpruned dealId negotiationId record contract buyerAddress) fun r t ht => ?_
    refine Prog.ensures_within_bind (R := Agree DealRecord.standing)
      (recordInteraction_within (fun _ _ => rfl) _ _) (fun _ h => h.bounded ht)
      fun _ u hu => ?_
    exact Prog.ensures_pure (hu.bounded ht)

/-! ## Negotiations -/

/-- The negotiations that stored deals refer to. -/
def Stores.referenced (s : Stores) : Finset String :=
  (s.dealRecords.map DealRecord.negotiationId).toFinset

theorem size_eq_length_keys {α : Type} (m : InsertionMap String α) : m.size = m.keys.length :=
  (List.length_map ..).symm

/-- Leaving out names that are all there leaves that many fewer. -/
theorem length_filter_notMem {keys gone : List String} (hgone : gone.Nodup) (hsub : gone ⊆ keys) :
    (keys.filter fun k => k ∉ gone).length + gone.length ≤ keys.length := by
  have hsplit := List.length_eq_length_filter_add (l := keys) fun k => decide (k ∈ gone)
  have hmem : gone ⊆ keys.filter fun k => k ∈ gone :=
    fun k hk => List.mem_filter.2 ⟨hsub hk, decide_eq_true hk⟩
  have hle := (List.subperm_of_subset hgone hmem).length_le
  have hnot : (keys.filter fun k => k ∉ gone) = keys.filter fun k => !decide (k ∈ gone) :=
    List.filter_congr fun k _ => by simp
  rw [hnot]
  omega

/-- Every quote belongs to a negotiation. -/
def Stores.Quoted (s : Stores) : Prop :=
  ∀ n ∈ s.quotes.keys, n ∈ s.negotiations.keys

theorem Agree.quoted {β : Type} {view : DealRecord → β} {s t : Stores} (h : Agree view s t)
    (hs : s.Quoted) : t.Quoted := by
  unfold Stores.Quoted
  rw [h.quotes, h.negotiations]
  exact hs

/-- Negotiations beyond the cap are left only where deals refer to them. -/
theorem size_withoutSurplus (s : Stores) (justIssued : String) :
    (s.withoutSurplus justIssued).negotiations.size ≤
      max maxOpenNegotiations (1 + s.referenced.card) := by
  unfold Stores.withoutSurplus
  have hnodup := s.negotiations.keys_nodup
  have hsize := size_eq_length_keys s.negotiations
  rw [size_eq_length_keys, InsertionMap.keys_filterKeys]
  have hsurplus : s.surplusNegotiations justIssued =
      (s.negotiations.keys.filter fun k =>
        k ∉ justIssued :: s.dealRecords.map DealRecord.negotiationId).take
          (s.negotiations.size - maxOpenNegotiations) := rfl
  generalize hunreferenced : (s.negotiations.keys.filter fun k =>
    k ∉ justIssued :: s.dealRecords.map DealRecord.negotiationId) = unreferenced at hsurplus
  rw [hsurplus]
  by_cases henough : s.negotiations.size - maxOpenNegotiations ≤ unreferenced.length
  · -- enough of them are unreferenced: the surplus goes entirely
    have hgone : (unreferenced.take (s.negotiations.size - maxOpenNegotiations)).Nodup :=
      (hunreferenced ▸ hnodup.filter _).sublist (List.take_sublist _ _)
    have hsub : unreferenced.take (s.negotiations.size - maxOpenNegotiations) ⊆
        s.negotiations.keys := fun k hk =>
      List.mem_of_mem_filter (hunreferenced ▸ List.mem_of_mem_take hk)
    have hlength := length_filter_notMem hgone hsub
    rw [List.length_take, Nat.min_eq_left henough] at hlength
    exact le_max_of_le_left (by omega)
  · -- what is left is referenced
    rw [List.take_of_length_le (not_le.1 henough).le]
    have hleft : (s.negotiations.keys.filter fun k => k ∉ unreferenced).toFinset ⊆
        insert justIssued s.referenced := by
      intro k hk
      obtain ⟨hkey, hreferenced⟩ := List.mem_filter.1 (List.mem_toFinset.1 hk)
      rw [decide_eq_true_eq, ← hunreferenced, List.mem_filter, not_and, decide_eq_true_eq,
        not_not] at hreferenced
      rcases List.mem_cons.1 (hreferenced hkey) with rfl | hmem
      · exact Finset.mem_insert_self _ _
      · exact Finset.mem_insert_of_mem (List.mem_toFinset.2 hmem)
    have hcard := (Finset.card_le_card hleft).trans (Finset.card_insert_le _ _)
    rw [List.toFinset_card_of_nodup (hnodup.filter _)] at hcard
    exact le_max_of_le_right (by omega)

/-- The stores once a negotiation is entered, with or without a quote, and the
surplus is pruned. -/
def Entered (s : Stores) (negotiation : NegotiationRecord) (t : Stores) : Prop :=
  ∃ u : Stores, u.dealRecords = s.dealRecords ∧
    u.negotiations = s.negotiations.set negotiation.negotiationId negotiation ∧
    (u.quotes = s.quotes ∨ ∃ record, u.quotes = s.quotes.set negotiation.negotiationId record) ∧
    t = u.withoutSurplus negotiation.negotiationId

theorem Agree.dealRecords {s t : Stores} (h : Agree id s t) : t.dealRecords = s.dealRecords := by
  unfold Stores.dealRecords
  rw [h.keys]
  refine congrArg (fun find => s.deals.keys.filterMap find) (funext fun d => ?_)
  simpa using h.get? d

theorem Agree.entered {s t u : Stores} {negotiation : NegotiationRecord} (hagree : Agree id s t)
    (h : Entered t negotiation u) : Entered s negotiation u := by
  obtain ⟨v, hdeals, hnegotiations, hquotes, rfl⟩ := h
  rw [hagree.negotiations] at hnegotiations
  rw [hagree.quotes] at hquotes
  exact ⟨v, hdeals.trans hagree.dealRecords, hnegotiations, hquotes, rfl⟩

theorem closeNegotiation_entered (s : Stores) (facts : QuoteFacts)
    (negotiation : NegotiationRecord) (summary : String) :
    Prog.Ensures (fun result t => Entered s result.negotiation t ∧
        result.negotiation.negotiationId = negotiation.negotiationId) (Agree id s)
      (closeNegotiation facts negotiation summary) s := by
  refine Prog.ensures_within_bind (R := Agree id) (historyEntry_within _) (fun _ h => h)
    fun answer t hagree => ?_
  refine Prog.ensures_modify_bind (Prog.ensures_modify_bind ⟨hagree.entered ?_, rfl⟩)
  refine ⟨_, ?_, ?_, ?_, rfl⟩
  · rfl
  · rfl
  · exact Or.inl rfl

/-- What a quote leaves behind: the negotiation it returns has been entered; one that
throws has entered nothing. -/
theorem quote_entered [Digests] [Canonicalize] [HostLocale] (seller : Seller) (s : Stores)
    (buyerAgentId : String) (body : Option Value) :
    Prog.Ensures (fun result t => Entered s result.negotiation t) (Agree id s)
      (quote seller buyerAgentId body) s := by
  have hclose {t : Stores} (hagree : Agree id s t) (facts : QuoteFacts)
      (negotiation : NegotiationRecord) (summary : String) :
      Prog.Ensures (fun result u => Entered s result.negotiation u) (Agree id s)
        (closeNegotiation facts negotiation summary) t :=
    Prog.ensures_mono (closeNegotiation_entered t facts negotiation summary)
      (fun _ _ h => hagree.entered h.1) fun _ => hagree.trans
  refine Prog.ensures_lift_bind (Agree.refl s) fun _ _ => ?_
  refine Prog.ensures_get_bind ?_
  refine Prog.ensures_within_bind (R := Agree id) (historyEntry_within _) (fun _ h => h)
    fun queryEntry t hagree => ?_
  refine Prog.ensures_lift_bind hagree fun facts _ => ?_
  cases facts with
  | refused rejections => exact hclose hagree _ _ _
  | accepted facts =>
      simp only
      split
      · split_ifs
        · exact hclose hagree _ _ _
        · unfold issueQuote
          split
          · refine Prog.ensures_lift_bind hagree fun termsDocumentHash _ => ?_
            refine Prog.ensures_within_bind (R := Agree id) (historyEntry_within _)
              (fun _ => hagree.trans) fun answer u hagree' => ?_
            refine Prog.ensures_modify_bind (Prog.ensures_modify_bind
              ((hagree.trans hagree').entered ?_))
            refine ⟨_, ?_, ?_, ?_, rfl⟩
            · rfl
            · rfl
            · exact Or.inr ⟨_, rfl⟩
          · exact hagree
      · exact hclose hagree _ _ _

namespace Entered

variable {s t : Stores} {negotiation : NegotiationRecord}

theorem size_le (h : Entered s negotiation t) :
    t.negotiations.size ≤ max maxOpenNegotiations (1 + t.referenced.card) := by
  obtain ⟨u, _, _, _, rfl⟩ := h
  exact size_withoutSurplus u negotiation.negotiationId

theorem retained (h : Entered s negotiation t) :
    t.negotiations.get? negotiation.negotiationId = some negotiation := by
  obtain ⟨u, _, hnegotiations, _, rfl⟩ := h
  rw [Integrity.get?_justIssued, hnegotiations, InsertionMap.get?_set_self]

/-- What a stored deal refers to is still there. -/
theorem referenced_kept (h : Entered s negotiation t) {d : String} {deal : DealRecord}
    (hdeal : t.deals.get? d = some deal) (hkey : deal.negotiationId ∈ s.negotiations.keys) :
    deal.negotiationId ∈ t.negotiations.keys := by
  obtain ⟨u, _, hnegotiations, _, rfl⟩ := h
  refine mem_keys_withoutSurplus.2 ⟨?_, Integrity.notMem_surplus hdeal⟩
  rw [hnegotiations, InsertionMap.keys_set]
  split_ifs
  · exact hkey
  · exact List.mem_append_left _ hkey

theorem quoted (h : Entered s negotiation t) (hs : s.Quoted) : t.Quoted := by
  obtain ⟨u, _, hnegotiations, hquotes, rfl⟩ := h
  have hnew : ∀ n ∈ s.negotiations.keys, n ∈ u.negotiations.keys := by
    intro n hn
    rw [hnegotiations, InsertionMap.keys_set]
    split_ifs
    · exact hn
    · exact List.mem_append_left _ hn
  have hself : negotiation.negotiationId ∈ u.negotiations.keys := by
    rw [hnegotiations, ← InsertionMap.get?_isSome_iff, InsertionMap.get?_set_self]
    rfl
  have hunpruned : ∀ n ∈ u.quotes.keys, n ∈ u.negotiations.keys := by
    rcases hquotes with hquotes | ⟨record, hquotes⟩
    · rw [hquotes]
      exact fun n hn => hnew n (hs n hn)
    · intro n hn
      rw [hquotes, InsertionMap.keys_set] at hn
      split_ifs at hn
      · exact hnew n (hs n hn)
      · rcases List.mem_append.1 hn with hn | hn
        · exact hnew n (hs n hn)
        · rw [List.mem_singleton.1 hn]
          exact hself
  intro n hn
  obtain ⟨hquote, hkept⟩ := mem_quotes_withoutSurplus.1 hn
  exact mem_keys_withoutSurplus.2 ⟨hunpruned n hquote, hkept⟩

end Entered

/-! ## Bounds in every run -/

/-- The quotes are the same, and so are the names of the negotiations. -/
structure SameEntries (s t : Stores) : Prop where
  quotes : t.quotes = s.quotes
  keys : t.negotiations.keys = s.negotiations.keys

namespace SameEntries

theorem refl (s : Stores) : SameEntries s s :=
  ⟨rfl, rfl⟩

theorem trans {s t u : Stores} (h : SameEntries s t) (h' : SameEntries t u) : SameEntries s u :=
  ⟨h'.quotes.trans h.quotes, h'.keys.trans h.keys⟩

theorem quoted {s t : Stores} (h : SameEntries s t) (hs : s.Quoted) : t.Quoted := by
  unfold Stores.Quoted
  rw [h.quotes, h.keys]
  exact hs

theorem frame : Frame SameEntries :=
  ⟨refl, trans⟩

theorem of_agree {α : Type} {p : SellerProg α}
    (hp : Prog.Within (Agree fun _ => ()) p) : Prog.Within SameEntries p :=
  fun s => ⟨(hp s).quotes, congrArg InsertionMap.keys (hp s).negotiations⟩

theorem pruneDeals_within : Prog.Within SameEntries pruneDeals := by
  intro s
  have hstep (d : String) (s : Stores) : SameEntries s (s.deleteDeal d) := by
    unfold Stores.deleteDeal
    split
    · exact refl s
    · exact ⟨rfl, InsertionMap.keys_modify ..⟩
  have hall (ids : List String) (s : Stores) : SameEntries s (ids.foldl Stores.deleteDeal s) := by
    induction ids generalizing s with
    | nil => exact refl s
    | cons d ids ih => exact (hstep d s).trans (ih _)
  exact hall s.reclaimed s

theorem insertDeal_within (dealId negotiationId : String) (record : QuoteRecord)
    (contract : Value) (buyerAddress : String) :
    Prog.Within SameEntries (insertDeal dealId negotiationId record contract buyerAddress) := by
  intro s
  rw [insertDeal_run]
  simp only
  split
  · exact ⟨rfl, rfl⟩
  · exact ⟨rfl, InsertionMap.keys_modify ..⟩

theorem recordInteraction_within (dealId : String) (input : HistoryInput) :
    Prog.Within SameEntries (recordInteraction dealId input) :=
  of_agree (DataSeller.recordInteraction_within (fun _ _ => rfl) dealId input)

variable [Digests] [Canonicalize] [HostLocale] [RecoverableEcdsa] {seller : Seller}

omit [HostLocale] [RecoverableEcdsa] in
theorem propose_within (negotiationId : String) (contract : Value) (buyerAddress : String) :
    Prog.Within SameEntries (propose negotiationId contract buyerAddress) :=
  frame.propose_within pruneDeals_within (fun s _ _ _ _ _ _ => insertDeal_within _ _ _ _ _ s)
    recordInteraction_within _ _ _

omit [Digests] [Canonicalize] [RecoverableEcdsa] in
theorem registerLiveDeal_within (dealId negotiationId : String) (contract : Value)
    (buyerAddress : String) :
    Prog.Within SameEntries (registerLiveDeal dealId negotiationId contract buyerAddress) :=
  frame.registerLiveDeal_within pruneDeals_within
    (fun s _ _ _ _ _ _ => insertDeal_within _ _ _ _ _ s) recordInteraction_within _ _ _ _

omit [Digests] [Canonicalize] [HostLocale] [RecoverableEcdsa] in
theorem observeRuntimeStatus_within (dealId : String) (status : Option Value)
    (summary : Option String) :
    Prog.Within SameEntries (observeRuntimeStatus dealId status summary) :=
  of_agree (DataSeller.observeRuntimeStatus_within (fun _ _ => rfl) (fun _ _ _ => rfl) _ _ _)

theorem accept_within (dealId sig : String) (chainId : Option Number)
    (proposedContract : Option Value) :
    Prog.Within SameEntries (accept seller dealId sig chainId proposedContract) :=
  of_agree (DataSeller.accept_within (fun _ _ => rfl) (fun _ _ => rfl) _ _ _ _)

theorem registerAndAccept_within (dealId negotiationId : String) (contract : Value)
    (buyerAddress : String) (status : Value) (sig : String) (chainId : Option Number) :
    Prog.Within SameEntries
      (registerAndAccept seller dealId negotiationId contract buyerAddress status sig chainId) :=
  frame.bind (registerLiveDeal_within _ _ _ _) fun _ =>
    frame.bind (observeRuntimeStatus_within _ _ _) fun _ => accept_within _ _ _ _

end SameEntries

section Runs

variable [Digests] [Canonicalize] [HostLocale] [RecoverableEcdsa] {seller : Seller}

/-- Every call leaves quotes of negotiations only, whatever ids it mints. -/
theorem sellerBody_quoted (job : SellerJob) {s : Stores} (hs : s.Quoted) :
    (sellerSystem seller).Keeps System.Condition.any Stores.Quoted (fun _ _ => True)
      (sellerBody seller job) s := by
  have hI {s t : Stores} (hagree : Agree (fun _ => ()) s t) (hs : s.Quoted) : t.Quoted :=
    hagree.quoted hs
  have hwithin {α : Type} {p : SellerProg α} (hp : Prog.Within SameEntries p) :
      Prog.Ensures (fun _ => Stores.Quoted) Stores.Quoted p s :=
    Prog.ensures_mono (Prog.ensures_of_within hp) (fun _ _ h => h.quoted hs) fun _ h => h.quoted hs
  cases job with
  | quote buyerAgentId body =>
      exact keeps_discard (Prog.ensures_mono (quote_entered seller s buyerAgentId body)
        (fun _ _ h => h.quoted hs) fun _ h => h.quoted hs)
  | propose negotiationId contract buyerAddress =>
      exact keeps_discard (hwithin (SameEntries.propose_within _ _ _))
  | accept dealId sig => exact keeps_discard (hwithin (SameEntries.accept_within _ _ _ _))
  | countersign dealId negotiationId contract buyerAddress status sig chainId =>
      exact keeps_discard (hwithin (SameEntries.registerAndAccept_within _ _ _ _ _ _ _))
  | record dealId input =>
      exact stable_of_within hI (recordInteraction_within (fun _ _ => rfl) _ _) s hs
  | observe dealId status summary =>
      exact stable_of_within hI
        (observeRuntimeStatus_within (fun _ _ => rfl) (fun _ _ _ => rfl) _ _ _) s hs
  | prepare dealId =>
      exact Async.stable_bind
        (prepareDelivery_stable hI (fun _ _ => rfl) (fun _ _ _ => rfl) dealId)
        (fun _ => Async.stable_ret _) s hs
  | deliver dealId anchors evidenceId =>
      exact Async.stable_bind
        (deliver_stable hI (fun _ _ => rfl) (fun _ _ _ => rfl) dealId anchors evidenceId)
        (fun _ => Async.stable_ret _) s hs
  | revoke dealId =>
      exact stable_of_within hI (revokeCapability_within (fun _ _ => rfl) (fun _ => rfl) _) s hs

theorem quoted_of_run {es : List (System.Event Reply SellerJob Moment Empty)}
    {c : System.Config Failure Stores Request Reply SellerJob}
    (h : (sellerSystem seller).machine.run es = some c) : c.state.Quoted := by
  refine System.run_invariant (S := sellerSystem seller) (C := System.Condition.any)
    (I := Stores.Quoted) (G := fun _ _ => True)
    ⟨fun _ => trivial, fun _ _ => trivial, fun _ _ => trivial, fun _ _ => trivial,
      fun _ _ _ _ => trivial⟩ Integrity.empty.quotes_subset ?_ nofun (System.meets_any _ es) h
  intro job m s hs _
  exact sellerBody_quoted job hs

/-- In every run, at most `maxReclaimableDeals` deals may be reclaimed after a
registration, and a quote leaves at most `maxOpenNegotiations` negotiations, unless
stored deals refer to more; it keeps its own and those, and no quote without one. -/
theorem stores_bounded {es : List (System.Event Reply SellerJob Moment Empty)}
    {c : System.Config Failure Stores Request Reply SellerJob}
    (h : (sellerSystem seller).machine.run es = some c) (m : Moment) :
    (∀ negotiationId contract buyerAddress,
      ((propose negotiationId contract buyerAddress).run (c.state.enter m)).2.reclaimableCount ≤
        maxReclaimableDeals) ∧
    (∀ dealId negotiationId contract buyerAddress,
      ((registerLiveDeal dealId negotiationId contract buyerAddress).run
        (c.state.enter m)).2.reclaimableCount ≤ maxReclaimableDeals) ∧
    ∀ buyerAgentId body result s,
      (quote seller buyerAgentId body).run (c.state.enter m) = (.ok result, s) →
        s.negotiations.size ≤ max maxOpenNegotiations (1 + s.referenced.card) ∧
        s.negotiations.get? result.negotiation.negotiationId = some result.negotiation ∧
        (∀ d deal, s.deals.get? d = some deal →
          deal.negotiationId ∈ c.state.negotiations.keys →
            deal.negotiationId ∈ s.negotiations.keys) ∧
        s.quotes.size ≤ s.negotiations.size := by
  refine ⟨fun n contract buyer => ?_, fun d n contract buyer => ?_, ?_⟩
  · exact Prog.state_of_ensures (propose_bound (c.state.enter m) n contract buyer)
  · exact Prog.state_of_ensures (registerLiveDeal_bound (c.state.enter m) d n contract buyer)
  · intro buyerAgentId body result s hrun
    have hensures := quote_entered seller (c.state.enter m) buyerAgentId body
    have hentered : Entered (c.state.enter m) result.negotiation s := by
      unfold Prog.Ensures at hensures
      rwa [hrun] at hensures
    refine ⟨hentered.size_le, hentered.retained, fun d deal => hentered.referenced_kept, ?_⟩
    rw [size_eq_length_keys, size_eq_length_keys]
    exact (List.subperm_of_subset s.quotes.keys_nodup
      (hentered.quoted (quoted_of_run h))).length_le

end Runs

section Demo

attribute [local instance] Digests.checksum HostLocale.ascii Canonicalize.plain
  RecoverableEcdsa.transparent

/-- A store full of proposals stays within the bound with one more. -/
theorem demo_bounded : ∃ es c, (sellerSystem (demoSeller oneTractCorpus)).machine.run es = some c ∧
    c.state.deals.keys = (List.range 1024).map floodId ∧
    ∀ negotiationId contract buyerAddress,
      ((propose negotiationId contract buyerAddress).run
        (c.state.enter ⟨0, []⟩)).2.reclaimableCount ≤ maxReclaimableDeals := by
  obtain ⟨hash, hfull⟩ := exists_demo_flooded
  obtain ⟨c, ⟨es, _, hrun⟩, hflooded⟩ := hfull 1024 le_rfl
  exact ⟨es, c, hrun, hflooded.keys, (stores_bounded hrun ⟨0, []⟩).1⟩

end Demo

end DataSeller

end Coordination
