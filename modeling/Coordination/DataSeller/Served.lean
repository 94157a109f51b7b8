import Coordination.DataSeller.Exchange

/-!
# What the seller serves

The two public routes of the seller: a terms document by its hash, and an artifact of
a delivery by its capability. What they serve is what the contracts of the stored deals
commit to, in every state that a run of the seller reaches.
-/

namespace Coordination

namespace DataSeller

open JavaScript Library Engine

/-! ## The routes -/

/-- What a route answers. -/
structure HttpResponse where
  status : ℕ
  mediaType : String
  body : Bytes

def notFound (message : String) : HttpResponse where
  status := 404
  mediaType := "application/json"
  body := utf8 (stringify (.obj [("error", .str message)]))

/-- `termsDocumentByHash`. -/
def Stores.termsDocumentByHash (s : Stores) (hash : String) : Option TermsDocument :=
  (s.quotes.values.find? fun record => record.termsDocumentHash = hash).map
    QuoteRecord.termsDocument

section Routes

variable [Digests] [Canonicalize]

/-- `GET /terms/:hash`. -/
def Stores.termsRoute (s : Stores) (hash : String) : Except Failure HttpResponse :=
  match s.termsDocumentByHash hash with
  | none => .ok (notFound "no such terms document (demo state is process-local)")
  | some doc => do return ⟨200, "application/json", ← jcs doc.toValue⟩

/-- `GET /deliveries/:dealId/:file`. -/
def Stores.deliveriesRoute (s : Stores) (dealId file : String) (cap : Option String) :
    HttpResponse :=
  match s.artifactFor dealId file cap with
  | none => notFound "not found"
  | some bytes => ⟨200, if file.endsWith ".csv" then "text/csv" else "application/json", bytes⟩

end Routes

theorem Stores.artifactFor_of_served {s : Stores} {dealId file : String} {cap : Option String}
    (h : (s.deliveriesRoute dealId file cap).status = 200) :
    ∃ bytes, s.artifactFor dealId file cap = some bytes := by
  cases hbytes : s.artifactFor dealId file cap with
  | none =>
      rw [deliveriesRoute, hbytes] at h
      cases h
  | some bytes => exact ⟨bytes, rfl⟩

/-- An artifact is that of a stored, unrevoked deal, by its current capability. -/
theorem Stores.artifactFor_eq_some {s : Stores} {dealId file : String} {cap : Option String}
    {bytes : Bytes} (h : s.artifactFor dealId file cap = some bytes) :
    ∃ deal, s.deals.get? dealId = some deal ∧ deal.capabilityRevoked = false ∧ cap ≠ none ∧
      cap = deal.capabilityToken ∧
      (file = "manifest.json" ∧ deal.manifestBytes = some bytes ∨
        file = "data.csv" ∧ deal.csvBytes = some bytes) := by
  unfold artifactFor at h
  cases hdeal : s.deals.get? dealId with
  | none =>
      rw [hdeal] at h
      cases h
  | some deal =>
      rw [hdeal] at h
      simp only at h
      split_ifs at h with hrefused hmanifest hcsv
      · simp only [not_or, Bool.not_eq_true, not_not, Option.isNone_eq_false_iff] at hrefused
        exact ⟨deal, rfl, hrefused.2.1, Option.isSome_iff_ne_none.1 hrefused.2.2.1, hrefused.2.2.2,
          .inl ⟨hmanifest, h⟩⟩
      · simp only [not_or, Bool.not_eq_true, not_not, Option.isNone_eq_false_iff] at hrefused
        exact ⟨deal, rfl, hrefused.2.1, Option.isSome_iff_ne_none.1 hrefused.2.2.1, hrefused.2.2.2,
          .inr ⟨hcsv, h⟩⟩

theorem Stores.termsDocumentByHash_eq_some {s : Stores} {hash : String} {doc : TermsDocument}
    (h : s.termsDocumentByHash hash = some doc) : ∃ n record, s.quotes.get? n = some record ∧
      record.termsDocumentHash = hash ∧ record.termsDocument = doc := by
  obtain ⟨record, hfound, rfl⟩ := Option.map_eq_some_iff.1 h
  obtain ⟨n, hn⟩ := InsertionMap.mem_values.1 (List.mem_of_find?_eq_some hfound)
  have hhash := List.find?_some hfound
  exact ⟨n, record, hn, by simpa using hhash, rfl⟩

section Served

variable [Digests] [Canonicalize] [HostLocale] [RecoverableEcdsa] {seller : Seller}
  {c c₁ c₂ : System.Config Failure Stores Request Reply SellerJob}

/-! ## Terms documents -/

omit [HostLocale] [RecoverableEcdsa] in
/-- A document is served under its hash. -/
theorem termsRoute_of_hashed {s : Stores} {hash : String} {doc : TermsDocument}
    (hdoc : s.termsDocumentByHash hash = some doc) (hhash : termsDocumentHashOf doc = .ok hash) :
    ∃ body, s.termsRoute hash = .ok ⟨200, "application/json", body⟩ ∧
      Digests.sha256Ref body = hash := by
  obtain ⟨body, hbody, href⟩ := bind_eq_ok.1 hhash
  cases href
  refine ⟨body, ?_, rfl⟩
  simp only [Stores.termsRoute, hdoc, hbody]
  rfl

omit [Digests] [Canonicalize] [HostLocale] [RecoverableEcdsa] in
/-- A stored document is found by its hash. -/
theorem termsDocumentByHash_of_quote {s : Stores} {n : String} {record : QuoteRecord}
    (hrecord : s.quotes.get? n = some record) :
    ∃ doc, s.termsDocumentByHash record.termsDocumentHash = some doc := by
  have hmem := InsertionMap.mem_values.2 ⟨n, hrecord⟩
  cases hfound : s.quotes.values.find? fun quote =>
      quote.termsDocumentHash = record.termsDocumentHash with
  | none =>
      have hnone := List.find?_eq_none.1 hfound record hmem
      simp at hnone
  | some quote => exact ⟨quote.termsDocument, by rw [Stores.termsDocumentByHash, hfound]; rfl⟩

/-- The terms route is content-addressed: what it serves hashes to the path it is served
under, and it serves the document that the contract of every stored deal pins. -/
theorem terms_addressed (h : Reachable seller c) :
    (∀ hash response, c.state.termsRoute hash = .ok response → response.status = 200 →
      Digests.sha256Ref response.body = hash) ∧
    ∀ dealId deal, c.state.deals.get? dealId = some deal →
      ∃ text commitment body, textOrEmpty (field deal.contract "acceptanceCriteria") = .ok text ∧
        parseAcceptanceCriteria text = some commitment ∧
        c.state.termsRoute commitment.termsDocumentHash =
          .ok ⟨200, "application/json", body⟩ ∧
        Digests.sha256Ref body = commitment.termsDocumentHash := by
  have hserving := (good_of_reachable h).1
  have hserved {hash : String} {doc : TermsDocument}
      (hdoc : c.state.termsDocumentByHash hash = some doc) :
      ∃ body, c.state.termsRoute hash = .ok ⟨200, "application/json", body⟩ ∧
        Digests.sha256Ref body = hash := by
    obtain ⟨n, record, hrecord, rfl, rfl⟩ := Stores.termsDocumentByHash_eq_some hdoc
    exact termsRoute_of_hashed hdoc (hserving.2.quotes n record hrecord).hashed
  constructor
  · intro hash response hroute hstatus
    cases hdoc : c.state.termsDocumentByHash hash with
    | none =>
        simp only [Stores.termsRoute, hdoc] at hroute
        cases hroute
        cases hstatus
    | some doc =>
        obtain ⟨body, hbody, href⟩ := hserved hdoc
        cases hbody.symm.trans hroute
        exact href
  · intro dealId deal hdeal
    obtain ⟨_, record, _, hrecord, _, _, text, commitment, htext, hparse, hpinned⟩ :=
      hserving.1.deal dealId deal hdeal
    obtain ⟨doc, hdoc⟩ := termsDocumentByHash_of_quote hrecord
    obtain ⟨body, hbody⟩ := hserved (hpinned ▸ hdoc)
    exact ⟨text, commitment, body, htext, hparse, hbody⟩

/-! ## Artifacts -/

/-- A delivery is what its terms document promises. -/
structure Fulfils (seller : Seller) (record : QuoteRecord) (out : DeliveryResult) : Prop where
  committed : out.deliveryHash = sha256Bytes out.manifestBytes
  verified : verifyDelivery out.manifest out.bytes seller.corpus (readQuery record.queryBody) =
    .ok ⟨true, [], some (sha256Bytes out.bytes)⟩
  rows : Exact.ofNumber out.manifest.rowCount = (record.termsDocument.totalRows : Exact)
  stats : out.manifest.sourceStatsHash = record.termsDocument.statsHash

omit [RecoverableEcdsa] in
/-- What was produced for a deal is what the document of its quote promises. -/
theorem Produced.fulfils {deal : DealRecord} {record : QuoteRecord} {out : DeliveryResult}
    (h : Produced seller deal record out) : Fulfils seller record out := by
  obtain ⟨cap, now, _, hout⟩ := h.generated
  obtain ⟨body, hissued⟩ := h.quoted.issued
  have htracts : (evaluateQuery (readQuery record.queryBody) seller.corpus).tracts =
      selectedTracts seller body := by
    rw [hissued.queryBody]
    rfl
  have hcount := generated_rowCount hout
  simp only [deliveryInputFor] at hcount
  have hverified := verifyDelivery_generated hout
  simp only [deliveryInputFor] at hverified
  refine ⟨?_, hverified, ?_, ?_⟩
  · obtain ⟨_, _, _, _, _, _, _, _, _, rfl⟩ := generateDelivery_eq_ok.1 hout
    rfl
  · rw [hcount, hissued.totalRows, htracts]
  · obtain ⟨_, _, _, _, _, hquoted, _, _, _, rfl⟩ := generateDelivery_eq_ok.1 hout
    exact hquoted.symm

/-- An artifact is served for a stored deal that was countersigned and not revoked, to
whoever presents its current capability. It is the manifest that the recorded delivery
hash commits to, or the file that passes verification against it; and both are what the
terms document pinned by the contract promises. -/
theorem served_committed (h : Reachable seller c) {dealId file : String} {cap : Option String}
    (hserved : (c.state.deliveriesRoute dealId file cap).status = 200) :
    ∃ deal record out, c.state.deals.get? dealId = some deal ∧
      deal.capabilityRevoked = false ∧ cap ≠ none ∧ cap = deal.capabilityToken ∧
      SignedFor seller deal ∧ deal.deliveryHash = some out.deliveryHash ∧
      termsDocumentHashOf record.termsDocument = .ok deal.termsDocumentHash ∧
      (∃ buyerAgentId, Selects deal.contract buyerAgentId deal.termsDocumentHash) ∧
      Fulfils seller record out ∧
      (file = "manifest.json" ∧ c.state.deliveriesRoute dealId file cap =
          ⟨200, "application/json", out.manifestBytes⟩ ∨
        file = "data.csv" ∧ c.state.deliveriesRoute dealId file cap =
          ⟨200, "text/csv", out.bytes⟩) := by
  have hserving := (good_of_reachable h).1
  obtain ⟨bytes, hbytes⟩ := Stores.artifactFor_of_served hserved
  obtain ⟨deal, hdeal, hrevoked, hcap, htoken, hfile⟩ := Stores.artifactFor_eq_some hbytes
  obtain ⟨r, hfound, hobject⟩ := ObjectMap.get?_eq_some_iff.1 hdeal
  have hminted : deal.capabilityToken ≠ none := htoken ▸ hcap
  obtain ⟨record, out, hproduced⟩ :=
    (hserving.2.produced r deal hobject).resolve_left hminted
  obtain ⟨_, quote, _, _, hselected, hselects⟩ := hserving.1.deal dealId deal hdeal
  refine ⟨deal, record, out, hdeal, hrevoked, hcap, htoken,
    hserving.2.signed r deal hobject (.inr hminted), hproduced.deliveryHash,
    hproduced.selected ▸ hproduced.quoted.hashed, ⟨_, hselected ▸ hselects⟩, hproduced.fulfils, ?_⟩
  rw [Stores.deliveriesRoute, hbytes]
  rcases hfile with ⟨rfl, hmanifest⟩ | ⟨rfl, hcsv⟩
  · cases hmanifest.symm.trans hproduced.manifestBytes
    refine .inl ⟨rfl, ?_⟩
    simp only [(by decide +kernel : "manifest.json".endsWith ".csv" = false)]
    rfl
  · cases hcsv.symm.trans hproduced.csvBytes
    refine .inr ⟨rfl, ?_⟩
    simp only [(by decide +kernel : "data.csv".endsWith ".csv" = true)]
    rfl

/-! ## Revocations -/

omit [Digests] [Canonicalize] [HostLocale] [RecoverableEcdsa] in
/-- A stored deal is revoked. -/
theorem revokeCapability_revokes {s : Stores} {dealId : String} {r : ℕ}
    (hfound : s.deals.find? dealId = some r) :
    ∃ deal, ((revokeCapability dealId).run s).2.deals.object? r = some deal ∧
      deal.capabilityRevoked = true := by
  obtain ⟨deal, hobject, _⟩ := ObjectMap.exists_of_find? hfound
  unfold revokeCapability
  rw [Prog.run_bind_of_ok (Prog.run_get s)]
  simp only [hfound]
  rw [Prog.run_bind_of_ok (readDeal_run hobject)]
  cases hrevoked : deal.capabilityRevoked with
  | true => exact ⟨deal, hobject, hrevoked⟩
  | false =>
      refine Prog.state_of_ensures (P := fun t : Stores => ∃ deal, t.deals.object? r = some deal ∧
        deal.capabilityRevoked = true) ?_
      refine Prog.ensures_bind (Prog.ensures_mono (writeDeal_stored hfound _) (fun _ _ h => h)
        fun _ => False.elim) ?_
      rintro _ t ⟨hlater, held, _, hheld⟩
      refine Prog.ensures_mono (recordInteraction_succeeds hlater _) (fun _ u hu => ?_)
        fun _ => False.elim
      obtain ⟨new, hnew, hcore⟩ := hu.symm.exists_of_get? hheld
      obtain ⟨r', hr', hobject'⟩ := ObjectMap.get?_eq_some_iff.1 hnew
      cases hr'.symm.trans ((hu.find? dealId).trans hlater)
      exact ⟨new, hobject', congrArg DealRecord.capabilityRevoked hcore⟩

/-- A revocation writes what its program writes. -/
theorem state_of_revoke {dealId : String} {m : Moment}
    (hstep : (sellerSystem seller).machine.step c (.request (.revoke dealId) m) = some c₁) :
    c₁.state = ((revokeCapability dealId).run (c.state.enter m)).2 := by
  cases hstep
  show ((sellerSystem seller).settle c (.atomic (revokeCapability dealId)) (c.state.enter m)).state
    = _
  have hadvance : (Async.atomic (revokeCapability dealId) : Task Stores SellerJob Unit).advance
      (c.state.enter m) = (.ended ((revokeCapability dealId).run (c.state.enter m)).1,
        ((revokeCapability dealId).run (c.state.enter m)).2, []) := by
    simp only [Async.atomic, Async.advance]
    rcases (revokeCapability dealId).run (c.state.enter m) with ⟨_ | a, t⟩ <;> rfl
  rw [System.settle, hadvance]

/-- Once access to a deal is revoked, nothing is served for its record any more: not for
an older capability, and not for one that a delivery in flight mints later. -/
theorem revoked_closed (h : Reachable seller c) {dealId : String} {m : Moment}
    (hrevoke : (sellerSystem seller).machine.step c (.request (.revoke dealId) m) = some c₁)
    {es : List (System.Event Reply SellerJob Moment Empty)}
    (hmeets : (sellerSystem seller).machine.MeetsFrom ((sellerSystem seller).Meets freshIds) c₁ es)
    (hrun : (sellerSystem seller).machine.runFrom c₁ es = some c₂)
    (hkept : c₂.state.deals.find? dealId = c.state.deals.find? dealId) (file : String)
    (cap : Option String) :
    c₂.state.artifactFor dealId file cap = none ∧
      c₂.state.deliveriesRoute dealId file cap = notFound "not found" := by
  have hnone : c₂.state.artifactFor dealId file cap = none := by
    refine Option.eq_none_iff_forall_ne_some.2 fun bytes hbytes => ?_
    obtain ⟨deal, hdeal, hopen, _⟩ := Stores.artifactFor_eq_some hbytes
    obtain ⟨r, hfound₂, hobject₂⟩ := ObjectMap.get?_eq_some_iff.1 hdeal
    have hfound : c.state.deals.find? dealId = some r := hkept ▸ hfound₂
    have hrevoked := revokeCapability_revokes (s := c.state.enter m) hfound
    rw [← state_of_revoke hrevoke] at hrevoked
    obtain ⟨old, hold, hclosed⟩ := hrevoked
    obtain ⟨new, hnew, _, hupholds⟩ :=
      (supplies_of_runFrom (h.step (by exact trivial) hrevoke) hmeets hrun).deals.objects r old hold
    cases hobject₂.symm.trans hnew
    exact absurd (hupholds.revoked hclosed) (by simp [hopen])
  exact ⟨hnone, by rw [Stores.deliveriesRoute, hnone]⟩

/-! ## Deliveries that succeed -/

omit [RecoverableEcdsa] in
/-- A generated delivery is stored, whatever becomes of its evidence. -/
theorem finishDelivery_stored [RecoverableEcdsa] {s : Stores} {dealId : String} {r : ℕ}
    {record : QuoteRecord} {cap : String} {out : DeliveryResult} {deal : DealRecord}
    (hfound : s.deals.find? dealId = some r) (hdeal : s.deals.get? dealId = some deal)
    (hout : generateDelivery (deliveryInputFor seller record dealId cap s.now) = .ok out) :
    ∃ new, ((finishDelivery seller dealId r record cap).run s).2.deals.get? dealId = some new ∧
      new.capabilityToken = some cap ∧ new.manifestBytes = some out.manifestBytes ∧
      new.csvBytes = some out.bytes ∧ new.capabilityRevoked = deal.capabilityRevoked := by
  refine Prog.state_of_ensures (P := fun t : Stores => ∃ new, t.deals.get? dealId = some new ∧
    new.capabilityToken = some cap ∧ new.manifestBytes = some out.manifestBytes ∧
    new.csvBytes = some out.bytes ∧ new.capabilityRevoked = deal.capabilityRevoked) ?_
  refine Prog.ensures_get_bind ?_
  unfold Prog.Ensures
  rw [Prog.run_bind_of_ok (Prog.run_lift_eq.2 ⟨hout, rfl⟩)]
  refine Prog.ensures_bind (Prog.ensures_mono (writeDeal_stored hfound _) (fun _ _ h => h)
    fun _ => False.elim) ?_
  rintro _ t ⟨_, held, hheld, hwritten⟩
  cases hdeal.symm.trans hheld
  -- what follows the write only records on the deal
  refine Prog.ensures_mono (Prog.ensures_of_within (R := Agree DealRecord.core)
    (Agree.frame.bind (recordInteraction_within (fun _ _ => rfl) _ _) fun _ =>
      Agree.frame.bind (readDeal_within r) fun _ =>
        Agree.frame.bind (Prog.within_lift Agree.refl _) fun _ =>
          Agree.frame.bind (Prog.within_lift Agree.refl _) fun _ =>
            Prog.within_pure Agree.refl _)) (fun _ u hu => ?_) fun u hu => ?_
  all_goals
    obtain ⟨new, hnew, hcore⟩ := hu.symm.exists_of_get? hwritten
    have hview {β : Type} (view : DealRecord → β) := congrArg view hcore
    exact ⟨new, hnew, hview DealRecord.capabilityToken, hview DealRecord.manifestBytes,
      hview DealRecord.csvBytes, hview DealRecord.capabilityRevoked⟩

omit [Digests] [Canonicalize] [HostLocale] [RecoverableEcdsa] in
/-- A delivery of a committed deal begins. -/
theorem beginDelivery_run {s : Stores} {dealId : String} {r : ℕ} {deal : DealRecord}
    {record : QuoteRecord} (hfound : s.deals.find? dealId = some r)
    (hobject : s.deals.object? r = some deal) (hcommitted : deal.state ≠ .PROPOSED_LOCAL)
    (hrecord : s.quotes.get? deal.negotiationId = some record) :
    ∃ cap, (beginDelivery dealId).run s = (.ok (r, record, cap), s) := by
  refine ⟨toHex (s.random.take 16), ?_⟩
  unfold beginDelivery
  rw [Prog.run_bind_of_ok (dealOf_run hfound), Prog.run_bind_of_ok (readDeal_run hobject),
    Prog.run_bind_of_ok (a := ()) (Prog.run_lift_eq.2 ⟨throwIf_eq_ok.2 hcommitted, rfl⟩),
    Prog.run_bind_of_ok (Prog.run_get _)]
  simp only [hrecord]
  rfl

/-- A delivery that has begun goes on when the store has answered. -/
theorem Reachable.deliver (h : Reachable seller c) {dealId : String} {r : ℕ}
    {record : QuoteRecord} {cap : String} {m : Moment}
    (hbegin : (beginDelivery dealId).run (c.state.enter m) =
      (.ok (r, record, cap), c.state.enter m)) :
    ∃ c₂, Reachable seller c₂ ∧ c₂.state =
      ((finishDelivery seller dealId r record cap).run (c.state.enter m)).2 := by
  let resume (v : Reply) : Task Stores SellerJob Unit :=
    discard ((Async.ofExcept v).bind fun _ => .atomic (finishDelivery seller dealId r record cap))
  have hadvance : (sellerBody seller (.prepare dealId)).advance (c.state.enter m) =
      (.waits (.stored dealId) resume, c.state.enter m, []) := by
    show (discard (prepareDelivery seller dealId)).advance _ = _
    simp only [discard, prepareDelivery, Async.bind_eq, Async.atomic, Async.bind, Async.advance]
    rw [hbegin]
    rfl
  have hprepare : (sellerSystem seller).machine.step c (.request (.prepare dealId) m) =
      some ⟨c.state.enter m, c.waiting ++ [(.stored dealId, resume)], c.ready ++ []⟩ :=
    congrArg some (System.settle_of_waits _ hadvance)
  let resumed := (sellerSystem seller).settle
    ⟨c.state.enter m, (c.waiting ++ [(Request.stored dealId, resume)]).eraseIdx c.waiting.length,
      c.ready ++ []⟩ (resume (.ok none)) ((c.state.enter m).enter m)
  have hresume : (sellerSystem seller).machine.step ⟨c.state.enter m,
      c.waiting ++ [(Request.stored dealId, resume)], c.ready ++ []⟩
        (.answer c.waiting.length (.ok none) m) = some resumed := by
    show ((c.waiting ++ [(Request.stored dealId, resume)])[c.waiting.length]?).map _ = _
    rw [List.getElem?_concat_length]
    rfl
  refine ⟨resumed, (h.step (by exact trivial) hprepare).step (by exact fun _ _ _ => trivial)
    hresume, ?_⟩
  exact settle_discard (finishDelivery seller dealId r record cap) ((c.state.enter m).enter m)

end Served

/-! ## A delivery -/

section Demo

attribute [local instance] Digests.checksum HostLocale.ascii Canonicalize.plain
  RecoverableEcdsa.transparent

/-- The accepted order is delivered. -/
theorem exists_demo_delivered : ∃ c cap, Reachable (demoSeller oneTractCorpus) c ∧
    (c.state.deliveriesRoute (floodId 0) "data.csv" (some cap)).status = 200 := by
  obtain ⟨c, _, _, record, deal, _, _, hreachable, _, _, _, _, _, hrecord, hissued, hdeal,
    haccepted, hopen⟩ := exists_demo_accepted
  obtain ⟨r, hfound, hobject⟩ := ObjectMap.get?_eq_some_iff.1 hdeal
  obtain ⟨cap, hbegin⟩ := beginDelivery_run (s := c.state.enter ⟨0, floodBytes 0⟩) hfound hobject
    (by rw [haccepted]; decide) hrecord
  obtain ⟨c₂, hdelivered, hstate⟩ := hreachable.deliver hbegin
  obtain ⟨out, hout⟩ := oneMeasure_delivered (by decide +kernel :
    deliverable (generateSyntheticPeople [publishedTract] (oneMeasureOptions (floodId 0))) = true)
      hissued cap 0
  obtain ⟨new, hnew, htoken, _, hcsv, hrevoked⟩ := finishDelivery_stored
    (s := c.state.enter ⟨0, floodBytes 0⟩) hfound hdeal hout
  refine ⟨c₂, cap, hdelivered, ?_⟩
  rw [← hstate] at hnew
  have hbytes : c₂.state.artifactFor (floodId 0) "data.csv" (some cap) = some out.bytes := by
    simp [Stores.artifactFor, hnew, htoken, hrevoked, hopen, hcsv]
  rw [Stores.deliveriesRoute, hbytes]

/-- The file of the order is served with its capability. -/
theorem demo_served : ∃ (c : System.Config Failure Stores Request Reply SellerJob)
    (record : QuoteRecord) (out : DeliveryResult) (cap : String),
    Fulfils (demoSeller oneTractCorpus) record out ∧
    c.state.deliveriesRoute (floodId 0) "data.csv" (some cap) = ⟨200, "text/csv", out.bytes⟩ := by
  obtain ⟨c, cap, hreachable, hserved⟩ := exists_demo_delivered
  obtain ⟨_, record, out, _, _, _, _, _, _, _, _, hfulfils, ⟨hfile, _⟩ | ⟨_, hroute⟩⟩ :=
    served_committed hreachable hserved
  · exact absurd hfile (by decide)
  · exact ⟨c, record, out, cap, hfulfils, hroute⟩

/-- After the revocation the file is not served any more. -/
theorem demo_revoked : ∃ (c₁ c₂ : System.Config Failure Stores Request Reply SellerJob)
    (cap : String),
    (c₁.state.deliveriesRoute (floodId 0) "data.csv" (some cap)).status = 200 ∧
    c₂.state.artifactFor (floodId 0) "data.csv" (some cap) = none := by
  obtain ⟨c, cap, hreachable, hserved⟩ := exists_demo_delivered
  obtain ⟨c₁, hrevoke⟩ : ∃ c₁, (sellerSystem (demoSeller oneTractCorpus)).machine.step c
      (.request (.revoke (floodId 0)) ⟨0, []⟩) = some c₁ := ⟨_, rfl⟩
  have hkept : c₁.state.deals.find? (floodId 0) = c.state.deals.find? (floodId 0) := by
    rw [state_of_revoke hrevoke]
    have hwithin : Prog.Within (Agree DealRecord.origin) (revokeCapability (floodId 0)) :=
      revokeCapability_within (fun _ _ => rfl) (fun _ => rfl) (floodId 0)
    exact (hwithin (c.state.enter ⟨0, []⟩)).find? (floodId 0)
  have hnil : (sellerSystem (demoSeller oneTractCorpus)).machine.runFrom c₁ [] = some c₁ := rfl
  exact ⟨c, c₁, cap, hserved,
    (revoked_closed hreachable hrevoke (by exact trivial) hnil hkept "data.csv" (some cap)).1⟩

/-- The terms of the accepted order are served under the hash its contract pins. -/
theorem demo_addressed : ∃ (c : System.Config Failure Stores Request Reply SellerJob)
    (hash : String) (body : Bytes), c.state.termsRoute hash = .ok ⟨200, "application/json", body⟩ ∧
      Digests.sha256Ref body = hash := by
  obtain ⟨c, _, _, _, deal, _, _, hreachable, _, _, _, _, _, _, _, hdeal, _, _⟩ :=
    exists_demo_accepted
  obtain ⟨_, commitment, body, _, _, hroute, hbody⟩ :=
    (terms_addressed hreachable).2 _ deal hdeal
  exact ⟨c, commitment.termsDocumentHash, body, hroute, hbody⟩

end Demo

end DataSeller

end Coordination
