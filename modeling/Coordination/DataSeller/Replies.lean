import Coordination.DataSeller.Executor

/-!
# The replies of the executor

Two properties of every run. A message is answered exactly once, and only a delivery
request is answered later than it comes in. The locations of an artifact are handed
out only in reply to a fresh request that the buyer of the deal has signed, for a deal
that is countersigned.
-/

namespace Coordination

namespace DataSeller

open JavaScript Library Engine

section Replies

variable [Digests] [Canonicalize] [HostLocale] [RecoverableEcdsa] {seller : Seller}
  {parse : Bytes → Option Value}

/-! ## Delivery requests -/

/-- A message carries a delivery request that was at most five minutes old when it came
in, and its signature recovers to the buyer it is verified against. -/
structure Verified (parse : Bytes → Option Value) (context : RequestContext) (received : ℕ)
    (proof : DeliveryProof) : Prop where
  carried : ∃ data, context.data parse = .ok data ∧
    prop (some data) "kind" = .ok (some (.str "request-delivery")) ∧
    textMember data "dealId" = .ok proof.dealId ∧
    numberMember data "requestedAt" = .ok proof.requestedAt ∧
    textMember data "buyerSig" = .ok proof.buyerSig
  finite : proof.requestedAt.isFinite = true
  fresh : ¬ deliveryRequestMaxAgeSeconds < (secondsAt received - proof.requestedAt).abs
  signed : ∃ bytes, deliveryRequestSigningBytes proof.dealId proof.requestedAt = .ok bytes ∧
    recover proof.buyerSig bytes = some (HostLocale.toLowerCase proof.buyerAddress)

/-- The record behind a reference is of a deal with a buyer. -/
def HeldFor (r : ℕ) (dealId buyerAddress : String) (s : Stores) : Prop :=
  ∃ deal, s.deals.object? r = some deal ∧ deal.dealId = dealId ∧ deal.buyerAddress = buyerAddress

/-- A message is a verified delivery request for a countersigned deal of its signer. -/
structure Entrusted (seller : Seller) (parse : Bytes → Option Value) (s : Stores)
    (context : RequestContext) (received : ℕ) (proof : DeliveryProof) : Prop where
  request : Verified parse context received proof
  deal : ∃ r, HeldFor r proof.dealId proof.buyerAddress s ∧ SignedAt seller r s

/-- The deal and the two locations that a reply hands out. -/
def Answer.handsOut : Answer → Option (String × String × String)
  | .delivery dealId manifestUrl csvUrl _ _ _ => some (dealId, manifestUrl, csvUrl)
  | _ => none

/-- Where a reply hands out locations, they are those of the deal it was entrusted with. -/
def Entitled (seller : Seller) (parse : Bytes → Option Value) (s : Stores) (reply : Published) :
    Prop :=
  ∀ dealId manifestUrl csvUrl, reply.answer.handsOut = some (dealId, manifestUrl, csvUrl) →
    ∃ proof cap, Entrusted seller parse s reply.context reply.received proof ∧
      proof.dealId = dealId ∧ manifestUrl = seller.manifestUrl dealId cap ∧
      csvUrl = seller.csvUrl dealId cap

variable {s t : Stores} {context : RequestContext} {at_ : ℕ} {proof : DeliveryProof}
  {reply : Published}

theorem HeldFor.supplies (h : Supplies seller s t) {r : ℕ} {dealId buyerAddress : String}
    (hs : HeldFor r dealId buyerAddress s) : HeldFor r dealId buyerAddress t := by
  obtain ⟨deal, hdeal, hid, hbuyer⟩ := hs
  obtain ⟨new, hnew, hid', hupholds⟩ := h.deals.objects r deal hdeal
  exact ⟨new, hnew, hid'.trans hid,
    (congrArg (fun origin => origin.2.2.1) hupholds.origin).trans hbuyer⟩

theorem Entrusted.supplies (h : Supplies seller s t)
    (hs : Entrusted seller parse s context at_ proof) :
    Entrusted seller parse t context at_ proof := by
  obtain ⟨hverified, r, hheld, hsigned⟩ := hs
  exact ⟨hverified, r, hheld.supplies h, h.signedAt hsigned⟩

theorem Entitled.of_none (h : reply.answer.handsOut = none) : Entitled seller parse s reply := by
  intro dealId manifestUrl csvUrl hsome
  cases h.symm.trans hsome

theorem Entitled.supplies (h : Supplies seller s t) (hs : Entitled seller parse s reply) :
    Entitled seller parse t reply := by
  intro dealId manifestUrl csvUrl hsome
  obtain ⟨proof, cap, hentrusted, hrest⟩ := hs dealId manifestUrl csvUrl hsome
  exact ⟨proof, cap, hentrusted.supplies h, hrest⟩

/-! ## Answers -/

section Answers

/-- The rules of the seller's tasks. -/
abbrev servingRules (seller : Seller) : Rules Stores Request Reply Moment :=
  (sellerSystem seller).rules freshIds (Serving seller) (Supplies seller)

variable {κ : Type}

/-- What an answer ends with. -/
abbrev Answers (seller : Seller) (parse : Bytes → Option Value) (context : RequestContext)
    (received : ℕ) (p : Task Stores κ Answer) (s : Stores) : Prop :=
  p.Ensures (servingRules seller)
    (fun answer t => Serving seller t ∧ Entitled seller parse t ⟨context, received, answer⟩)
    (fun _ => Serving seller) s

/-- An answer that hands out nothing. -/
theorem answers_atomic {α : Type} {p : SellerProg α} {f : α → Task Stores κ Answer}
    {received : ℕ} (hs : Serving seller s)
    (hintegrity : Prog.Ensures (fun _ => Integrity) Integrity p s)
    (hp : Supplies seller s (p.run s).2)
    (hf : ∀ a, ∃ result, f a = Async.ofExcept result ∧
      ∀ answer, result = .ok answer → answer.handsOut = none) :
    Answers seller parse context received ((Async.atomic p).bind f) s := by
  refine Async.ensures_bind (serves_atomic hs hintegrity hp) fun a t ht => ?_
  obtain ⟨result, hresult, hnone⟩ := hf a
  rw [hresult]
  exact Async.ensures_ofExcept (fun answer hanswer => ⟨ht, .of_none (hnone answer hanswer)⟩)
    fun _ _ => ht

omit [Canonicalize] [HostLocale] in
theorem handsOut_quoteAnswer (result : QuoteResult) :
    (quoteAnswer seller result).handsOut = none := by
  unfold quoteAnswer
  simp only
  split <;> rfl

theorem answerQuery_answers (hs : Serving seller s)
    (hfresh : mintedNegotiation s ∉ s.negotiations.keys) (data : Value) (received : ℕ) :
    Answers seller parse context received (answerQuery seller data : Task Stores κ Answer) s := by
  refine Async.ensures_ofExcept_bind (fun buyerAgentId _ => ?_) fun _ _ => hs
  split
  · split_ifs
    · exact hs
    · refine Async.ensures_ofExcept_bind (fun body _ => ?_) fun _ _ => hs
      refine answers_atomic hs (quote_ensures hs.1 hfresh _ _)
        (Supplies.quote_supplies hs.1 hfresh _ _) fun result => ⟨.ok _, rfl, ?_⟩
      rintro _ ⟨⟩
      exact handsOut_quoteAnswer result
  · exact hs

theorem answerProposal_answers (hs : Serving seller s) (hfresh : mintedDeal s ∉ s.deals.keys)
    (data : Value) (received : ℕ) :
    Answers seller parse context received (answerProposal data : Task Stores κ Answer) s := by
  refine Async.ensures_ofExcept_bind (fun negotiationId _ => ?_) fun _ _ => hs
  refine Async.ensures_ofExcept_bind (fun contract _ => ?_) fun _ _ => hs
  refine Async.ensures_ofExcept_bind (fun buyerAddress _ => ?_) fun _ _ => hs
  simp only
  split
  · split_ifs
    · exact hs
    · refine answers_atomic hs (propose_ensures hs.1 hfresh _ _ _)
        (Supplies.propose_within _ _ _ s) fun dealId => ?_
      cases termsHashOf _ with
      | error e =>
          refine ⟨.error e, rfl, ?_⟩
          rintro _ ⟨⟩
      | ok termsHash =>
          refine ⟨.ok _, rfl, ?_⟩
          rintro _ ⟨⟩
          rfl
  · exact hs

theorem answerAcceptance_answers (hs : Serving seller s) (data : Value) (received : ℕ) :
    Answers seller parse context received
      (answerAcceptance seller data : Task Stores κ Answer) s := by
  refine Async.ensures_ofExcept_bind (fun dealId _ => ?_) fun _ _ => hs
  refine Async.ensures_ofExcept_bind (fun _ _ => ?_) fun _ _ => hs
  refine Async.ensures_ofExcept_bind (fun sig _ => ?_) fun _ _ => hs
  refine answers_atomic hs (acceptStored_ensures hs.1 _ _ _) (Supplies.accept_within _ _ _ _ s)
    fun accepted => ⟨.ok _, rfl, ?_⟩
  rintro _ ⟨⟩
  rfl

/-- The locations of a delivery are those of its deal. -/
theorem deliver_returns (dealId : String) (anchors : Option SettlementAnchors)
    (evidenceId : Option String) :
    (deliver seller dealId anchors evidenceId : Task Stores κ (PreparedDelivery × Value)).Returns
      fun out => ∃ cap, out.1.manifestUrl = seller.manifestUrl dealId cap ∧
        out.1.csvUrl = seller.csvUrl dealId cap := by
  refine Async.returns_bind (P := fun prepared : PreparedDelivery => ∃ cap,
    prepared.manifestUrl = seller.manifestUrl dealId cap ∧
      prepared.csvUrl = seller.csvUrl dealId cap) ?_ fun prepared hprepared => ?_
  · refine Async.returns_bind (Async.returns_true _) ?_
    rintro ⟨r, record, cap⟩ _
    refine Async.returns_bind (Async.returns_true _) fun _ _ => Async.returns_atomic fun s => ?_
    refine Prog.ensures_get_bind (Prog.ensures_lift_bind trivial fun out _ => ?_)
    refine Prog.ensures_modify_bind (Prog.ensures_bind (Q := fun _ _ => True)
      (Prog.ensures_of_state trivial) fun _ _ _ => ?_)
    refine Prog.ensures_bind (Q := fun _ _ => True) (Prog.ensures_of_state trivial)
      fun deal _ _ => ?_
    refine Prog.ensures_lift_bind trivial fun termsHash _ => ?_
    exact Prog.ensures_lift_bind trivial fun envelope _ => ⟨cap, rfl, rfl⟩
  · refine Async.returns_bind (Async.returns_true _) fun command _ => ?_
    exact Async.returns_bind (Async.returns_true _) fun _ _ => hprepared

/-- A verified request is answered with the artifacts of the deal it is verified for. -/
theorem handOut_answers (hs : Serving seller s) (hverified : Verified parse context at_ proof)
    {r : ℕ} (hfound : s.deals.find? proof.dealId = some r)
    (hheld : HeldFor r proof.dealId proof.buyerAddress s) :
    Answers seller parse context at_ (handOut seller proof.dealId : Task Stores κ Answer) s := by
  refine Async.ensures_bind (Async.ensures_frame
    (F := HeldFor r proof.dealId proof.buyerAddress) (fun _ _ h ht => ht.supplies h)
    supplies_relies.sent supplies_enter hheld
    (Async.ensures_returns (deliver_returns proof.dealId none none)
      (deliver_ensures hs proof.dealId none none))) ?_
  rintro ⟨out, command⟩ t ⟨⟨⟨ht, hsigned⟩, cap, hmanifest, hcsv⟩, hheld⟩
  refine ⟨ht, ?_⟩
  rintro _ _ _ ⟨⟩
  exact ⟨proof, cap, ⟨hverified, r, hheld, hsigned r hfound⟩, rfl, hmanifest, hcsv⟩

omit [Digests] [Canonicalize] [HostLocale] [RecoverableEcdsa] in
/-- A record stays where it is when an interaction is recorded on it. -/
theorem heldFor_recordInteraction {dealId : String} {deal : DealRecord}
    (hget : s.deals.get? dealId = some deal) (input : HistoryInput) :
    ∃ r, ((recordInteraction dealId input).run s).2.deals.find? dealId = some r ∧
      HeldFor r dealId deal.buyerAddress ((recordInteraction dealId input).run s).2 := by
  have hkept : Agree DealRecord.origin s ((recordInteraction dealId input).run s).2 :=
    recordInteraction_within (fun _ _ => rfl) dealId input s
  obtain ⟨r, hfound, hdeal⟩ := ObjectMap.get?_eq_some_iff.1 hget
  have hobject := hkept.objects r
  rw [hdeal, Option.map_some] at hobject
  obtain ⟨new, hnew, horigin⟩ := Option.map_eq_some_iff.1 hobject
  have hfound' := (hkept.find? dealId).trans hfound
  exact ⟨r, hfound', new, hnew, ObjectMap.key_of_find? hfound' hnew,
    congrArg (fun origin => origin.2.2.1) horigin⟩

theorem answerDeliveryRequest_answers (hs : Serving seller s) {data : Value}
    (hdata : context.data parse = .ok data)
    (hkind : prop (some data) "kind" = .ok (some (.str "request-delivery"))) :
    Answers seller parse context s.now
      (answerDeliveryRequest seller data : Task Stores κ Answer) s := by
  refine Async.ensures_ofExcept_bind (fun dealId hid => ?_) fun _ _ => hs
  simp only [Async.Ensures]
  split
  · exact hs
  · rename_i deal hget
    refine Async.ensures_ofExcept_bind (fun requestedAt hat => ?_) fun _ _ => hs
    refine Async.ensures_ofExcept_bind (fun buyerSig hsig => ?_) fun _ _ => hs
    refine Async.ensures_ofExcept_bind (fun _ hverify => ?_) fun _ _ => hs
    obtain ⟨hfinite, hfresh, hsigned⟩ := verifyDeliveryRequest_eq_ok.1 hverify
    refine Async.ensures_bind (Async.ensures_atomic_of_prog
      (Supplies.recordInteraction_within dealId (deliveryRequested deal) s)
      (Prog.ensures_mono (Prog.ensures_of_state (P := fun t => Serving seller t ∧ ∃ r,
        t.deals.find? dealId = some r ∧ HeldFor r dealId deal.buyerAddress t)
          ⟨recordInteraction_serving hs _ _, heldFor_recordInteraction hget _⟩)
        (fun _ _ h => h) fun _ h => h.1)) ?_
    rintro _ t ⟨ht, r, hfound, hheld⟩
    have hverified : Verified parse context s.now
        ⟨dealId, requestedAt, buyerSig, deal.buyerAddress⟩ :=
      ⟨⟨data, hdata, hkind, hid, hat, hsig⟩, hfinite, hfresh, hsigned⟩
    exact handOut_answers ht hverified hfound hheld

theorem answerFor_answers (hs : Serving seller s) (context : RequestContext)
    (hfresh : Unminted parse context s) :
    Answers seller parse context s.now (answerFor seller parse context : Task Stores κ Answer)
      s := by
  refine Async.ensures_ofExcept_bind (fun data hdata => ?_) fun _ _ => hs
  refine Async.ensures_ofExcept_bind (fun kind hkind => ?_) fun _ _ => hs
  unfold answerKind
  simp only
  split_ifs with hquery hproposal _ _ hdelivery
  · exact answerQuery_answers hs
      (hfresh.query ⟨data, hdata, strictEq_str hquery ▸ hkind⟩) data _
  · exact answerProposal_answers hs
      (hfresh.proposal ⟨data, hdata, strictEq_str hproposal ▸ hkind⟩) data _
  · exact answerAcceptance_answers hs data _
  · exact hs
  · exact answerDeliveryRequest_answers hs hdata (strictEq_str hdelivery ▸ hkind)
  · exact hs

end Answers

/-! ## All runs -/

/-- The stores are in order, and everything handed out was handed out to its buyer. -/
def Attended (seller : Seller) (parse : Bytes → Option Value) (desk : Desk) : Prop :=
  Serving seller desk.stores ∧
    ∀ reply ∈ desk.published, Entitled seller parse desk.stores reply

theorem attended_around : Async.Around
    ((executorSystem seller parse).rules (unminted parse) (Attended seller parse)
      fun desk desk' => Supplies seller desk.stores desk'.stores)
    (servingRules seller) Desk.stores Desk.put
    fun desk => ∀ reply ∈ desk.published, Entitled seller parse desk.stores reply where
  invariant _ := Iff.rfl
  rely _ _ := Iff.rfl
  sent _ _ := rfl
  entered _ _ := rfl
  answers _ _ _ h := h
  puts _ _ h hF reply hreply := (hF reply hreply).supplies h
  sends _ _ hF := hF
  enters m desk hF reply hreply := (hF reply hreply).supplies (supplies_enter m desk.stores)

theorem publish_keeps {desk : Desk} (hdesk : Attended seller parse desk) {context : RequestContext}
    {received : ℕ} {answer : Answer}
    (hanswer : Entitled seller parse desk.stores ⟨context, received, answer⟩) :
    (executorSystem seller parse).Keeps (unminted parse) (Attended seller parse)
      (fun desk desk' => Supplies seller desk.stores desk'.stores)
      (publish context received answer) desk := by
  refine ⟨Supplies.frame.refl _, hdesk.1, fun reply hreply => ?_⟩
  rcases List.mem_append.1 hreply with hold | hnew
  · exact hdesk.2 reply hold
  · rw [List.mem_singleton.1 hnew]
    exact hanswer

theorem execute_keeps {desk : Desk} (hdesk : Attended seller parse desk)
    (context : RequestContext) (hfresh : Unminted parse context desk.stores) :
    (executorSystem seller parse).Keeps (unminted parse) (Attended seller parse)
      (fun desk desk' => Supplies seller desk.stores desk'.stores)
      (execute seller parse context) desk := by
  refine Async.ensures_conclude (Async.ensures_within desk_part attended_around hdesk.2
    (answerFor_answers hdesk.1 context hfresh)) ?_ ?_
  · rintro answer desk' ⟨⟨hserving, hentitled⟩, hF⟩
    exact publish_keeps ⟨hserving, hF⟩ hentitled
  · rintro e desk' ⟨hserving, hF⟩
    exact publish_keeps ⟨hserving, hF⟩ (.of_none rfl)

variable {c : System.Config Failure Desk Request Reply RequestContext}
  {es : List (System.Event Reply RequestContext Moment Empty)}

/-! ## One reply for every message -/

/-- A waiting task ends with the reply to a message. -/
def RepliesTo (message : RequestContext × ℕ)
    (t : Request × (Reply → Task Desk RequestContext Unit)) : Prop :=
  ∃ k : Reply → Task Stores RequestContext Answer, t.2 = fun v =>
    (Async.within Desk.stores Desk.put (k v)).conclude
      fun result => publish message.1 message.2 (answerOf result)

/-- The tasks that wait will reply to these messages, which they are entrusted with. -/
structure Awaits (seller : Seller) (parse : Bytes → Option Value)
    (c : System.Config Failure Desk Request Reply RequestContext)
    (pending : List (RequestContext × ℕ)) : Prop where
  replies : List.Forall₂ RepliesTo pending c.waiting
  entrusted : ∀ message ∈ pending, ∃ proof,
    Entrusted seller parse c.state.stores message.1 message.2 proof

/-- The replies sent and those that waiting tasks will send are those to the messages. -/
def Answered (seller : Seller) (parse : Bytes → Option Value)
    (c : System.Config Failure Desk Request Reply RequestContext)
    (contexts : List RequestContext) : Prop :=
  ∃ pending, Awaits seller parse c pending ∧
    (c.state.published.map Published.context ++ pending.map Prod.fst).Perm contexts

/-- Every other message is answered without a wait. -/
theorem answerKind_prompt {kind : Option Value}
    (hother : strictEq kind (some (.str "request-delivery")) = false) (data : Value) :
    (answerKind seller kind data : Task Stores RequestContext Answer).Prompt := by
  have hprop {f : Option Value → Task Stores RequestContext Answer} (k : String)
      (hf : ∀ v, (f v).Prompt) : ((Async.ofExcept (prop (some data) k)).bind f).Prompt :=
    Async.prompt_bind (Async.prompt_ofExcept _) hf
  have htext {f : String → Task Stores RequestContext Answer} (k : String)
      (hf : ∀ v, (f v).Prompt) : ((Async.ofExcept (textMember data k)).bind f).Prompt :=
    Async.prompt_bind (Async.prompt_ofExcept _) hf
  unfold answerKind
  simp only [hother, Bool.false_eq_true, reduceIte]
  split_ifs
  · refine hprop _ fun buyerAgentId => ?_
    split
    · split_ifs
      · exact trivial
      · exact hprop _ fun body => Async.prompt_bind (Async.prompt_atomic _) fun _ => trivial
    · exact trivial
  · refine hprop _ fun negotiationId => hprop _ fun contract => hprop _ fun buyerAddress => ?_
    simp only
    split
    · split_ifs
      · exact trivial
      · exact Async.prompt_bind (Async.prompt_atomic _) fun _ =>
          Async.prompt_bind (Async.prompt_ofExcept _) fun _ => trivial
    · exact trivial
  · exact htext _ fun dealId => htext _ fun _ => htext _ fun sig =>
      Async.prompt_bind (Async.prompt_atomic _) fun _ => trivial
  · exact trivial
  · exact trivial

/-- A delivery that waits for the store is one of a countersigned record. -/
theorem handOut_waits {κ : Type} (hs : Serving seller s) {dealId : String} {request : Request}
    {k : Reply → Task Stores κ Answer} {js : List κ}
    (h : (handOut seller dealId).advance s = (.waits request k, t, js)) :
    t = s ∧ ∀ r, s.deals.find? dealId = some r → SignedAt seller r s := by
  unfold handOut deliver prepareDelivery at h
  simp only [Async.bind_eq, Async.bind_assoc] at h
  obtain ⟨⟨r, record, cap⟩, s', hbegin, hrest⟩ := Async.exists_of_waits_atomic h
  have hbegun := beginDelivery_ensures dealId s
  unfold Prog.Ensures at hbegun
  rw [hbegin] at hbegun
  obtain ⟨rfl, hfound, deal, hdeal, hcommitted, _⟩ := hbegun
  simp only [call, Async.bind, Async.advance] at hrest
  cases hrest
  refine ⟨rfl, fun r' hfound' => ?_⟩
  cases hfound.symm.trans hfound'
  exact ⟨deal, hdeal, hs.2.signed r deal hdeal hcommitted⟩

/-- A message is kept waiting only when it is entrusted with the delivery of its deal. -/
theorem answerFor_waits (hs : Serving seller s) {request : Request}
    {k : Reply → Task Stores RequestContext Answer} {js : List RequestContext}
    (h : (answerFor seller parse context).advance s = (.waits request k, t, js)) :
    ∃ proof, Entrusted seller parse t context s.now proof := by
  obtain ⟨data, hdata, h⟩ := Async.exists_of_waits_ofExcept h
  obtain ⟨kind, hkind, h⟩ := Async.exists_of_waits_ofExcept h
  cases hdelivery : strictEq kind (some (.str "request-delivery")) with
  | false => exact absurd h ((answerKind_prompt hdelivery data).advance s)
  | true =>
      cases strictEq_str hdelivery
      replace h : (answerDeliveryRequest seller data).advance s = (.waits request k, t, js) := h
      obtain ⟨dealId, hid, h⟩ := Async.exists_of_waits_ofExcept h
      simp only [Async.advance] at h
      split at h
      · cases h
      · rename_i deal hget
        obtain ⟨requestedAt, hat, h⟩ := Async.exists_of_waits_ofExcept h
        obtain ⟨buyerSig, hsig, h⟩ := Async.exists_of_waits_ofExcept h
        obtain ⟨_, hverify, h⟩ := Async.exists_of_waits_ofExcept h
        obtain ⟨hfinite, hfresh, hsigned⟩ := verifyDeliveryRequest_eq_ok.1 hverify
        obtain ⟨_, s', hrecord, h⟩ := Async.exists_of_waits_atomic h
        obtain ⟨r, hfound, hheld⟩ := heldFor_recordInteraction hget (deliveryRequested deal)
        have hserving := recordInteraction_serving hs dealId (deliveryRequested deal)
        rw [hrecord] at hfound hheld hserving
        obtain ⟨rfl, hsignedAt⟩ := handOut_waits hserving h
        exact ⟨⟨dealId, requestedAt, buyerSig, deal.buyerAddress⟩,
          ⟨⟨data, hdata, hkind, hid, hat, hsig⟩, hfinite, hfresh, hsigned⟩, r, hheld,
          hsignedAt r hfound⟩

/-- A task that answers a message sends the reply when it is over, and waits before. -/
theorem Awaits.settle {pending : List (RequestContext × ℕ)} (desk : Desk)
    (message : RequestContext × ℕ) (h : Awaits seller parse c pending)
    (hpublished : desk.published = c.state.published) {p : Task Stores RequestContext Answer}
    {c' : System.Config Failure Desk Request Reply RequestContext}
    (hc' : (executorSystem seller parse).settle c
      ((Async.within Desk.stores Desk.put p).conclude
        fun result => publish message.1 message.2 (answerOf result)) desk = c')
    (hsupplies : Supplies seller c.state.stores c'.state.stores)
    (hp : ∀ request k t js, p.advance desk.stores = (.waits request k, t, js) →
      c'.state.stores = t →
        ∃ proof, Entrusted seller parse c'.state.stores message.1 message.2 proof) :
    ∃ pending', Awaits seller parse c' pending' ∧
      (c'.state.published.map Published.context ++ pending'.map Prod.fst).Perm
        (c.state.published.map Published.context ++ pending.map Prod.fst ++ [message.1]) := by
  have hkept : ∀ old ∈ pending, ∃ proof,
      Entrusted seller parse c'.state.stores old.1 old.2 proof := fun old hold => by
    obtain ⟨proof, hentrusted⟩ := h.entrusted old hold
    exact ⟨proof, hentrusted.supplies hsupplies⟩
  cases hstop : p.advance desk.stores with
  | mk pause rest =>
      obtain ⟨t, js⟩ := rest
      cases pause with
      | ended result =>
          have hadvance := Async.advance_conclude_ended desk_part
            (f := fun result => publish message.1 message.2 (answerOf result)) hstop
          rw [System.settle_of_ended _ hadvance] at hc'
          subst hc'
          refine ⟨pending, ⟨h.replies, hkept⟩, ?_⟩
          show ((desk.published ++ [_]).map Published.context ++ pending.map Prod.fst).Perm _
          rw [hpublished, List.map_append, List.append_assoc, List.append_assoc]
          exact List.Perm.append_left _ List.perm_append_comm
      | waits request k =>
          have hadvance := Async.advance_conclude_waits desk_part
            (f := fun result => publish message.1 message.2 (answerOf result)) hstop
          rw [System.settle_of_waits _ hadvance] at hc'
          subst hc'
          refine ⟨pending ++ [message],
            ⟨List.rel_append h.replies (.cons ⟨k, rfl⟩ .nil), fun old hold => ?_⟩, ?_⟩
          · rcases List.mem_append.1 hold with hold | hnew
            · exact hkept old hold
            · rw [List.mem_singleton.1 hnew]
              exact hp request k t js hstop rfl
          · show List.Perm
              (desk.published.map Published.context ++ (pending ++ [message]).map Prod.fst) _
            rw [hpublished, List.map_append, ← List.append_assoc]
            exact .refl _

theorem desk_relies : (executorSystem seller parse).Relies
    fun desk desk' => Supplies seller desk.stores desk'.stores :=
  ⟨fun _ => Supplies.frame.refl _, Supplies.frame.trans, fun _ _ => Supplies.frame.refl _,
    fun m desk => supplies_enter m desk.stores, nofun⟩

theorem Attended.enter {desk : Desk} (h : Attended seller parse desk) (m : Moment) :
    Attended seller parse (desk.put (desk.stores.enter m)) :=
  ⟨h.1.enter m, fun reply hreply => (h.2 reply hreply).supplies (supplies_enter m desk.stores)⟩

/-- The messages answered and due, with the invariant of the executor. -/
structure Tended (seller : Seller) (parse : Bytes → Option Value)
    (c : System.Config Failure Desk Request Reply RequestContext)
    (contexts : List RequestContext) : Prop where
  good : System.Good (executorSystem seller parse) (unminted parse) (Attended seller parse)
    (fun desk desk' => Supplies seller desk.stores desk'.stores) c
  related : ∃ d, System.Related (executorSystem seller parse) (sellerSystem seller)
    Desk.stores c d
  answered : Answered seller parse c contexts

/-- One step answers, or leaves waiting, what comes in. -/
theorem Tended.step {contexts : List RequestContext}
    {c' : System.Config Failure Desk Request Reply RequestContext}
    {e : System.Event Reply RequestContext Moment Empty} (h : Tended seller parse c contexts)
    (hmeets : (executorSystem seller parse).Meets (unminted parse) c e)
    (hstep : (executorSystem seller parse).machine.step c e = some c') :
    Tended seller parse c' (contexts ++ received [e]) := by
  obtain ⟨d, hrelated⟩ := h.related
  obtain ⟨_, d', _, _, hrelated'⟩ := executor_step hrelated hmeets hstep
  obtain ⟨hgood, hsupplies⟩ := System.good_step desk_relies
    (fun context m desk hdesk hfresh => execute_keeps (hdesk.enter m) context hfresh) nofun
    h.good hmeets hstep
  refine ⟨hgood, ⟨d', hrelated'⟩, ?_⟩
  obtain ⟨pending, hawaits, hperm⟩ := h.answered
  cases e with
  | request context m =>
      obtain ⟨pending', hawaits', hperm'⟩ := Awaits.settle
        (c.state.put (c.state.stores.enter m)) (context, m.now) hawaits rfl
        (Option.some.inj hstep) hsupplies
        (fun _ _ _ _ hstop hend => hend ▸ answerFor_waits (h.good.1.1.enter m) hstop)
      exact ⟨pending', hawaits', hperm'.trans (hperm.append_right [context])⟩
  | begin i m =>
      obtain ⟨j, hj, _⟩ := Option.map_eq_some_iff.1 hstep
      rw [hrelated.ready.1] at hj
      cases hj
  | answer i v m =>
      obtain ⟨⟨r, k⟩, hk, hstep⟩ := Option.map_eq_some_iff.1 hstep
      obtain ⟨message, hmessage, ⟨p, hshape⟩, hrest⟩ := forall₂_eraseIdx hawaits.replies.flip hk
      obtain ⟨proof, hentrusted⟩ := hawaits.entrusted message (List.mem_of_getElem? hmessage)
      obtain ⟨hlt, hget⟩ := List.getElem?_eq_some_iff.1 hmessage
      have hrest : Awaits seller parse { c with waiting := c.waiting.eraseIdx i }
          (pending.eraseIdx i) :=
        ⟨hrest.flip, fun old hold => hawaits.entrusted old (List.mem_of_mem_eraseIdx hold)⟩
      have hshape : k v = _ := congrFun hshape v
      simp only at hstep
      rw [hshape] at hstep
      obtain ⟨pending', hawaits', hperm'⟩ := Awaits.settle
        (c.state.put (c.state.stores.enter m)) message hrest rfl hstep hsupplies
        (fun _ _ _ _ _ _ => ⟨proof, hentrusted.supplies hsupplies⟩)
      refine ⟨pending', hawaits', hperm'.trans ?_⟩
      have herase : (pending.eraseIdx i ++ [message]).Perm pending :=
        List.perm_append_comm.trans (hget ▸ List.getElem_cons_eraseIdx_perm hlt)
      have hmap := herase.map Prod.fst
      rw [List.map_append] at hmap
      rw [List.append_assoc]
      refine (List.Perm.append_left _ hmap).trans (hperm.trans ?_)
      exact (List.append_nil contexts).symm ▸ .refl _
  | outside e => exact e.elim

theorem Tended.runFrom {contexts : List RequestContext}
    {c' : System.Config Failure Desk Request Reply RequestContext}
    (h : Tended seller parse c contexts)
    (hmeets : (executorSystem seller parse).machine.MeetsFrom
      ((executorSystem seller parse).Meets (unminted parse)) c es)
    (hrun : (executorSystem seller parse).machine.runFrom c es = some c') :
    Tended seller parse c' (contexts ++ received es) := by
  induction es generalizing c contexts with
  | nil =>
      cases hrun
      rwa [received, List.filterMap_nil, List.append_nil]
  | cons e es ih =>
      obtain ⟨c₁, hstep, hrest⟩ := Machine.runFrom_cons _ |>.1 hrun
      have hnext := ih (h.step hmeets.1 hstep) (hmeets.2 c₁ hstep) hrest
      have hsplit : received (e :: es) = received [e] ++ received es :=
        List.filterMap_append (l := [e])
      rwa [hsplit, ← List.append_assoc]

theorem tended_of_run
    (hmeets : (executorSystem seller parse).machine.Meets
      ((executorSystem seller parse).Meets (unminted parse)) es)
    (hrun : (executorSystem seller parse).machine.run es = some c) :
    Tended seller parse c (received es) := by
  have hstart : Tended seller parse (executorSystem seller parse).machine.init [] :=
    ⟨⟨⟨⟨Integrity.empty, Supplied.empty⟩, fun _ h => absurd h List.not_mem_nil⟩,
      fun _ h => absurd h List.not_mem_nil⟩, ⟨_, executor_init⟩, [],
      ⟨.nil, fun _ h => absurd h List.not_mem_nil⟩, .refl _⟩
  exact hstart.runFrom hmeets hrun

/-- In every run, an artifact is generated, and its locations are handed out, only for a
delivery request that was at most five minutes old when it came in and whose signature over
the deal and the time recovers to the buyer of that deal; and the deal is countersigned. -/
theorem artifacts_entrusted
    (hmeets : (executorSystem seller parse).machine.Meets
      ((executorSystem seller parse).Meets (unminted parse)) es)
    (hrun : (executorSystem seller parse).machine.run es = some c) :
    (∃ pending : List (RequestContext × ℕ), List.Forall₂ RepliesTo pending c.waiting ∧
      ∀ message ∈ pending, ∃ proof,
        Entrusted seller parse c.state.stores message.1 message.2 proof) ∧
    ∀ reply ∈ c.state.published, Entitled seller parse c.state.stores reply := by
  obtain ⟨hgood, _, pending, hawaits, _⟩ := tended_of_run hmeets hrun
  exact ⟨⟨pending, hawaits.replies, hawaits.entrusted⟩, hgood.1.2⟩

/-- Every message is answered once: the replies sent and the replies still due are
together those to the messages that came in, each to one, and only a delivery request is
ever answered later than in the step in which it comes in. -/
theorem answered_once
    (hmeets : (executorSystem seller parse).machine.Meets
      ((executorSystem seller parse).Meets (unminted parse)) es)
    (hrun : (executorSystem seller parse).machine.run es = some c) :
    ∃ pending : List RequestContext, pending.length = c.waiting.length ∧
      (∀ context ∈ pending, context.Asks parse "request-delivery") ∧
      (c.state.published.map Published.context ++ pending).Perm (received es) := by
  obtain ⟨_, _, pending, hawaits, hperm⟩ := tended_of_run hmeets hrun
  refine ⟨pending.map Prod.fst, (List.length_map _).trans hawaits.replies.length_eq, ?_, hperm⟩
  intro context hcontext
  obtain ⟨message, hmessage, rfl⟩ := List.mem_map.1 hcontext
  obtain ⟨proof, hentrusted⟩ := hawaits.entrusted message hmessage
  obtain ⟨data, hdata, hkind, _⟩ := hentrusted.request.carried
  exact ⟨data, hdata, hkind⟩

end Replies

/-! ## A conversation -/

section Demo

attribute [local instance] Digests.checksum HostLocale.ascii Canonicalize.plain
  RecoverableEcdsa.transparent

/-- The delivery of the demo is the buyer's. -/
theorem demo_entrusted : ∃ (parse : Bytes → Option Value)
    (c : System.Config Failure Desk Request Reply RequestContext) (context : RequestContext)
    (received : ℕ) (proof : DeliveryProof), c.waiting ≠ [] ∧
      Entrusted (demoSeller oneTractCorpus) parse c.state.stores context received proof := by
  obtain ⟨parse, _, c, hmeets, hrun, _, hwaiting⟩ := exists_demo_waiting
  obtain ⟨⟨pending, hreplies, hentrusted⟩, _⟩ := artifacts_entrusted hmeets hrun
  obtain ⟨message, hmessage⟩ : ∃ message, message ∈ pending :=
    List.exists_mem_of_ne_nil _ fun hnil => hwaiting <| by
      rw [← List.length_eq_zero_iff, ← hreplies.length_eq, hnil, List.length_nil]
  obtain ⟨proof, hproof⟩ := hentrusted message hmessage
  exact ⟨parse, c, message.1, message.2, proof, hwaiting, hproof⟩

/-- Of the four messages of the demo some are answered and some are not yet. -/
theorem demo_answered : ∃ (parse : Bytes → Option Value)
    (c : System.Config Failure Desk Request Reply RequestContext)
    (pending : List RequestContext), pending ≠ [] ∧
      (∀ context ∈ pending, context.Asks parse "request-delivery") ∧
      c.state.published.length + pending.length = 4 := by
  obtain ⟨parse, es, c, hmeets, hrun, hfour, hwaiting⟩ := exists_demo_waiting
  obtain ⟨pending, hlength, hasks, hperm⟩ := answered_once hmeets hrun
  refine ⟨parse, c, pending, fun hnil => hwaiting ?_, hasks, ?_⟩
  · exact List.length_eq_zero_iff.1 (hlength.symm.trans (congrArg List.length hnil))
  · have hsum := hperm.length_eq
    rw [List.length_append, List.length_map] at hsum
    rw [hsum, hfour]

end Demo

end DataSeller

end Coordination
