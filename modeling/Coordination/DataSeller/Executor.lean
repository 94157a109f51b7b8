import Coordination.DataSeller.Served
import Coordination.Library.Refinement

/-!
# The A2A executor

`DataSellerExecutor` without a Runtime: it checks that a message opts into the
extension, reads its negotiation part and calls the seller for it. Every message gets
one reply; an exception becomes the reply that names it. The artifacts of a deal are
handed out only against a fresh request signed by its buyer.

`JSON.parse` is a parameter, from the bytes of a part to a value.
-/

namespace Coordination

namespace DataSeller

open JavaScript Library Engine

/-! ## Messages -/

/-- `NEGOTIATION_MEDIA_TYPE`. -/
def negotiationMediaType : String :=
  "application/vnd.gokite.example-data-negotiation+json;version=1"

/-- The content of a part: raw bytes, or something else. -/
inductive PartContent where
  | raw (value : Bytes)
  | other

structure Part where
  content : PartContent
  mediaType : String

structure Message where
  extensions : List String
  parts : List Part

structure RequestContext where
  requestedExtensions : Option (List String)
  userMessage : Message

/-- The bytes of the negotiation part. -/
def Message.negotiationPart (message : Message) : Option Bytes :=
  message.parts.findSome? fun part =>
    match part.content with
    | .raw value => if part.mediaType = negotiationMediaType then some value else none
    | .other => none

/-- What a message asks for, once it opts into the extension. -/
def RequestContext.data (parse : Bytes → Option Value) (context : RequestContext) :
    Except Failure Value := do
  throwIf (extensionUri ∉ context.requestedExtensions.getD []) (.ok
    "request does not activate the coordination extension via the A2A-Extensions header (§2.2)")
  throwIf (extensionUri ∉ context.userMessage.extensions) (.ok
    "message does not declare the coordination extension in its extensions array (§2.2)")
  match context.userMessage.negotiationPart with
  | none => error s!"no raw part with media type {negotiationMediaType}"
  | some value =>
    match parse value with
    | none => error "negotiation part is not JSON"
    | some data => return data

/-- A message of a kind. -/
def RequestContext.Asks (parse : Bytes → Option Value) (kind : String) (context : RequestContext) :
    Prop :=
  ∃ data, context.data parse = .ok data ∧ prop (some data) "kind" = .ok (some (.str kind))

/-! ## Delivery requests -/

/-- `DELIVERY_REQUEST_MAX_AGE_SECONDS`. -/
def deliveryRequestMaxAgeSeconds : Number := 300

section Verification

variable [Digests] [Canonicalize] [HostLocale] [RecoverableEcdsa]

structure DeliveryProof where
  dealId : String
  requestedAt : Number
  buyerSig : String
  buyerAddress : String

/-- `Math.floor(Date.now() / 1000)`. -/
def secondsAt (now : ℕ) : Number :=
  Number.floor (Float.ofNat now / 1000)

/-- `verifyDeliveryRequest`. -/
def verifyDeliveryRequest (input : DeliveryProof) (now : ℕ) : Except Failure Unit := do
  throwIf (input.requestedAt.isFinite = false ∨
      deliveryRequestMaxAgeSeconds < (secondsAt now - input.requestedAt).abs)
    (.ok "delivery request timestamp is outside the 300s freshness window")
  let recovered := recover input.buyerSig
    (← deliveryRequestSigningBytes input.dealId input.requestedAt)
  throwIf (recovered ≠ some (HostLocale.toLowerCase input.buyerAddress))
    (.ok ("delivery request is not signed by the buyer who signed the terms — refusing to hand " ++
      "out the artifact capability"))

/-- `signDeliveryRequest`. -/
def signDeliveryRequest (privateKey : Bytes) (dealId : String) (requestedAt : Number) :
    Except Failure String := do
  return sign privateKey (← deliveryRequestSigningBytes dealId requestedAt)

theorem verifyDeliveryRequest_eq_ok {input : DeliveryProof} {now : ℕ} {u : Unit} :
    verifyDeliveryRequest input now = .ok u ↔ input.requestedAt.isFinite = true ∧
      ¬ deliveryRequestMaxAgeSeconds < (secondsAt now - input.requestedAt).abs ∧
      ∃ bytes, deliveryRequestSigningBytes input.dealId input.requestedAt = .ok bytes ∧
        recover input.buyerSig bytes = some (HostLocale.toLowerCase input.buyerAddress) := by
  unfold verifyDeliveryRequest
  constructor
  · intro h
    obtain ⟨_, hfresh, h₁⟩ := bind_eq_ok.1 h
    obtain ⟨bytes, hbytes, h₂⟩ := bind_eq_ok.1 h₁
    have hfresh := throwIf_eq_ok.1 hfresh
    rw [not_or, Bool.not_eq_false] at hfresh
    exact ⟨hfresh.1, hfresh.2, bytes, hbytes, not_not.1 (throwIf_eq_ok.1 h₂)⟩
  · rintro ⟨hfinite, hfresh, bytes, hbytes, hrecover⟩
    refine bind_eq_ok.2 ⟨(), throwIf_eq_ok.2 (not_or.2 ⟨?_, hfresh⟩), bind_eq_ok.2
      ⟨bytes, hbytes, throwIf_eq_ok.2 (not_not.2 hrecover)⟩⟩
    rw [hfinite]
    decide

/-- A buyer's own request is verified while it is fresh. -/
theorem verify_signDeliveryRequest {key : Bytes} (hkey : RecoverableEcdsa.Inverts key)
    {dealId sig : String} {requestedAt : Number} {now : ℕ}
    (hlower : HostLocale.toLowerCase (addressOfPrivateKey key) = addressOfPrivateKey key)
    (hfinite : requestedAt.isFinite = true)
    (hfresh : ¬ deliveryRequestMaxAgeSeconds < (secondsAt now - requestedAt).abs)
    (hsig : signDeliveryRequest key dealId requestedAt = .ok sig) :
    verifyDeliveryRequest ⟨dealId, requestedAt, sig, addressOfPrivateKey key⟩ now = .ok () := by
  obtain ⟨bytes, hbytes, h⟩ := bind_eq_ok.1 hsig
  cases h
  refine verifyDeliveryRequest_eq_ok.2 ⟨hfinite, hfresh, bytes, hbytes, ?_⟩
  rw [recover_sign hkey, hlower]

end Verification

/-! ## Answers -/

/-- `identityBlock`. -/
structure IdentityBlock where
  sellerAgentId : String
  sellerAddress : String
  sellerKeyId : String
  payoutAddress : String
  coordinationEndpoint : String

/-- The payloads of the replies, by their kind. -/
inductive Answer where
  | error (message : String)
  | refused (negotiationId : String) (rejections : List Rejection)
  | unpriced (negotiationId : String) (body : QuoteBody)
  | quote (negotiationId summary : String) (body : QuoteBody) (termsDocument : TermsDocument)
      (termsDocumentHash acceptanceCriteria : String) (seller : IdentityBlock)
  | proposalAck (dealId termsHash : String)
  | acceptanceResult (dealId : String) (contract : Value)
  | delivery (dealId manifestUrl csvUrl deliveryHash : String) (evidenceEnvelope command : Value)

section Executor

variable [Digests] [Canonicalize] [HostLocale] [RecoverableEcdsa] (seller : Seller)

def Seller.identityBlock : IdentityBlock where
  sellerAgentId := seller.env.sellerAgentId
  sellerAddress := seller.address
  sellerKeyId := seller.keyId
  payoutAddress := seller.env.sellerPayoutAddress
  coordinationEndpoint := seller.env.coordinationEndpoint

/-- `acceptanceCriteriaFor`. -/
def Seller.acceptanceCriteriaFor (record : QuoteRecord) : String :=
  buildAcceptanceCriteria record.termsDocumentHash seller.config.publicUrl

/-- `refuse(message)`: the reply is the one to an exception with this message. -/
def refuse {κ α : Type} (message : String) : Task Stores κ α :=
  .fail (.raised .Error message)

/-- The reply to a quote. -/
def quoteAnswer (result : QuoteResult) : Answer :=
  let negotiationId := result.negotiation.negotiationId
  match result.facts, result.record with
  | .refused rejections, _ => .refused negotiationId rejections
  | .accepted facts, none => .unpriced negotiationId facts.body
  | .accepted facts, some record => .quote negotiationId facts.summary facts.body
      record.termsDocument record.termsDocumentHash (seller.acceptanceCriteriaFor record)
      seller.identityBlock

/-- `case "query"`. -/
def answerQuery {κ : Type} (data : Value) : Task Stores κ Answer := do
  match ← Async.ofExcept (prop (some data) "buyerAgentId") with
  | some (.str buyerAgentId) =>
    if buyerAgentId = "" then refuse "query carries `buyerAgentId` and `body`"
    else
      let body ← Async.ofExcept (prop (some data) "body")
      let result ← .atomic (quote seller buyerAgentId body)
      return quoteAnswer seller result
  | _ => refuse "query carries `buyerAgentId` and `body`"

/-- `case "submit-proposal"`. -/
def answerProposal {κ : Type} (data : Value) : Task Stores κ Answer := do
  let negotiationId ← Async.ofExcept (prop (some data) "negotiationId")
  let contract ← Async.ofExcept (prop (some data) "contract")
  let buyerAddress ← Async.ofExcept (prop (some data) "buyerAddress")
  let refusal := "submit-proposal carries `negotiationId`, `contract`, and `buyerAddress`"
  match negotiationId, contract, buyerAddress with
  | some (.str negotiationId), some contract, some (.str buyerAddress) =>
    if negotiationId = "" ∨ buyerAddress = "" then refuse refusal
    else
      let dealId ← .atomic (propose negotiationId contract buyerAddress)
      let termsHash ← Async.ofExcept (termsHashOf contract)
      return .proposalAck dealId termsHash
  | _, _, _ => refuse refusal

/-- `String(data[k] ?? "")`. -/
def textMember (data : Value) (k : String) : Except Failure String := do
  textOrEmpty (← prop (some data) k)

/-- `Number(data[k])`. -/
def numberMember (data : Value) (k : String) : Except Failure Number := do
  toNumber (← prop (some data) k)

/-- `case "acceptance-request"`. -/
def answerAcceptance {κ : Type} (data : Value) : Task Stores κ Answer := do
  let dealId ← Async.ofExcept (textMember data "dealId")
  let _ ← Async.ofExcept (textMember data "negotiationId")
  let buyerAgreementSig ← Async.ofExcept (textMember data "buyerAgreementSig")
  let accepted ← .atomic (accept seller dealId buyerAgreementSig none none)
  return .acceptanceResult dealId accepted

/-- The entry of a delivery request in the history of its deal. -/
def deliveryRequested (deal : DealRecord) : HistoryInput :=
  ⟨.fulfillment, .buyerToSeller, "request-delivery",
    "Buyer requested delivery with a verified freshness proof", some deal.stateText⟩

/-- What is handed out for a verified delivery request. -/
def handOut {κ : Type} (dealId : String) : Task Stores κ Answer := do
  let (out, command) ← deliver seller dealId none none
  return .delivery dealId out.manifestUrl out.csvUrl out.deliveryHash out.envelope command

/-- `case "request-delivery"`. -/
def answerDeliveryRequest {κ : Type} (data : Value) : Task Stores κ Answer := do
  let dealId ← Async.ofExcept (textMember data "dealId")
  .read fun s =>
    match s.deals.get? dealId with
    | none => refuse s!"unknown deal {dealId}"
    | some deal => do
      let requestedAt ← Async.ofExcept (numberMember data "requestedAt")
      let buyerSig ← Async.ofExcept (textMember data "buyerSig")
      Async.ofExcept (verifyDeliveryRequest
        ⟨dealId, requestedAt, buyerSig, deal.buyerAddress⟩ s.now)
      .atomic (recordInteraction dealId (deliveryRequested deal))
      handOut seller dealId

/-- `JSON.stringify(v)` in a text. -/
def stringifyOrUndefined : Option Value → String
  | none => "undefined"
  | some v => stringify v

/-- The switch over `data["kind"]`. -/
def answerKind {κ : Type} (kind : Option Value) (data : Value) : Task Stores κ Answer :=
  let isKind (s : String) : Bool := strictEq kind (some (.str s))
  if isKind "query" then answerQuery seller data
  else if isKind "submit-proposal" then answerProposal data
  else if isKind "acceptance-request" then answerAcceptance seller data
  else if isKind "funding-request" then
    refuse ("standalone mode has no Runtime to read the Activation from — funding needs " ++
      "KITE_COORDINATION_MODE=live")
  else if isKind "request-delivery" then answerDeliveryRequest seller data
  else refuse s!"unknown negotiation kind {stringifyOrUndefined kind}"

/-! ## The executor -/

/-- A reply that was sent, with the message it answers and the time that came in. -/
structure Published where
  context : RequestContext
  received : ℕ
  answer : Answer

/-- The stores and, for the record, the replies sent. -/
structure Desk where
  stores : Stores
  published : List Published

def Desk.put (s : Stores) (desk : Desk) : Desk :=
  { desk with stores := s }

/-- What is sent when the answer has been found, or an exception was thrown. -/
def answerOf : Except Failure Answer → Answer
  | .ok answer => answer
  | .error e => .error (messageOf e)

/-- `eventBus.publish`. -/
def publish {κ : Type} (context : RequestContext) (received : ℕ) (answer : Answer) :
    Task Desk κ Unit :=
  .read fun desk => .write { desk with
    published := desk.published ++ [⟨context, received, answer⟩] } (.ret ())

/-- The body of the `try` block. -/
def answerFor {κ : Type} (parse : Bytes → Option Value) (context : RequestContext) :
    Task Stores κ Answer := do
  let data ← Async.ofExcept (context.data parse)
  let kind ← Async.ofExcept (prop (some data) "kind")
  answerKind seller kind data

/-- `execute`. -/
def execute (parse : Bytes → Option Value) (context : RequestContext) :
    Task Desk RequestContext Unit :=
  .read fun desk => (Async.within Desk.stores Desk.put (answerFor seller parse context)).conclude
    fun result => publish context desk.stores.now (answerOf result)

/-- The executor, called from outside in every order. -/
def executorSystem (parse : Bytes → Option Value) :
    System Failure Desk Request Reply RequestContext Moment Empty where
  init := ⟨Stores.empty, []⟩
  body := execute seller parse
  isRequest _ := true
  sent _ desk := desk
  entered m desk := desk.put (desk.stores.enter m)
  outside := nofun

/-- The id that is minted for a message names nothing that is stored. -/
structure Unminted (parse : Bytes → Option Value) (context : RequestContext) (s : Stores) :
    Prop where
  query : context.Asks parse "query" → mintedNegotiation s ∉ s.negotiations.keys
  proposal : context.Asks parse "submit-proposal" → mintedDeal s ∉ s.deals.keys

/-- Minted ids do not repeat. -/
def unminted (parse : Bytes → Option Value) :
    System.Condition Desk Request Reply RequestContext Empty where
  starts context desk := Unminted parse context desk.stores
  answers _ _ _ := True
  outside := nofun

/-- The messages of a run, in the order they come in. -/
def received (es : List (System.Event Reply RequestContext Moment Empty)) : List RequestContext :=
  es.filterMap fun e =>
    match e with
    | .request context _ => some context
    | _ => none

/-! ## The calls behind an answer -/

section Refinement

variable {seller} {parse : Bytes → Option Value}

omit [Digests] [Canonicalize] [HostLocale] [RecoverableEcdsa] in
theorem desk_part : Async.Part Desk.stores Desk.put :=
  ⟨fun _ _ => rfl, fun _ _ _ => rfl, fun _ => rfl⟩

theorem executor_shares :
    System.Shares (executorSystem seller parse) (sellerSystem seller) Desk.stores :=
  ⟨fun _ _ => rfl, fun _ _ => rfl, fun _ _ _ => rfl⟩

/-- What a task of the executor does to the stores at a moment, calls of the seller do. -/
def Played (seller : Seller) (p : Task Stores RequestContext Answer) (m : Moment) (s : Stores) :
    Prop :=
  ∀ (c : System.Config Failure Desk Request Reply RequestContext)
    (d : System.Config Failure Stores Request Reply SellerJob) (desk : Desk)
    (f : Except Failure Answer → Task Desk RequestContext Unit) (parse : Bytes → Option Value),
    System.Related (executorSystem seller parse) (sellerSystem seller) Desk.stores c d →
    (∀ result, Async.Idle Desk.stores (f result)) → desk.stores = s → d.state.enter m = s →
      ∃ es d', (sellerSystem seller).machine.MeetsFrom ((sellerSystem seller).Meets freshIds) d es ∧
        (sellerSystem seller).machine.runFrom d es = some d' ∧
        System.Related (executorSystem seller parse) (sellerSystem seller) Desk.stores
          ((executorSystem seller parse).settle c
            ((Async.within Desk.stores Desk.put p).conclude f) desk) d'

section Played

variable {p p' : Task Stores RequestContext Answer} {m : Moment} {s t : Stores}

/-- A task that is over and has done nothing. -/
theorem played_ended {result : Except Failure Answer} (h : p.advance s = (.ended result, s, [])) :
    Played seller p m s := by
  rintro c d desk f parse hrelated hf rfl hd
  refine ⟨[], d, trivial, rfl, ?_⟩
  obtain ⟨_, desk', hend, hstores⟩ := hf result (desk.put desk.stores)
  have hp := Async.advance_conclude_ended desk_part (f := f) h
  rw [hend] at hp
  exact hrelated.settle_idle executor_shares m hp hd.symm hstores

/-- A task that follows one call. -/
theorem played_call {job : SellerJob} (hfresh : Fresh s job)
    (hp : Async.Follows Desk.stores (fun x _ => ∃ result, Async.Ends x result)
      (Async.within Desk.stores Desk.put p) (sellerBody seller job)) : Played seller p m s := by
  rintro c d desk f parse hrelated hf rfl hd
  refine ⟨[.request job m], _, ⟨(hd ▸ hfresh : Fresh (d.state.enter m) job), fun _ _ => trivial⟩,
    rfl, ?_⟩
  refine hrelated.settle executor_shares ?_
  have hfollows : Async.Follows Desk.stores (fun x _ => Async.Idle Desk.stores x)
      ((Async.within Desk.stores Desk.put p).conclude f) (sellerBody seller job) := by
    refine hp.conclude ?_
    rintro _ _ ⟨result, rfl⟩
    cases result <;> exact hf _
  have halike := hfollows.advance desk
  rwa [← hd] at halike

/-- A task that goes on at the same moment after one call is over. -/
theorem played_after {job : SellerJob} {result : Except Failure Unit} (hfresh : Fresh s job)
    (hjob : (sellerBody seller job).advance s = (.ended result, t, [])) (ht : t.enter m = t)
    (hp : p.advance s = p'.advance t) (hp' : Played seller p' m t) : Played seller p m s := by
  rintro c d desk f parse hrelated hf rfl hd
  have hstep : (sellerSystem seller).machine.step d (.request job m) =
      some { d with state := t } :=
    System.step_request_ended rfl (by rw [← hjob, ← hd]; rfl)
  have hlater : System.Related (executorSystem seller parse) (sellerSystem seller) Desk.stores
      { c with state := desk.put t } { d with state := t } :=
    ⟨fun _ => rfl, hrelated.waiting, hrelated.ready⟩
  obtain ⟨es, d', hmeets, hrun, hend⟩ :=
    hp' { c with state := desk.put t } { d with state := t } (desk.put t) f parse hlater hf rfl ht
  refine ⟨.request job m :: es, d', ⟨(hd ▸ hfresh : Fresh (d.state.enter m) job),
    fun u hu => ?_⟩, Machine.runFrom_cons _ |>.2 ⟨_, hstep, hrun⟩, ?_⟩
  · cases hstep.symm.trans hu
    exact hmeets
  · unfold System.settle at hend ⊢
    rw [Async.advance_conclude_eq desk_part hp]
    exact hend

theorem played_read {k : Stores → Task Stores RequestContext Answer}
    (hk : Played seller (k s) m s) : Played seller (.read k) m s := by
  rintro c d desk f parse hrelated hf rfl hd
  obtain ⟨es, d', hmeets, hrun, hend⟩ := hk c d desk f parse hrelated hf rfl hd
  refine ⟨es, d', hmeets, hrun, ?_⟩
  have hread : (Async.read k).advance desk.stores = (k desk.stores).advance desk.stores := rfl
  unfold System.settle at hend ⊢
  rwa [Async.advance_conclude_eq desk_part hread]

theorem played_ofExcept {α : Type} {x : Except Failure α}
    {f : α → Task Stores RequestContext Answer} (hf : ∀ a, x = .ok a → Played seller (f a) m s) :
    Played seller ((Async.ofExcept x).bind f) m s := by
  cases x with
  | ok a => exact hf a rfl
  | error e => exact played_ended rfl

/-- A call whose result the answer is made of. -/
theorem played_discard {α : Type} (job : SellerJob) (hfresh : Fresh s job)
    {q : Task Stores SellerJob α} {q' : Task Stores RequestContext α}
    (hjob : sellerBody seller job = discard q)
    (hq : Async.Follows Desk.stores Async.Ends (Async.within Desk.stores Desk.put q') q)
    {f : α → Task Stores RequestContext Answer} (hf : ∀ a, ∃ result, f a = Async.ofExcept result) :
    Played seller (q'.bind f) m s := by
  refine played_call hfresh ?_
  rw [hjob, Async.within_bind]
  refine Async.follows_bind hq ?_ ?_
  · rintro _ a rfl
    obtain ⟨result, hresult⟩ := hf a
    refine ⟨result, ?_⟩
    show Async.within Desk.stores Desk.put (f a) = _
    rw [hresult]
    cases result <;> rfl
  · rintro _ e rfl
    exact ⟨.error e, rfl⟩

end Played

/-- A delivery of the executor is the seller's. -/
theorem follows_deliver (dealId : String) : Async.Follows Desk.stores Async.Ends
    (Async.within Desk.stores Desk.put (deliver seller dealId none none :
      Task Stores RequestContext (PreparedDelivery × Value)))
    (deliver seller dealId none none : Task Stores SellerJob (PreparedDelivery × Value)) := by
  unfold deliver prepareDelivery
  simp only [Async.bind_eq, Async.within_bind]
  refine Async.follows_bind_ends (Async.follows_bind_ends (Async.follows_atomic desk_part _) ?_) ?_
  · rintro ⟨r, record, cap⟩
    exact Async.follows_bind_ends (Async.follows_await _ id) fun _ =>
      Async.follows_atomic desk_part _
  · intro prepared
    refine Async.follows_bind_ends (Async.follows_atomic desk_part _) fun command => ?_
    exact Async.follows_bind_ends (Async.follows_atomic desk_part _) fun _ => rfl

omit [Digests] [Canonicalize] [HostLocale] [RecoverableEcdsa] in
theorem recordInteraction_enter (dealId : String) (input : HistoryInput) (m : Moment)
    (s : Stores) : (((recordInteraction dealId input).run (s.enter m)).2).enter m =
      ((recordInteraction dealId input).run (s.enter m)).2 := by
  have hkept : Prog.Within (fun s t : Stores => t.now = s.now ∧ t.random = s.random)
      (recordInteraction dealId input) := by
    have hframe : Frame fun s t : Stores => t.now = s.now ∧ t.random = s.random :=
      ⟨fun _ => ⟨rfl, rfl⟩, fun h h' => ⟨h'.1.trans h.1, h'.2.trans h.2⟩⟩
    refine hframe.bind (hframe.dealOf_within dealId) fun r => ?_
    refine hframe.bind (fun _ => ⟨rfl, rfl⟩) fun entry => ?_
    exact hframe.bind (fun _ => ⟨rfl, rfl⟩) fun _ => fun _ => ⟨rfl, rfl⟩
  obtain ⟨hnow, hrandom⟩ := hkept (s.enter m)
  generalize ((recordInteraction dealId input).run (s.enter m)).2 = t at hnow hrandom
  cases t
  cases hnow
  cases hrandom
  rfl

section Answers

variable {m : Moment} {s : Stores}

theorem answerQuery_played (hs : mintedNegotiation s ∉ s.negotiations.keys) (data : Value) :
    Played seller (answerQuery seller data) m s := by
  refine played_ofExcept fun buyerAgentId _ => ?_
  split
  · split_ifs
    · exact played_ended rfl
    · refine played_ofExcept fun body _ => ?_
      exact played_discard (.quote _ body) hs rfl (Async.follows_atomic desk_part _)
        fun result => ⟨.ok _, rfl⟩
  · exact played_ended rfl

theorem answerProposal_played (hs : mintedDeal s ∉ s.deals.keys) (data : Value) :
    Played seller (answerProposal data) m s := by
  refine played_ofExcept fun negotiationId _ => played_ofExcept fun contract _ =>
    played_ofExcept fun buyerAddress _ => ?_
  split
  · split_ifs
    · exact played_ended rfl
    · refine played_discard (.propose _ _ _) hs rfl (Async.follows_atomic desk_part _)
        fun dealId => ?_
      cases termsHashOf _ with
      | ok termsHash => exact ⟨.ok _, rfl⟩
      | error e => exact ⟨.error e, rfl⟩
  · exact played_ended rfl

theorem answerAcceptance_played (data : Value) :
    Played seller (answerAcceptance seller data) m s := by
  refine played_ofExcept fun dealId _ => played_ofExcept fun _ _ => played_ofExcept fun sig _ => ?_
  exact played_discard (.accept dealId sig) trivial rfl (Async.follows_atomic desk_part _)
    fun accepted => ⟨.ok _, rfl⟩

theorem handOut_played (dealId : String) : Played seller (handOut seller dealId) m s :=
  played_discard (.deliver dealId none none) trivial rfl (follows_deliver dealId)
    fun _ => ⟨.ok _, rfl⟩

/-- A verified delivery request is recorded, and then the delivery begins. -/
theorem record_handOut_played (dealId : String) (input : HistoryInput) (u : Stores) :
    Played seller ((Async.atomic (recordInteraction dealId input)).bind fun _ =>
      handOut seller dealId) m (u.enter m) := by
  have ht := recordInteraction_enter dealId input m u
  cases hrun : (recordInteraction dealId input).run (u.enter m) with
  | mk result t =>
      rw [hrun] at ht
      have hjob : (sellerBody seller (.record dealId input)).advance (u.enter m) =
          (.ended result, t, []) := by
        simp only [sellerBody, Async.atomic, Async.advance]
        rw [hrun]
        cases result <;> rfl
      cases result with
      | ok _ =>
          exact played_after (by exact trivial) hjob ht (Async.advance_atomic_ok hrun)
            (handOut_played dealId)
      | error e =>
          have hended : Played seller (.fail e) m t := played_ended rfl
          exact played_after (by exact trivial) hjob ht (Async.advance_atomic_error hrun) hended

theorem answerDeliveryRequest_played (data : Value) (u : Stores) :
    Played seller (answerDeliveryRequest seller data) m (u.enter m) := by
  refine played_ofExcept fun dealId _ => played_read ?_
  split
  · exact played_ended rfl
  · refine played_ofExcept fun requestedAt _ => played_ofExcept fun buyerSig _ =>
      played_ofExcept fun _ _ => ?_
    exact record_handOut_played dealId _ u

theorem answerFor_played (parse : Bytes → Option Value) (context : RequestContext) {u : Stores}
    (hu : Unminted parse context (u.enter m)) :
    Played seller (answerFor seller parse context) m (u.enter m) := by
  refine played_ofExcept fun data hdata => played_ofExcept fun kind hkind => ?_
  unfold answerKind
  simp only
  split_ifs with hquery hproposal
  · exact answerQuery_played (hu.query ⟨data, hdata, strictEq_str hquery ▸ hkind⟩) data
  · exact answerProposal_played (hu.proposal ⟨data, hdata, strictEq_str hproposal ▸ hkind⟩) data
  · exact answerAcceptance_played data
  · exact played_ended rfl
  · exact answerDeliveryRequest_played data u
  · exact played_ended rfl

omit [Digests] [Canonicalize] [HostLocale] [RecoverableEcdsa] in
theorem idle_publish (context : RequestContext) (received : ℕ) (answer : Answer) :
    Async.Idle Desk.stores (publish context received answer : Task Desk RequestContext Unit) :=
  fun _ => ⟨_, _, rfl, rfl⟩

/-- A message that comes in is answered by calls of the seller. -/
theorem execute_played {c : System.Config Failure Desk Request Reply RequestContext}
    {d : System.Config Failure Stores Request Reply SellerJob}
    (h : System.Related (executorSystem seller parse) (sellerSystem seller) Desk.stores c d)
    (context : RequestContext) (m : Moment) (hs : Unminted parse context (c.state.stores.enter m)) :
    ∃ es d', (sellerSystem seller).machine.MeetsFrom ((sellerSystem seller).Meets freshIds) d es ∧
      (sellerSystem seller).machine.runFrom d es = some d' ∧
      System.Related (executorSystem seller parse) (sellerSystem seller) Desk.stores
        ((executorSystem seller parse).settle c (execute seller parse context)
          ((executorSystem seller parse).entered m c.state)) d' := by
  have hstate : c.state.stores.enter m = d.state.enter m := h.state m
  have hplayed : Played seller (answerFor seller parse context) m (c.state.stores.enter m) :=
    answerFor_played parse context hs
  obtain ⟨es, d', hmeets, hrun, hend⟩ := hplayed c d (c.state.put (c.state.stores.enter m))
    (fun result => publish context m.now (answerOf result)) parse h (fun _ => idle_publish _ _ _)
    rfl hstate.symm
  refine ⟨es, d', hmeets, hrun, ?_⟩
  unfold System.settle at hend ⊢
  exact hend

end Answers

theorem executor_init :
    System.Related (executorSystem seller parse) (sellerSystem seller) Desk.stores
      (executorSystem seller parse).machine.init (sellerSystem seller).machine.init :=
  ⟨fun _ => rfl, .nil, rfl, rfl⟩

/-- A step of the executor is followed by steps of the seller. -/
theorem executor_step {c c' : System.Config Failure Desk Request Reply RequestContext}
    {d : System.Config Failure Stores Request Reply SellerJob}
    {e : System.Event Reply RequestContext Moment Empty}
    (h : System.Related (executorSystem seller parse) (sellerSystem seller) Desk.stores c d)
    (hmeets : (executorSystem seller parse).Meets (unminted parse) c e)
    (hstep : (executorSystem seller parse).machine.step c e = some c') :
    ∃ es d', (sellerSystem seller).machine.MeetsFrom ((sellerSystem seller).Meets freshIds) d es ∧
      (sellerSystem seller).machine.runFrom d es = some d' ∧
      System.Related (executorSystem seller parse) (sellerSystem seller) Desk.stores c' d' := by
  cases e with
  | request context m =>
      cases hstep
      exact execute_played h context m hmeets
  | begin i m =>
      obtain ⟨j, hj, _⟩ := Option.map_eq_some_iff.1 hstep
      rw [h.ready.1] at hj
      cases hj
  | answer i v m => exact h.answer executor_shares (by exact fun _ _ _ => trivial) hstep
  | outside e => exact e.elim

/-- Every run of the executor is one of the seller: whatever messages come in, the stores
are, at every moment, those of a run in which the operations of `DataSeller` were called
in some order, and the same deliveries are under way. -/
theorem executor_refines
    {c : System.Config Failure Desk Request Reply RequestContext}
    {es : List (System.Event Reply RequestContext Moment Empty)}
    (hmeets : (executorSystem seller parse).machine.Meets
      ((executorSystem seller parse).Meets (unminted parse)) es)
    (hrun : (executorSystem seller parse).machine.run es = some c) :
    ∃ d m, Reachable seller d ∧ c.state.stores = d.state.enter m ∧
      c.waiting.map Prod.fst = d.waiting.map Prod.fst := by
  obtain ⟨es', d, hmeets', hrun', hrelated⟩ :=
    Machine.refines executor_init (fun _ _ _ _ => executor_step) hmeets hrun
  exact ⟨d, ⟨c.state.stores.now, c.state.stores.random⟩, ⟨es', hmeets', hrun'⟩,
    hrelated.state ⟨c.state.stores.now, c.state.stores.random⟩, hrelated.requests⟩

end Refinement

end Executor

/-! ## A conversation -/

section Calls

variable [Digests] [Canonicalize] [HostLocale] [RecoverableEcdsa] {seller : Seller}
  {parse : Bytes → Option Value} {c c' : System.Config Failure Desk Request Reply RequestContext}
  {context : RequestContext} {m : Moment} {s : Stores}

omit [Digests] [Canonicalize] [HostLocale] [RecoverableEcdsa] in
/-- The answer is made of the result of one call. -/
def Calls {α : Type} (p : SellerProg α) (answer : Task Stores RequestContext Answer) : Prop :=
  ∃ f : α → Task Stores RequestContext Answer, answer = (Async.atomic p).bind f ∧
    ∀ a, ∃ result, f a = Async.ofExcept result

/-- A message that is answered with one call leaves what the call leaves. -/
theorem state_of_calls {α : Type} {p : SellerProg α}
    (hcalls : Calls p (answerFor seller parse context))
    (hstep : (executorSystem seller parse).machine.step c (.request context m) = some c') :
    c'.state.stores = (p.run (c.state.stores.enter m)).2 := by
  obtain ⟨f, hanswer, hf⟩ := hcalls
  have hadvance : ∃ result, ((Async.atomic p).bind f).advance (c.state.stores.enter m) =
      (.ended result, (p.run (c.state.stores.enter m)).2, []) := by
    cases hrun : p.run (c.state.stores.enter m) with
    | mk result t =>
        cases result with
        | ok a =>
            obtain ⟨result, hresult⟩ := hf a
            refine ⟨result, (Async.advance_atomic_ok hrun).trans ?_⟩
            rw [hresult]
            cases result <;> rfl
        | error e => exact ⟨.error e, Async.advance_atomic_error hrun⟩
  obtain ⟨result, hadvance⟩ := hadvance
  have hconclude := Async.advance_conclude_ended desk_part
    (s := c.state.put (c.state.stores.enter m))
    (f := fun result => publish context m.now (answerOf result)) hadvance
  rw [← hanswer] at hconclude
  cases hstep
  exact congrArg (fun c => c.state.stores) (System.settle_of_ended _ hconclude)

/-- A verified request for a committed deal begins a delivery. -/
theorem answerDeliveryRequest_waits {data : Value} {dealId sig : String} {requestedAt : Number}
    (hid : textMember data "dealId" = .ok dealId)
    (hat : numberMember data "requestedAt" = .ok requestedAt)
    (hsig : textMember data "buyerSig" = .ok sig) {deal : DealRecord} {record : QuoteRecord}
    (hdeal : s.deals.get? dealId = some deal) (hcommitted : deal.state ≠ .PROPOSED_LOCAL)
    (hrecord : s.quotes.get? deal.negotiationId = some record)
    (hverify : verifyDeliveryRequest ⟨dealId, requestedAt, sig, deal.buyerAddress⟩ s.now = .ok ()) :
    ∃ request k t js, (answerDeliveryRequest seller data :
      Task Stores RequestContext Answer).advance s = (.waits request k, t, js) := by
  obtain ⟨r, hfound, hobject⟩ := ObjectMap.get?_eq_some_iff.1 hdeal
  have hsucceeds := recordInteraction_succeeds hfound (deliveryRequested deal)
  unfold Prog.Ensures at hsucceeds
  cases hrun : (recordInteraction dealId (deliveryRequested deal)).run s with
  | mk result t =>
      rw [hrun] at hsucceeds
      cases result with
      | error e => exact hsucceeds.elim
      | ok u =>
          have hcore := hsucceeds.objects r
          rw [hobject, Option.map_some] at hcore
          obtain ⟨new, hnew, hsame⟩ := Option.map_eq_some_iff.1 hcore
          have hstate : new.core.state = deal.core.state := congrArg DealRecord.state hsame
          have hname : new.core.negotiationId = deal.core.negotiationId :=
            congrArg DealRecord.negotiationId hsame
          have hrecord' : t.quotes.get? new.core.negotiationId = some record := by
            rw [hsucceeds.quotes, hname]
            exact hrecord
          obtain ⟨cap, hbegin⟩ := beginDelivery_run ((hsucceeds.find? dealId).trans hfound) hnew
            (fun hproposed => hcommitted (hstate.symm.trans hproposed)) hrecord'
          have hsame : (answerDeliveryRequest seller data :
              Task Stores RequestContext Answer).advance s = (handOut seller dealId).advance t := by
            unfold answerDeliveryRequest
            rw [hid]
            show Async.advance (match s.deals.get? dealId with | none => _ | some deal => _) s = _
            simp only [hdeal, hat, hsig]
            show ((Async.ofExcept (verifyDeliveryRequest _ s.now)).bind fun _ => _).advance s = _
            rw [hverify]
            exact Async.advance_atomic_ok hrun
          rw [hsame]
          unfold handOut deliver prepareDelivery
          simp only [Async.bind_eq, Async.bind_assoc]
          rw [Async.advance_atomic_ok hbegin]
          exact ⟨_, _, _, _, rfl⟩

end Calls

section Demo

attribute [local instance] Digests.checksum HostLocale.ascii Canonicalize.plain
  RecoverableEcdsa.transparent

/-- The values that the parts of the demo read as, by the lengths of their bytes. -/
def demoParse (table : List Value) (bytes : Bytes) : Option Value :=
  table[bytes.length]?

/-- A message with a part of a length. -/
def demoContext (k : ℕ) : RequestContext :=
  ⟨some [extensionUri], ⟨[extensionUri], [⟨.raw (List.replicate k 0), negotiationMediaType⟩]⟩⟩

/-- The value of a message. -/
def demoMessage (kind : String) (rest : List (String × Value)) : Value :=
  .obj (("kind", .str kind) :: rest)

theorem demoContext_data {table : List Value} {k : ℕ} {data : Value} (h : table[k]? = some data) :
    (demoContext k).data (demoParse table) = .ok data := by
  have hparse : demoParse table (List.replicate k 0) = some data := by
    unfold demoParse
    rw [List.length_replicate, h]
  unfold RequestContext.data
  refine bind_eq_ok.2 ⟨(), throwIf_eq_ok.2 (by simp [demoContext]), ?_⟩
  refine bind_eq_ok.2 ⟨(), throwIf_eq_ok.2 (by simp [demoContext]), ?_⟩
  simp only [demoContext, Message.negotiationPart, List.findSome?_cons, reduceIte, hparse]
  rfl

theorem answerFor_demo {table : List Value} {k : ℕ} {kind : String}
    {rest : List (String × Value)} (h : table[k]? = some (demoMessage kind rest)) :
    (answerFor (demoSeller oneTractCorpus) (demoParse table) (demoContext k) :
        Task Stores RequestContext Answer) =
      answerKind (demoSeller oneTractCorpus) (some (.str kind)) (demoMessage kind rest) := by
  unfold answerFor
  rw [demoContext_data h]
  rfl

theorem asks_demo {table : List Value} {k : ℕ} {kind kind' : String}
    {rest : List (String × Value)} (h : table[k]? = some (demoMessage kind rest))
    (hasks : (demoContext k).Asks (demoParse table) kind') : kind = kind' := by
  obtain ⟨data, hdata, hkind⟩ := hasks
  rw [demoContext_data h] at hdata
  cases hdata
  exact Json.str.inj (Option.some.inj (Except.ok.inj hkind))

theorem unminted_demo {table : List Value} {k : ℕ} {kind : String}
    {rest : List (String × Value)} (h : table[k]? = some (demoMessage kind rest)) {s : Stores}
    (hquery : kind = "query" → mintedNegotiation s ∉ s.negotiations.keys)
    (hproposal : kind = "submit-proposal" → mintedDeal s ∉ s.deals.keys) :
    Unminted (demoParse table) (demoContext k) s :=
  ⟨fun hasks => hquery (asks_demo h hasks), fun hasks => hproposal (asks_demo h hasks)⟩

theorem calls_query {table : List Value} {k : ℕ} {buyerAgentId : String}
    (hbuyer : buyerAgentId ≠ "") {body : Value} (h : table[k]? = some (demoMessage "query"
      [("buyerAgentId", .str buyerAgentId), ("body", body)])) :
    Calls (quote (demoSeller oneTractCorpus) buyerAgentId (some body))
      (answerFor (demoSeller oneTractCorpus) (demoParse table) (demoContext k)) := by
  rw [answerFor_demo h]
  refine ⟨fun result => .ret (quoteAnswer (demoSeller oneTractCorpus) result), ?_,
    fun result => ⟨.ok _, rfl⟩⟩
  show (if buyerAgentId = "" then _ else _) = _
  rw [if_neg hbuyer]
  rfl

theorem calls_proposal {table : List Value} {k : ℕ} {negotiationId buyerAddress : String}
    (hnegotiation : negotiationId ≠ "") (hbuyer : buyerAddress ≠ "") {contract : Value}
    (h : table[k]? = some (demoMessage "submit-proposal" [("negotiationId", .str negotiationId),
      ("contract", contract), ("buyerAddress", .str buyerAddress)])) :
    Calls (propose negotiationId contract buyerAddress)
      (answerFor (demoSeller oneTractCorpus) (demoParse table) (demoContext k)) := by
  rw [answerFor_demo h]
  refine ⟨fun dealId => (Async.ofExcept (termsHashOf contract)).bind fun termsHash =>
    .ret (.proposalAck dealId termsHash), ?_, fun dealId => ?_⟩
  · show (if negotiationId = "" ∨ buyerAddress = "" then _ else _) = _
    rw [if_neg (not_or.2 ⟨hnegotiation, hbuyer⟩)]
    rfl
  · cases termsHashOf contract with
    | ok termsHash => exact ⟨.ok _, rfl⟩
    | error e => exact ⟨.error e, rfl⟩

theorem calls_acceptance {table : List Value} {k : ℕ} {dealId sig : String}
    (h : table[k]? = some (demoMessage "acceptance-request" [("dealId", .str dealId),
      ("buyerAgreementSig", .str sig)])) :
    Calls (accept (demoSeller oneTractCorpus) dealId sig none none)
      (answerFor (demoSeller oneTractCorpus) (demoParse table) (demoContext k)) := by
  rw [answerFor_demo h]
  exact ⟨fun accepted => .ret (.acceptanceResult dealId accepted), rfl,
    fun accepted => ⟨.ok _, rfl⟩⟩

/-- The first messages of the demo are a query, the proposal that it is answered with, its
acceptance and a delivery request, which waits for the store. -/
theorem exists_demo_waiting : ∃ (parse : Bytes → Option Value)
    (es : List (System.Event Reply RequestContext Moment Empty))
    (c : System.Config Failure Desk Request Reply RequestContext),
    (executorSystem (demoSeller oneTractCorpus) parse).machine.Meets
      ((executorSystem (demoSeller oneTractCorpus) parse).Meets (unminted parse)) es ∧
    (executorSystem (demoSeller oneTractCorpus) parse).machine.run es = some c ∧
    (received es).length = 4 ∧ c.waiting ≠ [] := by
  obtain ⟨d, d₁, d₂, record, deal, termsHash, sig, _, hquote, hkeys, hpropose, haccept, hbuyer,
    hrecord, _, hdeal, haccepted, _⟩ := exists_demo_accepted
  obtain ⟨proof, hproof⟩ : ∃ proof,
      signDeliveryRequest demoOffer.buyerKey (floodId 0) 0 = .ok proof :=
    ⟨_, bind_eq_ok.2 ⟨_, bind_eq_ok.2 ⟨_, jcs_plain (by decide +kernel), rfl⟩, rfl⟩⟩
  let table : List Value := [
    demoMessage "query" [("buyerAgentId", .str demoBuyer), ("body", oneMeasure)],
    demoMessage "submit-proposal" [("negotiationId", .str (mintedNegotiation Stores.empty)),
      ("contract", demoOffer.contractFor (demoSeller oneTractCorpus) record termsHash),
      ("buyerAddress", .str (addressOfPrivateKey demoOffer.buyerKey))],
    demoMessage "acceptance-request" [("dealId", .str (floodId 0)),
      ("buyerAgreementSig", .str sig)],
    demoMessage "request-delivery" [("dealId", .str (floodId 0)), ("requestedAt", .num 0),
      ("buyerSig", .str proof)]]
  let seller := demoSeller oneTractCorpus
  let parse := demoParse table
  -- the first three messages are the calls of the exchange
  obtain ⟨c₁, hc₁⟩ : ∃ c₁, (executorSystem seller parse).machine.step
      (executorSystem seller parse).machine.init (.request (demoContext 0) ⟨0, []⟩) = some c₁ :=
    ⟨_, rfl⟩
  obtain ⟨c₂, hc₂⟩ : ∃ c₂, (executorSystem seller parse).machine.step c₁
    (.request (demoContext 1) ⟨0, floodBytes 0⟩) = some c₂ := ⟨_, rfl⟩
  obtain ⟨c₃, hc₃⟩ : ∃ c₃, (executorSystem seller parse).machine.step c₂
    (.request (demoContext 2) ⟨0, []⟩) = some c₃ := ⟨_, rfl⟩
  obtain ⟨c₄, hc₄⟩ : ∃ c₄, (executorSystem seller parse).machine.step c₃
    (.request (demoContext 3) ⟨0, []⟩) = some c₄ := ⟨_, rfl⟩
  have hstores₁ : c₁.state.stores = d₁.state := by
    obtain ⟨u, hu, hend⟩ := Machine.runFrom_cons _ |>.1 hquote
    cases hend
    rw [state_of_calls (calls_query (by decide) rfl) hc₁, state_of_call rfl hu]
    rfl
  have hstores₂ : c₂.state.stores = d₂.state := by
    rw [state_of_calls (calls_proposal (by decide +kernel) (by decide +kernel) rfl) hc₂,
      state_of_call rfl hpropose, hstores₁]
  have hstores₃ : c₃.state.stores = d.state := by
    rw [state_of_calls (calls_acceptance rfl) hc₃, state_of_call rfl haccept, hstores₂]
  -- the fourth begins a delivery
  have hverify : verifyDeliveryRequest ⟨floodId 0, 0, proof, deal.buyerAddress⟩ 0 = .ok () := by
    rw [hbuyer]
    exact verify_signDeliveryRequest (RecoverableEcdsa.transparent_inverts _)
      (toLowerCase_address _) (by decide +kernel) (by decide +kernel) hproof
  have hwaits : ∃ request k t js, (answerFor seller parse (demoContext 3) :
      Task Stores RequestContext Answer).advance (c₃.state.stores.enter ⟨0, []⟩) =
        (.waits request k, t, js) := by
    rw [hstores₃, answerFor_demo rfl]
    exact answerDeliveryRequest_waits rfl rfl rfl hdeal (by rw [haccepted]; decide) hrecord hverify
  obtain ⟨request, k, t, js, hwaits⟩ := hwaits
  refine ⟨parse, [.request (demoContext 0) ⟨0, []⟩, .request (demoContext 1) ⟨0, floodBytes 0⟩,
    .request (demoContext 2) ⟨0, []⟩, .request (demoContext 3) ⟨0, []⟩], c₄, ?_, ?_, rfl, ?_⟩
  · refine ⟨unminted_demo rfl (fun _ => List.not_mem_nil) (absurd · (by decide)), fun u hu => ?_⟩
    cases hc₁.symm.trans hu
    refine ⟨unminted_demo rfl (absurd · (by decide)) fun _ => ?_, fun u hu => ?_⟩
    · show _ ∉ c₁.state.stores.deals.keys
      rw [hstores₁, hkeys]
      exact List.not_mem_nil
    · cases hc₂.symm.trans hu
      refine ⟨unminted_demo rfl (absurd · (by decide)) (absurd · (by decide)), fun u hu => ?_⟩
      cases hc₃.symm.trans hu
      exact ⟨unminted_demo rfl (absurd · (by decide)) (absurd · (by decide)), fun _ _ => trivial⟩
  · exact Machine.runFrom_cons _ |>.2 ⟨c₁, hc₁, Machine.runFrom_cons _ |>.2 ⟨c₂, hc₂,
      Machine.runFrom_cons _ |>.2 ⟨c₃, hc₃, Machine.runFrom_cons _ |>.2 ⟨c₄, hc₄, rfl⟩⟩⟩⟩
  · have hconclude := Async.advance_conclude_waits desk_part
      (s := c₃.state.put (c₃.state.stores.enter ⟨0, []⟩))
      (f := fun result => publish (demoContext 3) 0 (answerOf result)) hwaits
    have hend := (System.settle_of_waits _ hconclude).symm.trans (Option.some.inj hc₄)
    rw [← hend]
    exact List.append_ne_nil_of_right_ne_nil _ (List.cons_ne_nil _ _)

/-- The messages of the demo are calls of the seller. -/
theorem demo_refines : ∃ (c : System.Config Failure Desk Request Reply RequestContext)
    (d : System.Config Failure Stores Request Reply SellerJob) (m : Moment),
    Reachable (demoSeller oneTractCorpus) d ∧ c.waiting ≠ [] ∧
      c.state.stores = d.state.enter m := by
  obtain ⟨_, _, c, hmeets, hrun, _, hwaiting⟩ := exists_demo_waiting
  obtain ⟨d, m, hreachable, hstores, _⟩ := executor_refines hmeets hrun
  exact ⟨c, d, m, hreachable, hwaiting, hstores⟩

end Demo

end DataSeller

end Coordination
