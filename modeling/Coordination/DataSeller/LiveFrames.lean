import Coordination.DataSeller.Evolution
import Coordination.DataSeller.Live

/-!
# What the coordinator's functions do

The writes, the requests and the started jobs of every function of the live
coordinator. A property that only some of them bear on is then proved for those,
and holds of the others by their bounds.
-/

namespace Coordination

namespace DataSeller

open JavaScript Library Engine

/-- The deal a request is made for. -/
def Request.deal : Request → String
  | .status _ dealId | .funding dealId _ | .runtimeCard dealId _ | .acceptance dealId _
  | .fundingSignatures dealId _ _ | .evidence dealId _ | .command dealId _ | .stored dealId => dealId
  | .sleep _ => ""

/-- The status in an answer that reports one. -/
def reported : Request → Option Value → Except Failure (Option Value)
  | .acceptance .., v | .command .., v => do
    return orElse (← prop v "status") (some (.obj []))
  | _, v => .ok v

/-- The vault domain that an answer names. -/
def namedDomain : Request → Option Value → Except Failure Eip712Domain
  | .funding .., ctx => do vaultDomainOf (← prop ctx "chainId") (← prop ctx "vaultAddress")
  | _, status => do
    let vault := orElse (← prop status "vault") (some (.obj []))
    vaultDomainOf (← prop vault "chainId") (← prop vault "vaultAddress")

abbrev Exchanges := List (Request × Reply)

/-- A task has been named a vault domain for a deal. -/
def Names (past : Exchanges) (dealId : String) (domain : Eip712Domain) : Prop :=
  ∃ r v, (r, .ok v) ∈ past ∧ r.deal = dealId ∧ namedDomain r v = .ok domain

/-- The stores after an operation of the seller. -/
def World.after {α : Type} (w : World) (p : SellerProg α) : World :=
  w.setSeller (p.run w.seller).2

abbrev LiveBounds := Confinement World Request Reply LiveJob

/-- LiveBounds that admit what nearly every function does: it records interactions, observes
the status of an answer it has just got, and signs under a domain it has been named. -/
structure Admits (B : LiveBounds) : Prop where
  same : ∀ w, B.writes w w
  record : ∀ w dealId input, B.writes w (w.after (recordInteraction dealId input))
  recorded : ∀ {past r v w} dealId input, B.answers past r v w →
    B.answers past r v (w.after (recordInteraction dealId input))
  observe : ∀ {past r v w status}, B.answers past r (.ok v) w → reported r v = .ok status →
    B.writes w (w.after (observeRuntimeStatus r.deal status none))
  observed : ∀ {past r v w status}, B.answers past r (.ok v) w → reported r v = .ok status →
    B.answers past r (.ok v) (w.after (observeRuntimeStatus r.deal status none))
  sign : ∀ {past r v w dealId domain}, B.answers past r (.ok v) w →
    Names (past ++ [(r, .ok v)]) dealId domain → B.writes w (w.sign dealId domain)
  reads : ∀ reader dealId, B.sends (.status reader dealId)
  funding : ∀ dealId termsHash, B.sends (.funding dealId termsHash)
  sleep : ∀ n, B.sends (.sleep n)

/-- A computation that stays within its bounds. -/
def StaysWithin {α : Type} (B : LiveBounds) (p : LiveTask α) (past : Exchanges) (w : World) : Prop :=
  p.Confined B (fun _ _ _ => True) past w

section Rules

variable {B : LiveBounds} {α β : Type} {past : Exchanges} {w : World}
  {Q : α → Exchanges → World → Prop}

theorem confined_call_bind {r : Request} {f : Option Value → LiveTask α} (hsend : B.sends r)
    (hf : ∀ v w, B.answers past r (.ok v) w → (f v).Confined B Q (past ++ [(r, .ok v)]) w) :
    ((call r).bind f).Confined B Q past w := by
  refine ⟨hsend, fun v w' hv => ?_⟩
  cases v with
  | ok a => exact hf a w' hv
  | error e => exact trivial

theorem confined_except_bind {x : Except Failure β} {f : β → LiveTask α}
    (hf : ∀ a, x = .ok a → (f a).Confined B Q past w) :
    ((Async.ofExcept x).bind f).Confined B Q past w := by
  cases x with
  | ok a => exact hf a rfl
  | error e => exact trivial

/-- An operation of the seller that the bounds admit. -/
theorem confined_seller_bind {p : SellerProg β} {f : β → LiveTask α}
    (hwrite : B.writes w (w.after p))
    (hf : ∀ b s, p.run w.seller = (.ok b, s) → (f b).Confined B Q past (w.setSeller s)) :
    ((onSeller p).bind f).Confined B Q past w := by
  refine Async.confined_bind (Q := fun b past' w' => past' = past ∧
    ∃ s, p.run w.seller = (.ok b, s) ∧ w' = w.setSeller s) (Async.confined_atomic hwrite ?_) ?_
  · intro b w' hrun
    rw [Prog.run_zoom, Prod.mk.injEq] at hrun
    exact ⟨rfl, _, Prod.ext hrun.1 rfl, hrun.2.symm⟩
  · rintro b _ _ ⟨rfl, s, hrun, rfl⟩
    exact hf b s hrun

theorem confined_seller {p : SellerProg α} (hwrite : B.writes w (w.after p)) :
    StaysWithin B (onSeller p) past w :=
  Async.confined_atomic hwrite fun _ _ _ => trivial

/-- A program that only looks. -/
theorem confined_look_bind {p : LiveProg β} {f : β → LiveTask α} (hB : Admits B)
    (hlook : (p.run w).2 = w) (hf : ∀ b, p.run w = (.ok b, w) → (f b).Confined B Q past w) :
    ((Async.atomic p).bind f).Confined B Q past w := by
  refine Async.confined_bind (Q := fun b past' w' => past' = past ∧ w' = w ∧ p.run w = (.ok b, w))
    (Async.confined_atomic (hlook.symm ▸ hB.same w) fun b w' hrun => ?_) ?_
  · have hsame : w' = w := by rw [← hlook, hrun]
    exact ⟨rfl, hsame, hsame ▸ hrun⟩
  · rintro b _ _ ⟨rfl, rfl, hrun⟩
    exact hf b hrun

theorem look_binding (w : World) :
    ((do
      match (← Prog.get).blocked with
      | some reason => Prog.lift (error reason)
      | none => return () : LiveProg Unit).run w).2 = w := by
  rw [Prog.run_bind_of_ok (Prog.run_get w)]
  cases w.blocked <;> rfl

theorem confined_binding_bind {f : Unit → LiveTask α} (hB : Admits B)
    (hf : (f ()).Confined B Q past w) : (assertBindingActive.bind f).Confined B Q past w :=
  confined_look_bind hB (look_binding w) fun _ _ => hf

/-- A lookup that fails where nothing is found. -/
theorem confined_lookup_bind {p : LiveProg β} {x : World → Option β} {f : β → LiveTask α}
    (hB : Admits B) (hp : ∃ e, p.run w = ((x w).elim (.error e) .ok, w))
    (hf : ∀ b, x w = some b → (f b).Confined B Q past w) :
    ((Async.atomic p).bind f).Confined B Q past w := by
  obtain ⟨e, hp⟩ := hp
  refine confined_look_bind hB (by rw [hp]) fun b hrun => hf b ?_
  rw [hp, Prod.mk.injEq] at hrun
  cases hx : x w with
  | none =>
      rw [hx] at hrun
      cases hrun.1
  | some held =>
      rw [hx] at hrun
      cases hrun.1
      rfl

theorem confined_termsOf_bind {dealId : String} {f : String → LiveTask α} (hB : Admits B)
    (hf : ∀ termsRef, w.dealTerms.get? dealId = some termsRef → (f termsRef).Confined B Q past w) :
    ((termsOf dealId).bind f).Confined B Q past w := by
  refine confined_lookup_bind (x := fun w => w.dealTerms.get? dealId) hB
    ⟨.raised .Error s!"unknown dealId {dealId} — nothing countersigned under it", ?_⟩ hf
  rw [Prog.run_bind_of_ok (Prog.run_get w)]
  cases w.dealTerms.get? dealId <;> rfl

theorem confined_dealRecord_bind {dealId : String} {f : DealRecord → LiveTask α} (hB : Admits B)
    (hf : ∀ deal, w.seller.deals.get? dealId = some deal → (f deal).Confined B Q past w) :
    ((dealRecord dealId).bind f).Confined B Q past w := by
  refine confined_lookup_bind (x := fun w => w.seller.deals.get? dealId) hB ⟨.typeError, ?_⟩ hf
  rw [Prog.run_bind_of_ok (Prog.run_get w)]
  cases w.seller.deals.get? dealId <;> rfl

theorem after_of_run {p : SellerProg β} {b : Except Failure β} {s : Stores}
    (hrun : p.run w.seller = (b, s)) : w.setSeller s = w.after p := by
  rw [World.after, hrun]

/-- An interaction is recorded, and an answer stays looked at. -/
theorem confined_record_bind {dealId : String} {input : HistoryInput} {f : Unit → LiveTask α}
    (hB : Admits B) (hf : (f ()).Confined B Q past (w.after (recordInteraction dealId input))) :
    ((onSeller (recordInteraction dealId input)).bind f).Confined B Q past w :=
  confined_seller_bind (hB.record w dealId _) fun _ _ hrun => after_of_run hrun ▸ hf

theorem confined_record {dealId : String} {input : HistoryInput} (hB : Admits B) :
    StaysWithin B (onSeller (recordInteraction dealId input)) past w :=
  confined_seller (hB.record w dealId _)

/-- The status of an answer is observed. -/
theorem confined_observe_bind {r : Request} {v status : Option Value} {exchanged : Exchanges}
    {f : Unit → LiveTask α} (hB : Admits B) (hv : B.answers exchanged r (.ok v) w)
    (hstatus : reported r v = .ok status)
    (hf : (f ()).Confined B Q past (w.after (observeRuntimeStatus r.deal status none))) :
    ((onSeller (observeRuntimeStatus r.deal status none)).bind f).Confined B Q past w :=
  confined_seller_bind (hB.observe hv hstatus) fun _ _ hrun => after_of_run hrun ▸ hf

theorem confined_observe {r : Request} {v status : Option Value} {exchanged : Exchanges}
    (hB : Admits B) (hv : B.answers exchanged r (.ok v) w) (hstatus : reported r v = .ok status) :
    StaysWithin B (onSeller (observeRuntimeStatus r.deal status none)) past w :=
  confined_seller (hB.observe hv hstatus)

theorem confined_sign_bind {dealId : String} {domain : Eip712Domain} {f : Unit → LiveTask α}
    (hwrite : B.writes w (w.sign dealId domain))
    (hf : (f ()).Confined B Q past (w.sign dealId domain)) :
    ((noteSigned dealId domain).bind f).Confined B Q past w :=
  ⟨hwrite, hf⟩

/-- The last request of a task, whose answer reports the status. -/
theorem confined_report {r : Request} (hB : Admits B) (hsend : B.sends r)
    (hreported : ∀ result, reported r result =
      do return orElse (← prop result "status") (some (.obj []))) :
    StaysWithin B ((call r).bind fun result =>
      (Async.ofExcept (prop result "status")).bind fun status =>
        onSeller (observeRuntimeStatus r.deal (orElse status (some (.obj []))) none)) past w := by
  refine confined_call_bind hsend fun result w hv => ?_
  refine confined_except_bind fun status hstatus => ?_
  refine confined_observe hB hv ?_
  rw [hreported, hstatus]
  rfl

end Rules

/-! ## Commands -/

/-- What a command says, its signature aside. -/
structure Says (command : Value) (input : CommandInput) : Prop where
  commandType : prop (some command) "commandType" = .ok (some (.str input.commandType))
  expectedRevision :
    prop (some command) "expectedRevision" = .ok (some (.num input.expectedRevision))
  payload : prop (some command) "payload" = .ok (some input.payload)

theorem says_of_signed [Digests] [Canonicalize] [RecoverableEcdsa] {env : Environment}
    {stamp : CommandStamp} {input : CommandInput} {privateKey : Bytes} {keyId : String}
    {command : Value}
    (h : (do signCommand (← buildCommand env stamp input) privateKey keyId) = .ok command) :
    Says command input := by
  obtain ⟨built, hbuilt, hsigned⟩ := bind_eq_ok.1 h
  obtain ⟨payloadHash, _, hbuilt⟩ := bind_eq_ok.1 hbuilt
  obtain ⟨bytes, _, hsigned⟩ := bind_eq_ok.1 hsigned
  cases hbuilt
  cases hsigned
  have hmember {k : String} (hk : k ≠ "signature") (ms : List (String × Value)) (v : Value) :
      prop (some (.obj (setMember "signature" v ms))) k = .ok (ms.lookup k) := by
    rw [prop, lookup_setMember_of_ne v ms hk]
  exact ⟨hmember (by decide) _ _, hmember (by decide) _ _, hmember (by decide) _ _⟩

/-! ## The functions -/

section Functions

variable [Digests] [Canonicalize] [HostLocale] [RecoverableEcdsa] {live : LiveCoordinator}
  {B : LiveBounds} {past : Exchanges} {w : World}

/-- What `countersign` writes between the card and the submission. -/
structure Forms (live : LiveCoordinator) (B : LiveBounds) (dealId negotiationId : String)
    (contract : Value) (buyerAddress buyerAgreementSig : String) (status : Option Value)
    (w : World) : Prop where
  register : B.writes w (w.after (registerLiveDeal dealId negotiationId contract buyerAddress))
  observe : ∀ {r s summary}, (registerLiveDeal dealId negotiationId contract buyerAddress).run
    w.seller = (.ok r, s) → B.writes (w.setSeller s)
      ((w.setSeller s).after (observeRuntimeStatus dealId status summary))
  accept : ∀ {r s s' summary chainId}, (registerLiveDeal dealId negotiationId contract
    buyerAddress).run w.seller = (.ok r, s) →
      (observeRuntimeStatus dealId status summary).run s = (.ok (), s') →
        B.writes (w.setSeller s') ((w.setSeller s').after
          (accept live.seller dealId buyerAgreementSig chainId (some contract)))
  terms : ∀ w termsRef, B.writes w { w with dealTerms := w.dealTerms.set dealId termsRef }

theorem countersign_stays {dealId negotiationId buyerAddress buyerAgreementSig : String}
    {contract : Value} (hB : Admits B) (hcard : B.sends (.runtimeCard dealId contract))
    (hsubmit : ∀ accepted, B.sends (.acceptance dealId accepted))
    (hforms : ∀ {status card w}, B.answers (past ++ [(.status .countersign dealId, .ok status)])
      (.runtimeCard dealId contract) (.ok card) w →
        Forms live B dealId negotiationId contract buyerAddress buyerAgreementSig status w) :
    StaysWithin B (countersign live dealId negotiationId contract buyerAddress buyerAgreementSig)
      past w := by
  apply confined_binding_bind hB
  apply confined_call_bind (hB.reads _ _)
  intro status w hstatus
  apply confined_except_bind
  intro computed hcomputed
  apply confined_except_bind
  intro reconcilingCommitted hreconciles
  apply confined_call_bind hcard
  intro card w hcard
  have h := hforms hcard
  apply confined_except_bind
  intro ctx hctx
  apply confined_seller_bind h.register
  intro r s hregister
  apply confined_seller_bind (h.observe hregister)
  intro _ s' hobserve
  apply confined_seller_bind (h.accept hregister hobserve)
  intro accepted s'' haccept
  refine ⟨h.terms _ _, ?_⟩
  show Async.Confined B _ (if _ then _ else _) _ _
  split
  · exact trivial
  · apply confined_record_bind hB
    exact confined_report hB (hsubmit accepted) fun _ => rfl

omit [Canonicalize] in
theorem coSignFunding_stays {dealId : String} (hB : Admits B)
    (hsubmit : ∀ termsRef submission, B.sends (.fundingSignatures dealId termsRef submission)) :
    StaysWithin B (coSignFunding live dealId) past w := by
  apply confined_binding_bind hB
  apply confined_termsOf_bind hB
  intro termsRef htermsRef
  apply confined_dealRecord_bind hB
  intro deal hdeal
  apply confined_record_bind hB
  apply confined_call_bind (hB.funding _ _)
  intro ctx w hctx
  apply confined_except_bind
  intro activation hactivation
  apply confined_except_bind
  intro buyer hbuyer
  show Async.Confined B _ (if _ then _ else _) _ _
  split
  · exact confined_record_bind hB trivial
  apply confined_except_bind
  intro vaultAddress hvault
  apply confined_except_bind
  intro chainId hchain
  apply confined_except_bind
  intro _ _
  apply confined_except_bind
  intro problems hproblems
  apply confined_except_bind
  intro _ _
  apply confined_except_bind
  intro domain hdomain
  apply confined_except_bind
  intro sellerActivationSig hsig
  apply confined_sign_bind (hB.sign hctx ⟨.funding dealId termsRef, ctx, by simp, rfl, ?_⟩)
  · apply confined_record_bind hB
    apply confined_call_bind (hsubmit _ _)
    intro status w hstatus
    exact confined_observe_bind hB hstatus rfl trivial
  · rw [namedDomain, hchain, hvault]
    exact hdomain

omit [Canonicalize] in
theorem fundingRequest_stays {dealId : String} (hB : Admits B)
    (hsubmit : ∀ termsRef submission, B.sends (.fundingSignatures dealId termsRef submission)) :
    StaysWithin B (fundingRequest live dealId) past w := by
  apply confined_record_bind hB
  refine Async.confined_bind (coSignFunding_stays hB hsubmit) fun pending past w _ => ?_
  show Async.Confined B _ (if _ then _ else _) _ _
  split
  · exact confined_record hB
  · exact confined_record hB

omit [HostLocale] in
theorem rejectionResponse_stays {dealId commandType sigMember : String}
    {struct : SettlementStruct} (hB : Admits B)
    (hsubmit : ∀ command, prop (some command) "commandType" = .ok (some (.str commandType)) →
      B.sends (.command dealId command)) :
    StaysWithin B (rejectionResponse live dealId commandType struct sigMember) past w := by
  apply confined_binding_bind hB
  apply confined_termsOf_bind hB
  intro termsRef htermsRef
  apply confined_call_bind (hB.reads _ _)
  intro status w hstatus
  apply confined_observe_bind hB hstatus rfl
  have hobserved := hB.observed hstatus (rfl : reported _ status = .ok status)
  apply confined_except_bind
  intro _ _
  apply confined_except_bind
  intro vault hvault
  apply confined_except_bind
  intro receiptHash hreceipt
  apply confined_except_bind
  intro vaultDealId hid
  apply confined_except_bind
  intro nonce hnonce
  apply confined_except_bind
  intro chainId hchain
  apply confined_except_bind
  intro vaultAddress haddress
  apply confined_except_bind
  intro _ _
  apply confined_except_bind
  intro domain hdomain
  apply confined_except_bind
  intro sig hsig
  apply confined_sign_bind
    (hB.sign hobserved ⟨.status .rejection dealId, status, by simp, rfl, ?_⟩)
  · apply confined_except_bind
    intro revision hrevision
    apply confined_except_bind
    intro command hcommand
    apply confined_record_bind hB
    exact confined_report hB (hsubmit command (says_of_signed hcommand).commandType) fun _ => rfl
  · obtain ⟨held, hheld, hvault⟩ := bind_eq_ok.1 hvault
    cases hvault
    simp only [namedDomain, hheld, ok_bind, hchain, haddress]
    exact hdomain

omit [Digests] [Canonicalize] [HostLocale] [RecoverableEcdsa] in
theorem refreshOutcome_stays {dealId : String} (hB : Admits B)
    (hrevoke : ∀ {past status state w}, B.answers past (.status .outcome dealId) (.ok status) w →
      isRefund status state = .ok true → B.writes w (w.after (revokeCapability dealId))) :
    StaysWithin B (refreshOutcome dealId) past w := by
  apply confined_call_bind (hB.reads _ _)
  intro status w hstatus
  apply confined_except_bind
  intro state hstate
  apply confined_observe_bind hB hstatus rfl
  have hobserved := hB.observed hstatus (rfl : reported _ status = .ok status)
  apply confined_except_bind
  intro refunded hrefunded
  show Async.Confined B _ (if _ then _ else _) _ _
  split
  · next h => exact confined_seller_bind (hrevoke hobserved (h ▸ hrefunded)) fun _ _ _ => trivial
  · exact trivial

omit [Digests] [Canonicalize] [HostLocale] [RecoverableEcdsa] in
theorem outcomeTurn_stays {dealId : String} (hB : Admits B)
    (hrevoke : ∀ {past status state w}, B.answers past (.status .outcome dealId) (.ok status) w →
      isRefund status state = .ok true → B.writes w (w.after (revokeCapability dealId)))
    (hwatch : ∀ w watching, B.writes w { w with watching })
    (hstart : B.starts (.watchOutcome dealId)) :
    StaysWithin B (outcomeTurn live dealId) past w := by
  refine Async.confined_bind (Q := fun _ _ _ => True) (Async.confined_onError ?_ ?_) ?_
  · exact Async.confined_bind (refreshOutcome_stays hB hrevoke) fun _ _ _ _ => trivial
  · exact fun _ _ _ => trivial
  · intro ended past w _
    show Async.Confined B _ (if _ then _ else _) _ _
    split
    · exact ⟨hwatch _ _, trivial⟩
    · exact ⟨hB.sleep _, fun _ _ _ => ⟨hstart, trivial⟩⟩

omit [Digests] [Canonicalize] [RecoverableEcdsa] in
/-- What `handleNotification` does before it takes the slot. -/
theorem handleNotification_stays {note : Value} {Q : Unit → Exchanges → World → Prop}
    (hB : Admits B)
    (hstart : ∀ dealId past w, (do textOrEmpty (← prop (some note) "deal_id")) = .ok dealId →
      ((startDelivery dealId note).bind fun _ =>
        .atomic (Prog.modify fun w => { w with acknowledged := w.acknowledged ++ [note] })
          ).Confined B Q past w) :
    (handleNotification note).Confined B Q past w := by
  apply confined_except_bind
  intro dealId hdealId
  apply confined_except_bind
  intro type htype
  apply confined_except_bind
  intro _ _
  apply confined_termsOf_bind hB
  intro termsRef htermsRef
  apply confined_except_bind
  intro _ _
  apply confined_call_bind (hB.reads _ _)
  intro status w hstatus
  apply confined_except_bind
  intro _ _
  apply confined_record_bind hB
  apply confined_observe_bind hB (hB.recorded _ _ hstatus) rfl
  exact hstart dealId _ _ hdealId

end Functions

end DataSeller

end Coordination
