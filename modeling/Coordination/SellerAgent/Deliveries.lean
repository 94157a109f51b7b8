import Coordination.BuyerAgent.Exchange
import Coordination.SellerAgent.Runs

/-!
# Whose deals are delivered

A delivered command names a deal and the hash of its terms. Live, both come from what the
executor remembers of a deal. Without a Runtime the terms hash is looked up, and the deal id
is taken from the request as it stands.
-/

namespace Coordination

namespace SellerAgent

open Python Library BuyerAgent

/-- A delivered command names the deal and its terms. -/
def Names (command : PyValue) (c : Countersigned) : Prop :=
  get command "dealId" = .ok (.str c.dealId) ∧ get command "termsHash" = .ok (.str c.termsHash)

/-- A request for the terms, with the buyer's agent id and address. -/
def termsRequest (agentId address : String) : PyValue :=
  .obj [("kind", .str "request-terms"), ("agentId", .str agentId), ("address", .str address)]

/-- A request for the delivery of a contract under the deal id. -/
def deliveryRequest (dealId termsHash : String) : PyValue :=
  .obj [("kind", .str "request-delivery"), ("dealId", .str dealId),
    ("termsHash", .str termsHash)]

/-- A delivery that is asked for without a Runtime names the deal of its terms. -/
def OwnDeal (data : PyValue) (s : Executor) : Prop :=
  ∀ dealId t accepted, getD data "kind" (.str "") = .ok (.str "request-delivery") →
    getD data "termsHash" (.str "") = .ok (.str t) → s.deals.get? t = some accepted →
      getD data "dealId" (.str "") = .ok (.str dealId) → s.dealTerms.get? dealId = some t

theorem ownDeal_of_kind {data : PyValue} {s : Executor} {kind : String}
    (hkind : getD data "kind" (.str "") = .ok (.str kind)) (hne : kind ≠ "request-delivery") :
    OwnDeal data s := by
  intro _ _ _ hkind'
  rw [hkind] at hkind'
  cases hkind'
  exact absurd rfl hne

section Deliveries

variable [Interpreter] [CaseTables] [FloatText] [ContainerText] [DecimalSource] [Digests]
  [RecoverableEcdsa] [Rfc8785] {executor : SellerExecutor}

omit [Interpreter] [CaseTables] [DecimalSource] [FloatText] [ContainerText] in
theorem names_of_makeDelivery {env : SellerEnv} {accepted evidenceId command : PyValue}
    {dealId t : String} {revision : ℤ} {key : Bytes} {anchors : Anchors} {moment : CommandMoment}
    {buyerAddress : PyValue} (ht : termsHash accepted = .ok t)
    (h : makeDelivery env accepted (.str dealId) revision evidenceId key anchors moment =
      .ok command) : Names command ⟨dealId, t, buyerAddress⟩ := by
  obtain ⟨_, ht', h₁⟩ := bind_eq_ok.1 h
  obtain rfl := Except.ok.inj (ht.symm.trans ht')
  obtain ⟨_, _, h₂⟩ := bind_eq_ok.1 h₁
  obtain ⟨_, _, h₃⟩ := bind_eq_ok.1 h₂
  obtain ⟨_, _, h₄⟩ := bind_eq_ok.1 h₃
  obtain ⟨_, _, h₅⟩ := bind_eq_ok.1 h₄
  obtain ⟨_, _, hsigned⟩ := bind_eq_ok.1 h₅
  cases hsigned
  refine ⟨?_, ?_⟩
  · rw [get_setMember_of_ne (by decide)]
    rfl
  · rw [get_setMember_of_ne (by decide)]
    rfl

/-- The runs in which every delivery that is asked for without a Runtime names its deal. -/
def ownDeals (executor : SellerExecutor) : ExecutorCondition where
  starts
    | .request true data, s => executor.live = false → OwnDeal data s
    | _, _ => True
  answers _ _ _ := True
  outside _ _ := True

/-- Every delivered command names a countersigned deal. -/
def dealLedger : Ledger where
  deal _ _ := True
  command cs command := ∃ c ∈ cs, Names command c
  activation _ _ := True
  deal_mono _ _ := trivial
  command_mono hcs := fun ⟨c, hc, hnames⟩ => ⟨c, hcs c hc, hnames⟩
  activation_mono _ _ := trivial

omit [Interpreter] [CaseTables] [FloatText] [ContainerText] [DecimalSource] in
theorem delivers_own {s : Executor} {c : Countersigned} {accepted : PyValue}
    (hc : c ∈ s.countersigned) (ht : termsHash accepted = .ok c.termsHash) :
    dealLedger.Delivers executor accepted (.str c.dealId) s :=
  fun _ _ _ _ _ hcommand => ⟨c, hc, names_of_makeDelivery ht hcommand⟩

variable [DigitTables]

theorem dealLedger_kept : dealLedger.Kept executor (ownDeals executor) where
  direct _ := trivial
  accepted _ := trivial
  own := delivers_own
  requested := by
    intro s data named accepted dealId hs hlive hstarts hkind hnamed hheld hdealId
    obtain ⟨t, rfl, hget⟩ := lookupText_eq_some.1 hheld
    have hterms := hstarts hlive dealId t accepted hkind hnamed hget hdealId
    obtain ⟨c, hc, rfl, rfl⟩ := hs.entries dealId t hterms
    exact delivers_own hc (hs.hashed _ accepted hget)
  activation _ _ _ _ _ := trivial

/-- Every command that is signed in such a run names a deal that was countersigned. -/
theorem delivers_countersigned {es : List ExecutorStep} {c : ExecutorConfig}
    (hmeets : (executorSystem executor).machine.Meets
      ((executorSystem executor).Meets (ownDeals executor)) es)
    (hrun : (executorSystem executor).machine.run es = some c) :
    ∀ command ∈ c.state.commands,
      ∃ d ∈ c.state.countersigned, d.Verified executor ∧ Names command d := by
  intro command hcommand
  have hholds := holds_of_run dealLedger_kept hmeets hrun
  obtain ⟨d, hd, hnames⟩ := hholds.commands command hcommand
  exact ⟨d, hd, hholds.remembers.verified d hd, hnames⟩

/-! ## The seller's replies -/

variable {s : Executor}

/-- A negotiation request that is answered without a wait. -/
theorem step_request {data : PyValue} {moment : ExecutorMoment} {s' : Executor}
    {result : Except Failure Unit} {waiting : List _} {ready : List ExecutorJob}
    (h : (executorBody executor (.request true data)).advance { s with moment } =
      (.ended result, s', [])) :
    (executorSystem executor).machine.step ⟨s, waiting, ready⟩
      (.request (.request true data) moment) = some ⟨s', waiting, ready⟩ := by
  have htraced : ((executorBody executor (.request true data)).traced (.request true data)
      []).advance { s with moment } = (.ended result, s', []) := Async.advance_traced_ended h
  have hsettle := (executorSystem executor).settle_of_ended (c := ⟨s, waiting, ready⟩) htraced
  rw [List.append_nil] at hsettle
  exact congrArg some hsettle

theorem advance_termsRequest (hnew : s.addresses = []) {agentId address : String}
    (hagent : agentId ≠ "") (haddress : address ≠ "") :
    (executorBody executor (.request true (termsRequest agentId address))).advance s =
      (.ended (.ok ()), { s with
        addresses := [(.str agentId, .str address)]
        outbox := s.outbox ++ [.obj [("kind", .str "terms"),
          ("payoutAddress", .str executor.env.sellerPayoutAddress),
          ("agentId", .str executor.env.sellerAgentId),
          ("address", .str (evmAddressOf executor.key))]] }, []) := by
  have hkind : getD (termsRequest agentId address) "kind" (.str "") =
      .ok (.str "request-terms") := rfl
  have hid : get (termsRequest agentId address) "agentId" = .ok (.str agentId) := rfl
  have haddr : get (termsRequest agentId address) "address" = .ok (.str address) := rfl
  have hset : setKey s.addresses (.str agentId) (Json.str (ν := PyNumber) address) =
      .ok [(.str agentId, .str address)] := by
    rw [hnew]
    rfl
  unfold executorBody handle
  simp only [hkind, Async.ofExcept, Async.bind_eq, Async.bind]
  unfold publishTerms
  simp [hid, haddr, hset, truthy, hagent, haddress, Async.ofExcept, Async.bind, Async.advance,
    Async.atomic, enqueue]

theorem advance_deliveryRequest (hlive : executor.live = false) (hnew : s.evidence = [])
    {dealId t : String} {accepted : PyValue} (hdeals : s.deals.get? t = some accepted)
    (ht : termsHash accepted = .ok t) {envelope : PyValue}
    (henvelope : evidenceEnvelope executor.env (.str dealId) t (utf8 deliveryContent)
      executor.key = .ok envelope) {evidenceId : String}
    (hevidenceId : evidenceId = "ev_" ++ String.ofList
      ((toHex (Digests.sha256 (utf8 deliveryContent))).toList.take 12)) {anchors : Anchors}
    (hanchors : demoAnchors executor.env (.str dealId) = .ok anchors) {command : PyValue}
    (hcommand : makeDelivery executor.env accepted (.str dealId) 3 (.str evidenceId) executor.key
      anchors s.moment.command = .ok command) :
    (executorBody executor (.request true (deliveryRequest dealId t))).advance s =
      (.ended (.ok ()), { s with
        evidence := [(.str dealId, evidenceId)]
        commands := s.commands ++ [command]
        outbox := s.outbox ++ [.obj [("kind", .str "delivery"), ("command", command),
          ("evidenceEnvelope", envelope), ("content", .str deliveryContent)]] }, []) := by
  have hkind : getD (deliveryRequest dealId t) "kind" (.str "") =
      .ok (.str "request-delivery") := rfl
  have hterms : getD (deliveryRequest dealId t) "termsHash" (.str "") = .ok (.str t) := rfl
  have hdeal : getD (deliveryRequest dealId t) "dealId" (.str "") = .ok (.str dealId) := rfl
  have hrevision : getD (deliveryRequest dealId t) "expectedRevision" (.num (.int 3)) =
      .ok (.num (.int 3)) := rfl
  have hheld : lookupText s.deals (.str t) = .ok (some accepted) :=
    lookupText_eq_some.2 ⟨t, rfl, hdeals⟩
  have hknown : lookupKey s.evidence (.str dealId) = .ok none := by
    rw [hnew]
    rfl
  have hset : setKey s.evidence (.str dealId) evidenceId = .ok [(.str dealId, evidenceId)] := by
    rw [hnew]
    rfl
  have hthree : intOf (.num (.int 3)) = .ok 3 := rfl
  unfold executorBody handle
  simp only [hkind, Async.ofExcept, Async.bind_eq, Async.bind]
  unfold deliver deliverStandalone signDelivered
  simp [hlive, hterms, hheld, hdeal, ht, henvelope, hknown, ← hevidenceId, hset, hrevision, hthree,
    hanchors, hcommand, Async.ofExcept, Async.bind, Async.advance, Async.atomic, enqueue]

end Deliveries

section Demo

attribute [local instance] Interpreter.ascii CaseTables.ascii DigitTables.ascii FloatText.bits
  ContainerText.bare DecimalSource.unread Digests.checksum RecoverableEcdsa.transparent
  Rfc8785.verbatim

def demoMoment : ExecutorMoment :=
  ⟨0, ⟨"01", "2026-01-01T00:00:00Z"⟩⟩

/-- The demo draft as the buyer proposes it. -/
def demoProposed : List (String × PyValue) :=
  proposedMembers demoBuyer [1] (demoHash "12.50") (demoDraft "12.50")

theorem demoProposed_hash : termsHash (.obj demoProposed) = .ok (demoHash "12.50") :=
  (termsHash_setMember _ _).trans (demoDraft_hash _)

theorem demoProposed_signatures : demoProposed.lookup "signatures" =
    some (.arr [signTerms (demoHash "12.50") [1] demoBuyer.buyerAgentId none]) :=
  lookup_setMember_self ..

theorem demoProposed_buyer :
    demoProposed.lookup "buyerAgentId" = some (.str demoBuyer.buyerAgentId) :=
  (lookup_setMember_of_ne _ _ (by decide)).trans rfl

/-- What the demo seller countersigns under a deal id. -/
theorem exists_demoAccepted (dealId : String) : ∃ sig accepted,
    acceptTerms (demoSeller "12.50").env (.obj demoProposed) (.str (evmAddressOf [1])) dealId
      (.str sig) [2] 2368 = .ok accepted ∧ termsHash accepted = .ok (demoHash "12.50") := by
  have hunits : usdcBaseUnitsOf (.str "12.50") = .ok 12500000 := by
    rw [show usdcBaseUnitsOf (.str "12.50") = usdcBaseUnits "12.50" from rfl]
    decide +kernel
  have hterms : wordBytes32 (demoHash "12.50") = .ok _ :=
    wordBytes32_toHex (.inl rfl) (checksum_length _)
  obtain ⟨buyerWord, hbuyerWord⟩ := exists_wordAddr [1]
  obtain ⟨sellerWord, hsellerWord⟩ := exists_wordAddr [2]
  obtain ⟨digest, hdigest⟩ := exists_agreementDigest
    (show toBytes32 2368 = .ok (bytesBE 32 2368) from rfl) hterms hunits
    (show toBytes32 12500000 = .ok (bytesBE 32 12500000) from rfl) hbuyerWord hsellerWord dealId
  have hvalid : validateTerms (demoSeller "12.50").env (.obj demoProposed) = .ok () :=
    (validateTerms_setMember _ _ _).trans (demoDraft_valid _)
  have hprice : demoProposed.lookup "price" =
      some (.obj [("amount", .str "12.50"), ("asset", .str "USDC")]) :=
    (lookup_setMember_of_ne _ _ (by decide)).trans rfl
  exact ⟨_, _, acceptTerms_proposed (RecoverableEcdsa.transparent_inverts [1]) demoProposed_hash
    hvalid demoProposed_signatures demoProposed_buyer hprice rfl hdigest,
    (termsHash_setMember _ _).trans demoProposed_hash⟩

/-- A buyer asks for the terms, proposes and accepts. -/
def demoRequests (sig : String) : List ExecutorStep :=
  [.request (.request true (termsRequest "did:kite:buyer" (evmAddressOf [1]))) demoMoment,
    .request (.request true (proposalRequest (.obj demoProposed))) demoMoment,
    .request (.request true (acceptanceRequest (demoDealId (demoHash "12.50")) sig)) demoMoment]

/-- The demo seller after an exchange: a deal, countersigned and remembered. -/
structure Concluded (accepted : PyValue) (s : Executor) : Prop where
  deals : s.deals.get? (demoHash "12.50") = some accepted
  hashed : termsHash accepted = .ok (demoHash "12.50")
  dealTerms : s.dealTerms.get? (demoDealId (demoHash "12.50")) = some (demoHash "12.50")
  countersigned : s.countersigned =
    [⟨demoDealId (demoHash "12.50"), demoHash "12.50", .str (evmAddressOf [1])⟩]
  evidence : s.evidence = []
  commands : s.commands = []

theorem exists_concluded : ∃ sig accepted s,
    (executorSystem (demoSeller "12.50")).machine.run (demoRequests sig) = some ⟨s, [], []⟩ ∧
    Concluded accepted s := by
  obtain ⟨sig, accepted, haccepted, hhash⟩ := exists_demoAccepted (demoDealId (demoHash "12.50"))
  have haddress : evmAddressOf [1] ≠ "" := by simp [evmAddressOf, evmAddress]
  have hterms : (executorBody (demoSeller "12.50") (.request true
      (termsRequest "did:kite:buyer" (evmAddressOf [1])))).advance
        { Executor.init with moment := demoMoment } = _ :=
    advance_termsRequest rfl (by decide) haddress
  refine ⟨sig, accepted, _, Machine.runFrom_cons _ |>.2 ⟨_, step_request hterms,
    Machine.runFrom_cons _ |>.2 ⟨_, step_request (advance_proposalRequest rfl
      (checkProposal_proposed (RecoverableEcdsa.transparent_inverts [1]) demoProposed_hash
        demoProposed_signatures demoProposed_buyer ?_) demoProposed_hash),
      Machine.runFrom_cons _ |>.2 ⟨_, step_request (advance_acceptanceRequest rfl
        (InsertionMap.get?_set_self ..) haccepted hhash), rfl⟩⟩⟩, ?_⟩
  · exact demoState_buyer
  · exact ⟨InsertionMap.get?_set_self .., hhash, InsertionMap.get?_set_self .., rfl, rfl, rfl⟩

/-- The contract of the demo is asked for under the deal id. -/
def demoDelivery (dealId : String) : ExecutorStep :=
  .request (.request true (deliveryRequest dealId (demoHash "12.50"))) demoMoment

/-- After the exchange, the contract is delivered under whatever deal id is asked for. -/
theorem exists_delivered {accepted : PyValue} {s : Executor} (hs : Concluded accepted s)
    (dealId : String) : ∃ s' command,
      (executorSystem (demoSeller "12.50")).machine.step ⟨s, [], []⟩ (demoDelivery dealId) =
        some ⟨s', [], []⟩ ∧ s'.commands = [command] ∧ s'.countersigned = s.countersigned ∧
      ∀ buyerAddress, Names command ⟨dealId, demoHash "12.50", buyerAddress⟩ := by
  have hvault : wordAddr "0xecececececececececececececececececececec" =
      .ok (List.replicate 12 0 ++ List.replicate 20 0xec) := by decide +kernel
  have hsettlement : demoBuyer.settlement = (demoSeller "12.50").env.settlement := rfl
  have hevidence : "ev_" ++ String.ofList
      ((toHex (Digests.sha256 (utf8 deliveryContent))).toList.take 12) ≠ "" := by simp
  have hrevision : (3 : ℤ).natAbs < 2 ^ 53 := by decide
  obtain ⟨anchors, command, hanchors, hcommand, -⟩ := delivery_completes
    (RecoverableEcdsa.transparent_inverts (demoSeller "12.50").key) checksum_length checksum_length
    verbatim_serialises hsettlement (show toBytes32 2368 = .ok (bytesBE 32 2368) from rfl) hvault
    hs.hashed dealId hevidence hrevision demoMoment.command
  have hdelivered : (executorBody (demoSeller "12.50") (.request true
      (deliveryRequest dealId (demoHash "12.50")))).advance { s with moment := demoMoment } = _ :=
    advance_deliveryRequest (s := { s with moment := demoMoment }) rfl hs.evidence hs.deals
      hs.hashed rfl rfl hanchors hcommand
  refine ⟨_, command, step_request hdelivered, ?_, rfl, fun buyerAddress =>
    names_of_makeDelivery hs.hashed hcommand⟩
  rw [show s.commands = [] from hs.commands]
  rfl

/-- Asked to deliver a countersigned contract under another deal id, the seller signs a
command that names no deal of its own. -/
theorem delivers_foreign : ∃ (es : List ExecutorStep) (c : ExecutorConfig) (command : PyValue),
    (executorSystem (demoSeller "12.50")).machine.run es = some c ∧ command ∈ c.state.commands ∧
      get command "dealId" = .ok (.str "other") ∧
      ∀ d ∈ c.state.countersigned, ¬ Names command d := by
  obtain ⟨sig, accepted, s, hrun, hs⟩ := exists_concluded
  obtain ⟨s', command, hstep, hcommands, hcountersigned, hnames⟩ := exists_delivered hs "other"
  have hdeal := (hnames .null).1
  refine ⟨demoRequests sig ++ [demoDelivery "other"], ⟨s', [], []⟩, command, Machine.runFrom_append _ |>.2
    ⟨_, hrun, Machine.runFrom_cons _ |>.2 ⟨_, hstep, rfl⟩⟩, ?_, hdeal, ?_⟩
  · rw [show s'.commands = [command] from hcommands]
    exact List.mem_singleton_self _
  · intro d hd hnamed
    rw [show s'.countersigned = _ from hcountersigned, hs.countersigned, List.mem_singleton] at hd
    rw [hd, Names, hdeal] at hnamed
    have hother : "other" = demoDealId (demoHash "12.50") := by simpa using hnamed.1
    have hchars := congrArg String.toList hother
    simp [demoDealId] at hchars

/-- The commands of an exchange whose delivery names its deal. -/
theorem delivers_countersigned_demo : ∃ (es : List ExecutorStep) (c : ExecutorConfig)
    (command : PyValue), (executorSystem (demoSeller "12.50")).machine.run es = some c ∧
      command ∈ c.state.commands ∧ ∃ d ∈ c.state.countersigned,
        d.Verified (demoSeller "12.50") ∧ Names command d := by
  obtain ⟨sig, accepted, s, hrun, hs⟩ := exists_concluded
  obtain ⟨s', command, hstep, hcommands, -, -⟩ :=
    exists_delivered hs (demoDealId (demoHash "12.50"))
  have hfull : (executorSystem (demoSeller "12.50")).machine.run
      (demoRequests sig ++ [demoDelivery (demoDealId (demoHash "12.50"))]) = some ⟨s', [], []⟩ :=
    Machine.runFrom_append _ |>.2 ⟨_, hrun, Machine.runFrom_cons _ |>.2 ⟨_, hstep, rfl⟩⟩
  have hquiet : (executorSystem (demoSeller "12.50")).machine.Meets
      ((executorSystem (demoSeller "12.50")).Meets (ownDeals (demoSeller "12.50")))
      (demoRequests sig) :=
    ⟨fun _ => ownDeal_of_kind rfl (by decide), fun _ _ => ⟨fun _ => ownDeal_of_kind rfl (by decide),
      fun _ _ => ⟨fun _ => ownDeal_of_kind rfl (by decide), fun _ _ => trivial⟩⟩⟩
  have hmeets : (executorSystem (demoSeller "12.50")).machine.Meets
      ((executorSystem (demoSeller "12.50")).Meets (ownDeals (demoSeller "12.50")))
      (demoRequests sig ++ [demoDelivery (demoDealId (demoHash "12.50"))]) := by
    refine Machine.meetsFrom_append _ |>.2 ⟨hquiet, fun c hc => ?_⟩
    rw [show c = ⟨s, [], []⟩ from Option.some.inj (hc.symm.trans hrun)]
    refine ⟨fun _ dealId t _ _ hnamed _ hdealId => ?_, fun _ _ => trivial⟩
    cases hnamed
    cases hdealId
    exact hs.dealTerms
  have hmember : command ∈ s'.commands := by
    rw [hcommands]
    exact List.mem_singleton_self _
  exact ⟨_, _, command, hfull, hmember, delivers_countersigned hmeets hfull command hmember⟩

end Demo

end SellerAgent

end Coordination
