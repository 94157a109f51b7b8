import Coordination.Conformance.Registration
import Coordination.SellerAgent.Executor

/-!
# The two signing gates

The gate of the data seller follows the last probe of its key. The loop of the Python seller
ends with the first answer it takes for an approval, an entry without a DID included, and its
gate stays open from then on. As long as that answer names the agent and every later one is an
approval, the gate of the Python seller is open only where the other one is.
-/

namespace Coordination

open Library Identity

/-! ## The loop of the seller agent -/

namespace SellerAgent

open Python

section Loop

variable [FloatText] [ContainerText]

/-- The loop takes an answer for an approval: an entry whose `did` is this agent's or missing. -/
def Takes (did : Did) (v : Answer PyNumber) : Prop :=
  ∃ status body entry resolvedDid matched, v = .response status body ∧
    entryOf status body = .ok (some entry) ∧ memberText entry "did" "" = .ok resolvedDid ∧
    (resolvedDid = "" ∨ resolvedDid = did.text) ∧ matchedRuntime entry = .ok matched ∧
    (memberText matched "id" "").isOk = true

/-- The gate is closed. -/
def Closed (b : RuntimeBind) (_ : BindExchanges PyNumber) : Prop :=
  b.status.state ≠ .active

/-- How a pass ends: with the gate closed, or for good after an answer that is taken for an
approval. -/
def Passed (did : Did) (again : Bool) (b : RuntimeBind) (heard : BindExchanges PyNumber) : Prop :=
  Closed b heard ∨ again = false ∧ ∃ v, (probesOf heard).getLast? = some v ∧ Takes did v

/-- What is kept while the gate is closed. -/
abbrev Closes {α : Type} (p : RuntimeBindTask α) : Prop :=
  Async.Steady (fun _ => Closed) Closed p

variable {config : RuntimeBindConfig} {key : BindKey}

omit [FloatText] [ContainerText] in
theorem closes_exchange (r : BindWait) : Closes (exchange r) :=
  steady_exchange (fun _ _ h => h) fun _ _ _ h => h

theorem closes_registerDirect (agentStorageId : String) :
    Closes (registerDirect config key agentStorageId) := by
  refine Async.steady_bind (closes_exchange _) fun ⟨status, body⟩ => ?_
  refine Async.steady_bind (Async.steady_ofExcept _) fun _ => ?_
  refine Async.steady_bind (Async.steady_ofExcept _) fun nonce => ?_
  split
  · exact Async.steady_ofExcept _
  · refine Async.steady_bind (closes_exchange _) fun ⟨status, body⟩ => ?_
    exact Async.steady_bind (Async.steady_ofExcept _) fun _ => Async.steady_ofExcept _

theorem closes_fileRequest : Closes (fileRequest config key) := by
  refine Async.steady_bind (steady_agentStorageIdOf (closes_exchange _) fun _ _ _ h => h)
    fun agentStorageId => ?_
  refine Async.steady_bind (closes_registerDirect agentStorageId) fun view => ?_
  refine Async.steady_bind (Async.steady_modify fun _ _ h => h) fun _ => ?_
  refine Async.steady_bind (Async.steady_ofExcept _) fun runtimeId => ?_
  refine Async.steady_bind (Async.steady_modify fun _ _ h => h) fun _ => ?_
  exact Async.steady_modify fun _ _ _ h => nomatch h

theorem closes_onUnresolved : Closes (onUnresolved config key) := by
  refine Async.steady_bind (Async.steady_read fun b => ?_) fun _ => Async.steady_ret _
  split
  · exact closes_fileRequest
  · exact Async.steady_modify fun _ _ _ h => nomatch h

/-- An entry leaves the gate closed, or is taken for an approval and ends the loop. -/
theorem keeps_onEntry {b : RuntimeBind} {heard : BindExchanges PyNumber} (h : Closed b heard)
    {v : BindReply PyNumber} {status : ℕ} {body : Option PyValue} {entry : PyValue}
    (hv : v.answer = .response status body) (hentry : entryOf status body = .ok (some entry))
    (hlast : (probesOf heard).getLast? = some v.answer) :
    (onEntry config entry).Keeps (fun _ => Closed) (Passed config.agentDid) (fun _ => Closed) b
      heard := by
  unfold onEntry
  refine Async.keeps_bind.2 (Async.keeps_ofExcept.2 ⟨fun resolvedDid hdid => ?_, fun _ _ => h⟩)
  split
  · exact Async.keeps_bind.2 (Or.inl nofun)
  · next hours =>
      refine Async.keeps_bind.2
        (Async.keeps_ofExcept.2 ⟨fun matched hmatched => ?_, fun _ _ => h⟩)
      refine Async.keeps_bind.2 (Async.keeps_ofExcept.2 ⟨fun runtimeId hid => ?_, fun _ _ => h⟩)
      refine Async.keeps_bind.2 (Async.keeps_modify.2 ?_)
      refine Async.keeps_bind.2 (Async.keeps_ofExcept.2 ⟨fun method _ => ?_, fun _ _ => h⟩)
      refine Async.keeps_bind.2 (Or.inr ⟨rfl, v.answer, hlast, ?_⟩)
      have hdids : resolvedDid = "" ∨ resolvedDid = config.agentDid.text := by
        by_contra hforeign
        exact hours (not_or.1 hforeign)
      exact ⟨status, body, entry, resolvedDid, matched, hv, hentry, hdid, hdids, hmatched,
        by rw [hid]; rfl⟩

theorem keeps_attempt {b : RuntimeBind} {heard : BindExchanges PyNumber} (h : Closed b heard) :
    (attempt config key).Keeps (fun _ => Closed) (Passed config.agentDid) (fun _ => Closed) b
      heard := by
  unfold attempt lookupLiveBinding exchange
  refine Async.keeps_bind.2 (Async.keeps_bind.2 ⟨h, fun v => ?_⟩)
  dsimp only
  cases hv : v.answer with
  | lost => exact Async.keeps_ofExcept.2 ⟨nofun, fun _ _ => h⟩
  | response status body =>
      refine Async.keeps_ofExcept.2 ⟨fun entry? hentry => ?_, fun _ _ => h⟩
      have hheard : Closed b (heard ++ [(.lookupKey key.pubKey, v)]) := h
      cases entry? with
      | some entry =>
          refine keeps_onEntry hheard hv hentry ?_
          rw [probesOf_append]
          exact List.getLast?_concat
      | none =>
          have hcloses : Closes (onUnresolved config key) := closes_onUnresolved
          exact (hcloses b _ hheard).mono (fun _ _ _ h => Or.inl h) fun _ _ _ h => h

/-- Every pass of the loop leaves the gate closed or ends it. -/
theorem keeps_passed {b : RuntimeBind} {heard : BindExchanges PyNumber} (h : Closed b heard) :
    (maintain config key).Keeps (fun _ => Closed) (Passed config.agentDid) (fun _ _ _ => False) b
      heard := by
  have hsleep {b : RuntimeBind} {heard : BindExchanges PyNumber} (h : Closed b heard) :
      (Async.await .sleep fun _ => .ret true : RuntimeBindTask Bool).Keeps (fun _ => Closed)
        (Passed config.agentDid) (fun _ _ _ => False) b heard :=
    ⟨h, fun _ => Or.inl h⟩
  refine Async.keeps_bind.2 (Async.keeps_onError.2 ?_)
  refine (keeps_attempt h).mono (fun again b heard h => ?_) fun e b heard _ =>
    Async.keeps_bind.2 (hsleep (by rintro ⟨⟩))
  cases again with
  | false => exact h
  | true => exact hsleep (h.resolve_right fun hended => nomatch hended.1)

/-- Once the gate is open the loop has ended with an answer it took for an approval. -/
theorem ended_of_active (config : RuntimeBindConfig) (replies : List (BindReply PyNumber)) :
    (runBinding config replies).state.status.state = .active →
      (runBinding config replies).request = none ∧
        ∃ v, (probesOf (runBinding config replies).heard).getLast? = some v ∧
          Takes config.agentDid v := by
  unfold runBinding
  split
  · rintro ⟨⟩
  · split
    · rintro ⟨⟩
    · next key _ =>
        have hpass : ∀ b heard, Passed config.agentDid true b heard →
            (maintain config key).Keeps (fun _ => Closed) (Passed config.agentDid)
              (fun _ _ _ => False) b heard :=
          fun _ _ h => keeps_passed (h.resolve_right fun hended => nomatch hended.1)
        have hstart : Closed (startedWith .pending "resolving agent and filing bind request"
            key.pubKey) [] := by rintro ⟨⟩
        have hholds := Cycle.run_holds hpass (Or.inl hstart) replies
        intro hactive
        cases hrequest : (Cycle.run (maintain config key) (startedWith .pending
            "resolving agent and filing bind request" key.pubKey) replies).request with
        | some r => exact absurd hactive (hholds.waits hrequest)
        | none =>
            obtain ⟨_, hclosed | ⟨_, htaken⟩⟩ := hholds.ended hrequest
            · exact absurd hactive hclosed
            · exact ⟨rfl, htaken⟩

end Loop

end SellerAgent

/-! ## The two gates -/

namespace Conformance

open Python

/-- The bodies of an answer with their number literals read otherwise. -/
def readWith {ν μ : Type} (f : ν → μ) : Answer ν → Answer μ
  | .lost => .lost
  | .response status body => .response status (body.map (Json.mapNum f))

/-- A loop has been fed a sequence of answers to its probes: it has heard all of them, or it
has ended on the way. -/
def Fed {ε σ ν : Type} (answers : List (Answer ν))
    (c : Cycle ε σ BindWait (BindReply ν) Empty) : Prop :=
  probesOf c.heard = answers ∨ c.request = none ∧ probesOf c.heard <+: answers

/-- The data seller reads an answer as an approval of this agent. -/
def Approves (did : Did) (v : Answer JavaScript.Number) : Prop :=
  ∃ matched, DataSeller.Confirms did v matched ∧
    (DataSeller.memberText matched "bind_method" "direct").isOk = true

section Gates

variable [FloatText] [ContainerText]

/-- What the Python seller takes for an approval names the agent, and every later answer is an
approval. -/
def Unrevoked (did : Did) (f : PyNumber → JavaScript.Number) (answers : List (Answer PyNumber)) :
    Prop :=
  ∀ before v after, answers = before ++ v :: after → SellerAgent.Takes did v →
    DataSeller.NamesAgent did (readWith f v) ∧ ∀ w ∈ v :: after, Approves did (readWith f w)

omit [FloatText] [ContainerText] in
/-- In live mode the gate of the Python seller is open when the binding is active. -/
theorem active_of_open {status : BindStatus} {executor : SellerAgent.SellerExecutor}
    {s : SellerAgent.Executor} (hlive : executor.live = true)
    (hbinding : s.binding = (status.state.name, status.detail))
    (hopen : SellerAgent.bindingBlock executor s = none) : status.state = .active := by
  unfold SellerAgent.bindingBlock at hopen
  rw [hlive, hbinding] at hopen
  cases hstate : status.state with
  | active => rfl
  | disabled | noKey | pending | error =>
      rw [hstate] at hopen
      cases hopen

/-- After a sequence of answers without a revocation or an entry that names no agent, the gate
of the Python seller is open only where an answer has named the agent and the other gate is
open. -/
theorem gate_refines (ts : DataSeller.BindingConfig) (py : SellerAgent.RuntimeBindConfig)
    (tsReplies : List (BindReply JavaScript.Number)) (pyReplies : List (BindReply PyNumber))
    {did : Did} (hts : ts.agentDid = did) (hpy : py.agentDid = did)
    {f : PyNumber → JavaScript.Number} {answers : List (Answer PyNumber)}
    (hanswers : Unrevoked did f answers)
    (hheard : probesOf (DataSeller.runBinding ts tsReplies).heard = answers.map (readWith f))
    (hfed : Fed answers (SellerAgent.runBinding py pyReplies))
    {executor : SellerAgent.SellerExecutor} {s : SellerAgent.Executor}
    (hlive : executor.live = true)
    (hbinding : s.binding = ((SellerAgent.runBinding py pyReplies).state.status.state.name,
      (SellerAgent.runBinding py pyReplies).state.status.detail))
    (hopen : SellerAgent.bindingBlock executor s = none) :
    (∃ v ∈ answers, DataSeller.NamesAgent did (readWith f v)) ∧
      (DataSeller.runBinding ts tsReplies).state.block = none := by
  have hactive := active_of_open hlive hbinding hopen
  obtain ⟨_, v, hlast, htakes⟩ := SellerAgent.ended_of_active py pyReplies hactive
  obtain ⟨before, hbefore⟩ := List.getLast?_eq_some_iff.1 hlast
  have hprefix : probesOf (SellerAgent.runBinding py pyReplies).heard <+: answers := by
    rcases hfed with hall | ⟨_, hprefix⟩
    · rw [hall]
    · exact hprefix
  obtain ⟨after, hsplit⟩ := hprefix
  rw [hbefore, List.append_assoc, List.singleton_append] at hsplit
  rw [hpy] at htakes
  obtain ⟨hnames, hsince⟩ := hanswers before v after hsplit.symm htakes
  refine ⟨⟨v, by rw [← hsplit]; simp, hnames⟩, ?_⟩
  -- the last answer comes no earlier than the one that ended the Python loop
  obtain ⟨w, hw⟩ : ∃ w, (v :: after).getLast? = some w :=
    ⟨_, List.getLast?_eq_some_getLast (List.cons_ne_nil _ _)⟩
  obtain ⟨matched, hconfirms, hmethod⟩ := hsince w (List.mem_of_getLast? hw)
  have hlastHeard : (probesOf (DataSeller.runBinding ts tsReplies).heard).getLast? =
      some (readWith f w) := by
    rw [hheard, ← hsplit, List.map_append, List.getLast?_append, List.getLast?_map, hw]
    rfl
  obtain ⟨hgate, _⟩ := DataSeller.gate_runBinding ts tsReplies
  rw [hts] at hgate
  exact if_pos (hgate.opens _ _ hlastHeard hconfirms hmethod)

end Gates

/-! ## An entry without a DID -/

section Demo

/-- The Python seller under the identity of the data seller. -/
def demoPython : SellerAgent.RuntimeBindConfig :=
  { demoRuntimeBind with agentDid := DataSeller.demoBinding.agentDid }

/-- A probe is answered with an entry. -/
def entryAnswer (members : List (String × PyValue)) : Answer PyNumber :=
  .response 200 (some (.obj [("data", .obj members)]))

/-- The probe is the first request of a loop. -/
def probed {ν : Type} (answer : Answer ν) : List (BindReply ν) :=
  [⟨false, answer⟩]

/-- The literal as the data seller reads it. -/
def literalNumber : PyNumber → JavaScript.Number
  | .int n => Float.ofInt n
  | .float x => x

/-- A live seller. -/
def demoExecutor : SellerAgent.SellerExecutor where
  env := ⟨"https://seller.example", "did:kite:corp-kite:example-data-seller-agent",
    "0x00000000000000000000000000000000000000aa", "1.00",
    ⟨84532, "0x00000000000000000000000000000000000000bb"⟩⟩
  key := []
  live := true
  deliveryRetrySeconds := 5

/-- The executor while `STATUS` is that of the loop. -/
def boundTo (b : SellerAgent.RuntimeBind) : SellerAgent.Executor :=
  { SellerAgent.Executor.init with binding := (b.status.state.name, b.status.detail) }

attribute [local instance] FloatText.bits ContainerText.bare

theorem demo_gate_refines :
    (∃ v ∈ [entryAnswer [("did", .str DataSeller.demoBinding.agentDid.text)]],
      DataSeller.NamesAgent DataSeller.demoBinding.agentDid (readWith literalNumber v)) ∧
    (DataSeller.runBinding DataSeller.demoBinding (probed (readWith literalNumber (entryAnswer
      [("did", .str DataSeller.demoBinding.agentDid.text)])))).state.block = none := by
  refine gate_refines DataSeller.demoBinding demoPython _ (probed (entryAnswer
    [("did", .str DataSeller.demoBinding.agentDid.text)])) rfl rfl ?_ rfl (Or.inl rfl)
    (rfl : demoExecutor.live = true) (rfl : (boundTo _).binding = _) rfl
  intro before v after hsplit _
  obtain ⟨rfl, hv⟩ | ⟨_, hv⟩ := List.append_eq_singleton_iff.1 hsplit.symm
  swap
  · cases hv
  obtain ⟨rfl, rfl⟩ := List.cons.inj hv
  refine ⟨⟨200, _, _, rfl, rfl, rfl⟩, fun w hw => ?_⟩
  cases List.mem_singleton.1 hw
  exact ⟨_, ⟨200, _, _, rfl, rfl, rfl, rfl, rfl⟩, rfl⟩

/-- An entry without a DID opens the gate of the Python seller and not the other one. -/
theorem empty_entry_opens :
    probesOf (DataSeller.runBinding DataSeller.demoBinding
      (probed (readWith literalNumber (entryAnswer [])))).heard =
        [entryAnswer []].map (readWith literalNumber) ∧
    Fed [entryAnswer []] (SellerAgent.runBinding demoPython (probed (entryAnswer []))) ∧
    SellerAgent.bindingBlock demoExecutor
      (boundTo (SellerAgent.runBinding demoPython (probed (entryAnswer []))).state) = none ∧
    ¬ ((∃ v ∈ [entryAnswer []],
        DataSeller.NamesAgent DataSeller.demoBinding.agentDid (readWith literalNumber v)) ∧
      (DataSeller.runBinding DataSeller.demoBinding
        (probed (readWith literalNumber (entryAnswer [])))).state.block = none) := by
  refine ⟨rfl, Or.inl rfl, rfl, ?_⟩
  rintro ⟨_, hblock⟩
  cases hblock

end Demo

end Conformance

end Coordination
