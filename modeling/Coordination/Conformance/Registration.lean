import Coordination.DataSeller.BindingGate
import Coordination.SellerAgent.RuntimeBind

/-!
# Bind requests

Both sellers file a bind request while they remember none, and they remember one when its answer
has arrived and been read. As long as every request that Identity records is answered so, it
records at most one; after a lost answer the next pass that finds no entry files another.
-/

namespace Coordination

open Library Identity

namespace Identity

/-! ## Requests that are remembered -/

section Filed

variable {ν : Type} {acknowledges : BindReply ν → Prop} {registered : Bool}
  {heard : BindExchanges ν}

/-- With every recorded bind request acknowledged there is at most one, and it is remembered. -/
def Filed (acknowledges : BindReply ν → Prop) (registered : Bool) (heard : BindExchanges ν) :
    Prop :=
  (∀ x ∈ acceptedOf heard, acknowledges x.2) →
    (acceptedOf heard).length ≤ 1 ∧ (registered = false → acceptedOf heard = [])

theorem filed_nil : Filed acknowledges registered [] :=
  fun _ => ⟨Nat.zero_le 1, fun _ => rfl⟩

/-- What files no bind request changes nothing. -/
theorem Filed.other (h : Filed acknowledges registered heard) {r : BindWait}
    (hr : r.registers = false) (v : BindReply ν) :
    Filed acknowledges registered (heard ++ [(r, v)]) := by
  have haccepted : acceptedOf (heard ++ [(r, v)]) = acceptedOf heard := by
    rw [acceptedOf_append]
    simp [acceptedOf, hr]
  unfold Filed
  rw [haccepted]
  exact h

theorem mem_acceptedOf_append_left {heard' : BindExchanges ν} {x : BindWait × BindReply ν}
    (hx : x ∈ acceptedOf heard) : x ∈ acceptedOf (heard ++ heard') := by
  rw [acceptedOf_append]
  exact List.mem_append_left _ hx

/-- The first request that is remembered. -/
theorem Filed.filed (h : Filed acknowledges false heard) (r : BindWait) (v : BindReply ν) :
    Filed acknowledges true (heard ++ [(r, v)]) := by
  intro hack
  have hnone := (h fun x hx => hack x (mem_acceptedOf_append_left hx)).2 rfl
  refine ⟨?_, nofun⟩
  rw [acceptedOf_append, hnone, List.nil_append]
  exact List.length_filter_le _ _

/-- A request that is not acknowledged has not been recorded. -/
theorem Filed.failed (h : Filed acknowledges false heard) {r : BindWait} (hr : r.registers = true)
    {v : BindReply ν} (hv : ¬ acknowledges v) : Filed acknowledges false (heard ++ [(r, v)]) := by
  intro hack
  have hnone := (h fun x hx => hack x (mem_acceptedOf_append_left hx)).2 rfl
  have hrejected : v.accepted = false := by
    by_contra hrecorded
    have haccepted : v.accepted = true := Bool.eq_true_of_not_eq_false hrecorded
    refine hv (hack (r, v) ?_)
    rw [acceptedOf_append]
    refine List.mem_append_right _ (List.mem_filter.2 ⟨List.mem_singleton.2 rfl, ?_⟩)
    simp [hr, haccepted]
  have hlast : acceptedOf [(r, v)] = [] := by simp [acceptedOf, hrejected]
  rw [acceptedOf_append, hnone, hlast]
  exact ⟨Nat.zero_le 1, fun _ => rfl⟩

end Filed

end Identity

/-! ## The data seller -/

namespace DataSeller

open JavaScript

/-- The answer to a bind request that makes the loop remember it. -/
def Acknowledges (v : BindReply Number) : Prop :=
  ∃ status body, v.answer = .response status body ∧ isSuccess status = true ∧
    (dataOf body).isOk = true

/-- What the loop of the data seller remembers. -/
def FiledOf (b : Binding) (heard : BindExchanges Number) : Prop :=
  Filed Acknowledges b.registered heard

/-- What holds at every wait: a request is filed while none is remembered. -/
def FiledAt (r : BindWait) (b : Binding) (heard : BindExchanges Number) : Prop :=
  FiledOf b heard ∧ (r.registers = true → b.registered = false)

/-- No request is remembered. -/
def Unfiled (b : Binding) (heard : BindExchanges Number) : Prop :=
  FiledOf b heard ∧ b.registered = false

variable {config : BindingConfig} {key : BindKey}

theorem fetch_unfiled {r : BindWait} (hr : r.registers = false) :
    Async.Steady FiledAt Unfiled (fetch r) :=
  steady_fetch (fun _ _ h => ⟨h.1, fun _ => h.2⟩) fun v _ _ h => ⟨h.1.other hr v, h.2⟩

theorem keeps_registerDirect (agentStorageId : String) {b : Binding} {heard : BindExchanges Number}
    (h : Unfiled b heard) :
    (registerDirect config key agentStorageId).Keeps FiledAt
      (fun _ _ heard => Filed Acknowledges true heard) (fun _ => FiledOf) b heard := by
  have hthrows {message : String} {b : Binding} {heard : BindExchanges Number}
      (h : FiledOf b heard) :
      (Async.ofExcept (error message) : BindTask Value).Keeps FiledAt
        (fun _ _ heard => Filed Acknowledges true heard) (fun _ => FiledOf) b heard :=
    Async.keeps_ofExcept.2 ⟨nofun, fun _ _ => h⟩
  unfold registerDirect
  refine Async.keeps_bind.2 ((fetch_unfiled rfl b heard h).mono ?_ fun _ _ _ h => h.1)
  rintro ⟨status, body⟩ b heard h
  dsimp only
  split
  · exact hthrows h.1
  · refine Async.keeps_bind.2 (Async.keeps_ofExcept.2 ⟨fun nonce _ => ?_, fun _ _ => h.1⟩)
    split
    · exact hthrows h.1
    · refine Async.keeps_bind.2 ⟨⟨h.1, fun _ => h.2⟩, fun v => ?_⟩
      have hfiled : Filed Acknowledges false heard := h.2 ▸ h.1
      have hfailed (hv : ¬ Acknowledges v) : FiledOf b (heard ++ [(.registerDirect agentStorageId
          (bindRequest config key nonce agentStorageId), v)]) := by
        unfold FiledOf
        rw [h.2]
        exact hfiled.failed rfl hv
      dsimp only
      cases hv : v.answer with
      | lost =>
          refine hfailed ?_
          rintro ⟨_, _, hresponse, _⟩
          rw [hv] at hresponse
          cases hresponse
      | response status body =>
          change Async.Keeps _ _ _ (ite _ _ _) _ _
          split
          · next hstatus =>
              refine hthrows (hfailed ?_)
              rintro ⟨_, _, hresponse, hsuccess, _⟩
              rw [hv] at hresponse
              cases hresponse
              rw [hsuccess] at hstatus
              cases hstatus
          · refine Async.keeps_ofExcept.2 ⟨fun _ _ => hfiled.filed _ v, fun e he => hfailed ?_⟩
            rintro ⟨_, _, hresponse, _, hbody⟩
            rw [hv] at hresponse
            cases hresponse
            rw [he] at hbody
            cases hbody

theorem keeps_fileRequest {b : Binding} {heard : BindExchanges Number} (h : Unfiled b heard) :
    (fileRequest config key).Keeps FiledAt (fun _ => FiledOf) (fun _ => FiledOf) b heard := by
  have hagent : Async.Steady FiledAt Unfiled (agentStorageIdOf config) :=
    steady_agentStorageIdOf (fetch_unfiled rfl) fun _ _ _ h => h
  unfold fileRequest
  refine Async.keeps_bind.2 ((hagent b heard h).mono (fun agentStorageId b heard h => ?_)
    fun _ _ _ h => h.1)
  refine Async.keeps_bind.2 ((keeps_registerDirect agentStorageId h).mono
    (fun view b heard h => ?_) fun _ _ _ h => h)
  refine Async.keeps_bind.2 (Async.keeps_modify.2 ?_)
  exact Async.keeps_bind.2 (Async.keeps_ofExcept.2 ⟨fun runtimeId _ => h, fun _ _ => h⟩)

/-- Every pass of the loop keeps account of what it files. -/
theorem keeps_filed {b : Binding} {heard : BindExchanges Number} (h : FiledOf b heard) :
    (maintain config key).Keeps FiledAt (fun _ => FiledOf) (fun _ _ _ => False) b heard := by
  have hfetch {r : BindWait} (hr : r.registers = false) : Async.Steady FiledAt FiledOf (fetch r) :=
    steady_fetch (fun _ _ h => ⟨h, fun hfiles => by rw [hr] at hfiles; cases hfiles⟩)
      fun v _ _ h => h.other hr v
  have htouch (state : BindState) (detail : String) :
      Async.Steady FiledAt FiledOf (touch state detail) := Async.steady_modify fun _ _ h => h
  have hentry (entry : Value) : Async.Steady FiledAt FiledOf (onEntry config entry) := by
    refine Async.steady_bind (Async.steady_ofExcept _) fun resolvedDid => ?_
    split
    · exact htouch _ _
    · refine Async.steady_bind (Async.steady_ofExcept _) fun matched => ?_
      refine Async.steady_bind (Async.steady_ofExcept _) fun runtimeId => ?_
      refine Async.steady_bind (Async.steady_modify fun _ _ h => h) fun _ => ?_
      refine Async.steady_read fun b => ?_
      split
      · exact Async.steady_bind (Async.steady_ofExcept _) fun method => htouch _ _
      · exact Async.steady_ret _
  have hunresolved : Async.Steady FiledAt FiledOf (onUnresolved config key) := by
    intro b heard h
    change Async.Keeps _ _ _ (ite _ _ _) _ _
    split
    · split
      · exact h
      · exact h
    · split
      · next hfree => exact keeps_fileRequest ⟨h, by simpa using (Bool.and_eq_true_iff.1 hfree).1⟩
      · split
        · exact h
        · exact h
  have hattempt : Async.Steady FiledAt FiledOf (attempt config key) := by
    refine Async.steady_bind (Async.steady_bind (hfetch rfl) fun ⟨status, body⟩ =>
      Async.steady_ofExcept _) fun entry? => ?_
    cases entry? with
    | some entry => exact hentry entry
    | none => exact hunresolved
  have hsleep {b : Binding} {heard : BindExchanges Number} (h : FiledOf b heard) :
      (Async.await .sleep fun _ => .ret true : BindTask Bool).Keeps FiledAt (fun _ => FiledOf)
        (fun _ _ _ => False) b heard :=
    ⟨⟨h, nofun⟩, fun v => h.other (r := .sleep) rfl v⟩
  refine Async.keeps_bind.2 (Async.keeps_onError.2 ?_)
  exact (hattempt b heard h).mono (fun _ _ _ h => hsleep h) fun _ _ _ h => hsleep h

/-- After any sequence of answers the loop has kept account of what it has filed. -/
theorem filed_runBinding (config : BindingConfig) (replies : List (BindReply Number)) :
    FiledOf (runBinding config replies).state (runBinding config replies).heard := by
  unfold runBinding
  split
  · exact filed_nil
  · split
    · exact filed_nil
    · next key _ =>
        have hpass : ∀ b heard, FiledOf b heard →
            (maintain config key).Keeps FiledAt (fun _ => FiledOf) (fun _ _ _ => False) b heard :=
          fun _ _ h => keeps_filed h
        exact (Cycle.run_holds hpass filed_nil replies).always (fun _ _ _ h => h.1)
          fun _ _ _ h => h

end DataSeller

/-! ## The seller agent -/

namespace SellerAgent

open Python

section Loop

variable [FloatText] [ContainerText]

omit [FloatText] [ContainerText] in
/-- The answer to a bind request that makes the loop remember it. -/
def Acknowledges (v : BindReply PyNumber) : Prop :=
  ∃ status body, v.answer = .response status body ∧ isSuccess status = true ∧
    (entryData body).isOk = true

/-- What the loop of the seller remembers. -/
def FiledOf (b : RuntimeBind) (heard : BindExchanges PyNumber) : Prop :=
  Filed Acknowledges b.registered heard

/-- What holds at every wait: a request is filed while none is remembered. -/
def FiledAt (r : BindWait) (b : RuntimeBind) (heard : BindExchanges PyNumber) : Prop :=
  FiledOf b heard ∧ (r.registers = true → b.registered = false)

/-- No request is remembered. -/
def Unfiled (b : RuntimeBind) (heard : BindExchanges PyNumber) : Prop :=
  FiledOf b heard ∧ b.registered = false

variable {config : RuntimeBindConfig} {key : BindKey}

omit [FloatText] [ContainerText] in
theorem exchange_unfiled {r : BindWait} (hr : r.registers = false) :
    Async.Steady FiledAt Unfiled (exchange r) :=
  steady_exchange (fun _ _ h => ⟨h.1, fun _ => h.2⟩) fun v _ _ h => ⟨h.1.other hr v, h.2⟩

theorem keeps_registerDirect (agentStorageId : String) {b : RuntimeBind}
    {heard : BindExchanges PyNumber} (h : Unfiled b heard) :
    (registerDirect config key agentStorageId).Keeps FiledAt
      (fun _ _ heard => Filed Acknowledges true heard) (fun _ => FiledOf) b heard := by
  unfold registerDirect
  refine Async.keeps_bind.2 ((exchange_unfiled rfl b heard h).mono ?_ fun _ _ _ h => h.1)
  rintro ⟨status, body⟩ b heard h
  refine Async.keeps_bind.2 (Async.keeps_ofExcept.2 ⟨fun _ _ => ?_, fun _ _ => h.1⟩)
  refine Async.keeps_bind.2 (Async.keeps_ofExcept.2 ⟨fun nonce _ => ?_, fun _ _ => h.1⟩)
  split
  · exact Async.keeps_ofExcept.2 ⟨nofun, fun _ _ => h.1⟩
  · refine Async.keeps_bind.2 ⟨⟨h.1, fun _ => h.2⟩, fun v => ?_⟩
    have hfiled : Filed Acknowledges false heard := h.2 ▸ h.1
    have hfailed (hv : ¬ Acknowledges v) : FiledOf b (heard ++ [(.registerDirect agentStorageId
        (bindRequest config key nonce agentStorageId), v)]) := by
      unfold FiledOf
      rw [h.2]
      exact hfiled.failed rfl hv
    dsimp only
    cases hv : v.answer with
    | lost =>
        refine Async.keeps_ofExcept.2 ⟨nofun, fun _ _ => hfailed ?_⟩
        rintro ⟨_, _, hresponse, _⟩
        rw [hv] at hresponse
        cases hresponse
    | response status body =>
        refine Async.keeps_bind.2
          (Async.keeps_ofExcept.2 ⟨fun _ _ => ?_, fun e he => hfailed ?_⟩)
        · refine Async.keeps_ofExcept.2 ⟨fun _ _ => hfiled.filed _ v, fun e he => hfailed ?_⟩
          rintro ⟨_, _, hresponse, _, hbody⟩
          rw [hv] at hresponse
          cases hresponse
          rw [he] at hbody
          cases hbody
        · rintro ⟨_, _, hresponse, hsuccess, _⟩
          rw [hv] at hresponse
          cases hresponse
          rw [raiseForStatus, if_pos hsuccess] at he
          cases he

theorem keeps_fileRequest {b : RuntimeBind} {heard : BindExchanges PyNumber} (h : Unfiled b heard) :
    (fileRequest config key).Keeps FiledAt (fun _ => FiledOf) (fun _ => FiledOf) b heard := by
  have hagent : Async.Steady FiledAt Unfiled (agentStorageIdOf config) :=
    steady_agentStorageIdOf (exchange_unfiled rfl) fun _ _ _ h => h
  unfold fileRequest
  refine Async.keeps_bind.2 ((hagent b heard h).mono (fun agentStorageId b heard h => ?_)
    fun _ _ _ h => h.1)
  refine Async.keeps_bind.2 ((keeps_registerDirect agentStorageId h).mono
    (fun view b heard h => ?_) fun _ _ _ h => h)
  refine Async.keeps_bind.2 (Async.keeps_modify.2 ?_)
  exact Async.keeps_bind.2 (Async.keeps_ofExcept.2 ⟨fun runtimeId _ => h, fun _ _ => h⟩)

/-- Every pass of the loop keeps account of what it files. -/
theorem keeps_filed {b : RuntimeBind} {heard : BindExchanges PyNumber} (h : FiledOf b heard) :
    (maintain config key).Keeps FiledAt (fun _ => FiledOf) (fun _ _ _ => False) b heard := by
  have hexchange {r : BindWait} (hr : r.registers = false) :
      Async.Steady FiledAt FiledOf (exchange r) :=
    steady_exchange (fun _ _ h => ⟨h, fun hfiles => by rw [hr] at hfiles; cases hfiles⟩)
      fun v _ _ h => h.other hr v
  have htouch (state : BindState) (detail : String) :
      Async.Steady FiledAt FiledOf (touch state detail) := Async.steady_modify fun _ _ h => h
  have hentry (entry : PyValue) : Async.Steady FiledAt FiledOf (onEntry config entry) := by
    refine Async.steady_bind (Async.steady_ofExcept _) fun resolvedDid => ?_
    split
    · exact Async.steady_bind (htouch _ _) fun _ => Async.steady_ret _
    · refine Async.steady_bind (Async.steady_ofExcept _) fun matched => ?_
      refine Async.steady_bind (Async.steady_ofExcept _) fun runtimeId => ?_
      refine Async.steady_bind (Async.steady_modify fun _ _ h => h) fun _ => ?_
      refine Async.steady_bind (Async.steady_ofExcept _) fun method => ?_
      exact Async.steady_bind (htouch _ _) fun _ => Async.steady_ret _
  have hunresolved : Async.Steady FiledAt FiledOf (onUnresolved config key) := by
    refine Async.steady_bind (fun b heard h => ?_) fun _ => Async.steady_ret _
    change Async.Keeps _ _ _ (ite _ _ _) _ _
    split
    · next hfree => exact keeps_fileRequest ⟨h, by simpa using hfree⟩
    · exact h
  have hattempt : Async.Steady FiledAt FiledOf (attempt config key) := by
    refine Async.steady_bind (Async.steady_bind (hexchange rfl) fun ⟨status, body⟩ =>
      Async.steady_ofExcept _) fun entry? => ?_
    cases entry? with
    | some entry => exact hentry entry
    | none => exact hunresolved
  have hnext (again : Bool) {b : RuntimeBind} {heard : BindExchanges PyNumber}
      (h : FiledOf b heard) :
      (if again then .await .sleep fun _ => .ret true else return false :
        RuntimeBindTask Bool).Keeps FiledAt (fun _ => FiledOf) (fun _ _ _ => False) b heard := by
    split
    · exact ⟨⟨h, nofun⟩, fun v => h.other (r := .sleep) rfl v⟩
    · exact h
  refine Async.keeps_bind.2 (Async.keeps_onError.2 ?_)
  exact (hattempt b heard h).mono (fun again _ _ h => hnext again h) fun _ _ _ h => hnext true h

/-- After any sequence of answers the loop has kept account of what it has filed. -/
theorem filed_runBinding (config : RuntimeBindConfig) (replies : List (BindReply PyNumber)) :
    FiledOf (runBinding config replies).state (runBinding config replies).heard := by
  unfold runBinding
  split
  · exact filed_nil
  · split
    · exact filed_nil
    · next key _ =>
        have hpass : ∀ b heard, FiledOf b heard →
            (maintain config key).Keeps FiledAt (fun _ => FiledOf) (fun _ _ _ => False) b heard :=
          fun _ _ h => keeps_filed h
        exact (Cycle.run_holds hpass filed_nil replies).always (fun _ _ _ h => h.1)
          fun _ _ _ h => h

end Loop

end SellerAgent

/-! ## Both sellers -/

namespace Conformance

section Sellers

variable [Python.FloatText] [Python.ContainerText]

/-- Identity records at most one bind request of a process whose recorded requests are all
acknowledged. -/
theorem registers_once :
    (∀ (config : DataSeller.BindingConfig) (replies : List (BindReply JavaScript.Number)),
      (∀ x ∈ acceptedOf (DataSeller.runBinding config replies).heard,
          DataSeller.Acknowledges x.2) →
        (acceptedOf (DataSeller.runBinding config replies).heard).length ≤ 1) ∧
    ∀ (config : SellerAgent.RuntimeBindConfig) (replies : List (BindReply Python.PyNumber)),
      (∀ x ∈ acceptedOf (SellerAgent.runBinding config replies).heard,
          SellerAgent.Acknowledges x.2) →
        (acceptedOf (SellerAgent.runBinding config replies).heard).length ≤ 1 :=
  ⟨fun config replies h => (DataSeller.filed_runBinding config replies h).1,
    fun config replies h => (SellerAgent.filed_runBinding config replies h).1⟩

end Sellers

/-! ## A lost answer -/

section Lost

/-- The seller of the demo, in Python. -/
def demoRuntimeBind : SellerAgent.RuntimeBindConfig where
  agentDid := ⟨"did:kite:corp-kite:example-seller-agent", by decide⟩
  identityBaseUrl := "https://identity.example"
  privateKey := DataSeller.demoBinding.privateKey
  runtimeEnv := "example"
  describe _ := "ReadTimeout: "

/-- Identity answers with one text member. -/
def textReply {ν : Type} (accepted : Bool) (k s : String) : BindReply ν :=
  ⟨accepted, .response 200 (some (.obj [("data", .obj [(k, .str s)])]))⟩

/-- The key does not resolve, and a bind request is filed and answered. -/
def filedReplies {ν : Type} (answer : BindReply ν) : List (BindReply ν) :=
  [⟨false, .response 404 none⟩, textReply false "id" "agent-1", textReply false "nonce" "nonce-1",
    answer]

/-- The answer to a recorded request is lost, and the key does not resolve on the next pass. -/
def lostReplies {ν : Type} : List (BindReply ν) :=
  filedReplies ⟨true, .lost⟩ ++ [⟨false, .lost⟩, ⟨false, .response 404 none⟩,
    textReply false "nonce" "nonce-2", textReply true "id" "runtime-2"]

attribute [local instance] Python.FloatText.bits Python.ContainerText.bare

theorem demo_registers_once :
    (acceptedOf (DataSeller.runBinding DataSeller.demoBinding
      (filedReplies (textReply true "id" "runtime-1"))).heard).length ≤ 1 ∧
    (acceptedOf (SellerAgent.runBinding demoRuntimeBind
      (filedReplies (textReply true "id" "runtime-1"))).heard).length ≤ 1 := by
  constructor
  · refine registers_once.1 _ _ fun x hx => ?_
    cases List.mem_singleton.1 hx
    exact ⟨200, _, rfl, rfl, rfl⟩
  · refine registers_once.2 _ _ fun x hx => ?_
    cases List.mem_singleton.1 hx
    exact ⟨200, _, rfl, rfl, rfl⟩

/-- After a lost answer both sellers have two bind requests recorded. -/
theorem lost_registered_twice :
    (acceptedOf (DataSeller.runBinding DataSeller.demoBinding lostReplies).heard).length = 2 ∧
    (acceptedOf (SellerAgent.runBinding demoRuntimeBind lostReplies).heard).length = 2 :=
  ⟨rfl, rfl⟩

end Lost

end Conformance

end Coordination
