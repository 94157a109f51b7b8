import Coordination.DataSeller.Extension
import Coordination.Identity
import Coordination.Library.Cycle

/-!
# The runtime binding of the data seller

`RuntimeBinding`: the loop that asks Identity whether the key resolves to this agent, files one
bind request and goes on asking; `block` is the gate that live signing reads.
-/

namespace Coordination

namespace DataSeller

open JavaScript Library Identity

/-- What the class and its loop keep. -/
structure Binding where
  status : BindStatus
  registered : Bool
  everActive : Bool

def Binding.init : Binding :=
  ⟨.init, false, false⟩

/-- The constructor's arguments and the environment. -/
structure BindingConfig where
  agentDid : Did
  identityBaseUrl : String
  privateKey : Option BindKey
  /-- `bindRegisterMode() === "auto"`. -/
  registers : Bool
  runtimeEnv : String
  /-- What the host writes for an exception: its name and its message. -/
  describe : Failure → String

abbrev BindTask := Async Failure Binding BindWait (BindReply Number) Empty

/-- `touch`. -/
def touch (state : BindState) (detail : String) : BindTask Unit :=
  .atomic (Prog.modify fun b => { b with status := { b.status with state, detail } })

/-- `block`. -/
def Binding.block (b : Binding) : Option String :=
  if b.status.state = .active then none
  else
    some (s!"runtime binding is {b.status.state.name} ({b.status.detail}) — a signature from an " ++
      "unbound key is refused by Passport whoever relays it")

/-- `fetch`; an answer that is lost rejects. -/
def fetch (request : BindWait) : BindTask (ℕ × Option Value) :=
  .await request fun reply =>
    match reply.answer with
    | .lost => .fail .typeError
    | .response status body => .ret (status, body)

/-- `dataOf`: unwrap the envelope of a body. -/
def dataOf : Option Value → Except Failure Value
  | none => .error .syntaxError
  | some body => do
    return (orElse (← prop (some body) "data") (some (.obj []))).getD .null

/-- `String(v[k] ?? absent)`. -/
def memberText (v : Option Value) (k absent : String) : Except Failure String := do
  toText (orElse (← prop v k) (some (.str absent)))

/-- `resolveAgentStorageId`. -/
def resolveAgentStorageId (config : BindingConfig) : BindTask String := do
  let (status, body) ← fetch (.lookupAgent config.agentDid.text)
  if !isSuccess status then Async.ofExcept (error s!"agent lookup answered HTTP {status}")
  else
    let storageId ← Async.ofExcept (do memberText (some (← dataOf body)) "id" "")
    if storageId = "" then
      Async.ofExcept (error s!"lookup of {config.agentDid.text} returned no agent id")
    else return storageId

/-- What a probe of the key has said: an entry, that there is none, or nothing usable. -/
def entryOf (status : ℕ) (body : Option Value) : Except Failure (Option Value) :=
  if status = 404 then .ok none
  else if !isSuccess status then error s!"key lookup answered HTTP {status}"
  else do return some (← dataOf body)

/-- `lookupLiveBinding`. -/
def lookupLiveBinding (pubKey : String) : BindTask (Option Value) := do
  let (status, body) ← fetch (.lookupKey pubKey)
  Async.ofExcept (entryOf status body)

/-- The members of a bind request. -/
def bindRequest (config : BindingConfig) (key : BindKey) (nonce agentStorageId : String) :
    List (String × String) :=
  [("nonce", nonce), ("pub_key", key.pubKey), ("proof", key.proof nonce agentStorageId),
    ("software", "kite-example-data-seller-agent"), ("env", config.runtimeEnv)]

/-- `registerDirect`. -/
def registerDirect (config : BindingConfig) (key : BindKey) (agentStorageId : String) :
    BindTask Value := do
  let (status, body) ← fetch .issueBindNonce
  if !isSuccess status then Async.ofExcept (error s!"issueBindNonce answered HTTP {status}")
  else
    let nonce ← Async.ofExcept (do memberText (some (← dataOf body)) "nonce" "")
    if nonce = "" then Async.ofExcept (error "issueBindNonce returned no nonce")
    else
      let (status, body) ←
        fetch (.registerDirect agentStorageId (bindRequest config key nonce agentStorageId))
      if !isSuccess status then Async.ofExcept (error s!"registerDirect answered HTTP {status}")
      else Async.ofExcept (dataOf body)

/-- `id || "(id withheld)"`. -/
def shownId (runtimeId : String) : String :=
  if runtimeId = "" then "(id withheld)" else runtimeId

/-- The runtime of a directory entry. -/
def matchedRuntime (entry : Value) : Except Failure (Option Value) := do
  return orElse (← prop (some entry) "matched_runtime") (some (.obj []))

/-- The key resolves to an entry. -/
def onEntry (config : BindingConfig) (entry : Value) : BindTask Unit := do
  let resolvedDid ← Async.ofExcept (memberText (some entry) "did" "")
  if resolvedDid ≠ config.agentDid.text then
    touch .error (
      if resolvedDid = "" then
        "key lookup answered 200 with no DID — refusing to treat a malformed entry as an approval"
      else
        s!"runtime key is bound to {resolvedDid}, not {config.agentDid.text} — refusing to " ++
          "report the binding as ours")
  else
    let matched ← Async.ofExcept (matchedRuntime entry)
    let runtimeId ← Async.ofExcept (memberText matched "id" "")
    .atomic (Prog.modify fun b =>
      { b with status := { b.status with runtimeId }, everActive := true })
    .read fun b =>
      if b.status.state ≠ .active then do
        let method ← Async.ofExcept (memberText matched "bind_method" "direct")
        touch .active (s!"runtime {shownId runtimeId} is active ({method} bind) — owner " ++
          "approval confirmed")
      else .ret ()

/-- The agent id in the directory, asked for once. -/
def agentStorageIdOf (config : BindingConfig) : BindTask String :=
  .read fun b =>
    if b.status.agentStorageId = "" then do
      let agentStorageId ← resolveAgentStorageId config
      .atomic (Prog.modify fun b => { b with status := { b.status with agentStorageId } })
      return agentStorageId
    else .ret b.status.agentStorageId

/-- The bind request is filed. -/
def fileRequest (config : BindingConfig) (key : BindKey) : BindTask Unit := do
  let agentStorageId ← agentStorageIdOf config
  let view ← registerDirect config key agentStorageId
  .atomic (Prog.modify fun b => { b with registered := true })
  let runtimeId ← Async.ofExcept (memberText (some view) "id" "")
  .atomic (Prog.modify fun b => { b with status := { b.status with runtimeId } })
  touch .pending (s!"runtime {shownId runtimeId} filed a tokenless bind request; awaiting owner " ++
    s!"approval (POST /v1/agents/{agentStorageId}/runtimes/{runtimeId}:approve)")

/-- `s.split(";")[0]`. -/
def beforeSemicolon (s : String) : String :=
  String.ofList (s.toList.takeWhile (· ≠ ';'))

/-- The key does not resolve. -/
def onUnresolved (config : BindingConfig) (key : BindKey) : BindTask Unit :=
  .read fun b =>
    if b.everActive then
      if b.status.state ≠ .error then
        touch .error ("binding no longer resolves — revoked or superseded; signing is closed " ++
          "until an owner re-approves")
      else .ret ()
    else if !b.registered && config.registers then fileRequest config key
    else if b.registered then
      touch .pending (beforeSemicolon b.status.detail ++ "; awaiting owner approval")
    else
      touch .pending ("registration disabled (SELLER_RUNTIME_BIND_REGISTER=off); polling for an " ++
        "existing binding")

/-- One pass of the loop of `maintain`. -/
def attempt (config : BindingConfig) (key : BindKey) : BindTask Unit := do
  match ← lookupLiveBinding key.pubKey with
  | some entry => onEntry config entry
  | none => onUnresolved config key

/-- `maintain`: a pass, what it throws, and the retry interval. -/
def maintain (config : BindingConfig) (key : BindKey) : BindTask Bool := do
  (attempt config key).onError fun e => touch .error (config.describe e)
  .await .sleep fun _ => .ret true

/-! ## What a pass keeps -/

section Steady

variable {config : BindingConfig} {I : BindWait → Binding → BindExchanges Number → Prop}
  {U : Binding → BindExchanges Number → Prop}

theorem steady_fetch {r : BindWait} (hwait : ∀ b heard, U b heard → I r b heard)
    (hheard : ∀ v b heard, U b heard → U b (heard ++ [(r, v)])) :
    Async.Steady I U (fetch r) := by
  refine Async.steady_await hwait hheard fun v => ?_
  cases v.answer with
  | lost => exact Async.steady_fail _
  | response status body => exact Async.steady_ret _

theorem steady_resolveAgentStorageId
    (hfetch : Async.Steady I U (fetch (.lookupAgent config.agentDid.text))) :
    Async.Steady I U (resolveAgentStorageId config) := by
  refine Async.steady_bind hfetch fun ⟨status, body⟩ => ?_
  dsimp only
  split
  · exact Async.steady_ofExcept _
  · refine Async.steady_bind (Async.steady_ofExcept _) fun storageId => ?_
    split
    · exact Async.steady_ofExcept _
    · exact Async.steady_ret _

theorem steady_agentStorageIdOf
    (hfetch : Async.Steady I U (fetch (.lookupAgent config.agentDid.text)))
    (hid : ∀ agentStorageId b heard, U b heard →
      U { b with status := { b.status with agentStorageId } } heard) :
    Async.Steady I U (agentStorageIdOf config) := by
  refine Async.steady_read fun b => ?_
  split
  · refine Async.steady_bind (steady_resolveAgentStorageId hfetch) fun agentStorageId => ?_
    exact Async.steady_bind (Async.steady_modify (hid agentStorageId)) fun _ => Async.steady_ret _
  · exact Async.steady_ret _

end Steady

/-- The status with which the loop starts, or the reason why it does not. -/
def startedWith (state : BindState) (detail pubKey : String) : Binding :=
  { Binding.init with status := { BindStatus.init with state, detail, pubKey } }

/-- `start`, and the answers to the loop it starts. -/
def runBinding (config : BindingConfig) (replies : List (BindReply Number)) :
    Cycle Failure Binding BindWait (BindReply Number) Empty :=
  if config.identityBaseUrl = "" then
    ⟨.ended (.ok false), startedWith .disabled
      "KITE_IDENTITY_BASE_URL unset — running with an ephemeral demo key" "", []⟩
  else
    match config.privateKey with
    | none => ⟨.ended (.ok false), startedWith .noKey
        "KITE_IDENTITY_BASE_URL is set but no durable runtime key was readable" "", []⟩
    | some key => Cycle.run (maintain config key)
        (startedWith .pending "resolving agent and filing bind request" key.pubKey) replies

end DataSeller

end Coordination
