import Coordination.Identity
import Coordination.Library.Cycle
import Coordination.Python.Value

/-!
# The runtime binding of the seller

`runtime_bind.py`: the loop that asks Identity whether the key resolves, files one bind request
and ends with the first answer it takes for an approval. What it leaves in `STATUS` is what the
executor's gate reads.
-/

namespace Coordination

namespace SellerAgent

open Python Library Identity

/-- `STATUS`, and what the loop remembers. -/
structure RuntimeBind where
  status : BindStatus
  registered : Bool

def RuntimeBind.init : RuntimeBind :=
  ⟨.init, false⟩

/-- The environment of the module. -/
structure RuntimeBindConfig where
  agentDid : Did
  identityBaseUrl : String
  privateKey : Option BindKey
  runtimeEnv : String
  /-- What the interpreter writes for an exception: its type and its text. -/
  describe : Failure → String

abbrev RuntimeBindTask := Async Failure RuntimeBind BindWait (BindReply PyNumber) Empty

/-- `STATUS.touch`. -/
def touch (state : BindState) (detail : String) : RuntimeBindTask Unit :=
  .atomic (Prog.modify fun b => { b with status := { b.status with state, detail } })

/-- An exception of the HTTP client. -/
def httpError {α : Type} : Except Failure α :=
  .error (.builtin .Exception)

/-- `await http.get(…)` or `await http.post(…)`. -/
def exchange (request : BindWait) : RuntimeBindTask (ℕ × Option PyValue) :=
  .await request fun reply =>
    match reply.answer with
    | .lost => Async.ofExcept httpError
    | .response status body => .ret (status, body)

/-- `raise_for_status`. -/
def raiseForStatus (status : ℕ) : Except Failure Unit :=
  if isSuccess status then .ok () else httpError

/-- `_data`: unwrap the envelope of a body. -/
def dataOf : Option PyValue → Except Failure PyValue
  | none => .error (.builtin .ValueError)
  | some body => get (orElse body (.obj [])) "data"

/-- `_data(resp) or {}`. -/
def entryData (body : Option PyValue) : Except Failure PyValue := do
  return orElse (← dataOf body) (.obj [])

section Loop

variable [FloatText] [ContainerText]

/-- `str(v.get(k) or absent)`. -/
def memberText (v : PyValue) (k absent : String) : Except Failure String := do
  return strOf (orElse (← get v k) (.str absent))

/-- `resolve_agent_storage_id`. -/
def resolveAgentStorageId (config : RuntimeBindConfig) : RuntimeBindTask String := do
  let (status, body) ← exchange (.lookupAgent config.agentDid.text)
  Async.ofExcept (raiseForStatus status)
  let storageId ← Async.ofExcept (do memberText (← entryData body) "id" "")
  if storageId = "" then
    Async.ofExcept (runtimeError s!"lookup of {config.agentDid.text} returned no agent id")
  else return storageId

omit [FloatText] [ContainerText] in
/-- What a probe of the key has said: an entry, that there is none, or nothing usable. -/
def entryOf (status : ℕ) (body : Option PyValue) : Except Failure (Option PyValue) :=
  if status = 404 then .ok none
  else do
    raiseForStatus status
    return some (← entryData body)

/-- `lookup_live_binding`. -/
def lookupLiveBinding (pubKey : String) : RuntimeBindTask (Option PyValue) := do
  let (status, body) ← exchange (.lookupKey pubKey)
  Async.ofExcept (entryOf status body)

/-- The members of a bind request. -/
def bindRequest (config : RuntimeBindConfig) (key : BindKey) (nonce agentStorageId : String) :
    List (String × String) :=
  [("nonce", nonce), ("pub_key", key.pubKey), ("proof", key.proof nonce agentStorageId),
    ("software", "kite-example-seller-agent"), ("env", config.runtimeEnv)]

/-- `register_direct`. -/
def registerDirect (config : RuntimeBindConfig) (key : BindKey) (agentStorageId : String) :
    RuntimeBindTask PyValue := do
  let (status, body) ← exchange .issueBindNonce
  Async.ofExcept (raiseForStatus status)
  let nonce ← Async.ofExcept (do memberText (← entryData body) "nonce" "")
  if nonce = "" then Async.ofExcept (runtimeError "issueBindNonce returned no nonce")
  else
    let (status, body) ←
      exchange (.registerDirect agentStorageId (bindRequest config key nonce agentStorageId))
    Async.ofExcept (raiseForStatus status)
    Async.ofExcept (entryData body)

/-- `runtime_id or '(id withheld)'`. -/
def shownId (runtimeId : String) : String :=
  if runtimeId = "" then "(id withheld)" else runtimeId

omit [FloatText] [ContainerText] in
/-- The runtime of a directory entry. -/
def matchedRuntime (entry : PyValue) : Except Failure PyValue := do
  return orElse (← get entry "matched_runtime") (.obj [])

/-- The key resolves to an entry; whether the loop goes on. -/
def onEntry (config : RuntimeBindConfig) (entry : PyValue) : RuntimeBindTask Bool := do
  let resolvedDid ← Async.ofExcept (memberText entry "did" "")
  if resolvedDid ≠ "" ∧ resolvedDid ≠ config.agentDid.text then do
    touch .error (s!"runtime key is bound to {resolvedDid}, not {config.agentDid.text} — " ++
      "refusing to report the binding as ours")
    return true
  else
    let matched ← Async.ofExcept (matchedRuntime entry)
    let runtimeId ← Async.ofExcept (memberText matched "id" "")
    .atomic (Prog.modify fun b => { b with status := { b.status with runtimeId } })
    let method ← Async.ofExcept (memberText matched "bind_method" "direct")
    touch .active s!"runtime {shownId runtimeId} is active ({method} bind)"
    return false

/-- The agent id in the directory, asked for once. -/
def agentStorageIdOf (config : RuntimeBindConfig) : RuntimeBindTask String :=
  .read fun b =>
    if b.status.agentStorageId = "" then do
      let agentStorageId ← resolveAgentStorageId config
      .atomic (Prog.modify fun b => { b with status := { b.status with agentStorageId } })
      return agentStorageId
    else .ret b.status.agentStorageId

/-- The bind request is filed. -/
def fileRequest (config : RuntimeBindConfig) (key : BindKey) : RuntimeBindTask Unit := do
  let agentStorageId ← agentStorageIdOf config
  let view ← registerDirect config key agentStorageId
  .atomic (Prog.modify fun b => { b with registered := true })
  let runtimeId ← Async.ofExcept (memberText view "id" "")
  .atomic (Prog.modify fun b => { b with status := { b.status with runtimeId } })
  touch .pending (s!"runtime {shownId runtimeId} filed a tokenless bind request; awaiting " ++
    "owner approval")

/-- `s.split(";")[0]`. -/
def beforeSemicolon (s : String) : String :=
  String.ofList (s.toList.takeWhile (· ≠ ';'))

/-- The key does not resolve. -/
def onUnresolved (config : RuntimeBindConfig) (key : BindKey) : RuntimeBindTask Bool := do
  .read fun b =>
    if !b.registered then fileRequest config key
    else touch .pending (beforeSemicolon b.status.detail ++ "; awaiting owner approval")
  return true

/-- One pass of the loop of `maintain`; whether the loop goes on. -/
def attempt (config : RuntimeBindConfig) (key : BindKey) : RuntimeBindTask Bool := do
  match ← lookupLiveBinding key.pubKey with
  | some entry => onEntry config entry
  | none => onUnresolved config key

/-- `maintain`: a pass, what it raises, and the retry interval unless it was the last. -/
def maintain (config : RuntimeBindConfig) (key : BindKey) : RuntimeBindTask Bool := do
  let again ← (attempt config key).onError fun e => do
    touch .error (config.describe e)
    return true
  if again then .await .sleep fun _ => .ret true else return false

/-! ## What a pass keeps -/

section Steady

variable {config : RuntimeBindConfig} {I : BindWait → RuntimeBind → BindExchanges PyNumber → Prop}
  {U : RuntimeBind → BindExchanges PyNumber → Prop}

omit [FloatText] [ContainerText] in
theorem steady_exchange {r : BindWait} (hwait : ∀ b heard, U b heard → I r b heard)
    (hheard : ∀ v b heard, U b heard → U b (heard ++ [(r, v)])) :
    Async.Steady I U (exchange r) := by
  refine Async.steady_await hwait hheard fun v => ?_
  cases v.answer with
  | lost => exact Async.steady_ofExcept _
  | response status body => exact Async.steady_ret _

theorem steady_resolveAgentStorageId
    (hexchange : Async.Steady I U (exchange (.lookupAgent config.agentDid.text))) :
    Async.Steady I U (resolveAgentStorageId config) := by
  refine Async.steady_bind hexchange fun ⟨status, body⟩ => ?_
  refine Async.steady_bind (Async.steady_ofExcept _) fun _ => ?_
  refine Async.steady_bind (Async.steady_ofExcept _) fun storageId => ?_
  split
  · exact Async.steady_ofExcept _
  · exact Async.steady_ret _

theorem steady_agentStorageIdOf
    (hexchange : Async.Steady I U (exchange (.lookupAgent config.agentDid.text)))
    (hid : ∀ agentStorageId b heard, U b heard →
      U { b with status := { b.status with agentStorageId } } heard) :
    Async.Steady I U (agentStorageIdOf config) := by
  refine Async.steady_read fun b => ?_
  split
  · refine Async.steady_bind (steady_resolveAgentStorageId hexchange) fun agentStorageId => ?_
    exact Async.steady_bind (Async.steady_modify (hid agentStorageId)) fun _ => Async.steady_ret _
  · exact Async.steady_ret _

end Steady

/-- The status with which the loop starts, or the reason why it does not. -/
def startedWith (state : BindState) (detail pubKey : String) : RuntimeBind :=
  { RuntimeBind.init with status := { BindStatus.init with state, detail, pubKey } }

/-- `start`, and the answers to the loop it starts. -/
def runBinding (config : RuntimeBindConfig) (replies : List (BindReply PyNumber)) :
    Cycle Failure RuntimeBind BindWait (BindReply PyNumber) Empty :=
  if config.identityBaseUrl = "" then
    ⟨.ended (.ok false), startedWith .disabled
      "KITE_IDENTITY_BASE_URL unset — running with an ephemeral demo key" "", []⟩
  else
    match config.privateKey with
    | none => ⟨.ended (.ok false), startedWith .noKey
        ("KITE_IDENTITY_BASE_URL is set but no SELLER_RUNTIME_PRIVATE_KEY[_FILE] was " ++
          "readable") "", []⟩
    | some key => Cycle.run (maintain config key)
        (startedWith .pending "resolving agent and filing bind request" key.pubKey) replies

end Loop

end SellerAgent

end Coordination
