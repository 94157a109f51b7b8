import Coordination.Library.Json

/-!
# Kite Identity

What a seller asks the directory for while it binds its key to its DID, and what may come back:
a response of any kind, or none at all, whether or not the directory has acted on the request.
The status of the binding is what the signing gate, the logs and the home page read.
-/

namespace Coordination

namespace Identity

open Library

/-- A decentralised identifier. -/
structure Did where
  text : String
  scheme : "did:".toList <+: text.toList

theorem Did.ne_empty (did : Did) : did.text ≠ "" := by
  intro h
  have hscheme := did.scheme
  rw [h] at hscheme
  revert hscheme
  decide

/-- What a binding loop waits for: the requests to Identity and the retry interval. Both
lookups are the same request on the wire. -/
inductive BindWait where
  | lookupKey (pubKey : String)
  | lookupAgent (did : String)
  | issueBindNonce
  | registerDirect (agentStorageId : String) (body : List (String × String))
  | sleep

/-- Whether the request files a bind request. -/
def BindWait.registers : BindWait → Bool
  | registerDirect .. => true
  | _ => false

/-- Whether the request is a probe of the key. -/
def BindWait.probes : BindWait → Bool
  | lookupKey _ => true
  | _ => false

/-- What arrives: nothing, or a response, whose body may be no JSON document. -/
inductive Answer (ν : Type) where
  | lost
  | response (status : ℕ) (body : Option (Json ν))

/-- What becomes of a request: whether Identity has recorded it, and what arrives. -/
structure BindReply (ν : Type) where
  accepted : Bool
  answer : Answer ν

/-- The status of a success. -/
def isSuccess (status : ℕ) : Bool :=
  200 ≤ status ∧ status ≤ 299

/-- What has been asked so far, with what became of it, oldest first. -/
abbrev BindExchanges (ν : Type) := List (BindWait × BindReply ν)

/-- The answers to the key probes. -/
def probesOf {ν : Type} (heard : BindExchanges ν) : List (Answer ν) :=
  (heard.filter fun x => x.1.probes).map fun x => x.2.answer

/-- The bind requests that Identity has recorded. -/
def acceptedOf {ν : Type} (heard : BindExchanges ν) : BindExchanges ν :=
  heard.filter fun x => x.1.registers && x.2.accepted

theorem probesOf_append {ν : Type} (heard heard' : BindExchanges ν) :
    probesOf (heard ++ heard') = probesOf heard ++ probesOf heard' := by
  simp [probesOf]

theorem acceptedOf_append {ν : Type} (heard heard' : BindExchanges ν) :
    acceptedOf (heard ++ heard') = acceptedOf heard ++ acceptedOf heard' := by
  simp [acceptedOf]

/-! ## The status -/

inductive BindState where
  | disabled
  | noKey
  | pending
  | active
  | error
  deriving DecidableEq

def BindState.name : BindState → String
  | disabled => "disabled"
  | noKey => "no-key"
  | pending => "pending"
  | active => "active"
  | error => "error"

structure BindStatus where
  state : BindState
  detail : String
  runtimeId : String
  pubKey : String
  agentStorageId : String

def BindStatus.init : BindStatus :=
  ⟨.disabled, "runtime binding not configured", "", "", ""⟩

/-- `DIRECT_BIND_DOMAIN`. -/
def directBindDomain : String :=
  "kite:identity:runtime-bind:direct:v1"

/-- The key to bind: its reference, and what it signs a message to. -/
structure BindKey where
  pubKey : String
  sign : String → String

/-- The proof of a bind request. -/
def BindKey.proof (key : BindKey) (nonce agentStorageId : String) : String :=
  key.sign (String.intercalate "\n" [directBindDomain, nonce, agentStorageId, key.pubKey])

end Identity

end Coordination
