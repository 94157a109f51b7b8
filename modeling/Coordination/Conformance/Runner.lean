import Coordination.Library.Ecdsa
import Coordination.SellerAgent.Settlement

/-!
# The conformance runner

The primitives of `conformance/run.py`: recovery of a signer and the ABI words.
-/

namespace Coordination

namespace Conformance

open Python Library

section Recovery

variable [Digests] [RecoverableEcdsa]

/-- `recover`. -/
def recover (signature : String) (preimage : Bytes) : Except Failure String := do
  if !("0x".toList.isPrefixOf signature.toList) then valueError "sig must be 0x-prefixed"
  else
    let body ← bytesFromhex (String.ofList (signature.toList.drop 2))
    let v := (body.getD 64 0).toNat
    if body.length ≠ 65 then valueError s!"sig must be 65 bytes, got {body.length}"
    else if v ≠ 27 ∧ v ≠ 28 then valueError s!"wire recovery id must be 27 or 28, got {v}"
    else
      match RecoverableEcdsa.recoverKey (body.take 64) (v - 27) (Digests.keccak256 preimage) with
      | none => .error (.builtin .Exception)
      | some pub =>
        let digest := toHex (Digests.keccak256 (pub.drop 1))
        return "0x" ++ String.ofList (digest.toList.drop (digest.toList.length - 40))

/-- `verifies`: any failure to decode is a rejection. -/
def verifies [CaseTables] (signature : String) (preimage : Bytes) (address : String) : Bool :=
  match recover signature preimage with
  | .ok signer => CaseTables.lower signer = CaseTables.lower address
  | .error _ => false

end Recovery

/-! ## ABI words -/

/-- `_w_int`. -/
def wInt [Interpreter] (n : SellerAgent.Operand) : Except Failure Bytes := do
  SellerAgent.toBytes32 (← n.toInt)

/-- `_w_b32`. -/
def wB32 (s : String) : Except Failure Bytes :=
  let h := removeStart "0x" (removeStart "sha256:" s)
  if h.toList.length ≠ 64 then valueError s!"not 32 bytes: {s}"
  else bytesFromhex h

/-- `_w_addr`. -/
def wAddr (a : String) : Except Failure Bytes := do
  return List.replicate 12 0 ++ (← bytesFromhex (removeStart "0x" a))

end Conformance

end Coordination
