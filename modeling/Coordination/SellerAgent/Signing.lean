import Coordination.Library.Ecdsa
import Coordination.Python.Value

/-!
# Signing in the Python agents

`signing.py`, which the seller and the buyer have the same copy of: addresses and key ids,
the signature over a preimage and its recovery, and the three families of signed objects
that the agents produce.
-/

namespace Coordination

namespace SellerAgent

open Python Library

section Recovery

variable [Digests] [RecoverableEcdsa]

/-- The last `n` characters of a text. -/
def lastChars (n : ℕ) (s : String) : String :=
  String.ofList (s.toList.drop (s.toList.length - n))

/-- `evm_address` of an uncompressed public key. -/
def evmAddress (uncompressed : Bytes) : String :=
  "0x" ++ lastChars 40 (toHex (Digests.keccak256 (uncompressed.drop 1)))

/-- `recover_signer`. -/
def recoverSigner (signature : String) (preimage : Bytes) : Except Failure String := do
  if !("0x".toList.isPrefixOf signature.toList) then
    valueError "sig must be a 0x-prefixed 65-byte r‖s‖v hex string"
  else
    let body ← bytesFromhex (String.ofList (signature.toList.drop 2))
    let v := (body.getD 64 0).toNat
    if body.length ≠ 65 then valueError s!"sig must be 65 bytes, got {body.length}"
    else if v ≠ 27 ∧ v ≠ 28 then
      valueError s!"recovery id must be 27 or 28 on the wire, got {v}"
    else
      match RecoverableEcdsa.recoverKey (body.take 64) (v - 27) (Digests.keccak256 preimage) with
      | none => .error (.builtin .Exception)
      | some recovered => return evmAddress recovered

end Recovery

/-! ## Profile -/

/-- The package for canonical JSON. -/
class Rfc8785 where
  dumps : PyValue → Except Failure Bytes

def termsDomainTag : Bytes :=
  utf8 "kite:a2a-agreement:terms:v1"

def commandDomainTag : Bytes :=
  utf8 "kite:a2a-agreement:command:v1"

def fundingDomainTag : Bytes :=
  utf8 "kite:a2a-agreement:funding:v1"

def receiptDomainTag : Bytes :=
  utf8 "kite:a2a-agreement:receipt:v1"

def signatureProfile : String :=
  "secp256k1-keccak-v1"

/-- `RECEIPT_SIGNED_FIELDS`. -/
def receiptSignedFields : List String :=
  ["schema", "receiptId", "dealId", "commandId", "commandHash", "fromState", "toState",
    "revision", "recordedAt"]

/-- `{f: v[f] for f in fields if v.get(f) is not None}`. -/
def presentMembers (fields : List String) (v : PyValue) : Except Failure PyValue := do
  let ms ← items v
  return .obj (fields.filterMap fun f =>
    match ms.lookup f with
    | none | some .null => none
    | some w => some (f, w))

section Signatures

variable [Digests] [RecoverableEcdsa]

/-- `evm_address` of a private key. -/
def evmAddressOf (priv : Bytes) : String :=
  evmAddress (RecoverableEcdsa.publicKey priv)

/-- `thumbprint`. -/
def thumbprint (priv : Bytes) : String :=
  let digest := toHex (Digests.sha256 (utf8 "secp256k1:" ++ RecoverableEcdsa.compressedKey priv))
  "jkt:" ++ String.ofList (digest.toList.take 16)

/-- `key_id`. -/
def keyId (agentDid : String) (priv : Bytes) : String :=
  agentDid ++ "#" ++ thumbprint priv

omit [Digests] in
/-- `r ‖ s ‖ v` over a hash, with the recovery id of the wire. -/
def wireSignature (priv hash : Bytes) : String :=
  let raw := RecoverableEcdsa.signHash hash priv
  "0x" ++ toHex (raw.1 ++ [UInt8.ofNat (raw.2 + 27)])

/-- `sign_digest`. -/
def signDigest (priv preimage : Bytes) : String :=
  wireSignature priv (Digests.keccak256 preimage)

/-- `verify_signature`: a `ValueError` is a rejection, another exception is not caught. -/
def verifySignature [CaseTables] (signature : PyValue) (preimage : Bytes)
    (expectedAddress : PyValue) : Except Failure Bool :=
  let verdict : Except Failure Bool := do
    let signer ← recoverSigner (← asText signature) preimage
    return CaseTables.lower signer = CaseTables.lower (← asText expectedAddress)
  match verdict with
  | .error (.raised .ValueError _) | .error (.builtin .ValueError) => .ok false
  | verdict => verdict

variable [Rfc8785]

/-! ## Terms -/

omit [RecoverableEcdsa] in
/-- `terms_hash`. -/
def termsHash (contract : PyValue) : Except Failure String := do
  return Digests.sha256Ref (← Rfc8785.dumps (← without ["signatures", "termsHash"] contract))

omit [Digests] [RecoverableEcdsa] [Rfc8785] in
/-- `terms_preimage`. -/
def termsPreimage (termsHashRef : String) : Bytes :=
  termsDomainTag ++ utf8 termsHashRef

omit [Rfc8785] in
/-- `sign_terms`; an `agreement_sig` of `None` is left out. -/
def signTerms (termsHashRef : String) (priv : Bytes) (signerAgentId : String)
    (agreementSig : Option String) : PyValue :=
  .obj ([("signerAgentId", .str signerAgentId), ("profile", .str signatureProfile),
    ("keyId", .str (keyId signerAgentId priv)),
    ("sig", .str (signDigest priv (termsPreimage termsHashRef)))] ++
    (agreementSig.map fun sig => ("agreementSig", .str sig)).toList)

omit [Rfc8785] in
/-- `verify_terms_signature`. -/
def verifyTermsSignature [CaseTables] (termsHashRef : String) (entry signerAddress : PyValue) :
    Except Failure Bool := do
  if !isText (← get entry "profile") signatureProfile then return false
  else verifySignature (← item entry "sig") (termsPreimage termsHashRef) signerAddress

/-! ## Commands and envelopes -/

/-- The `signature` object over the rest of a document. -/
def signDocument (tag : Bytes) (document : List (String × PyValue)) (priv : Bytes)
    (actorAgentId : String) : Except Failure PyValue := do
  let unsigned := dropMembers ["signature"] document
  let canonical ← Rfc8785.dumps (.obj unsigned)
  return .obj (setMember "signature" (.obj [("profile", .str signatureProfile),
    ("keyId", .str (keyId actorAgentId priv)),
    ("sig", .str (signDigest priv (tag ++ canonical)))]) unsigned)

/-- `sign_command`. -/
def signCommand (command : List (String × PyValue)) (priv : Bytes) (actorAgentId : String) :
    Except Failure PyValue :=
  signDocument commandDomainTag command priv actorAgentId

/-- `sign_party_envelope`. -/
def signPartyEnvelope (envelope : List (String × PyValue)) (priv : Bytes) (actorAgentId : String) :
    Except Failure PyValue :=
  signDocument fundingDomainTag envelope priv actorAgentId

/-- `verify_command_signature`. -/
def verifyCommandSignature [CaseTables] (signed signerAddress : PyValue) : Except Failure Bool := do
  if !isText (← get (← getD signed "signature" (.obj [])) "profile") signatureProfile then
    return false
  else
    let sig ← item (← item signed "signature") "sig"
    let preimage := commandDomainTag ++ (← Rfc8785.dumps (← without ["signature"] signed))
    verifySignature sig preimage signerAddress

/-! ## Receipts -/

omit [Digests] [RecoverableEcdsa] in
/-- `receipt_preimage`. -/
def receiptPreimage (receipt : PyValue) : Except Failure Bytes := do
  return receiptDomainTag ++
    (← Rfc8785.dumps (← presentMembers receiptSignedFields receipt))

end Signatures

/-! ## A signature recovers to its signer -/

section Inversion

variable [Digests] [RecoverableEcdsa]

omit [RecoverableEcdsa] in
/-- The address of a key, cut from the digest or from its text. -/
theorem evmAddress_eq (pub : Bytes) : evmAddress pub = RecoverableEcdsa.addressOf pub := by
  unfold evmAddress lastChars RecoverableEcdsa.addressOf RecoverableEcdsa.lastBytes
  generalize Digests.keccak256 (pub.drop 1) = digest
  have hcut : (toHex digest).toList.length - 40 = 2 * (digest.length - 20) := by
    rw [length_toHex]
    omega
  rw [hcut, toHex, String.toList_ofList, drop_flatMap_hexByte]
  rfl

omit [Digests] in
/-- The bytes of a signature on the wire, and what its parts are. -/
theorem exists_wireSignature {priv : Bytes} (hkey : RecoverableEcdsa.Inverts priv) (hash : Bytes) :
    ∃ body : Bytes, wireSignature priv hash = "0x" ++ toHex body ∧ body.length = 65 ∧
      ((body.getD 64 0).toNat = 27 ∨ (body.getD 64 0).toNat = 28) ∧
      RecoverableEcdsa.recoverKey (body.take 64) ((body.getD 64 0).toNat - 27) hash =
        some (RecoverableEcdsa.publicKey priv) := by
  have hlength := hkey.length hash
  have hrecovery := hkey.recoveryId hash
  have hrecover := hkey.recover hash
  unfold wireSignature
  generalize RecoverableEcdsa.signHash hash priv = raw at hlength hrecovery hrecover ⊢
  obtain ⟨compact, recovery⟩ := raw
  simp only at hlength hrecovery hrecover ⊢
  have hlast : (compact ++ [UInt8.ofNat (recovery + 27)]).getD 64 0 =
      UInt8.ofNat (recovery + 27) := by
    simp [List.getD_eq_getElem?_getD, ← hlength]
  have htake : (compact ++ [UInt8.ofNat (recovery + 27)]).take 64 = compact := by
    simp [← hlength]
  have hbyte : (UInt8.ofNat (recovery + 27)).toNat = recovery + 27 := by
    rw [UInt8.toNat_ofNat']
    omega
  refine ⟨_, rfl, by simp [hlength], ?_, ?_⟩
  · rw [hlast, hbyte]
    omega
  · rw [hlast, hbyte, htake, Nat.add_sub_cancel, hrecover]

omit [Digests] [RecoverableEcdsa] in
theorem marked_hex (bs : Bytes) :
    "0x".toList.isPrefixOf ("0x" ++ toHex bs).toList = true ∧
      String.ofList (("0x" ++ toHex bs).toList.drop 2) = toHex bs := by
  constructor
  · simp [String.toList_append, List.isPrefixOf]
  · rw [String.toList_append]
    exact String.ofList_toList

/-- What an agent signs, `recover_signer` recovers to its address. -/
theorem recoverSigner_signDigest {priv : Bytes} (hkey : RecoverableEcdsa.Inverts priv)
    (preimage : Bytes) :
    recoverSigner (signDigest priv preimage) preimage = .ok (evmAddressOf priv) := by
  obtain ⟨body, hwire, hlength, hv, hrecover⟩ :=
    exists_wireSignature hkey (Digests.keccak256 preimage)
  unfold recoverSigner signDigest
  rw [hwire, (marked_hex body).1, (marked_hex body).2]
  simp only [Bool.not_true, Bool.false_eq_true, if_false, bytesFromhex, fromhex_toHex, ok_bind,
    hlength, ne_eq, not_true_eq_false, hrecover]
  rw [if_neg (by omega)]
  rfl

theorem verifySignature_signDigest [CaseTables] {priv : Bytes}
    (hkey : RecoverableEcdsa.Inverts priv) (preimage : Bytes) :
    verifySignature (.str (signDigest priv preimage)) preimage (.str (evmAddressOf priv)) =
      .ok true := by
  simp only [verifySignature, asText, ok_bind, recoverSigner_signDigest hkey]
  simp [pure, Except.pure]

/-- A terms entry verifies under the address of the key it was made with. -/
theorem verifyTermsSignature_signTerms [CaseTables] {priv : Bytes}
    (hkey : RecoverableEcdsa.Inverts priv) (termsHashRef signerAgentId : String)
    (agreementSig : Option String) :
    verifyTermsSignature termsHashRef (signTerms termsHashRef priv signerAgentId agreementSig)
      (.str (evmAddressOf priv)) = .ok true := by
  unfold verifyTermsSignature
  have hprofile : get (signTerms termsHashRef priv signerAgentId agreementSig) "profile" =
      .ok (.str signatureProfile) := rfl
  have hsig : item (signTerms termsHashRef priv signerAgentId agreementSig) "sig" =
      .ok (.str (signDigest priv (termsPreimage termsHashRef))) := rfl
  rw [hprofile, hsig]
  simp only [ok_bind, isText, decide_true, Bool.not_true, Bool.false_eq_true, if_false]
  exact verifySignature_signDigest hkey _

end Inversion

end SellerAgent

end Coordination
