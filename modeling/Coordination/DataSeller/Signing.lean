import Coordination.JavaScript.Value
import Coordination.Library.Ecdsa

/-!
# Signing preimages and signatures

The signature scheme of the coordination layer: recoverable signatures over
keccak-256, spelled `0x ‖ r ‖ s ‖ v`, and the byte strings each signed family
covers. Canonical JSON comes from a package and is a parameter.
-/

namespace Coordination

namespace DataSeller

open JavaScript Library

/-- The canonical JSON package: `none` where a value has no canonical form; it
rejects a value with a message. -/
class Canonicalize where
  canonicalize : Value → Except String (Option String)

/-- Whether every number of a value is finite. -/
def allFinite : Value → Bool
  | .num x => x.isFinite
  | .arr xs => items xs
  | .obj ms => members ms
  | _ => true
where
  items : List Value → Bool
    | [] => true
    | x :: xs => allFinite x && items xs
  members : List (String × Value) → Bool
    | [] => true
    | (_, v) :: ms => allFinite v && members ms

@[simp] theorem allFinite_null : allFinite .null = true := rfl

@[simp] theorem allFinite_bool (b : Bool) : allFinite (.bool b) = true := rfl

@[simp] theorem allFinite_num (x : Number) : allFinite (.num x) = x.isFinite := rfl

@[simp] theorem allFinite_str (s : String) : allFinite (.str s) = true := rfl

@[simp] theorem allFinite_arr (xs : List Value) : allFinite (.arr xs) = xs.all allFinite := by
  show allFinite.items xs = _
  induction xs with
  | nil => rfl
  | cons x xs ih => rw [allFinite.items, ih, List.all_cons]

@[simp] theorem allFinite_obj (ms : List (String × Value)) :
    allFinite (.obj ms) = ms.all fun m => allFinite m.2 := by
  show allFinite.members ms = _
  induction ms with
  | nil => rfl
  | cons m ms ih => rw [allFinite.members, ih, List.all_cons]

/-- A value with the members of its objects in the order of their names. -/
def sortedMembers : Value → Value
  | .arr xs => .arr (items xs)
  | .obj ms => .obj ((members ms).insertionSort fun a b => codeUnitLe a.1 b.1)
  | v => v
where
  items : List Value → List Value
    | [] => []
    | x :: xs => sortedMembers x :: items xs
  members : List (String × Value) → List (String × Value)
    | [] => []
    | (k, v) :: ms => (k, sortedMembers v) :: members ms

/-- The canonical form of plain values: sorted members and finite numbers. -/
@[reducible] def Canonicalize.plain : Canonicalize where
  canonicalize v :=
    if allFinite v then .ok (some (stringify (sortedMembers v)))
    else .error "NaN and Infinity are not allowed"

/-- `DOMAIN_TAGS`. -/
inductive DomainTag where
  | terms
  | command
  | funding
  | receipt
  deriving DecidableEq

def DomainTag.text : DomainTag → String
  | .terms => "kite:a2a-agreement:terms:v1"
  | .command => "kite:a2a-agreement:command:v1"
  | .funding => "kite:a2a-agreement:funding:v1"
  | .receipt => "kite:a2a-agreement:receipt:v1"

/-- `PROOF_TAG`. -/
def proofTag : String :=
  "kite:fulfill:transition-proof:v1"

/-- `SIGNATURE_PROFILE`. -/
def signatureProfile : String :=
  "secp256k1-keccak-v1"

/-- A text without a prefix it may have. -/
def stripStart (start s : String) : String :=
  if start.toList.isPrefixOf s.toList then String.ofList (s.toList.drop start.toList.length) else s

/-- `fromHex`. -/
def fromHex (s : String) : Except Failure Bytes :=
  match ofHex (stripStart "0x" s).toList with
  | some bs => .ok bs
  | none => error s!"not hex: {s}"

section Primitives

variable [Digests] [Canonicalize] [RecoverableEcdsa]

/-- `jcs`. -/
def jcs (value : Value) : Except Failure Bytes :=
  match Canonicalize.canonicalize value with
  | .error message => error message
  | .ok none => error "value has no JCS form"
  | .ok (some s) => .ok (utf8 s)

omit [Digests] [RecoverableEcdsa] in
theorem jcs_error {value : Value} {e : Failure} (h : jcs value = .error e) :
    ∃ message, e = .raised .Error message := by
  unfold jcs at h
  split at h
  · cases h
    exact ⟨_, rfl⟩
  · cases h
    exact ⟨_, rfl⟩
  · cases h

/-- The bytes `Canonicalize.plain` gives a value with finite numbers. -/
def plainBytes (value : Value) : Bytes :=
  utf8 (stringify (sortedMembers value))

/-- `addressOfPrivateKey`. -/
def addressOfPrivateKey (privateKey : Bytes) : String :=
  RecoverableEcdsa.addressOf (RecoverableEcdsa.publicKey privateKey)

/-- `thumbprintOfPrivateKey`. -/
def thumbprintOfPrivateKey (privateKey : Bytes) : String :=
  let digest := toHex (Digests.sha256
    (utf8 "secp256k1:" ++ RecoverableEcdsa.compressedKey privateKey))
  "jkt:" ++ String.ofList (digest.toList.take 16)

/-- `keyIdOf`. -/
def keyIdOf (did : String) (privateKey : Bytes) : String :=
  did ++ "#" ++ thumbprintOfPrivateKey privateKey

/-- `sign`. -/
def sign (privateKey preimage : Bytes) : String :=
  let (compact, recovery) :=
    RecoverableEcdsa.signHash (Digests.keccak256 preimage) privateKey
  "0x" ++ toHex compact ++ String.ofList (Nat.toDigits 16 (recovery + 27))

/-- `recover`: the signer's address, or `none` for anything malformed. -/
def recover (signature : String) (preimage : Bytes) : Option String :=
  if !("0x".toList.isPrefixOf signature.toList) || (utf16 signature).length != 132 then none
  else
    match fromHex signature with
    | .error _ => none
    | .ok raw =>
      let v := (raw.getD 64 0).toNat
      if v ≠ 27 ∧ v ≠ 28 then none
      else
        (RecoverableEcdsa.recoverKey (raw.take 64) (v - 27) (Digests.keccak256 preimage)).map
          RecoverableEcdsa.addressOf

/-- `verify`. -/
def verify [HostLocale] (signature : String) (preimage : Bytes) (address : String) : Bool :=
  recover signature preimage = some (HostLocale.toLowerCase address)

/-- The members `{ ...v }` copies: an array has its indices, a text its characters. -/
def ownMembers : Value → List (String × Value)
  | .obj ms => ms
  | .arr xs => xs.zipIdx.map fun (x, i) => (toString i, x)
  | .str s => s.toList.zipIdx.map fun (c, i) => (toString i, .str (String.singleton c))
  | _ => []

/-- `const { k, ...rest } = v`: the members without some of them. -/
def without (ks : List String) : Value → Except Failure Value
  | .null => .error .typeError
  | v => .ok (.obj (dropMembers ks (ownMembers v)))

/-- `termsHashOf`: the digest of the contract without its signatures and without
a declared `termsHash`. -/
def termsHashOf (contract : Value) : Except Failure String := do
  return Digests.sha256Ref (← jcs (← without ["signatures", "termsHash"] contract))

/-- `termsSigningBytes`. -/
def termsSigningBytes (termsHash : String) : Bytes :=
  utf8 DomainTag.terms.text ++ utf8 termsHash

/-- `commandSigningBytes`. -/
def commandSigningBytes (command : Value) : Except Failure Bytes := do
  return utf8 DomainTag.command.text ++ (← jcs (← without ["signature"] command))

/-- `payloadHashOf`. -/
def payloadHashOf (payload : Value) : Except Failure String := do
  return Digests.sha256Ref (← jcs payload)

/-- `envelopeSigningBytes`. -/
def envelopeSigningBytes (envelope : Value) : Except Failure Bytes := do
  return utf8 DomainTag.funding.text ++ (← jcs (← without ["signature"] envelope))

/-- `RECEIPT_SIGNED_FIELDS`. -/
def receiptSignedFields : List String :=
  ["schema", "receiptId", "dealId", "commandId", "commandHash", "fromState", "toState",
    "revision", "recordedAt"]

/-- The signed members of a receipt; absent ones are left out. -/
def receiptSigned (receipt : Value) : Except Failure Value := do
  let ms ← receiptSignedFields.mapM fun k => do
    return (← prop (some receipt) k).map fun v => (k, v)
  return .obj ms.reduceOption

/-- `receiptSignedPreimage`. -/
def receiptSignedPreimage (receipt : Value) : Except Failure Bytes := do
  jcs (← receiptSigned receipt)

/-- `receiptSigningBytes`. -/
def receiptSigningBytes (receipt : Value) : Except Failure Bytes := do
  return utf8 DomainTag.receipt.text ++ (← receiptSignedPreimage receipt)

/-- `proofSigningBytes`. -/
def proofSigningBytes (proofHash : String) : Bytes :=
  utf8 proofTag ++ utf8 proofHash

end Primitives

/-! ## A signature recovers to its signer -/

theorem fromHex_toHex (bs : Bytes) : fromHex ("0x" ++ toHex bs) = .ok bs := by
  have hstrip : stripStart "0x" ("0x" ++ toHex bs) = toHex bs := by
    simp [stripStart]
  simp [fromHex, hstrip, ofHex_toHex]

theorem length_hexText (bs : Bytes) : (utf16 ("0x" ++ toHex bs)).length = 2 + 2 * bs.length := by
  rw [length_utf16, String.toList_append, List.length_append, length_toHex]
  · rfl
  · intro c hc
    rcases List.mem_append.1 (String.toList_append ▸ hc) with hc | hc
    · have hmarked : ("0x".toList.all fun c => c.toNat < 65536) = true := by decide
      exact of_decide_eq_true (List.all_eq_true.1 hmarked c hc)
    · exact lt_of_lt_of_le (toHex_ascii hc) (by decide)

section Plain

attribute [local instance] Canonicalize.plain

theorem jcs_plain {value : Value} (hvalue : allFinite value = true) :
    jcs value = .ok (plainBytes value) := by
  simp [jcs, Canonicalize.canonicalize, hvalue, plainBytes]

end Plain

section Recovery

variable [Digests] [RecoverableEcdsa]

/-- A signature spells the 65 bytes `r ‖ s ‖ v`. -/
theorem sign_eq {privateKey : Bytes} (hkey : RecoverableEcdsa.Inverts privateKey)
    (preimage : Bytes) :
    sign privateKey preimage = "0x" ++
      toHex ((RecoverableEcdsa.signHash (Digests.keccak256 preimage) privateKey).1 ++
        [UInt8.ofNat
          ((RecoverableEcdsa.signHash (Digests.keccak256 preimage) privateKey).2 + 27)]) := by
  have hrecovery := hkey.recoveryId (Digests.keccak256 preimage)
  unfold sign
  generalize RecoverableEcdsa.signHash (Digests.keccak256 preimage) privateKey = signed
    at hrecovery ⊢
  obtain ⟨compact, recovery⟩ := signed
  have hlast : ∀ v < 2, String.ofList (Nat.toDigits 16 (v + 27)) =
      toHex [UInt8.ofNat (v + 27)] := by decide
  simp only
  rw [toHex_append, hlast recovery hrecovery, String.append_assoc]

/-- A signature recovers to the address of the key it was made with. -/
theorem recover_sign {privateKey : Bytes} (hkey : RecoverableEcdsa.Inverts privateKey)
    (preimage : Bytes) :
    recover (sign privateKey preimage) preimage = some (addressOfPrivateKey privateKey) := by
  have hlength := hkey.length (Digests.keccak256 preimage)
  have hrecovery := hkey.recoveryId (Digests.keccak256 preimage)
  have hrecover := hkey.recover (Digests.keccak256 preimage)
  rw [sign_eq hkey]
  generalize RecoverableEcdsa.signHash (Digests.keccak256 preimage) privateKey = signed
    at hlength hrecovery hrecover ⊢
  obtain ⟨compact, recovery⟩ := signed
  simp only at hlength hrecovery hrecover ⊢
  have hmarked (bs : Bytes) : "0x".toList.isPrefixOf ("0x" ++ toHex bs).toList = true := by
    simp [String.toList_append, List.isPrefixOf]
  have hbyte : (UInt8.ofNat (recovery + 27)).toNat = recovery + 27 := by
    rw [UInt8.toNat_ofNat']
    omega
  unfold recover
  rw [hmarked, length_hexText, fromHex_toHex]
  have hv : (compact ++ [UInt8.ofNat (recovery + 27)]).getD 64 0 =
      UInt8.ofNat (recovery + 27) := by
    simp [List.getD_eq_getElem?_getD, ← hlength]
  have htake : (compact ++ [UInt8.ofNat (recovery + 27)]).take 64 = compact := by
    simp [← hlength]
  have hid : ¬ (recovery + 27 ≠ 27 ∧ recovery + 27 ≠ 28) := by omega
  have hshape : ¬ ((!true || (2 + 2 * (compact ++ [UInt8.ofNat (recovery + 27)]).length != 132))
      = true) := by
    simp [hlength]
  rw [if_neg hshape]
  simp only
  rw [hv, htake, hbyte, if_neg hid, Nat.add_sub_cancel, hrecover]
  rfl

end Recovery

end DataSeller

end Coordination
