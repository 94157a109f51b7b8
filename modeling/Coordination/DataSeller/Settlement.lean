import Coordination.DataSeller.Signing
import Coordination.DataSeller.Engine.Query

/-!
# Settlement signatures

The typed-data constructions of the settlement profile: one ABI word per field,
the derivations the profile fixes for some of them, the domain separator and the
preimage a settlement signature covers.
-/

namespace Coordination

namespace DataSeller

open JavaScript Library Engine

/-- A typed-data domain; the accept gate has no verifying contract. -/
structure Eip712Domain where
  name : String
  version : String
  chainId : Number
  verifyingContract : Option String

structure FieldSpec where
  type : String
  name : String
  deriving DecidableEq

/-- The struct types of the profile; the seller signs `Agreement`, `Activation`,
`Delivery`, `Appeal` and `RefundConsent`. -/
inductive SettlementStruct where
  | Agreement
  | Activation
  | Delivery
  | Acceptance
  | Rejection
  | Appeal
  | RefundConsent
  | Resolution
  deriving DecidableEq

namespace SettlementStruct

def name : SettlementStruct → String
  | Agreement => "Agreement"
  | Activation => "Activation"
  | Delivery => "Delivery"
  | Acceptance => "Acceptance"
  | Rejection => "Rejection"
  | Appeal => "Appeal"
  | RefundConsent => "RefundConsent"
  | Resolution => "Resolution"

/-- The fields of a struct, in the order of its type string. -/
def fields : SettlementStruct → List FieldSpec
  | Agreement => [⟨"bytes32", "agreementId"⟩, ⟨"bytes32", "termsHash"⟩, ⟨"uint256", "amount"⟩,
      ⟨"address", "buyerAgent"⟩, ⟨"address", "sellerAgent"⟩]
  | Activation => [⟨"bytes32", "termsHash"⟩, ⟨"address", "buyer"⟩, ⟨"address", "buyerAgent"⟩,
      ⟨"address", "sellerAgent"⟩, ⟨"address", "sellerPayout"⟩, ⟨"address", "arbiter"⟩,
      ⟨"uint256", "amount"⟩, ⟨"uint64", "fundingDeadline"⟩, ⟨"uint64", "deliveryWindow"⟩,
      ⟨"uint64", "deliveryConfirmationWindow"⟩, ⟨"uint64", "appealResponseWindow"⟩,
      ⟨"uint64", "arbitrationWindow"⟩]
  | Delivery => [⟨"bytes32", "dealId"⟩, ⟨"bytes32", "termsHash"⟩, ⟨"bytes32", "deliveryHash"⟩,
      ⟨"bytes32", "receiptHash"⟩, ⟨"uint64", "nonce"⟩, ⟨"uint64", "expiry"⟩]
  | Acceptance | Appeal | RefundConsent => [⟨"bytes32", "dealId"⟩, ⟨"bytes32", "termsHash"⟩,
      ⟨"bytes32", "receiptHash"⟩, ⟨"uint64", "nonce"⟩, ⟨"uint64", "expiry"⟩]
  | Rejection => [⟨"bytes32", "dealId"⟩, ⟨"bytes32", "termsHash"⟩, ⟨"bytes32", "reasonHash"⟩,
      ⟨"bytes32", "receiptHash"⟩, ⟨"uint64", "nonce"⟩, ⟨"uint64", "expiry"⟩]
  | Resolution => [⟨"bytes32", "dealId"⟩, ⟨"bytes32", "termsHash"⟩, ⟨"bytes32", "decisionId"⟩,
      ⟨"uint16", "sellerBps"⟩, ⟨"bytes32", "receiptHash"⟩, ⟨"uint64", "nonce"⟩,
      ⟨"uint64", "expiry"⟩]

/-- `TYPE_STRINGS`. -/
def typeString (t : SettlementStruct) : String :=
  t.name ++ "(" ++ String.intercalate "," (t.fields.map fun f => f.type ++ " " ++ f.name) ++ ")"

example : typeString RefundConsent = "RefundConsent(bytes32 dealId,bytes32 termsHash," ++
    "bytes32 receiptHash,uint64 nonce,uint64 expiry)" := by decide

end SettlementStruct

/-- The members of a struct, as the wire spells them. -/
abbrev Struct := List (String × Value)

/-! ## ABI words -/

/-- `BigInt(s)` of a text. -/
def bigIntOfText (s : String) : Except Failure ℤ :=
  let natural (ds : List Char) : Except Failure ℤ :=
    if ds ≠ [] ∧ ds.all Char.isDigit then .ok (natOfDigits 10 ds) else .error .syntaxError
  let radix (base : ℕ) (ds : List Char) : Except Failure ℤ :=
    if ds ≠ [] ∧ ds.all (fun c => digitValue c < base) then .ok (natOfDigits base ds)
    else .error .syntaxError
  match (trim s).toList with
  | [] => .ok 0
  | '0' :: 'x' :: ds | '0' :: 'X' :: ds => radix 16 ds
  | '0' :: 'o' :: ds | '0' :: 'O' :: ds => radix 8 ds
  | '0' :: 'b' :: ds | '0' :: 'B' :: ds => radix 2 ds
  | '-' :: ds => (natural ds).map Neg.neg
  | '+' :: ds => natural ds
  | ds => natural ds

/-- `wordUint` of an integer already converted. -/
def wordOfInt (n : ℤ) : Except Failure Bytes :=
  if n < 0 then error s!"negative uint: {n}"
  else if 2 ^ 256 ≤ n then error s!"uint overflows 32 bytes: {n}"
  else .ok (bytesBE 32 n.toNat)

/-- `BigInt(value)`. -/
def bigIntOf : Value → Except Failure ℤ
  | .null => .error .typeError
  | .bool b => .ok (if b then 1 else 0)
  | .num x => bigInt x
  | v => do bigIntOfText (← textOf v)

/-- `wordUint`. -/
def wordUint (value : Value) : Except Failure Bytes := do
  wordOfInt (← bigIntOf value)

/-- `wordBytes32`: either spelling of a 32-byte value. -/
def wordBytes32 (value : String) : Except Failure Bytes := do
  let stripped := stripStart "sha256:" value
  let raw ← fromHex (if stripped = value then stripStart "0x" value else stripped)
  if raw.length ≠ 32 then error s!"not 32 bytes: {value}"
  return raw

/-- `wordAddress`. -/
def wordAddress (value : String) : Except Failure Bytes := do
  let raw ← fromHex value
  if raw.length ≠ 20 then error s!"not an address: {value}"
  return List.replicate 12 0 ++ raw

/-- `usdcBaseUnits`: the decimal amount in millionths. -/
def usdcBaseUnits (decimalAmount : String) : Except Failure ℤ :=
  let (whole, rest) := decimalAmount.toList.span Char.isDigit
  let refusal : Except Failure ℤ := error s!"not a USDC decimal amount: {decimalAmount}"
  match whole, rest with
  | [], _ => refusal
  | _ :: _, [] => .ok (natOfDigits 10 whole * 1000000)
  | _ :: _, '.' :: frac =>
    if 1 ≤ frac.length ∧ frac.length ≤ 6 ∧ frac.all Char.isDigit then
      .ok (natOfDigits 10 whole * 1000000 +
        natOfDigits 10 (frac ++ List.replicate (6 - frac.length) '0'))
    else refusal
  | _ :: _, _ => refusal

section Primitives

variable [Digests]

def keccakText (s : String) : Bytes :=
  Digests.keccak256 (utf8 s)

/-- `domainSeparator`. -/
def domainSeparator (domain : Eip712Domain) : Except Failure Bytes := do
  let typeString :=
    if domain.verifyingContract.isSome then
      "EIP712Domain(string name,string version,uint256 chainId,address verifyingContract)"
    else "EIP712Domain(string name,string version,uint256 chainId)"
  let chainWord ← wordUint (.num domain.chainId)
  let contractWord ← match domain.verifyingContract with
    | some address => wordAddress address
    | none => .ok []
  return Digests.keccak256 (keccakText typeString ++ keccakText domain.name ++
    keccakText domain.version ++ chainWord ++ contractWord)

/-- `fieldWord`: one ABI word, with the derivations the profile fixes. -/
def fieldWord (t : SettlementStruct) (struct : Struct) (field : FieldSpec) :
    Except Failure Bytes := do
  if field.name = "agreementId" then
    return keccakText (← toText (struct.lookup "agreementId"))
  else if field.name = "reasonHash" then
    return keccakText (← toText (struct.lookup "reasonCode"))
  else if field.name = "decisionId" then
    return keccakText (← toText (struct.lookup "decisionId"))
  else if field.name = "amount" then
    if t = .Activation then
      let amount := orElse (struct.lookup "amountBaseUnits") (struct.lookup "amount")
      wordUint (.str (← toText amount))
    else
      match struct.lookup "amountBaseUnits" with
      | some units => wordUint (.str (← textOf units))
      | none => do wordOfInt (← usdcBaseUnits (← toText (struct.lookup "amount")))
  else
    match struct.lookup field.name with
    | none => error s!"struct is missing \"{field.name}\""
    | some value =>
      if field.type = "address" then wordAddress (← textOf value)
      else if field.type = "bytes32" then wordBytes32 (← textOf value)
      else wordUint value

/-- `structHash`. -/
def structHash (t : SettlementStruct) (struct : Struct) : Except Failure Bytes := do
  let words ← t.fields.mapM (fieldWord t struct)
  return Digests.keccak256 (keccakText t.typeString ++ words.flatten)

/-- `signingPreimage`. -/
def signingPreimage (domain : Eip712Domain) (t : SettlementStruct) (struct : Struct) :
    Except Failure Bytes := do
  let separator ← domainSeparator domain
  let hash ← structHash t struct
  return [0x19, 0x01] ++ separator ++ hash

variable [Canonicalize] [RecoverableEcdsa]

/-- `signStruct`. -/
def signStruct (privateKey : Bytes) (domain : Eip712Domain) (t : SettlementStruct)
    (struct : Struct) : Except Failure String := do
  return sign privateKey (← signingPreimage domain t struct)

/-- `recoverStruct`. -/
def recoverStruct (signature : String) (domain : Eip712Domain) (t : SettlementStruct)
    (struct : Struct) : Except Failure (Option String) := do
  return recover signature (← signingPreimage domain t struct)

end Primitives

/-- `bytes32Equal`: one value in either of its spellings. -/
def bytes32Equal [HostLocale] (a b : String) : Bool :=
  let strip (s : String) : String :=
    let stripped := stripStart "sha256:" s
    HostLocale.toLowerCase (if stripped = s then stripStart "0x" s else stripped)
  (utf16 (strip a)).length = 64 ∧ strip a = strip b

/-! ## The spellings the program writes itself -/

theorem stripStart_append (start s : String) : stripStart start (start ++ s) = s := by
  simp [stripStart]

theorem stripStart_toHex (bs : Bytes) : stripStart "0x" (toHex bs) = toHex bs := by
  have hx : 'x' ∉ (toHex bs).toList := by
    intro hmem
    obtain ⟨n, hn, h⟩ := exists_hexDigit hmem
    interval_cases n <;> exact absurd h (by decide)
  refine if_neg fun hprefix => hx ?_
  exact (List.isPrefixOf_iff_prefix.1 hprefix).subset (by decide)

theorem wordBytes32_ref {bs : Bytes} (hbs : bs.length = 32) :
    wordBytes32 ("sha256:" ++ toHex bs) = .ok bs := by
  have hne : toHex bs ≠ "sha256:" ++ toHex bs := by
    intro h
    have hlength := congrArg (fun s => s.toList.length) h
    simp only [String.toList_append, List.length_append] at hlength
    have htag : "sha256:".toList.length = 7 := by decide
    omega
  have hhex : fromHex (toHex bs) = .ok bs := by
    rw [fromHex, stripStart_toHex, ofHex_toHex]
  unfold wordBytes32
  simp only [stripStart_append, if_neg hne, hhex, ok_bind, hbs, ne_eq, not_true_eq_false, if_false]
  rfl

theorem wordAddress_toHex {bs : Bytes} (hbs : bs.length = 20) :
    wordAddress ("0x" ++ toHex bs) = .ok (List.replicate 12 0 ++ bs) := by
  unfold wordAddress
  simp only [fromHex_toHex, ok_bind, hbs, ne_eq, not_true_eq_false, if_false]
  rfl

end DataSeller

end Coordination
