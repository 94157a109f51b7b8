import Coordination.SellerAgent.Signing

/-!
# The settlement profile of the Python agents

`settlement.py`, of which the seller and the buyer have the same copy: the ABI words, the
amounts, the two domains, the digests of the structs the agents sign, and the signatures
over them.
-/

namespace Coordination

namespace SellerAgent

open Python Library

/-! ## ABI words -/

/-- What a program hands to `int`: an integer or a text. -/
inductive Operand where
  | int (n : ℤ)
  | text (s : String)

/-- `n.to_bytes(32, "big")`. -/
def toBytes32 (n : ℤ) : Except Failure Bytes :=
  if 0 ≤ n ∧ n < 2 ^ 256 then .ok (bytesBE 32 n.toNat) else .error (.builtin .OverflowError)

section Numbers

variable [Interpreter]

/-- `int(n)`. -/
def Operand.toInt : Operand → Except Failure ℤ
  | int n => .ok n
  | text s => intOfText s

/-- `word_int`. -/
def wordInt (n : Operand) : Except Failure Bytes := do
  toBytes32 (← n.toInt)

end Numbers

/-- `word_bytes32`: either spelling of a 32-byte value. -/
def wordBytes32 (ref : String) : Except Failure Bytes :=
  let h := removeStart "0x" (removeStart "sha256:" ref)
  if h.toList.length ≠ 64 then valueError s!"not a 32-byte value: {ref}"
  else bytesFromhex h

/-- `word_addr`. -/
def wordAddr (addr : String) : Except Failure Bytes := do
  return List.replicate 12 0 ++ (← bytesFromhex (removeStart "0x" addr))

/-- `bytes32_equal`: one value in either of its spellings. -/
def bytes32Equal (a b : String) : Bool :=
  match wordBytes32 a, wordBytes32 b with
  | .ok x, .ok y => x = y
  | _, _ => false

/-! ## Amounts -/

/-- `usdc_base_units`: the decimal amount in millionths. The messages leave the amount out. -/
def usdcBaseUnits [Interpreter] (amount : String) : Except Failure ℤ :=
  match decimalOfText amount with
  | none | some (.nan true) => valueError "not a decimal amount"
  | some (.infinite _) => .error (.builtin .OverflowError)
  | some (.nan false) => .error (.builtin .ValueError)
  | some (.finite d) =>
    match defaultContext.mul d ⟨false, 10 ^ 6, 0⟩ with
    | none => .error (.builtin .DecimalOverflow)
    | some units =>
      if units.toRat ≠ units.trunc ∨ units.toRat ≤ 0 then
        valueError "not a positive USDC amount at 6 decimals"
      else .ok units.trunc

/-! ## Recovery -/

section Recovery

variable [Digests] [RecoverableEcdsa]

/-- The address of a public key, from the end of the digest. -/
def addressOfDigest (digest : Bytes) : String :=
  "0x" ++ toHex (RecoverableEcdsa.lastBytes 20 digest)

/-- `recover_digest32`. -/
def recoverDigest32 (digest : Bytes) (sigHex : String) : Except Failure String := do
  let body ← bytesFromhex (removeStart "0x" sigHex)
  let v := (body.getD 64 0).toNat
  if body.length ≠ 65 ∨ (v ≠ 27 ∧ v ≠ 28) then
    valueError "settlement signature must be 65 bytes with v in \x7b27,28\x7d"
  else
    match RecoverableEcdsa.recoverKey (body.take 64) (v - 27) digest with
    | none => .error (.builtin .Exception)
    | some pub => return addressOfDigest (Digests.keccak256 (pub.drop 1))

/-- `sign_digest32`. -/
def signDigest32 (priv digest : Bytes) : String :=
  wireSignature priv digest

/-- `verifies`: any failure to decode is a rejection. -/
def verifies [CaseTables] (digest : Bytes) (sigHex address : PyValue) : Bool :=
  let verdict : Except Failure Bool := do
    let signer ← recoverDigest32 digest (← asText sigHex)
    return CaseTables.lower signer = CaseTables.lower (← asText address)
  verdict.toOption.getD false

end Recovery

/-! ## Amounts of any type -/

/-- What `Decimal` makes of floats and lists. -/
class DecimalSource where
  ofFloat : Float → DecimalValue
  ofItems : List PyValue → Except Failure DecimalValue

/-- Floats and lists that are read as no number. -/
@[reducible] def DecimalSource.unread : DecimalSource where
  ofFloat _ := .nan true
  ofItems _ := .ok (.nan true)

/-- The millionths of a decimal, where it has a positive whole number of them. -/
def wholeUnits : DecimalValue → Except Failure ℤ
  | .infinite _ => .error (.builtin .OverflowError)
  | .nan true => valueError "not a decimal amount"
  | .nan false => .error (.builtin .ValueError)
  | .finite d =>
    match defaultContext.mul d ⟨false, 10 ^ 6, 0⟩ with
    | none => .error (.builtin .DecimalOverflow)
    | some units =>
      if units.toRat ≠ units.trunc ∨ units.toRat ≤ 0 then
        valueError "not a positive USDC amount at 6 decimals"
      else .ok units.trunc

/-- `usdc_base_units` of a value read from JSON. -/
def usdcBaseUnitsOf [Interpreter] [DecimalSource] : PyValue → Except Failure ℤ
  | .str s => usdcBaseUnits s
  | .bool b => wholeUnits (.finite ⟨false, if b then 1 else 0, 0⟩)
  | .num (.int n) => wholeUnits (.finite ⟨n < 0, n.natAbs, 0⟩)
  | .num (.float x) => wholeUnits (DecimalSource.ofFloat x)
  | .arr values => do wholeUnits (← DecimalSource.ofItems values)
  | _ => .error (.builtin .TypeError)

/-- `base_units`: the amount of an Activation, a whole number already. -/
def baseUnits [Interpreter] [DigitTables] (amount : String) : Except Failure ℤ := do
  let amount := strip amount
  if !DigitTables.isDigits amount then valueError "not a base-units integer string"
  else
    let units ← intOfText amount
    if units ≤ 0 then valueError "not a positive base-units amount"
    else return units

/-! ## Digests -/

section Digests

variable [Digests]

def keccakText (s : String) : Bytes :=
  Digests.keccak256 (utf8 s)

/-- `agreement_id32`. -/
def agreementId32 (dealId : String) : Bytes :=
  keccakText dealId

/-- `demo_deal_id32`. -/
def demoDealId32 (dealId : String) : String :=
  "0x" ++ toHex (keccakText dealId)

def zeroAnchor : String :=
  "0x" ++ toHex (List.replicate 32 0)

/-- `vault_domain`. -/
def vaultDomain (chainId : ℤ) (vault : String) : Except Failure Bytes := do
  let chain ← toBytes32 chainId
  return Digests.keccak256
    (keccakText "EIP712Domain(string name,string version,uint256 chainId,address verifyingContract)" ++
      keccakText "KiteEscrowVault" ++ keccakText "1" ++ chain ++ (← wordAddr vault))

/-- `agreement_domain`. -/
def agreementDomain (chainId : ℤ) : Except Failure Bytes := do
  return Digests.keccak256
    (keccakText "EIP712Domain(string name,string version,uint256 chainId)" ++
      keccakText "KiteFulfill" ++ keccakText "1" ++ (← toBytes32 chainId))

/-- `struct_hash`. -/
def structHash (typeString : String) (words : List Bytes) : Bytes :=
  Digests.keccak256 (keccakText typeString ++ words.flatten)

/-- `typed_digest`. -/
def typedDigest (domain shash : Bytes) : Bytes :=
  Digests.keccak256 ([0x19, 0x01] ++ domain ++ shash)

def agreementType : String :=
  "Agreement(bytes32 agreementId,bytes32 termsHash,uint256 amount," ++
    "address buyerAgent,address sellerAgent)"

def activationType : String :=
  "Activation(bytes32 termsHash,address buyer,address buyerAgent," ++
    "address sellerAgent,address sellerPayout,address arbiter,uint256 amount," ++
    "uint64 fundingDeadline,uint64 deliveryWindow,uint64 deliveryConfirmationWindow," ++
    "uint64 appealResponseWindow,uint64 arbitrationWindow)"

def deliveryType : String :=
  "Delivery(bytes32 dealId,bytes32 termsHash,bytes32 deliveryHash," ++
    "bytes32 receiptHash,uint64 nonce,uint64 expiry)"

/-- `agreement_digest`. -/
def agreementDigest [Interpreter] [DecimalSource] (dealId termsHashRef : String) (amount : PyValue)
    (buyerAddress sellerAddress : String) (chainId : ℤ) : Except Failure Bytes := do
  let domain ← agreementDomain chainId
  let terms ← wordBytes32 termsHashRef
  let units ← toBytes32 (← usdcBaseUnitsOf amount)
  let buyer ← wordAddr buyerAddress
  let seller ← wordAddr sellerAddress
  return typedDigest domain
    (structHash agreementType [agreementId32 dealId, terms, units, buyer, seller])

/-- `activation_digest` over values read from JSON. -/
def activationDigest [Interpreter] [DigitTables]
    (termsHashRef buyerWallet buyerAgent sellerAgent sellerPayout arbiter : PyValue)
    (amount : String) (windows : List ℤ) (chainId : ℤ) (vault : String) : Except Failure Bytes := do
  let domain ← vaultDomain chainId vault
  let terms ← wordBytes32 (← asText termsHashRef)
  let addresses ← [buyerWallet, buyerAgent, sellerAgent, sellerPayout, arbiter].mapM fun v => do
    wordAddr (← asText v)
  let units ← toBytes32 (← baseUnits amount)
  let bounds ← windows.mapM toBytes32
  return typedDigest domain
    (structHash activationType (terms :: addresses ++ units :: bounds))

/-- `delivery_digest`. -/
def deliveryDigest (dealId32 termsHashRef deliveryHashRef receiptHash : String)
    (nonce expiry chainId : ℤ) (vault : String) : Except Failure Bytes := do
  let domain ← vaultDomain chainId vault
  let words ← [dealId32, termsHashRef, deliveryHashRef, receiptHash].mapM wordBytes32
  let nonceWord ← toBytes32 nonce
  let expiryWord ← toBytes32 expiry
  return typedDigest domain (structHash deliveryType (words ++ [nonceWord, expiryWord]))

end Digests

/-! ## What honest parties compute -/

theorem wordBytes32_toHex {mark : String} (hmark : mark = "sha256:" ∨ mark = "0x") {bs : Bytes}
    (hbs : bs.length = 32) : wordBytes32 (mark ++ toHex bs) = .ok bs := by
  have hbare : removeStart "0x" (removeStart "sha256:" (mark ++ toHex bs)) = toHex bs := by
    rcases hmark with rfl | rfl
    · rw [removeStart_append, removeStart_toHex ⟨'x', by decide, by decide⟩]
    · have hother : removeStart "sha256:" ("0x" ++ toHex bs) = "0x" ++ toHex bs := by
        simp [removeStart, List.isPrefixOf]
      rw [hother, removeStart_append]
  unfold wordBytes32
  simp only [hbare, length_toHex, hbs, bytesFromhex, fromhex_toHex]
  rfl

theorem wordAddr_toHex (bs : Bytes) :
    wordAddr ("0x" ++ toHex bs) = .ok (List.replicate 12 0 ++ bs) := by
  unfold wordAddr
  rw [removeStart_append]
  simp only [bytesFromhex, fromhex_toHex, ok_bind]
  rfl

section Honest

variable [Digests] [RecoverableEcdsa]

theorem exists_wordAddr (priv : Bytes) : ∃ word, wordAddr (evmAddressOf priv) = .ok word := by
  rw [evmAddressOf, evmAddress_eq]
  exact ⟨_, wordAddr_toHex _⟩

omit [RecoverableEcdsa] in
/-- The Agreement over an amount and a chain id that fit a word. -/
theorem exists_agreementDigest [Interpreter] [DecimalSource] {termsHashRef : String}
    {amount : PyValue} {buyerAddress sellerAddress : String} {chainId units : ℤ} {chain : Bytes}
    {terms : Bytes} {unitsWord buyer seller : Bytes} (hchain : toBytes32 chainId = .ok chain)
    (hterms : wordBytes32 termsHashRef = .ok terms) (hunits : usdcBaseUnitsOf amount = .ok units)
    (hword : toBytes32 units = .ok unitsWord) (hbuyer : wordAddr buyerAddress = .ok buyer)
    (hseller : wordAddr sellerAddress = .ok seller) (dealId : String) :
    ∃ digest, agreementDigest dealId termsHashRef amount buyerAddress sellerAddress chainId =
      .ok digest := by
  unfold agreementDigest agreementDomain
  rw [hchain, hterms, hunits, hbuyer, hseller]
  simp only [ok_bind, pure_bind, hword]
  exact ⟨_, rfl⟩

omit [RecoverableEcdsa] in
/-- The Delivery over anchors that fit their words. -/
theorem exists_deliveryDigest {dealId32 termsHashRef deliveryHashRef receiptHash vault : String}
    {nonce expiry chainId : ℤ} {dealWord terms delivery receipt nonceWord expiryWord chain : Bytes}
    {vaultWord : Bytes} (hdeal : wordBytes32 dealId32 = .ok dealWord)
    (hterms : wordBytes32 termsHashRef = .ok terms)
    (hdelivery : wordBytes32 deliveryHashRef = .ok delivery)
    (hreceipt : wordBytes32 receiptHash = .ok receipt) (hnonce : toBytes32 nonce = .ok nonceWord)
    (hexpiry : toBytes32 expiry = .ok expiryWord) (hchain : toBytes32 chainId = .ok chain)
    (hvault : wordAddr vault = .ok vaultWord) :
    ∃ digest, deliveryDigest dealId32 termsHashRef deliveryHashRef receiptHash nonce expiry chainId
      vault = .ok digest := by
  unfold deliveryDigest vaultDomain
  simp only [hchain, hvault, ok_bind, pure_bind, List.mapM_cons, List.mapM_nil, hdeal, hterms,
    hdelivery, hreceipt, hnonce, hexpiry]
  exact ⟨_, rfl⟩

theorem recoverDigest32_signDigest32 {priv : Bytes} (hkey : RecoverableEcdsa.Inverts priv)
    (digest : Bytes) :
    recoverDigest32 digest (signDigest32 priv digest) = .ok (evmAddressOf priv) := by
  obtain ⟨body, hwire, hlength, hv, hrecover⟩ := exists_wireSignature hkey digest
  unfold recoverDigest32 signDigest32
  rw [hwire, removeStart_append]
  simp only [bytesFromhex, fromhex_toHex, ok_bind, hlength, hrecover]
  rw [if_neg (by omega), evmAddressOf, evmAddress_eq]
  rfl

/-- What a party signs verifies under its address. -/
theorem verifies_signDigest32 [CaseTables] {priv : Bytes} (hkey : RecoverableEcdsa.Inverts priv)
    (digest : Bytes) :
    verifies digest (.str (signDigest32 priv digest)) (.str (evmAddressOf priv)) = true := by
  simp only [verifies, asText, ok_bind, recoverDigest32_signDigest32 hkey]
  simp [pure, Except.pure, Except.toOption]

end Honest

end SellerAgent

end Coordination
