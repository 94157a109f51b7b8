import Coordination.DataSeller.Honest

/-!
# Typed data

What a settlement signature says, freed from its spelling: a domain and one value per
field of a struct type. Every value has a word of 32 bytes, so the preimage determines
the domain, the struct type and the values.
-/

namespace Coordination

namespace DataSeller

open JavaScript Library Engine

/-- A byte string of a fixed length. -/
abbrev FixedBytes (n : ℕ) := {bs : Bytes // bs.length = n}

/-- A natural number of at most 32 bytes. -/
abbrev Uint256 := {n : ℕ // n < 2 ^ 256}

inductive FieldKind where
  | text
  | address
  | bytes32
  | uint
  deriving DecidableEq

/-- The kind of value a field holds; a derived field holds the text it is derived from. -/
def FieldSpec.kind (field : FieldSpec) : FieldKind :=
  if field.name = "agreementId" ∨ field.name = "reasonHash" ∨ field.name = "decisionId" then .text
  else if field.name = "amount" then .uint
  else if field.type = "address" then .address
  else if field.type = "bytes32" then .bytes32
  else .uint

/-- The value of one field. -/
inductive FieldValue where
  | text (s : String)
  | address (raw : FixedBytes 20)
  | bytes32 (raw : FixedBytes 32)
  | uint (n : Uint256)
  deriving DecidableEq

def FieldValue.kind : FieldValue → FieldKind
  | text _ => .text
  | address _ => .address
  | bytes32 _ => .bytes32
  | uint _ => .uint

/-- A domain and the values of one struct. -/
structure TypedData where
  name : String
  version : String
  chainId : Uint256
  verifyingContract : Option (FixedBytes 20)
  type : SettlementStruct
  values : List FieldValue
  fits : values.map FieldValue.kind = type.fields.map FieldSpec.kind
  deriving DecidableEq

/-! ## The spelled data -/

def fixed (n : ℕ) (bs : Bytes) : Option (FixedBytes n) :=
  if h : bs.length = n then some ⟨bs, h⟩ else none

def uint256 (n : ℤ) : Option Uint256 :=
  if h : 0 ≤ n ∧ n < 2 ^ 256 then some ⟨n.toNat, by omega⟩ else none

/-- The bytes a 32-byte value spells, of any length. -/
def bytes32Of (value : String) : Except Failure Bytes :=
  let stripped := stripStart "sha256:" value
  fromHex (if stripped = value then stripStart "0x" value else stripped)

/-- The base units an `amount` field stands for. -/
def amountOf (t : SettlementStruct) (struct : Struct) : Except Failure ℤ :=
  if t = .Activation then do
    bigIntOfText (← toText (orElse (struct.lookup "amountBaseUnits") (struct.lookup "amount")))
  else
    match struct.lookup "amountBaseUnits" with
    | some units => do bigIntOfText (← textOf units)
    | none => do usdcBaseUnits (← toText (struct.lookup "amount"))

/-- The value a struct gives a field. -/
def fieldValue (t : SettlementStruct) (struct : Struct) (field : FieldSpec) :
    Option FieldValue :=
  if field.name = "agreementId" then
    (toText (struct.lookup "agreementId")).toOption.map .text
  else if field.name = "reasonHash" then
    (toText (struct.lookup "reasonCode")).toOption.map .text
  else if field.name = "decisionId" then
    (toText (struct.lookup "decisionId")).toOption.map .text
  else if field.name = "amount" then do
    (uint256 (← (amountOf t struct).toOption)).map .uint
  else do
    let value ← struct.lookup field.name
    if field.type = "address" then
      (fixed 20 (← (textOf value >>= fromHex).toOption)).map .address
    else if field.type = "bytes32" then
      (fixed 32 (← (textOf value >>= bytes32Of).toOption)).map .bytes32
    else (uint256 (← (bigIntOf value).toOption)).map .uint

/-- What the address of a domain spells. -/
def contractOf : Option String → Option (Option (FixedBytes 20))
  | none => some none
  | some address => do return some (← fixed 20 (← (fromHex address).toOption))

/-- The type string of a domain with or without a verifying contract. -/
def domainTypeText (withContract : Bool) : String :=
  if withContract then
    "EIP712Domain(string name,string version,uint256 chainId,address verifyingContract)"
  else "EIP712Domain(string name,string version,uint256 chainId)"

theorem domainTypeText_injective : Function.Injective domainTypeText := by
  intro b b' h
  cases b <;> cases b' <;> first | rfl | exact absurd h (by decide)

/-- The data a domain and a struct spell. -/
def typedData (domain : Eip712Domain) (t : SettlementStruct) (struct : Struct) :
    Option TypedData := do
  let chainId ← uint256 (← (bigIntOf (.num domain.chainId)).toOption)
  let verifyingContract ← contractOf domain.verifyingContract
  let values ← t.fields.mapM (fieldValue t struct)
  if fits : values.map FieldValue.kind = t.fields.map FieldSpec.kind then
    return ⟨domain.name, domain.version, chainId, verifyingContract, t, values, fits⟩
  else none

/-! ## The words -/

section Words

variable [Digests]

namespace FieldValue

def word : FieldValue → Bytes
  | text s => keccakText s
  | address raw => List.replicate 12 0 ++ raw.1
  | bytes32 raw => raw.1
  | uint n => bytesBE 32 n.1

/-- The text a word is the digest of. -/
def hashed : FieldValue → Option Bytes
  | text s => some (utf8 s)
  | _ => none

end FieldValue

/-- A word is exactly 32 bytes. -/
theorem length_word (hsized : Sized) (v : FieldValue) : v.word.length = 32 := by
  cases v with
  | text s => exact hsized.keccak256 _
  | address raw => simp [FieldValue.word, raw.2]
  | bytes32 raw => exact raw.2
  | uint n => exact length_bytesBE 32 n.1

omit [Digests] in
theorem uintWord_inj {m n : Uint256} (h : bytesBE 32 m.1 = bytesBE 32 n.1) : m = n := by
  have hwide : (2 : ℕ) ^ 256 = 256 ^ 32 := by norm_num
  exact Subtype.ext (bytesBE_inj (m.2.trans_eq hwide) (n.2.trans_eq hwide) h)

/-- Values of one kind with one word are the same value. -/
theorem word_inj {v w : FieldValue} (hkind : v.kind = w.kind) (h : v.word = w.word)
    (hfree : ∀ s t, v = .text s → w = .text t →
      Digests.keccak256 (utf8 s) = Digests.keccak256 (utf8 t) → utf8 s = utf8 t) : v = w := by
  cases v <;> cases w <;> try cases hkind
  case text.text s t => rw [utf8_injective (hfree s t rfl rfl h)]
  case address.address raw raw' => rw [Subtype.ext (List.append_cancel_left h)]
  case bytes32.bytes32 raw raw' => rw [Subtype.ext h]
  case uint.uint m n => rw [uintWord_inj h]

/-- Lists of values of the same kinds with the same words are the same. -/
theorem words_inj (hsized : Sized) {S : Set Bytes} (hfree : Set.InjOn Digests.keccak256 S) :
    ∀ {vs ws : List FieldValue}, vs.map FieldValue.kind = ws.map FieldValue.kind →
      (∀ v ∈ vs, ∀ bs ∈ v.hashed, bs ∈ S) → (∀ w ∈ ws, ∀ bs ∈ w.hashed, bs ∈ S) →
      (vs.map FieldValue.word).flatten = (ws.map FieldValue.word).flatten → vs = ws
  | [], [], _, _, _, _ => rfl
  | [], _ :: _, hkind, _, _, _ => by simp at hkind
  | _ :: _, [], hkind, _, _, _ => by simp at hkind
  | v :: vs, w :: ws, hkind, hv, hw, h => by
      obtain ⟨hhead, htail⟩ := List.cons.inj hkind
      rw [List.map_cons, List.map_cons, List.flatten_cons, List.flatten_cons] at h
      obtain ⟨hword, hrest⟩ := List.append_inj h (by rw [length_word hsized, length_word hsized])
      have hvw : v = w := by
        refine word_inj hhead hword ?_
        rintro s t rfl rfl
        exact hfree (hv _ List.mem_cons_self _ rfl) (hw _ List.mem_cons_self _ rfl)
      rw [hvw, words_inj hsized hfree htail (fun v hmem => hv v (List.mem_cons_of_mem _ hmem))
        (fun w hmem => hw w (List.mem_cons_of_mem _ hmem)) hrest]

namespace TypedData

def domainType (d : TypedData) : String :=
  domainTypeText d.verifyingContract.isSome

/-- What the domain separator is the digest of. -/
def domainBytes (d : TypedData) : Bytes :=
  keccakText d.domainType ++ keccakText d.name ++ keccakText d.version ++
    bytesBE 32 d.chainId.1 ++
    (d.verifyingContract.elim [] fun raw => List.replicate 12 0 ++ raw.1)

/-- What the struct hash is the digest of. -/
def structBytes (d : TypedData) : Bytes :=
  keccakText d.type.typeString ++ (d.values.map FieldValue.word).flatten

def preimage (d : TypedData) : Bytes :=
  [0x19, 0x01] ++ Digests.keccak256 d.domainBytes ++ Digests.keccak256 d.structBytes

/-- Everything that is hashed on the way to the preimage. -/
def hashed (d : TypedData) : List Bytes :=
  [utf8 d.domainType, utf8 d.name, utf8 d.version, d.domainBytes, utf8 d.type.typeString,
    d.structBytes] ++ d.values.filterMap FieldValue.hashed

end TypedData

omit [Digests] in
theorem typeString_injective : Function.Injective SettlementStruct.typeString := by
  intro t t' h
  cases t <;> cases t' <;> first | rfl | exact absurd h (by decide +kernel)

/-- The bytes of a domain determine it. -/
theorem domainBytes_inj (hsized : Sized) {d d' : TypedData}
    (hfree : Set.InjOn Digests.keccak256 {bs | bs ∈ d.hashed ∨ bs ∈ d'.hashed})
    (h : d.domainBytes = d'.domainBytes) : d.name = d'.name ∧ d.version = d'.version ∧
      d.chainId = d'.chainId ∧ d.verifyingContract = d'.verifyingContract := by
  have hlength (s s' : String) : (keccakText s).length = (keccakText s').length := by
    rw [keccakText, keccakText, hsized.keccak256, hsized.keccak256]
  unfold TypedData.domainBytes at h
  rw [List.append_assoc, List.append_assoc, List.append_assoc, List.append_assoc,
    List.append_assoc, List.append_assoc] at h
  obtain ⟨htype, h⟩ := List.append_inj h (hlength _ _)
  obtain ⟨hname, h⟩ := List.append_inj h (hlength _ _)
  obtain ⟨hversion, h⟩ := List.append_inj h (hlength _ _)
  obtain ⟨hchain, hcontract⟩ := List.append_inj h (by rw [length_bytesBE, length_bytesBE])
  have htext {s s' : String} (hs : utf8 s ∈ d.hashed) (hs' : utf8 s' ∈ d'.hashed)
      (h : keccakText s = keccakText s') : s = s' :=
    utf8_injective (hfree (Or.inl hs) (Or.inr hs') h)
  refine ⟨htext (by simp [TypedData.hashed]) (by simp [TypedData.hashed]) hname,
    htext (by simp [TypedData.hashed]) (by simp [TypedData.hashed]) hversion,
    uintWord_inj hchain, ?_⟩
  have htype : d.domainType = d'.domainType :=
    htext (by simp [TypedData.hashed]) (by simp [TypedData.hashed]) htype
  have hpresent := domainTypeText_injective htype
  generalize d.verifyingContract = contract at hpresent hcontract ⊢
  generalize d'.verifyingContract = contract' at hpresent hcontract ⊢
  cases contract <;> cases contract'
  case none.none => rfl
  case none.some => cases hpresent
  case some.none => cases hpresent
  case some.some => rw [Subtype.ext (List.append_cancel_left hcontract)]

/-- The preimage determines the data. -/
theorem preimage_inj (hsized : Sized) {d d' : TypedData}
    (hfree : Set.InjOn Digests.keccak256 {bs | bs ∈ d.hashed ∨ bs ∈ d'.hashed})
    (h : d.preimage = d'.preimage) : d = d' := by
  obtain ⟨hdomain, hstruct⟩ := List.append_inj h (by simp [hsized.keccak256])
  have hdomain : d.domainBytes = d'.domainBytes :=
    hfree (Or.inl (by simp [TypedData.hashed])) (Or.inr (by simp [TypedData.hashed]))
      (List.append_cancel_left hdomain)
  have hstruct : d.structBytes = d'.structBytes :=
    hfree (Or.inl (by simp [TypedData.hashed])) (Or.inr (by simp [TypedData.hashed])) hstruct
  obtain ⟨hname, hversion, hchain, hcontract⟩ := domainBytes_inj hsized hfree hdomain
  obtain ⟨htypeHash, hwords⟩ := List.append_inj hstruct
    (by rw [keccakText, keccakText, hsized.keccak256, hsized.keccak256])
  have htype : d.type = d'.type := typeString_injective
    (utf8_injective (hfree (Or.inl (by simp [TypedData.hashed]))
      (Or.inr (by simp [TypedData.hashed])) htypeHash))
  have hhashed (d : TypedData) : ∀ v ∈ d.values, ∀ bs ∈ v.hashed, bs ∈ d.hashed := by
    intro v hv bs hbs
    exact List.mem_append_right _ (List.mem_filterMap.2 ⟨v, hv, hbs⟩)
  have hvalues : d.values = d'.values := by
    refine words_inj hsized hfree ?_ ?_ ?_ hwords
    · rw [d.fits, d'.fits, htype]
    · exact fun v hv bs hbs => Or.inl (hhashed d v hv bs hbs)
    · exact fun v hv bs hbs => Or.inr (hhashed d' v hv bs hbs)
  cases d
  cases d'
  simp_all only

/-! ## The spelled data and their preimage -/

omit [Digests] in
theorem toOption_eq_some {α : Type} {x : Except Failure α} {a : α} :
    x.toOption = some a ↔ x = .ok a := by
  cases x <;> simp [Except.toOption]

omit [Digests] in
theorem uint256_of_wordOfInt {n : ℤ} {w : Bytes} (h : wordOfInt n = .ok w) :
    ∃ u : Uint256, uint256 n = some u ∧ bytesBE 32 u.1 = w := by
  unfold wordOfInt at h
  by_cases hneg : n < 0
  · rw [if_pos hneg] at h
    cases h
  by_cases hwide : 2 ^ 256 ≤ n
  · rw [if_neg hneg, if_pos hwide] at h
    cases h
  · rw [if_neg hneg, if_neg hwide] at h
    cases h
    exact ⟨⟨n.toNat, by omega⟩, dif_pos ⟨by omega, by omega⟩, rfl⟩

/-- A value behind a word, of a given kind. -/
def ReadsAs (v : Option FieldValue) (w : Bytes) (kind : FieldKind) : Prop :=
  ∃ x, v = some x ∧ x.word = w ∧ x.kind = kind

theorem readsAs_text {x : Except Failure String} {w : Bytes}
    (h : (do return keccakText (← x)) = .ok w) : ReadsAs (x.toOption.map .text) w .text := by
  obtain ⟨s, rfl, h⟩ := bind_eq_ok.1 h
  cases h
  exact ⟨.text s, rfl, rfl, rfl⟩

theorem readsAs_uint {x : Except Failure ℤ} {w : Bytes} (h : x >>= wordOfInt = .ok w) :
    ReadsAs (do (uint256 (← x.toOption)).map .uint) w .uint := by
  obtain ⟨n, rfl, h⟩ := bind_eq_ok.1 h
  obtain ⟨u, hu, hw⟩ := uint256_of_wordOfInt h
  refine ⟨.uint u, ?_, hw, rfl⟩
  show (uint256 n).map _ = _
  rw [hu]
  rfl

omit [Digests] in
theorem fixed_val {n : ℕ} (raw : FixedBytes n) : fixed n raw.1 = some raw :=
  dif_pos raw.2

omit [Digests] in
theorem fromHex_of_wordAddress {value : String} {w : Bytes} (h : wordAddress value = .ok w) :
    ∃ raw : FixedBytes 20, fromHex value = .ok raw.1 ∧ List.replicate 12 0 ++ raw.1 = w := by
  unfold wordAddress at h
  obtain ⟨raw, hraw, h⟩ := bind_eq_ok.1 h
  by_cases hlength : raw.length = 20
  · rw [if_neg (not_not.2 hlength)] at h
    cases h
    exact ⟨⟨raw, hlength⟩, hraw, rfl⟩
  · rw [if_pos hlength] at h
    cases h

omit [Digests] in
theorem bytes32Of_of_wordBytes32 {value : String} {w : Bytes} (h : wordBytes32 value = .ok w) :
    ∃ raw : FixedBytes 32, bytes32Of value = .ok raw.1 ∧ raw.1 = w := by
  unfold wordBytes32 at h
  obtain ⟨raw, hraw, h⟩ := bind_eq_ok.1 h
  by_cases hlength : raw.length = 32
  · rw [if_neg (not_not.2 hlength)] at h
    cases h
    exact ⟨⟨w, hlength⟩, hraw, rfl⟩
  · rw [if_pos hlength] at h
    cases h

theorem readsAs_address {x : Except Failure String} {w : Bytes} (h : x >>= wordAddress = .ok w) :
    ReadsAs (do (fixed 20 (← (x >>= fromHex).toOption)).map .address) w .address := by
  obtain ⟨s, rfl, hs⟩ := bind_eq_ok.1 h
  obtain ⟨raw, hraw, hw⟩ := fromHex_of_wordAddress hs
  refine ⟨.address raw, ?_, hw, rfl⟩
  rw [ok_bind, hraw]
  exact congrArg (Option.map FieldValue.address) (fixed_val raw)

theorem readsAs_bytes32 {x : Except Failure String} {w : Bytes} (h : x >>= wordBytes32 = .ok w) :
    ReadsAs (do (fixed 32 (← (x >>= bytes32Of).toOption)).map .bytes32) w .bytes32 := by
  obtain ⟨s, rfl, hs⟩ := bind_eq_ok.1 h
  obtain ⟨raw, hraw, hw⟩ := bytes32Of_of_wordBytes32 hs
  refine ⟨.bytes32 raw, ?_, hw, rfl⟩
  rw [ok_bind, hraw]
  exact congrArg (Option.map FieldValue.bytes32) (fixed_val raw)

omit [Digests] in
theorem wordUint_str (s : String) : wordUint (.str s) = bigIntOfText s >>= wordOfInt := rfl

omit [Digests] in
theorem amount_word {t : SettlementStruct} {struct : Struct} :
    (if t = .Activation then
      (do wordUint (.str (← toText
        (orElse (struct.lookup "amountBaseUnits") (struct.lookup "amount")))))
    else
      match struct.lookup "amountBaseUnits" with
      | some units => (do wordUint (.str (← textOf units)))
      | none => (do wordOfInt (← usdcBaseUnits (← toText (struct.lookup "amount"))))) =
      amountOf t struct >>= wordOfInt := by
  unfold amountOf
  split_ifs with ht
  · simp only [wordUint_str, bind_assoc]
  · cases struct.lookup "amountBaseUnits" with
    | none => simp only [bind_assoc]
    | some units => simp only [wordUint_str, bind_assoc]

/-- The value behind a field's word. -/
theorem readsAs_of_fieldWord {t : SettlementStruct} {struct : Struct} {field : FieldSpec}
    {w : Bytes} (h : fieldWord t struct field = .ok w) :
    ReadsAs (fieldValue t struct field) w field.kind := by
  unfold fieldWord at h
  unfold fieldValue FieldSpec.kind
  by_cases hid : field.name = "agreementId"
  · simp only [hid, if_true, true_or] at h ⊢
    exact readsAs_text h
  by_cases hreason : field.name = "reasonHash"
  · simp only [hreason, if_true, true_or, or_true] at h ⊢
    exact readsAs_text h
  by_cases hdecision : field.name = "decisionId"
  · simp only [hdecision, if_true, or_true] at h ⊢
    exact readsAs_text h
  by_cases hamount : field.name = "amount"
  · simp only [hamount, if_true] at h ⊢
    exact readsAs_uint (amount_word.symm.trans h)
  simp only [hid, hreason, hdecision, hamount, if_false, or_self] at h ⊢
  cases hvalue : struct.lookup field.name with
  | none =>
      rw [hvalue] at h
      cases h
  | some value =>
      rw [hvalue] at h
      simp only at h
      by_cases haddress : field.type = "address"
      · simp only [haddress, if_true] at h ⊢
        exact readsAs_address h
      by_cases hbytes : field.type = "bytes32"
      · simp only [hbytes, if_true] at h ⊢
        exact readsAs_bytes32 h
      · simp only [haddress, hbytes, if_false] at h ⊢
        exact readsAs_uint h

/-- The values behind the words of a struct. -/
theorem values_of_words {t : SettlementStruct} {struct : Struct} {fields : List FieldSpec}
    {words : List Bytes} (h : List.Forall₂ (fun f w => fieldWord t struct f = .ok w) fields words) :
    ∃ vs, fields.mapM (fieldValue t struct) = some vs ∧ vs.map FieldValue.word = words ∧
      vs.map FieldValue.kind = fields.map FieldSpec.kind := by
  induction h with
  | nil => exact ⟨[], rfl, rfl, rfl⟩
  | cons hw _ ih =>
      obtain ⟨v, hv, hword, hkind⟩ := readsAs_of_fieldWord hw
      obtain ⟨vs, hvs, hwords, hkinds⟩ := ih
      refine ⟨v :: vs, ?_, ?_, ?_⟩
      · rw [List.mapM_cons, hv, hvs]
        rfl
      · rw [List.map_cons, hword, hwords]
      · rw [List.map_cons, List.map_cons, hkind, hkinds]

/-- The word of the contract of a domain, where it has one. -/
def contractWord : Option String → Except Failure Bytes
  | some address => wordAddress address
  | none => .ok []

omit [Digests] in
theorem contract_of_word {contract : Option String} {w : Bytes}
    (h : contractWord contract = .ok w) :
    ∃ raw, contractOf contract = some raw ∧ raw.isSome = contract.isSome ∧
      (raw.elim [] fun raw => List.replicate 12 0 ++ raw.1) = w := by
  cases contract with
  | none =>
      cases h
      exact ⟨none, rfl, rfl, rfl⟩
  | some address =>
      obtain ⟨raw, hraw, hw⟩ := fromHex_of_wordAddress h
      refine ⟨some raw, ?_, rfl, hw⟩
      simp [contractOf, hraw, Except.toOption, fixed_val]

theorem domainSeparator_eq (domain : Eip712Domain) : domainSeparator domain = (do
    let chain ← wordUint (.num domain.chainId)
    let contract ← contractWord domain.verifyingContract
    return Digests.keccak256 (keccakText (domainTypeText domain.verifyingContract.isSome) ++
      keccakText domain.name ++ keccakText domain.version ++ chain ++ contract)) := by
  unfold domainSeparator
  cases domain.verifyingContract <;> rfl

/-- A preimage is the preimage of the spelled data. -/
theorem typedData_of_preimage {domain : Eip712Domain} {t : SettlementStruct} {struct : Struct}
    {p : Bytes} (h : signingPreimage domain t struct = .ok p) :
    ∃ d, typedData domain t struct = some d ∧ d.preimage = p ∧
      (d.name = domain.name ∧ d.version = domain.version ∧ d.type = t) ∧
      t.fields.mapM (fieldWord t struct) = .ok (d.values.map FieldValue.word) := by
  unfold signingPreimage structHash at h
  rw [domainSeparator_eq] at h
  obtain ⟨separator, hseparator, h⟩ := bind_eq_ok.1 h
  obtain ⟨hash, hhash, h⟩ := bind_eq_ok.1 h
  obtain ⟨chainWord, hchain, hseparator⟩ := bind_eq_ok.1 hseparator
  obtain ⟨contractWord, hcontract, hseparator⟩ := bind_eq_ok.1 hseparator
  obtain ⟨words, hwords, hhash⟩ := bind_eq_ok.1 hhash
  obtain ⟨n, hn, hchain⟩ := bind_eq_ok.1 hchain
  obtain ⟨chainId, hchainId, rfl⟩ := uint256_of_wordOfInt hchain
  obtain ⟨contract, hraw, hpresent, rfl⟩ := contract_of_word hcontract
  obtain ⟨vs, hvs, rfl, hkinds⟩ := values_of_words (forall₂_of_mapM_eq_ok hwords)
  cases h
  cases hseparator
  cases hhash
  refine ⟨⟨domain.name, domain.version, chainId, contract, t, vs, hkinds⟩, ?_, ?_, ⟨rfl, rfl, rfl⟩, hwords⟩
  · simp only [typedData, hn, Except.toOption, Option.bind_eq_bind, Option.bind_some, hchainId,
      hraw, hvs, dif_pos hkinds]
    rfl
  · simp only [TypedData.preimage, TypedData.domainBytes, TypedData.domainType, domainTypeText,
      TypedData.structBytes, hpresent]

/-! ## Typed data are determined by their preimage -/

/-- What is hashed on the way to a preimage. -/
def hashedInputs (domain : Eip712Domain) (t : SettlementStruct) (struct : Struct) : Set Bytes :=
  {bs | ∃ d, typedData domain t struct = some d ∧ bs ∈ d.hashed}

end Words

section Demo

/-- Hash functions that keep the last 32 bytes. -/
@[reducible] def tailDigests : Digests where
  sha256 := tail
  keccak256 := tail
where
  tail (bs : Bytes) : Bytes := RecoverableEcdsa.lastBytes 32 (List.replicate 32 0 ++ bs)

attribute [local instance] tailDigests

theorem tailDigests_sized : Sized := by
  have hlength (bs : Bytes) : (tailDigests.tail bs).length = 32 := by
    rw [tailDigests.tail, RecoverableEcdsa.lastBytes, List.length_drop, List.length_append,
      List.length_replicate]
    omega
  exact ⟨hlength, hlength⟩

/-- A consent, with the hashes in one of their two spellings. -/
def demoConsent (start : String) (nonce : Value) : Struct := [
  ("dealId", .str (start ++ toHex (List.replicate 32 1))),
  ("termsHash", .str (start ++ toHex (List.replicate 32 2))),
  ("receiptHash", .str (start ++ toHex (List.replicate 32 3))),
  ("nonce", nonce), ("expiry", .num 1000)]

/-- What both spellings say. -/
def demoData : TypedData where
  name := "KiteFulfill"
  version := "1"
  chainId := ⟨2368, by norm_num⟩
  verifyingContract := none
  type := .RefundConsent
  values := [.bytes32 ⟨List.replicate 32 1, rfl⟩, .bytes32 ⟨List.replicate 32 2, rfl⟩,
    .bytes32 ⟨List.replicate 32 3, rfl⟩, .uint ⟨7, by norm_num⟩, .uint ⟨1000, by norm_num⟩]
  fits := rfl

theorem demoConsent_spelled :
    typedData (agreementDomain 2368) .RefundConsent (demoConsent "0x" (.num 7)) = some demoData ∧
    typedData (agreementDomain 2368) .RefundConsent (demoConsent "sha256:" (.str "7")) =
      some demoData := by
  decide +kernel

theorem demoData_injOn : Set.InjOn Digests.keccak256 {bs | bs ∈ demoData.hashed} := by
  have hnodup : (demoData.hashed.map Digests.keccak256).Nodup := by decide +kernel
  exact fun a ha b hb => List.inj_on_of_nodup_map hnodup ha hb

end Demo

end DataSeller

end Coordination
