import Coordination.Library.Canonical
import Coordination.BuyerAgent.Exchange

/-!
# What the buyer accepts

The contract a seller returns is any JSON. Where `verify_acceptance` returns, it is the
proposed contract, countersigned: the same data outside of the signatures, the buyer's
own entry with an Agreement signature added, and the seller's entry.
-/

namespace Coordination

namespace BuyerAgent

open Python Library SellerAgent

/-! ## The same data -/

/-- Values that hold the same data: numbers count by value, members by name. -/
def SameJson (v w : PyValue) : Prop :=
  (v.mapNum PyNumber.toRat?).Same (w.mapNum PyNumber.toRat?)

theorem sameJson_lookup {ms ns : List (String × PyValue)} (h : SameJson (.obj ms) (.obj ns))
    (k : String) : Option.Rel SameJson (ms.lookup k) (ns.lookup k) := by
  unfold SameJson at h
  rw [Json.mapNum_obj, Json.mapNum_obj, Json.same_obj_iff] at h
  have hk := h k
  rw [Json.lookup_map, Json.lookup_map] at hk
  cases hm : ms.lookup k <;> cases hn : ns.lookup k <;> rw [hm, hn] at hk
  · exact .none
  · cases hk
  · cases hk
  · cases hk with
    | some h => exact .some h

theorem sameJson_str {s : String} {v : PyValue} (h : SameJson (.str s) v) : v = .str s := by
  have hv := Json.same_str_iff.1 h
  cases v <;> first | (cases hv; rfl) | (simp [Json.mapNum] at hv)

/-- Values with one canonical form hold the same data. -/
def CanonicalForms [Rfc8785] : Prop :=
  ∀ v w bs, Rfc8785.dumps v = .ok bs → Rfc8785.dumps w = .ok bs → SameJson v w

/-- Contracts with one terms hash differ in their signatures at most. -/
theorem sameJson_of_termsHash [Digests] [Rfc8785] (hcanonical : CanonicalForms)
    (hsha : Function.Injective (Digests.sha256 : Bytes → Bytes)) {v w : PyValue} {t : String}
    (hv : termsHash v = .ok t) (hw : termsHash w = .ok t) {k : String}
    (hk : k ∉ ["signatures", "termsHash"]) :
    Option.Rel SameJson (v.members.lookup k) (w.members.lookup k) := by
  obtain ⟨ms, as, rfl, rfl, has⟩ := exists_of_termsHash hv
  obtain ⟨ns, bs, rfl, hrefs, hbs⟩ := exists_of_termsHash hw
  obtain rfl := (Digests.sha256Ref_inj hsha).1 hrefs
  have hsame := sameJson_lookup (hcanonical _ _ as has hbs) k
  rwa [lookup_dropMembers_of_notMem ms hk, lookup_dropMembers_of_notMem ns hk] at hsame

/-! ## Equal values -/

theorem eqValue_str {v : PyValue} {s : String} (h : eqValue v (.str s) = true) : v = .str s := by
  cases v <;> simp_all [eqValue, asNumber]

theorem lookup_of_eqMembers {ms ns : List (String × PyValue)} (h : eqMembers ms ns = true)
    {k : String} {v : PyValue} (hk : ms.lookup k = some v) :
    ∃ w, ns.lookup k = some w ∧ eqValue v w = true := by
  induction ms with
  | nil => cases hk
  | cons m ms ih =>
      obtain ⟨k', v'⟩ := m
      rw [eqMembers, Bool.and_eq_true] at h
      obtain ⟨hhead, htail⟩ := h
      rw [List.lookup_cons] at hk
      cases hkk : k == k' with
      | false =>
          rw [hkk] at hk
          exact ih htail hk
      | true =>
          rw [hkk] at hk
          cases hk
          obtain rfl := eq_of_beq hkk
          cases hw : ns.lookup k with
          | none => simp [hw] at hhead
          | some w => exact ⟨w, rfl, by simpa [hw] using hhead⟩

/-- A dict that equals a dict of texts has the same members. -/
theorem lookup_eq_of_eqValue {ms ns : List (String × PyValue)}
    (h : eqValue (.obj ms) (.obj ns) = true) (htexts : ∀ m ∈ ns, ∃ s, m.2 = .str s) (k : String) :
    ms.lookup k = ns.lookup k := by
  rw [eqValue, Bool.and_eq_true, List.all_eq_true] at h
  obtain ⟨hmembers, hnames⟩ := h
  cases hm : ms.lookup k with
  | some v =>
      obtain ⟨w, hw, heq⟩ := lookup_of_eqMembers hmembers hm
      obtain ⟨s, rfl⟩ := htexts _ (Json.mem_of_lookup hw)
      rw [hw, eqValue_str heq]
  | none =>
      cases hn : ns.lookup k with
      | none => rfl
      | some w =>
          have hthere := hnames _ (Json.mem_of_lookup hn)
          rw [hm] at hthere
          cases hthere

/-! ## The proposal -/

section Primitives

variable [Interpreter] [CaseTables] [DecimalSource] [Digests] [RecoverableEcdsa] [Rfc8785]

omit [Interpreter] [CaseTables] [DecimalSource] in
/-- A proposal is the draft with one entry, the buyer's over the hash of the contract. -/
theorem exists_of_propose {env : BuyerEnv} {draft proposed : PyValue} {priv : Bytes} {t : String}
    (h : propose env draft priv = .ok proposed) (ht : termsHash proposed = .ok t) :
    proposed.members.lookup "signatures" =
      some (.arr [signTerms t priv env.buyerAgentId none]) := by
  unfold propose at h
  obtain ⟨sigs, hsigs, h⟩ := bind_eq_ok.1 h
  obtain ⟨_, h⟩ := check_eq_ok.1 h
  obtain ⟨u, hu, h⟩ := bind_eq_ok.1 h
  obtain ⟨ms, rfl, rfl⟩ := withMember_eq_ok.1 h
  have hut : u = t := by
    unfold termsHash without at hu ht
    simp only [items, ok_bind] at hu ht
    rw [dropMembers_setMember _ _ (by simp)] at ht
    exact Except.ok.inj (hu.symm.trans ht)
  rw [Json.members_obj, lookup_setMember_self, hut]

/-! ## The entries of the accepted contract -/

omit [Interpreter] [CaseTables] [DecimalSource] [Digests] [RecoverableEcdsa] [Rfc8785] in
/-- What has members to leave out is a list of dicts. -/
theorem exists_of_mapM_without {ks : List String} {entries stripped : List PyValue}
    (h : entries.mapM (Python.without ks) = .ok stripped) :
    ∀ v ∈ entries, ∃ ms, v = .obj ms := by
  intro v hv
  obtain ⟨w, hw⟩ := exists_of_isOk (isOk_mapM.1 (by rw [h]; rfl) v hv)
  obtain ⟨ms, rfl, _⟩ := without_eq_ok.1 hw
  exact ⟨ms, rfl⟩

omit [Interpreter] [CaseTables] [DecimalSource] [Digests] [RecoverableEcdsa] [Rfc8785] in
theorem eq_arr_of_iterate {v : PyValue} {entries : List PyValue} (h : iterate v = .ok entries)
    (hobjs : ∀ w ∈ entries, ∃ ms, w = .obj ms) (hne : entries ≠ []) : v = .arr entries := by
  have hnotext (s : String) : .str s ∉ entries := by
    intro hs
    obtain ⟨ms, hms⟩ := hobjs _ hs
    cases hms
  cases v with
  | arr xs =>
      cases h
      rfl
  | obj ms =>
      cases h
      cases ms with
      | nil => exact absurd rfl hne
      | cons m ms => exact absurd List.mem_cons_self (hnotext m.1)
  | str s =>
      cases h
      cases hs : s.toList with
      | nil => simp [hs] at hne
      | cons c cs => exact absurd (by simp [hs]) (hnotext (String.ofList [c]))
  | _ => cases h

omit [Interpreter] [CaseTables] [DecimalSource] [Digests] [RecoverableEcdsa] [Rfc8785] in
/-- Two entries are accepted, and the first is the proposal's with an `agreementSig` at most. -/
theorem entries_of_acceptedEntries {proposed accepted first second : PyValue}
    {own : List (String × PyValue)} (htexts : ∀ m ∈ own, ∃ s, m.2 = .str s)
    (hown : proposed.members.lookup "signatures" = some (.arr [.obj own]))
    (h : acceptedEntries proposed accepted = .ok (first, second)) :
    accepted.members.lookup "signatures" = some (.arr [first, second]) ∧
      ∀ k, k ≠ "agreementSig" → first.members.lookup k = own.lookup k := by
  obtain ⟨sigs, hsigs, h₁⟩ := bind_eq_ok.1 h
  obtain ⟨entries, hentries, h₂⟩ := bind_eq_ok.1 h₁
  obtain ⟨stripped, hstripped, h₃⟩ := bind_eq_ok.1 h₂
  have hobjs := exists_of_mapM_without hstripped
  have hcollected := forall₂_of_mapM_eq_ok hstripped
  split at h₃
  · rename_i first' second' stripped' rest
    obtain ⟨ours, hours, h₄⟩ := bind_eq_ok.1 h₃
    obtain ⟨proposal, hproposal, h₅⟩ := bind_eq_ok.1 h₄
    obtain ⟨heq, h₆⟩ := check_eq_ok.1 h₅
    cases h₆
    rw [Bool.not_eq_true', Bool.not_eq_false] at heq
    rw [item_eq_ok, hown] at hours
    cases hours
    cases hproposal
    cases hcollected with
    | cons hfirst _ =>
        obtain ⟨ms, rfl, rfl⟩ := without_eq_ok.1 hfirst
        constructor
        · obtain ⟨as, rfl, has⟩ := getD_eq_ok.1 hsigs
          rw [eq_arr_of_iterate hentries hobjs (by simp)] at has
          rw [Json.members_obj]
          cases hlookup : as.lookup "signatures" with
          | none =>
              rw [hlookup] at has
              cases has
          | some v =>
              rw [hlookup] at has
              exact congrArg some has
        · intro k hk
          rw [Json.members_obj, ← lookup_eq_of_eqValue heq htexts,
            lookup_dropMembers_of_notMem ms (by simpa using hk)]
  · cases h₃

/-! ## The signatures -/

omit [Interpreter] [DecimalSource] [Rfc8785] in
theorem signer_of_verifySignature {sig address : PyValue} {preimage : Bytes}
    (h : verifySignature sig preimage address = .ok true) :
    ∃ s signer a, sig = .str s ∧ address = .str a ∧ recoverSigner s preimage = .ok signer ∧
      CaseTables.lower signer = CaseTables.lower a := by
  unfold verifySignature at h
  dsimp only at h
  split at h
  · cases h
  · cases h
  · obtain ⟨s, hs, h₁⟩ := bind_eq_ok.1 h
    obtain ⟨signer, hsigner, h₂⟩ := bind_eq_ok.1 h₁
    obtain ⟨a, ha, h₃⟩ := bind_eq_ok.1 h₂
    refine ⟨s, signer, a, asText_eq_ok.1 hs, asText_eq_ok.1 ha, hsigner, ?_⟩
    exact of_decide_eq_true (Except.ok.inj h₃)

omit [Interpreter] [DecimalSource] [Rfc8785] in
theorem signer_of_verifies {sig address : PyValue} {digest : Bytes}
    (h : verifies digest sig address = true) :
    ∃ s signer a, sig = .str s ∧ address = .str a ∧ recoverDigest32 digest s = .ok signer ∧
      CaseTables.lower signer = CaseTables.lower a := by
  unfold verifies at h
  obtain ⟨s, hs, h₁⟩ := bind_eq_ok.1 (toOption_getD_false.1 h)
  obtain ⟨signer, hsigner, h₂⟩ := bind_eq_ok.1 h₁
  obtain ⟨a, ha, h₃⟩ := bind_eq_ok.1 h₂
  refine ⟨s, signer, a, asText_eq_ok.1 hs, asText_eq_ok.1 ha, hsigner, ?_⟩
  exact of_decide_eq_true (Except.ok.inj h₃)

/-- A text that recovers to a signer with the address. -/
def Recovers (recover : String → Except Failure String) (v : Option PyValue) (address : String) :
    Prop :=
  ∃ sig signer, v = some (.str sig) ∧ recover sig = .ok signer ∧
    CaseTables.lower signer = CaseTables.lower address

omit [Interpreter] [DecimalSource] [Rfc8785] in
theorem recovers_of_verifyTermsSignature {t address : String} {entry : PyValue}
    (h : verifyTermsSignature t entry (.str address) = .ok true) :
    Recovers (fun sig => recoverSigner sig (termsPreimage t)) (entry.members.lookup "sig")
      address := by
  obtain ⟨profile, hprofile, h₁⟩ := bind_eq_ok.1 h
  split at h₁
  · cases h₁
  · obtain ⟨sig, hsig, h₂⟩ := bind_eq_ok.1 h₁
    obtain ⟨s, signer, a, rfl, ha, hsigner, heq⟩ := signer_of_verifySignature h₂
    cases ha
    exact ⟨s, signer, item_eq_ok.1 hsig, hsigner, heq⟩

omit [Interpreter] [DecimalSource] [Rfc8785] in
/-- A missing signature is read as an empty text, which recovers to nobody. -/
theorem recovers_of_verifies {digest : Bytes} {address : String} {entry sig : PyValue}
    (hsig : getD entry "agreementSig" (.str "") = .ok sig)
    (h : verifies digest sig (.str address) = true) :
    Recovers (recoverDigest32 digest) (entry.members.lookup "agreementSig") address := by
  obtain ⟨s, signer, a, rfl, ha, hsigner, heq⟩ := signer_of_verifies h
  cases ha
  obtain ⟨ms, rfl, hms⟩ := getD_eq_ok.1 hsig
  cases hlookup : ms.lookup "agreementSig" with
  | none =>
      rw [hlookup] at hms
      cases hms
      obtain ⟨body, hbody, hempty⟩ := bind_eq_ok.1 hsigner
      obtain rfl : ([] : Bytes) = body := Except.ok.inj hbody
      cases hempty
  | some v =>
      rw [hlookup] at hms
      cases hms
      exact ⟨s, signer, hlookup, hsigner, heq⟩

/-! ## The accepted contract -/

/-- What the buyer knows of the contract it accepts. -/
structure Agreed (env : BuyerEnv) (priv : Bytes) (proposed accepted : PyValue)
    (dealId buyerAddress sellerAddress agreed : String) (own first second : PyValue) : Prop where
  ours : termsHash proposed = .ok agreed
  theirs : termsHash accepted = .ok agreed
  /-- Every other member is as it was proposed. -/
  unchanged : ∀ k, k ∉ ["signatures", "termsHash"] →
    Option.Rel SameJson (proposed.members.lookup k) (accepted.members.lookup k)
  proposal : proposed.members.lookup "signatures" = some (.arr [own])
  entries : accepted.members.lookup "signatures" = some (.arr [first, second])
  unsealed : own.members.lookup "agreementSig" = none
  /-- The buyer's entry has its `agreementSig` added and nothing else. -/
  untouched : ∀ k, k ≠ "agreementSig" → first.members.lookup k = own.members.lookup k
  seller : ∃ v w, second.members.lookup "signerAgentId" = some v ∧
    accepted.members.lookup "sellerAgentId" = some w ∧ eqValue v w = true
  /-- The seller is named as the proposal names it. -/
  named : ∀ s, proposed.members.lookup "sellerAgentId" = some (.str s) →
    second.members.lookup "signerAgentId" = some (.str s)
  buyerTerms : Recovers (fun sig => recoverSigner sig (termsPreimage agreed))
    (first.members.lookup "sig") (evmAddressOf priv)
  sellerTerms : Recovers (fun sig => recoverSigner sig (termsPreimage agreed))
    (second.members.lookup "sig") sellerAddress
  /-- Both parties signed the Agreement over this deal and the price. -/
  agreement : ∃ price amount digest, accepted.members.lookup "price" = some price ∧
    price.members.lookup "amount" = some amount ∧
    agreementDigest dealId agreed amount buyerAddress sellerAddress env.settlement.chainId =
      .ok digest ∧
    Recovers (recoverDigest32 digest) (first.members.lookup "agreementSig") buyerAddress ∧
    Recovers (recoverDigest32 digest) (second.members.lookup "agreementSig") sellerAddress

/-- A contract that the buyer accepts is its own proposal, signed by both parties. -/
theorem verifyAcceptance_sound {env : BuyerEnv} {priv : Bytes}
    (hkey : RecoverableEcdsa.Inverts priv) (hcanonical : CanonicalForms)
    (hsha : Function.Injective (Digests.sha256 : Bytes → Bytes)) {draft proposed accepted : PyValue}
    {dealId buyerAddress sellerAddress agreed : String}
    (hproposed : propose env draft priv = .ok proposed)
    (haccepted : verifyAcceptance env proposed accepted dealId buyerAddress sellerAddress =
      .ok agreed) :
    ∃ own first second, Agreed env priv proposed accepted dealId buyerAddress sellerAddress agreed
      own first second := by
  unfold verifyAcceptance at haccepted
  obtain ⟨ours, hours, h₁⟩ := bind_eq_ok.1 haccepted
  obtain ⟨theirs, htheirs, h₂⟩ := bind_eq_ok.1 h₁
  obtain ⟨heq, h₃⟩ := check_eq_ok.1 h₂
  rw [ne_eq, not_not] at heq
  subst heq
  obtain ⟨⟨first, second⟩, hentries, h₄⟩ := bind_eq_ok.1 h₃
  obtain ⟨signerId, hsignerId, h₅⟩ := bind_eq_ok.1 h₄
  obtain ⟨sellerId, hsellerId, h₆⟩ := bind_eq_ok.1 h₅
  obtain ⟨hseller, h₇⟩ := check_eq_ok.1 h₆
  obtain ⟨verdict, hverdict, h₈⟩ := bind_eq_ok.1 h₇
  obtain ⟨hterms, h₉⟩ := check_eq_ok.1 h₈
  obtain ⟨price, hprice, h₁₀⟩ := bind_eq_ok.1 h₉
  obtain ⟨amount, hamount, h₁₁⟩ := bind_eq_ok.1 h₁₀
  obtain ⟨digest, hdigest, h₁₂⟩ := bind_eq_ok.1 h₁₁
  obtain ⟨buyerSig, hbuyerSig, h₁₃⟩ := bind_eq_ok.1 h₁₂
  obtain ⟨hbuyer, h₁₄⟩ := check_eq_ok.1 h₁₃
  obtain ⟨sellerSig, hsellerSig, h₁₅⟩ := bind_eq_ok.1 h₁₄
  obtain ⟨hsellerAgreement, h₁₆⟩ := check_eq_ok.1 h₁₅
  cases h₁₆
  rw [Bool.not_eq_true', Bool.not_eq_false] at hseller hterms hbuyer hsellerAgreement
  subst hterms
  have hproposal := exists_of_propose hproposed hours
  have htexts : ∀ m ∈ (signTerms agreed priv env.buyerAgentId none).members, ∃ s, m.2 = .str s := by
    simp [signTerms]
  have hown := entries_of_acceptedEntries htexts hproposal hentries
  have hunchanged (k : String) (hk : k ∉ ["signatures", "termsHash"]) :=
    sameJson_of_termsHash hcanonical hsha hours htheirs hk
  refine ⟨_, first, second, hours, htheirs, hunchanged, hproposal, hown.1, rfl, hown.2,
    ⟨signerId, sellerId, item_eq_ok.1 hsignerId, item_eq_ok.1 hsellerId, hseller⟩, ?_, ?_,
    recovers_of_verifyTermsSignature hverdict,
    price, amount, digest, item_eq_ok.1 hprice, item_eq_ok.1 hamount, hdigest,
    recovers_of_verifies hbuyerSig hbuyer, recovers_of_verifies hsellerSig hsellerAgreement⟩
  · intro s hs
    have hrel := hunchanged "sellerAgentId" (by simp)
    rw [hs, item_eq_ok.1 hsellerId] at hrel
    cases hrel with
    | some hsame =>
        obtain rfl := sameJson_str hsame
        rw [item_eq_ok.1 hsignerId, eqValue_str hseller]
  · rw [hown.2 "sig" (by simp)]
    exact ⟨_, _, rfl, recoverSigner_signDigest hkey _, rfl⟩

end Primitives

/-! ### A contract that is accepted -/

theorem verbatim_canonicalForms : @CanonicalForms Rfc8785.verbatim := by
  intro v w bs hv hw
  have htext := utf8_injective ((Except.ok.inj hv).trans (Except.ok.inj hw).symm)
  obtain rfl := Json.text_injective bitsText_injective (String.ofList_injective htext)
  exact Json.Same.refl _

section Demo

/-- What the demo draft is hashed as. -/
def pinnedBytes : Bytes :=
  utf8 (String.ofList (Json.text bitsText (.obj (demoDraft "12.50"))))

/-- Digests without collisions, of 32 bytes for the demo draft. -/
@[reducible] def pinningDigests : Digests where
  sha256 := Equiv.swap pinnedBytes (List.replicate 32 0)
  keccak256 := id

attribute [local instance] Interpreter.ascii CaseTables.ascii DecimalSource.unread pinningDigests
  RecoverableEcdsa.transparent Rfc8785.verbatim

def pinnedHash : String :=
  "sha256:" ++ toHex (List.replicate 32 0)

theorem demoDraft_pinned : termsHash (.obj (demoDraft "12.50")) = .ok pinnedHash := by
  have hswap : Digests.sha256Ref pinnedBytes = pinnedHash := by
    show "sha256:" ++ toHex (Equiv.swap _ _ pinnedBytes) = _
    rw [Equiv.swap_apply_left]
    rfl
  rw [← hswap]
  rfl

theorem verifyAcceptance_sound_demo : ∃ proposed accepted own first second,
    Agreed demoBuyer [1] proposed accepted "deal_1" (evmAddressOf [1]) (evmAddressOf [2]) pinnedHash
      own first second := by
  have hbuyer := RecoverableEcdsa.transparent_inverts [1]
  have hseller := RecoverableEcdsa.transparent_inverts [2]
  have hunsigned : truthy (((demoDraft "12.50").lookup "signatures").getD .null) = false := by
    decide +kernel
  have hpropose : propose demoBuyer (.obj (demoDraft "12.50")) [1] =
      .ok (.obj (proposedMembers demoBuyer [1] pinnedHash (demoDraft "12.50"))) :=
    propose_unsigned hunsigned demoDraft_pinned
  obtain ⟨buyerWord, hbuyerWord⟩ := exists_wordAddr [1]
  obtain ⟨sellerWord, hsellerWord⟩ := exists_wordAddr [2]
  obtain ⟨digest, hdigest⟩ := exists_agreementDigest
    (show toBytes32 2368 = .ok (bytesBE 32 2368) from rfl)
    (wordBytes32_toHex (.inl rfl) (List.length_replicate ..))
    (show usdcBaseUnitsOf (.str "12.50") = .ok 12500000 by decide +kernel)
    (show toBytes32 12500000 = .ok (bytesBE 32 12500000) from rfl) hbuyerWord hsellerWord "deal_1"
  have haccept : verifyAcceptance demoBuyer
      (.obj (proposedMembers demoBuyer [1] pinnedHash (demoDraft "12.50")))
      (countersigned demoBuyer (demoSeller "12.50").env [1] [2] pinnedHash digest
        (proposedMembers demoBuyer [1] pinnedHash (demoDraft "12.50"))) "deal_1" (evmAddressOf [1])
      (evmAddressOf [2]) = .ok pinnedHash :=
    verifyAcceptance_countersigned hbuyer hseller ((termsHash_setMember _ _).trans demoDraft_pinned)
      rfl rfl rfl rfl hdigest
  exact ⟨_, _, verifyAcceptance_sound hbuyer verbatim_canonicalForms (Equiv.injective _) hpropose
    haccept⟩

end Demo

end BuyerAgent

end Coordination
