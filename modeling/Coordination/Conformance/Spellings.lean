import Coordination.Conformance.Runner
import Coordination.DataSeller.Settlement
import Coordination.SellerAgent.Signing

/-!
# Spellings of a signature

The profile admits one spelling of a signature. The data seller reads no other; the
Python agents and the runner also take white space between the bytes, and the settlement
recovery of the agents takes a signature without its mark.
-/

namespace Coordination

namespace Conformance

open Python Library

/-- `^0x[0-9a-fA-F]{130}$`. -/
def spelled (signature : String) : Bool :=
  "0x".toList.isPrefixOf signature.toList ∧ (signature.toList.drop 2).length = 130 ∧
    (signature.toList.drop 2).all isHexDigit

section Recovery

variable [Digests] [RecoverableEcdsa]

omit [Digests] in
/-- The public key of `r ‖ s ‖ v` over a hash. -/
def keyOf (hash raw : Bytes) : Option Bytes :=
  let v := (raw.getD 64 0).toNat
  if raw.length = 65 ∧ (v = 27 ∨ v = 28) then
    RecoverableEcdsa.recoverKey (raw.take 64) (v - 27) hash
  else none

omit [Digests] in
/-- The signatures of the profile: the one spelling, a last byte of 27 or 28, and a public
key that can be recovered. -/
def Admitted (signature : String) (hash : Bytes) : Prop :=
  spelled signature = true ∧
    ∃ raw, ofHex (signature.toList.drop 2) = some raw ∧ (keyOf hash raw).isSome = true

/-- What the implementations recover from a signature over a message. -/
def recovered (signature : String) (preimage : Bytes) : List (Option String) :=
  [DataSeller.recover signature preimage,
    (SellerAgent.recoverSigner signature preimage).toOption,
    (SellerAgent.recoverDigest32 (Digests.keccak256 preimage) signature).toOption,
    (recover signature preimage).toOption]

/-- Every implementation accepts the signature exactly where the profile admits it, and
those that accept it recover one address; the struct recovery of the data seller is its
recovery over the struct's preimage. -/
def OneSpelling (signature : String) (preimage : Bytes) : Prop :=
  (∀ r ∈ recovered signature preimage,
    (r.isSome = true ↔ Admitted signature (Digests.keccak256 preimage))) ∧
  (∀ r ∈ recovered signature preimage, ∀ r' ∈ recovered signature preimage,
    ∀ a ∈ r, ∀ a' ∈ r', a = a') ∧
  ∀ domain type struct, DataSeller.signingPreimage domain type struct = .ok preimage →
    DataSeller.recoverStruct signature domain type struct =
      .ok (DataSeller.recover signature preimage)

/-- The signature has its mark and no white space, or no key can be recovered from the
bytes it is read as when both are let pass. -/
def StrictOrVoid (signature : String) (preimage : Bytes) : Prop :=
  ("0x".toList.isPrefixOf signature.toList = true ∧
    ∀ c ∈ signature.toList, isAsciiSpace c = false) ∨
  (fromhex (removeStart "0x" signature).toList).bind (keyOf (Digests.keccak256 preimage)) = none

/-! ## One reader -/

omit [Digests] [RecoverableEcdsa] in
theorem removeStart_marked {s : String} (h : "0x".toList.isPrefixOf s.toList = true) :
    (removeStart "0x" s).toList = s.toList.drop 2 := by
  rw [removeStart, if_pos h, String.toList_ofList]
  rfl

/-- What is recovered from a body that has been read. -/
def addressFrom (hash : Bytes) (body : Option Bytes) : Option String :=
  (body.bind (keyOf hash)).map RecoverableEcdsa.addressOf

theorem addressFrom_some (hash raw : Bytes) : addressFrom hash (some raw) =
    if raw.length ≠ 65 ∨ ((raw.getD 64 0).toNat ≠ 27 ∧ (raw.getD 64 0).toNat ≠ 28) then none
    else (RecoverableEcdsa.recoverKey (raw.take 64) ((raw.getD 64 0).toNat - 27) hash).map
      RecoverableEcdsa.addressOf := by
  unfold addressFrom keyOf
  simp only [Option.bind_some]
  by_cases hshape : raw.length = 65 ∧ ((raw.getD 64 0).toNat = 27 ∨ (raw.getD 64 0).toNat = 28)
  · rw [if_pos hshape, if_neg (by omega)]
  · rw [if_neg hshape, if_pos (by omega)]
    rfl

theorem recoverDigest32_eq (digest : Bytes) (signature : String) :
    (SellerAgent.recoverDigest32 digest signature).toOption =
      addressFrom digest (fromhex (removeStart "0x" signature).toList) := by
  unfold SellerAgent.recoverDigest32 bytesFromhex
  cases fromhex (removeStart "0x" signature).toList with
  | none => rfl
  | some raw =>
      rw [addressFrom_some, ok_bind]
      simp only
      split_ifs with hshape
      · rfl
      · cases RecoverableEcdsa.recoverKey (raw.take 64) ((raw.getD 64 0).toNat - 27) digest <;> rfl

theorem recoverSigner_eq (signature : String) (preimage : Bytes) :
    (SellerAgent.recoverSigner signature preimage).toOption =
      if "0x".toList.isPrefixOf signature.toList then
        addressFrom (Digests.keccak256 preimage) (fromhex (signature.toList.drop 2))
      else none := by
  have hbody : (String.ofList (signature.toList.drop 2)).toList = signature.toList.drop 2 :=
    String.toList_ofList
  unfold SellerAgent.recoverSigner bytesFromhex
  rw [hbody]
  cases "0x".toList.isPrefixOf signature.toList with
  | false => rfl
  | true =>
      cases fromhex (signature.toList.drop 2) with
      | none => rfl
      | some raw =>
          rw [addressFrom_some]
          simp only [ok_bind, Bool.not_true, Bool.false_eq_true, if_false, if_true]
          by_cases hlength : raw.length = 65
          · by_cases hv : (raw.getD 64 0).toNat ≠ 27 ∧ (raw.getD 64 0).toNat ≠ 28
            · rw [if_neg (not_not.2 hlength), if_pos hv, if_pos (Or.inr hv)]
              rfl
            · rw [if_neg (not_not.2 hlength), if_neg hv,
                if_neg (not_or.2 ⟨not_not.2 hlength, hv⟩)]
              cases RecoverableEcdsa.recoverKey (raw.take 64) ((raw.getD 64 0).toNat - 27)
                (Digests.keccak256 preimage) with
              | none => rfl
              | some pub => exact congrArg some (SellerAgent.evmAddress_eq pub)
          · rw [if_pos hlength, if_pos (Or.inl hlength)]
            rfl

/-- The runner recovers what the agents recover; only the messages of refusals differ. -/
theorem runner_eq (signature : String) (preimage : Bytes) :
    (recover signature preimage).toOption =
      (SellerAgent.recoverSigner signature preimage).toOption := by
  unfold recover SellerAgent.recoverSigner
  cases "0x".toList.isPrefixOf signature.toList with
  | false => rfl
  | true =>
      simp only [Bool.not_true, Bool.false_eq_true, if_false]
      cases bytesFromhex (String.ofList (signature.toList.drop 2)) with
      | error e => rfl
      | ok raw =>
          simp only [ok_bind]
          split_ifs
          · rfl
          · rfl
          · cases RecoverableEcdsa.recoverKey (raw.take 64) ((raw.getD 64 0).toNat - 27)
              (Digests.keccak256 preimage) <;> rfl

omit [Digests] [RecoverableEcdsa] in
/-- A text of the right number of code units that reads as bytes has 65 of them. -/
theorem length_of_strict {signature : String} {raw : Bytes}
    (hmark : "0x".toList.isPrefixOf signature.toList = true)
    (hraw : ofHex (signature.toList.drop 2) = some raw) :
    (JavaScript.utf16 signature).length = 132 ↔ raw.length = 65 := by
  obtain ⟨hlength, hdigits⟩ := digits_of_ofHex hraw
  obtain ⟨rest, hrest⟩ := List.isPrefixOf_iff_prefix.1 hmark
  have hdrop : signature.toList.drop 2 = rest := by rw [← hrest]; rfl
  rw [hdrop] at hlength hdigits
  have hsmall : ∀ c ∈ signature.toList, c.toNat < 65536 := by
    intro c hc
    rw [← hrest, List.mem_append] at hc
    rcases hc with hc | hc
    · have hmarked : ("0x".toList.all fun c => c.toNat < 65536) = true := by decide
      exact of_decide_eq_true (List.all_eq_true.1 hmarked c hc)
    · have := hexDigit_ascii (hdigits c hc)
      omega
  have hmarkLength : "0x".toList.length = 2 := rfl
  rw [JavaScript.length_utf16 hsmall, ← hrest, List.length_append, hlength, hmarkLength]
  omega

theorem dataSeller_eq (signature : String) (preimage : Bytes) :
    DataSeller.recover signature preimage =
      if "0x".toList.isPrefixOf signature.toList then
        addressFrom (Digests.keccak256 preimage) (ofHex (signature.toList.drop 2))
      else none := by
  unfold DataSeller.recover
  cases hmark : "0x".toList.isPrefixOf signature.toList with
  | false => simp
  | true =>
      have hstrip : (DataSeller.stripStart "0x" signature).toList = signature.toList.drop 2 :=
        removeStart_marked hmark
      unfold DataSeller.fromHex
      rw [hstrip]
      cases hraw : ofHex (signature.toList.drop 2) with
      | none => simp [JavaScript.error, addressFrom]
      | some raw =>
          rw [addressFrom_some]
          have hlength := length_of_strict hmark hraw
          by_cases hlong : raw.length = 65
          · have hunits := hlength.2 hlong
            simp [hunits, hlong]
          · have hunits : (JavaScript.utf16 signature).length ≠ 132 := fun h => hlong (hlength.1 h)
            simp [hunits, hlong]

/-! ## Where the readers agree -/

theorem admitted_iff (signature : String) (hash : Bytes) : Admitted signature hash ↔
    "0x".toList.isPrefixOf signature.toList = true ∧
      (addressFrom hash (ofHex (signature.toList.drop 2))).isSome = true := by
  unfold Admitted addressFrom
  constructor
  · rintro ⟨hspelled, raw, hraw, hkey⟩
    refine ⟨(of_decide_eq_true hspelled).1, ?_⟩
    rw [hraw, Option.isSome_map]
    exact hkey
  · rintro ⟨hmark, hread⟩
    rw [Option.isSome_map] at hread
    cases hraw : ofHex (signature.toList.drop 2) with
    | none =>
        rw [hraw] at hread
        cases hread
    | some raw =>
        rw [hraw] at hread
        have hread : (keyOf hash raw).isSome = true := hread
        have hlong : raw.length = 65 := by
          by_contra hlong
          unfold keyOf at hread
          simp [hlong] at hread
        obtain ⟨hlength, hdigits⟩ := digits_of_ofHex hraw
        refine ⟨decide_eq_true ⟨hmark, ?_, List.all_eq_true.2 hdigits⟩, raw, rfl, hread⟩
        rw [hlength, hlong]

omit [Digests] [RecoverableEcdsa] in
/-- A signature the profile admits has its mark and no white space. -/
theorem strict_of_spelled {signature : String} (h : spelled signature = true) :
    "0x".toList.isPrefixOf signature.toList = true ∧
      ∀ c ∈ signature.toList, isAsciiSpace c = false := by
  obtain ⟨hmark, _, hdigits⟩ := of_decide_eq_true h
  refine ⟨hmark, ?_⟩
  obtain ⟨rest, hrest⟩ := List.isPrefixOf_iff_prefix.1 hmark
  have hdrop : signature.toList.drop 2 = rest := by rw [← hrest]; rfl
  rw [hdrop] at hdigits
  intro c hc
  rw [← hrest, List.mem_append] at hc
  rcases hc with hc | hc
  · have hmarked : ("0x".toList.all fun c => !isAsciiSpace c) = true := by decide
    simpa using List.all_eq_true.1 hmarked c hc
  · refine Bool.eq_false_iff.2 fun hspace => ?_
    have hdigit := List.all_eq_true.1 hdigits c hc
    rw [not_hexDigit_of_space hspace] at hdigit
    cases hdigit

/-- Every reader recovers what the strict one does from a signature with its mark and no
white space. -/
theorem recovered_of_strict {signature : String} {preimage : Bytes}
    (hmark : "0x".toList.isPrefixOf signature.toList = true)
    (hspace : ∀ c ∈ signature.toList, isAsciiSpace c = false) {r : Option String}
    (hr : r ∈ recovered signature preimage) :
    r = addressFrom (Digests.keccak256 preimage) (ofHex (signature.toList.drop 2)) := by
  have hread : fromhex (signature.toList.drop 2) = ofHex (signature.toList.drop 2) :=
    fromhex_eq_ofHex fun c hc => hspace c (List.mem_of_mem_drop hc)
  unfold recovered at hr
  rw [runner_eq, recoverSigner_eq, dataSeller_eq, recoverDigest32_eq, removeStart_marked hmark,
    if_pos hmark, if_pos hmark, hread] at hr
  simpa using hr

/-- No reader recovers an address where the lenient one recovers none. -/
theorem recovered_of_void {signature : String} {preimage : Bytes}
    (hvoid : addressFrom (Digests.keccak256 preimage)
      (fromhex (removeStart "0x" signature).toList) = none) :
    (∀ r ∈ recovered signature preimage, r = none) ∧
      ("0x".toList.isPrefixOf signature.toList = true →
        addressFrom (Digests.keccak256 preimage) (ofHex (signature.toList.drop 2)) = none) := by
  have hstrict (hmark : "0x".toList.isPrefixOf signature.toList = true) :
      addressFrom (Digests.keccak256 preimage) (fromhex (signature.toList.drop 2)) = none ∧
      addressFrom (Digests.keccak256 preimage) (ofHex (signature.toList.drop 2)) = none := by
    rw [removeStart_marked hmark] at hvoid
    refine ⟨hvoid, ?_⟩
    cases hraw : ofHex (signature.toList.drop 2) with
    | none => rfl
    | some raw => rw [← fromhex_of_ofHex hraw, hvoid]
  refine ⟨?_, fun hmark => (hstrict hmark).2⟩
  intro r hr
  unfold recovered at hr
  rw [runner_eq, recoverSigner_eq, dataSeller_eq, recoverDigest32_eq, hvoid] at hr
  by_cases hmark : "0x".toList.isPrefixOf signature.toList = true
  · rw [if_pos hmark, if_pos hmark, (hstrict hmark).1, (hstrict hmark).2] at hr
    simpa using hr
  · rw [if_neg hmark, if_neg hmark] at hr
    simpa using hr

/-- The implementations read one spelling of a signature exactly where the signature has
its mark and no white space, or is void however it is read. -/
theorem oneSpelling_iff (signature : String) (preimage : Bytes) :
    OneSpelling signature preimage ↔ StrictOrVoid signature preimage := by
  have hvoid : (fromhex (removeStart "0x" signature).toList).bind
      (keyOf (Digests.keccak256 preimage)) = none ↔
      addressFrom (Digests.keccak256 preimage)
        (fromhex (removeStart "0x" signature).toList) = none := Option.map_eq_none_iff.symm
  constructor
  · rintro ⟨haccept, _, _⟩
    refine or_iff_not_imp_right.2 fun hkey => ?_
    have hdigest := haccept _ (List.mem_cons_of_mem _ (List.mem_cons_of_mem _ List.mem_cons_self))
    rw [recoverDigest32_eq] at hdigest
    rw [hvoid] at hkey
    exact strict_of_spelled (hdigest.1 (Option.isSome_iff_ne_none.2 hkey)).1
  · rintro (⟨hmark, hspace⟩ | hnone)
    · refine ⟨fun r hr => ?_, fun r hr r' hr' a ha a' ha' => ?_, fun domain type struct h => ?_⟩
      · rw [recovered_of_strict hmark hspace hr, admitted_iff]
        exact (and_iff_right hmark).symm
      · rw [recovered_of_strict hmark hspace hr] at ha
        rw [recovered_of_strict hmark hspace hr'] at ha'
        exact Option.mem_unique ha ha'
      · rw [DataSeller.recoverStruct, h]
        rfl
    · obtain ⟨hall, hstrict⟩ := recovered_of_void (hvoid.1 hnone)
      refine ⟨fun r hr => ?_, fun r hr r' hr' a ha a' ha' => ?_, fun domain type struct h => ?_⟩
      · rw [hall r hr, admitted_iff]
        refine iff_of_false (by simp) ?_
        rintro ⟨hmark, hread⟩
        rw [hstrict hmark] at hread
        cases hread
      · rw [hall r hr] at ha
        cases ha
      · rw [DataSeller.recoverStruct, h]
        rfl

end Recovery

section Demo

attribute [local instance] Digests.checksum RecoverableEcdsa.transparent

/-- A signature with a line break behind it is read by the Python agents. -/
theorem padded_signature_accepted :
    ¬ ∀ signature preimage, OneSpelling signature preimage := by
  intro h
  have haccept := (h (DataSeller.sign [7] [] ++ "\n") []).1
  have hpython := haccept _ (List.mem_cons_of_mem _ List.mem_cons_self)
  have hread : (SellerAgent.recoverSigner (DataSeller.sign [7] [] ++ "\n") []).toOption.isSome =
      true := by decide +kernel
  have hspelled : spelled (DataSeller.sign [7] [] ++ "\n") = false := by decide +kernel
  have hadmitted := (hpython.1 hread).1
  rw [hspelled] at hadmitted
  cases hadmitted

end Demo

end Conformance

end Coordination
