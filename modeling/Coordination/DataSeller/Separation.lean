import Coordination.DataSeller.Extension

/-!
# What a signature covers

The byte strings that are signed, family by family. Every family has a tag of its
own and no tag is the beginning of another, so a byte string belongs to one family
at most; and within a family the bytes determine what is signed.
-/

namespace Coordination

namespace DataSeller

open JavaScript Library

/-- Two values hold the same data: equal as JSON, up to the order of members. -/
def SameData (v w : Value) : Prop :=
  (jsonOf v).Same (jsonOf w)

/-- Values with one canonical form hold the same data. -/
def CanonicalForms [Canonicalize] : Prop :=
  ∀ v w s, Canonicalize.canonicalize v = .ok (some s) →
    Canonicalize.canonicalize w = .ok (some s) → SameData v w

inductive Family where
  | terms
  | command
  | envelope
  | receipt
  | proof
  | deliveryRequest
  | settlement
  deriving DecidableEq

namespace Family

/-- What the bytes of a family begin with. -/
def tag : Family → Bytes
  | terms => utf8 DomainTag.terms.text
  | command => utf8 DomainTag.command.text
  | envelope => utf8 DomainTag.funding.text
  | receipt => utf8 DomainTag.receipt.text
  | proof => utf8 proofTag
  | deliveryRequest => utf8 deliveryRequestTag
  | settlement => [0x19, 0x01]

/-- No tag is the beginning of another. -/
theorem eq_of_tag_begins {f g : Family} (h : f.tag <+: g.tag) : f = g := by
  by_contra hne
  suffices hno : f.tag.isPrefixOf g.tag = false by
    rw [List.isPrefixOf_iff_prefix.2 h] at hno
    cases hno
  cases f <;> cases g <;> first | exact absurd rfl hne | decide +kernel

/-- A byte string begins with one tag at most. -/
theorem eq_of_tagged {f g : Family} {as bs : Bytes} (h : f.tag ++ as = g.tag ++ bs) : f = g := by
  have hf : f.tag <+: g.tag ++ bs := ⟨as, h⟩
  have hg : g.tag <+: g.tag ++ bs := List.prefix_append _ _
  rcases List.prefix_or_prefix_of_prefix hf hg with h | h
  · exact eq_of_tag_begins h
  · exact (eq_of_tag_begins h).symm

end Family

/-- What is signed. -/
inductive Signed where
  | terms (termsHash : String)
  | command (command : Value)
  | envelope (envelope : Value)
  | receipt (receipt : Value)
  | proof (proofHash : String)
  | deliveryRequest (dealId : String) (requestedAt : Number)
  | settlement (domain : Eip712Domain) (type : SettlementStruct) (struct : Struct)

def Signed.family : Signed → Family
  | .terms _ => .terms
  | .command _ => .command
  | .envelope _ => .envelope
  | .receipt _ => .receipt
  | .proof _ => .proof
  | .deliveryRequest .. => .deliveryRequest
  | .settlement .. => .settlement

section Primitives

variable [Digests] [Canonicalize]

/-- The bytes a signature covers. -/
def Signed.bytes : Signed → Except Failure Bytes
  | .terms termsHash => .ok (termsSigningBytes termsHash)
  | .command c => commandSigningBytes c
  | .envelope e => envelopeSigningBytes e
  | .receipt r => receiptSigningBytes r
  | .proof proofHash => .ok (proofSigningBytes proofHash)
  | .deliveryRequest dealId requestedAt => deliveryRequestSigningBytes dealId requestedAt
  | .settlement domain type struct => signingPreimage domain type struct

omit [Digests] in
/-- The objects hold the same data once some members are left out. -/
def SameWithout (ks : List String) (v w : Value) : Prop :=
  ∃ v' w', without ks v = .ok v' ∧ without ks w = .ok w' ∧ SameData v' w'

/-- What two signatures of one family cover is the same. A terms signature covers the
hash, and with it every contract that has this hash. -/
def SameContent : Signed → Signed → Prop
  | .terms h, .terms h' => h = h' ∧ ∀ contract contract', termsHashOf contract = .ok h →
      termsHashOf contract' = .ok h' → SameWithout ["signatures", "termsHash"] contract contract'
  | .command c, .command c' => SameWithout ["signature"] c c'
  | .envelope e, .envelope e' => SameWithout ["signature"] e e'
  | .receipt r, .receipt r' => ∀ k ∈ receiptSignedFields, ∃ x y,
      prop (some r) k = .ok x ∧ prop (some r') k = .ok y ∧ Option.Rel SameData x y
  | .proof h, .proof h' => h = h'
  | .deliveryRequest d t, .deliveryRequest d' t' => d = d' ∧ SameData (.num t) (.num t')
  | .settlement .., .settlement .. => True
  | _, _ => False

/-! ## One family -/

omit [Canonicalize] in
theorem tagged_of_signingPreimage {domain : Eip712Domain} {type : SettlementStruct}
    {struct : Struct} {p : Bytes} (h : signingPreimage domain type struct = .ok p) :
    ∃ body, p = [0x19, 0x01] ++ body := by
  obtain ⟨separator, _, h⟩ := bind_eq_ok.1 h
  obtain ⟨hash, _, h⟩ := bind_eq_ok.1 h
  cases h
  exact ⟨separator ++ hash, List.append_assoc _ _ _⟩

omit [Digests] in
/-- A tagged canonical form, taken apart. -/
theorem tagged_bind {tag p : Bytes} {x : Except Failure Value}
    (h : (do return tag ++ (← jcs (← x))) = .ok p) :
    ∃ v body, x = .ok v ∧ jcs v = .ok body ∧ p = tag ++ body := by
  obtain ⟨v, hv, h⟩ := bind_eq_ok.1 h
  obtain ⟨body, hbody, h⟩ := bind_eq_ok.1 h
  cases h
  exact ⟨v, body, hv, hbody, rfl⟩

omit [Digests] in
theorem tagged_of_receipt {r : Value} {p : Bytes} (h : receiptSigningBytes r = .ok p) :
    ∃ v body, receiptSigned r = .ok v ∧ jcs v = .ok body ∧
      p = utf8 DomainTag.receipt.text ++ body := by
  obtain ⟨body, hbody, h⟩ := bind_eq_ok.1 h
  obtain ⟨v, hv, hbody⟩ := bind_eq_ok.1 hbody
  cases h
  exact ⟨v, body, hv, hbody, rfl⟩

theorem tagged_of_bytes {a : Signed} {p : Bytes} (h : a.bytes = .ok p) :
    ∃ body, p = a.family.tag ++ body := by
  cases a with
  | terms termsHash =>
      cases h
      exact ⟨_, rfl⟩
  | proof proofHash =>
      cases h
      exact ⟨_, rfl⟩
  | command c =>
      obtain ⟨_, body, _, _, h⟩ := tagged_bind h
      exact ⟨body, h⟩
  | envelope e =>
      obtain ⟨_, body, _, _, h⟩ := tagged_bind h
      exact ⟨body, h⟩
  | receipt r =>
      obtain ⟨_, body, _, _, h⟩ := tagged_of_receipt h
      exact ⟨body, h⟩
  | deliveryRequest dealId requestedAt =>
      obtain ⟨_, body, _, _, h⟩ := tagged_bind (x := .ok (deliveryRequest dealId requestedAt)) h
      exact ⟨body, h⟩
  | settlement domain type struct => exact tagged_of_signingPreimage h

/-- A byte string is signed in one family at most. -/
theorem family_eq_of_bytes {a b : Signed} {p : Bytes} (ha : a.bytes = .ok p)
    (hb : b.bytes = .ok p) : a.family = b.family := by
  obtain ⟨as, rfl⟩ := tagged_of_bytes ha
  obtain ⟨bs, h⟩ := tagged_of_bytes hb
  exact Family.eq_of_tagged h

/-! ## One content -/

omit [Digests] in
theorem sameData_of_jcs (hcanonical : CanonicalForms) {v w : Value} {p : Bytes}
    (hv : jcs v = .ok p) (hw : jcs w = .ok p) : SameData v w := by
  unfold jcs at hv hw
  cases hv' : Canonicalize.canonicalize v with
  | error e => simp [hv', error] at hv
  | ok s =>
      cases hw' : Canonicalize.canonicalize w with
      | error e => simp [hw', error] at hw
      | ok t =>
          cases s with
          | none => simp [hv', error] at hv
          | some s =>
              cases t with
              | none => simp [hw', error] at hw
              | some t =>
                  simp only [hv', hw', Except.ok.injEq] at hv hw
                  have hst : s = t := utf8_injective (hv.trans hw.symm)
                  exact hcanonical v w s hv' (hst ▸ hw')

omit [Digests] in
/-- The tagged form of a value determines its data. -/
theorem sameData_of_tagged (hcanonical : CanonicalForms) {tag p : Bytes}
    {x y : Except Failure Value} (hx : (do return tag ++ (← jcs (← x))) = .ok p)
    (hy : (do return tag ++ (← jcs (← y))) = .ok p) :
    ∃ v w, x = .ok v ∧ y = .ok w ∧ SameData v w := by
  obtain ⟨v, as, hv, hjcs, rfl⟩ := tagged_bind hx
  obtain ⟨w, bs, hw, hjcs', h⟩ := tagged_bind hy
  obtain rfl := List.append_cancel_left h
  exact ⟨v, w, hv, hw, sameData_of_jcs hcanonical hjcs hjcs'⟩

/-- Contracts with one hash hold the same data, but for signatures and declared hash. -/
theorem sameWithout_of_termsHash (hcanonical : CanonicalForms)
    (hsha : Function.Injective (Digests.sha256 : Bytes → Bytes)) {v w : Value} {h : String}
    (hv : termsHashOf v = .ok h) (hw : termsHashOf w = .ok h) :
    SameWithout ["signatures", "termsHash"] v w := by
  obtain ⟨v', hv', hv⟩ := bind_eq_ok.1 hv
  obtain ⟨as, has, hv⟩ := bind_eq_ok.1 hv
  obtain ⟨w', hw', hw⟩ := bind_eq_ok.1 hw
  obtain ⟨bs, hbs, hw⟩ := bind_eq_ok.1 hw
  cases hv
  obtain rfl := (Digests.sha256Ref_inj hsha).1 (Except.ok.inj hw)
  exact ⟨v', w', hv', hw', sameData_of_jcs hcanonical has hbs⟩

/-! ### Receipts -/

omit [Digests] [Canonicalize] in
theorem lookup_filterMap {α : Type} {f : String → Option α} {ks : List String} (k : String) :
    (ks.filterMap fun k => (f k).map fun v => (k, v)).lookup k = if k ∈ ks then f k else none := by
  induction ks with
  | nil => rfl
  | cons k' ks ih =>
      rw [List.filterMap_cons]
      cases hf : f k' with
      | none =>
          simp only [Option.map_none, ih, List.mem_cons]
          by_cases hk : k = k'
          · subst hk
            simp [hf]
          · simp [hk]
      | some v =>
          simp only [Option.map_some, List.lookup_cons, ih, List.mem_cons]
          by_cases hk : k = k'
          · subst hk
            simp [hf]
          · have hne : (k == k') = false := by simpa using hk
            simp [hk, hne]

/-- The members of a receipt that are read one by one. -/
def signedMember (r : Value) (k : String) : Option Value :=
  (prop (some r) k).toOption.getD none

omit [Digests] [Canonicalize] in
theorem signedMember_eq {r : Value} {k : String} {x : Option Value} (h : prop (some r) k = .ok x) :
    signedMember r k = x := by
  rw [signedMember, h]
  rfl

omit [Digests] [Canonicalize] in
/-- The signed members of a receipt are its own. -/
theorem receiptSigned_eq {r v : Value} (h : receiptSigned r = .ok v) :
    (∀ k ∈ receiptSignedFields, prop (some r) k = .ok (signedMember r k)) ∧
      v = .obj (receiptSignedFields.filterMap fun k => (signedMember r k).map fun v => (k, v)) := by
  obtain ⟨ms, hms, h⟩ := bind_eq_ok.1 h
  cases h
  have hread := forall₂_of_mapM_eq_ok hms
  generalize receiptSignedFields = ks at hread ⊢
  clear hms h
  induction hread with
  | nil => exact ⟨by simp, rfl⟩
  | @cons k m ks ms hk _ ih =>
      obtain ⟨x, hx, hm⟩ := bind_eq_ok.1 hk
      cases hm
      have hf := signedMember_eq hx
      refine ⟨List.forall_mem_cons.2 ⟨by rw [hf, hx], ih.1⟩, ?_⟩
      have hms := Json.obj.inj ih.2
      unfold List.reduceOption at hms ⊢
      rw [List.filterMap_cons, List.filterMap_cons, hf, ← hms]
      cases x <;> rfl

omit [Digests] [Canonicalize] in
theorem lookup_jsonMembers (ms : List (String × Value)) (k : String) :
    (jsonOf.members ms).lookup k = (ms.lookup k).map jsonOf := by
  induction ms with
  | nil => rfl
  | cons m ms ih =>
      obtain ⟨k', v⟩ := m
      rw [jsonOf.members, List.lookup_cons, List.lookup_cons, ih]
      cases k == k' <;> rfl

omit [Digests] [Canonicalize] in
/-- Objects with the same data have the same data under every name. -/
theorem sameData_lookup {ms ns : List (String × Value)} (h : SameData (.obj ms) (.obj ns))
    (k : String) : Option.Rel SameData (ms.lookup k) (ns.lookup k) := by
  have hk := Json.same_obj_iff.1 h k
  rw [lookup_jsonMembers, lookup_jsonMembers] at hk
  cases hm : ms.lookup k <;> cases hn : ns.lookup k <;> rw [hm, hn] at hk
  · exact .none
  · cases hk
  · cases hk
  · cases hk with
    | some h => exact .some h

omit [Digests] in
/-- Receipts signed over one byte string have the same signed members. -/
theorem sameContent_of_receipts (hcanonical : CanonicalForms) {r r' : Value} {p : Bytes}
    (hr : receiptSigningBytes r = .ok p) (hr' : receiptSigningBytes r' = .ok p) :
    ∀ k ∈ receiptSignedFields, ∃ x y, prop (some r) k = .ok x ∧ prop (some r') k = .ok y ∧
      Option.Rel SameData x y := by
  obtain ⟨v, as, hv, hjcs, rfl⟩ := tagged_of_receipt hr
  obtain ⟨w, bs, hw, hjcs', h⟩ := tagged_of_receipt hr'
  obtain rfl := List.append_cancel_left h
  have hsame := sameData_of_jcs hcanonical hjcs hjcs'
  obtain ⟨hread, rfl⟩ := receiptSigned_eq hv
  obtain ⟨hread', rfl⟩ := receiptSigned_eq hw
  intro k hk
  have hlookup := sameData_lookup hsame k
  rw [lookup_filterMap, lookup_filterMap, if_pos hk, if_pos hk] at hlookup
  exact ⟨signedMember r k, signedMember r' k, hread k hk, hread' k hk, hlookup⟩

/-! ## Separation -/

/-- Within a family the signed bytes determine what is signed. -/
theorem sameContent_of_bytes (hcanonical : CanonicalForms)
    (hsha : Function.Injective (Digests.sha256 : Bytes → Bytes)) {a b : Signed} {p : Bytes}
    (ha : a.bytes = .ok p) (hb : b.bytes = .ok p) : SameContent a b := by
  have hfamily := family_eq_of_bytes ha hb
  cases a <;> cases b <;> try cases hfamily
  case terms.terms h h' =>
    cases ha
    obtain rfl := utf8_injective (List.append_cancel_left (Except.ok.inj hb))
    exact ⟨rfl, fun _ _ hv hw => sameWithout_of_termsHash hcanonical hsha hv hw⟩
  case command.command => exact sameData_of_tagged hcanonical ha hb
  case envelope.envelope => exact sameData_of_tagged hcanonical ha hb
  case receipt.receipt => exact sameContent_of_receipts hcanonical ha hb
  case proof.proof h h' =>
    cases ha
    exact (utf8_injective (List.append_cancel_left (Except.ok.inj hb))).symm
  case deliveryRequest.deliveryRequest d t d' t' =>
    obtain ⟨v, w, hv, hw, hsame⟩ := sameData_of_tagged hcanonical
      (x := .ok (deliveryRequest d t)) (y := .ok (deliveryRequest d' t')) ha hb
    cases hv
    cases hw
    have hdeal := sameData_lookup hsame "dealId"
    have htime := sameData_lookup hsame "requestedAt"
    cases hdeal with
    | some hdeal =>
        cases htime with
        | some htime => exact ⟨(Json.str.inj (Json.same_str_iff.1 hdeal)).symm, htime⟩
  case settlement.settlement => trivial

/-- The signature recovers the address on one message at most. -/
def OneMessage [RecoverableEcdsa] (signature address : String) : Prop :=
  ∀ p q, recover signature p = some address → recover signature q = some address → p = q

/-- Byte strings signed in two families differ, so that a signature over the one is not
a signature over the other; and within a family they determine what is signed. -/
theorem signed_bytes_separate [RecoverableEcdsa] (hcanonical : CanonicalForms)
    (hsha : Function.Injective (Digests.sha256 : Bytes → Bytes)) (a b : Signed) {p q : Bytes}
    (ha : a.bytes = .ok p) (hb : b.bytes = .ok q) :
    (a.family ≠ b.family → p ≠ q ∧ ∀ signature address, OneMessage signature address →
      recover signature p = some address → recover signature q ≠ some address) ∧
    (p = q → SameContent a b) := by
  constructor
  · intro hne
    have hpq : p ≠ q := by
      rintro rfl
      exact hne (family_eq_of_bytes ha hb)
    exact ⟨hpq, fun signature address hone hp hq => hpq (hone p q hp hq)⟩
  · rintro rfl
    exact sameContent_of_bytes hcanonical hsha ha hb

end Primitives

/-! ### Canonical forms that keep every value -/

/-- Numbers spelled by their bits. -/
def bitText : NumberText Number where
  text x := Nat.toDigits 10 x.toModel.toBits.toNat
  ne_nil x := Nat.toDigits_ne_nil
  chars x c hc := by
    have hdigit := Nat.isDigit_of_mem_toDigits (by decide) (by decide) hc
    simp [isNumberChar, hdigit]

theorem bitText_injective : Function.Injective bitText.text := by
  intro x y h
  have hbits := congrArg (fun ds => Nat.ofDigitChars 10 ds 0) h
  simp only [bitText, Nat.ofDigitChars_ten_toDigits] at hbits
  exact eq_of_toBits hbits

/-- Canonical forms by which every value can be told from every other. -/
@[reducible] def Canonicalize.verbatim : Canonicalize where
  canonicalize v := .ok (some (String.ofList (Json.text bitText v)))

theorem verbatim_canonicalForms : @CanonicalForms Canonicalize.verbatim := by
  intro v w s hv hw
  have htext : String.ofList (Json.text bitText v) = String.ofList (Json.text bitText w) :=
    (Option.some.inj (Except.ok.inj hv)).trans (Option.some.inj (Except.ok.inj hw)).symm
  obtain rfl := Json.text_injective bitText_injective (String.ofList_injective htext)
  exact Json.Same.refl _

section Demo

attribute [local instance] Digests.ideal Canonicalize.verbatim RecoverableEcdsa.transparent

/-- A command with and without a signature is signed over the same bytes. -/
theorem signed_bytes_separate_demo :
    SameContent (.command (.obj [("schema", .str "x")]))
      (.command (.obj [("schema", .str "x"), ("signature", .str "0x")])) :=
  (signed_bytes_separate verbatim_canonicalForms (fun _ _ h => h)
    (.command (.obj [("schema", .str "x")]))
    (.command (.obj [("schema", .str "x"), ("signature", .str "0x")])) rfl rfl).2 rfl

end Demo

end DataSeller

end Coordination
