import Coordination.Conformance.Runner
import Coordination.DataSeller.Separation
import Coordination.JavaScript.Printed
import Coordination.SellerAgent.Signing

/-!
# Receipt preimages

The data seller, the Python agents and the conformance runner cut the same nine members out of
a receipt. The two Python programs leave out what is `None`; the data seller leaves out what is
absent, and signs a `null`.
-/

namespace Coordination

namespace Conformance

open Library

/-! ## Documents -/

/-- A number literal: an integer, or digits with an exponent where it has a fraction or one. -/
structure Literal where
  negative : Bool
  digits : ℕ
  exponent : Option ℤ

/-- `x`, or `-x` behind a minus sign. -/
def signed (negative : Bool) (x : Float) : Float :=
  if negative then -x else x

/-- The number `JSON.parse` makes of a literal. -/
def Literal.toNumber (l : Literal) : JavaScript.Number :=
  signed l.negative (JavaScript.Number.ofDecimal l.digits (l.exponent.getD 0))

/-- The number `json.loads` makes of a literal. -/
def Literal.toPyNumber (l : Literal) : Python.PyNumber :=
  match l.exponent with
  | none => .int (if l.negative then -l.digits else l.digits)
  | some e => .float (signed l.negative (JavaScript.Number.ofDecimal l.digits e))

/-- An integer literal within the range that binary64 holds exactly. -/
def Literal.Safe (l : Literal) : Prop :=
  l.exponent = none → l.digits ≤ 9007199254740991

/-- A JSON document. -/
abbrev Document := Json Literal

/-- `JSON.parse`. -/
def parsed (d : Document) : JavaScript.Value :=
  d.mapNum Literal.toNumber

/-- `json.loads`. -/
def loaded (d : Document) : Python.PyValue :=
  d.mapNum Literal.toPyNumber

/-! ## Canonical forms -/

/-- The two packages give one document the same form, and documents with different data
different ones. The one refuses numbers out of range, the other also integers that are not
safe. -/
structure OneForm [DataSeller.Canonicalize] [SellerAgent.Rfc8785] : Prop where
  canonicalizes : ∀ d : Document, d.Distinct →
    ((∃ s, DataSeller.Canonicalize.canonicalize (parsed d) = .ok (some s)) ↔
      DataSeller.allFinite (parsed d) = true)
  dumps : ∀ d : Document, d.Distinct →
    ((∃ b, SellerAgent.Rfc8785.dumps (loaded d) = .ok b) ↔
      DataSeller.allFinite (parsed d) = true ∧ d.Each Literal.Safe)
  same : ∀ (d e : Document) s b, d.Distinct → e.Distinct →
    DataSeller.Canonicalize.canonicalize (parsed d) = .ok (some s) →
    SellerAgent.Rfc8785.dumps (loaded e) = .ok b →
      (utf8 s = b ↔ DataSeller.SameData (parsed d) (parsed e))

/-! ## The three preimages -/

/-- `receiptSignedFields` of the vectors' `index.json`. -/
def indexReceiptSignedFields : List String :=
  ["schema", "receiptId", "dealId", "commandId", "commandHash", "fromState", "toState",
    "revision", "recordedAt"]

/-- The preimage `run_receipts` builds. -/
def receiptPreimage [SellerAgent.Rfc8785] (inp : Python.PyValue) :
    Except Python.Failure Bytes := do
  return utf8 "kite:a2a-agreement:receipt:v1" ++
    (← SellerAgent.Rfc8785.dumps (← SellerAgent.presentMembers indexReceiptSignedFields inp))

section Preimages

variable [DataSeller.Canonicalize] [SellerAgent.Rfc8785]

/-- The bytes the data seller signs and verifies a receipt over. -/
def sellerBytes (ms : List (String × Document)) : Option Bytes :=
  (DataSeller.receiptSigningBytes (parsed (.obj ms))).toOption

/-- The bytes the Python agents verify a receipt over. -/
def agentBytes (ms : List (String × Document)) : Option Bytes :=
  (SellerAgent.receiptPreimage (loaded (.obj ms))).toOption

/-- The bytes the conformance runner verifies a receipt over. -/
def runnerBytes (ms : List (String × Document)) : Option Bytes :=
  (receiptPreimage (loaded (.obj ms))).toOption

def isNull : Document → Bool
  | .null => true
  | _ => false

/-- The receipt without the command members that are `null`. -/
def withoutNullCommand (ms : List (String × Document)) : List (String × Document) :=
  ms.filter fun m => !(decide (m.1 ∈ ["commandId", "commandHash"]) && isNull m.2)

/-- The three implementations agree on a receipt: they build the same bytes, from the nine signed
members only, and leave out a command member that is `null`. -/
structure Agree (ms : List (String × Document)) : Prop where
  same : sellerBytes ms = agentBytes ms ∧ agentBytes ms = runnerBytes ms
  signedOnly : ∀ ns : List (String × Document),
    (∀ k ∈ DataSeller.receiptSignedFields, ns.lookup k = ms.lookup k) →
      sellerBytes ns = sellerBytes ms ∧ agentBytes ns = agentBytes ms ∧
        runnerBytes ns = runnerBytes ms
  omitted : sellerBytes (withoutNullCommand ms) = sellerBytes ms ∧
    agentBytes (withoutNullCommand ms) = agentBytes ms ∧
    runnerBytes (withoutNullCommand ms) = runnerBytes ms

/-- The members of the receipt that are there. -/
def presentFields (ms : List (String × Document)) : List (String × Document) :=
  DataSeller.receiptSignedFields.filterMap fun k => (ms.lookup k).map fun v => (k, v)

/-- The members of the receipt that are there and not `null`. -/
def valuedFields (ms : List (String × Document)) : List (String × Document) :=
  DataSeller.receiptSignedFields.filterMap fun k =>
    ((ms.lookup k).filter fun v => !isNull v).map fun v => (k, v)

omit [DataSeller.Canonicalize] [SellerAgent.Rfc8785] in
theorem parsed_obj (ms : List (String × Document)) :
    parsed (.obj ms) = .obj (ms.map fun m => (m.1, parsed m.2)) :=
  Json.mapNum_obj _ _

omit [DataSeller.Canonicalize] [SellerAgent.Rfc8785] in
theorem loaded_obj (ms : List (String × Document)) :
    loaded (.obj ms) = .obj (ms.map fun m => (m.1, loaded m.2)) :=
  Json.mapNum_obj _ _

omit [DataSeller.Canonicalize] [SellerAgent.Rfc8785] in
/-- The data seller signs what is there. -/
theorem receiptSigned_parsed (ms : List (String × Document)) :
    DataSeller.receiptSigned (parsed (.obj ms)) = .ok (parsed (.obj (presentFields ms))) := by
  have hread (k : String) : JavaScript.prop (some (parsed (.obj ms))) k =
      .ok ((ms.lookup k).map parsed) := by
    rw [parsed_obj]
    exact congrArg Except.ok (Json.lookup_map parsed k ms)
  have hfields (ks : List String) : ks.mapM (fun k => do
      return (← JavaScript.prop (some (parsed (.obj ms))) k).map fun v => (k, v)) =
        (.ok (ks.map fun k => (ms.lookup k).map fun v => (k, parsed v)) :
          Except JavaScript.Failure _) := by
    induction ks with
    | nil => rfl
    | cons k ks ih =>
        rw [List.mapM_cons, ih, hread, ok_bind, List.map_cons]
        cases ms.lookup k <;> rfl
  rw [DataSeller.receiptSigned, hfields, ok_bind, parsed_obj, presentFields]
  refine congrArg (fun ns => Except.ok (Json.obj ns)) ?_
  unfold List.reduceOption
  rw [List.filterMap_map, List.map_filterMap]
  refine List.filterMap_congr fun k _ => ?_
  cases h : ms.lookup k <;> simp [h]

omit [DataSeller.Canonicalize] [SellerAgent.Rfc8785] in
/-- The Python programs sign what is there and not `None`. -/
theorem presentMembers_loaded (ms : List (String × Document)) :
    SellerAgent.presentMembers DataSeller.receiptSignedFields (loaded (.obj ms)) =
      .ok (loaded (.obj (valuedFields ms))) := by
  rw [loaded_obj, loaded_obj, valuedFields, SellerAgent.presentMembers]
  refine congrArg (fun ns => Except.ok (Json.obj ns)) ?_
  rw [List.map_filterMap]
  refine List.filterMap_congr fun k _ => ?_
  rw [Json.lookup_map]
  cases ms.lookup k with
  | none => rfl
  | some v => cases v <;> rfl

omit [SellerAgent.Rfc8785] in
theorem sellerBytes_eq (ms : List (String × Document)) :
    sellerBytes ms = (DataSeller.jcs (parsed (.obj (presentFields ms)))).toOption.map
      (utf8 DataSeller.DomainTag.receipt.text ++ ·) := by
  rw [sellerBytes, DataSeller.receiptSigningBytes, DataSeller.receiptSignedPreimage,
    receiptSigned_parsed, ok_bind]
  cases DataSeller.jcs _ <;> rfl

omit [DataSeller.Canonicalize] in
theorem agentBytes_eq (ms : List (String × Document)) :
    agentBytes ms = (SellerAgent.Rfc8785.dumps (loaded (.obj (valuedFields ms)))).toOption.map
      (SellerAgent.receiptDomainTag ++ ·) := by
  have hmembers := presentMembers_loaded ms
  rw [agentBytes, SellerAgent.receiptPreimage,
    show SellerAgent.receiptSignedFields = DataSeller.receiptSignedFields from rfl, hmembers,
    ok_bind]
  cases SellerAgent.Rfc8785.dumps _ <;> rfl

omit [DataSeller.Canonicalize] in
theorem runnerBytes_eq (ms : List (String × Document)) : runnerBytes ms = agentBytes ms :=
  rfl

/-! ## When they agree -/

omit [DataSeller.Canonicalize] [SellerAgent.Rfc8785] in
theorem isNull_iff {d : Document} : isNull d = true ↔ d = .null := by
  cases d <;> simp [isNull]

omit [DataSeller.Canonicalize] [SellerAgent.Rfc8785] in
/-- Names looked up one by one stay distinct. -/
theorem nodup_fields {ks : List String} (hks : ks.Nodup) (f : String → Option Document) :
    ((ks.filterMap fun k => (f k).map fun v => (k, v)).map Prod.fst).Nodup := by
  have hsub : ((ks.filterMap fun k => (f k).map fun v => (k, v)).map Prod.fst).Sublist ks := by
    induction ks with
    | nil => exact .slnil
    | cons k ks ih =>
        rw [List.filterMap_cons]
        cases f k with
        | none => exact (ih (List.nodup_cons.1 hks).2).cons _
        | some v => exact (ih (List.nodup_cons.1 hks).2).cons_cons _
  exact hsub.nodup hks

omit [DataSeller.Canonicalize] [SellerAgent.Rfc8785] in
theorem mem_presentFields {ms : List (String × Document)} {m : String × Document} :
    m ∈ presentFields ms ↔ m.1 ∈ DataSeller.receiptSignedFields ∧ ms.lookup m.1 = some m.2 := by
  obtain ⟨k, v⟩ := m
  simp only [presentFields, List.mem_filterMap, Option.map_eq_some_iff, Prod.mk.injEq]
  constructor
  · rintro ⟨k', hk', w, hw, rfl, rfl⟩
    exact ⟨hk', hw⟩
  · rintro ⟨hk, hv⟩
    exact ⟨k, hk, v, hv, rfl, rfl⟩

omit [DataSeller.Canonicalize] [SellerAgent.Rfc8785] in
theorem mem_valuedFields {ms : List (String × Document)} {m : String × Document} :
    m ∈ valuedFields ms ↔ m ∈ presentFields ms ∧ m.2 ≠ .null := by
  obtain ⟨k, v⟩ := m
  simp only [mem_presentFields, valuedFields, List.mem_filterMap, Option.map_eq_some_iff,
    Prod.mk.injEq, Option.filter_eq_some_iff, Bool.not_eq_true']
  constructor
  · rintro ⟨k', hk', w, ⟨hw, hnull⟩, rfl, rfl⟩
    refine ⟨⟨hk', hw⟩, ?_⟩
    rintro rfl
    cases hnull
  · rintro ⟨⟨hk, hv⟩, hnull⟩
    refine ⟨k, hk, v, ⟨hv, ?_⟩, rfl, rfl⟩
    rw [Bool.eq_false_iff, ne_eq, isNull_iff]
    exact hnull

omit [DataSeller.Canonicalize] [SellerAgent.Rfc8785] in
theorem distinct_presentFields {ms : List (String × Document)}
    (h : (Json.obj ms).Distinct) : (Json.obj (presentFields ms)).Distinct := by
  refine .obj (nodup_fields (by decide) _) fun m hm => ?_
  exact (Json.distinct_obj.1 h).2 _ (Json.mem_of_lookup (mem_presentFields.1 hm).2)

omit [DataSeller.Canonicalize] [SellerAgent.Rfc8785] in
theorem distinct_valuedFields {ms : List (String × Document)}
    (h : (Json.obj ms).Distinct) : (Json.obj (valuedFields ms)).Distinct := by
  refine .obj (nodup_fields (by decide) _) fun m hm => ?_
  exact (Json.distinct_obj.1 (distinct_presentFields h)).2 m (mem_valuedFields.1 hm).1

omit [DataSeller.Canonicalize] [SellerAgent.Rfc8785] in
/-- A `null` more or less does not change which numbers there are. -/
theorem allFinite_valuedFields (ms : List (String × Document)) :
    DataSeller.allFinite (parsed (.obj (valuedFields ms))) =
      DataSeller.allFinite (parsed (.obj (presentFields ms))) := by
  rw [parsed_obj, parsed_obj, DataSeller.allFinite_obj, DataSeller.allFinite_obj, Bool.eq_iff_iff]
  simp only [List.all_map, List.all_eq_true, mem_valuedFields, and_imp]
  constructor
  · intro h m hm
    by_cases hnull : m.2 = .null
    · rw [Function.comp_apply, hnull]
      rfl
    · exact h m hm hnull
  · exact fun h m hm _ => h m hm

omit [DataSeller.Canonicalize] [SellerAgent.Rfc8785] in
theorem each_valuedFields {p : Literal → Prop} (ms : List (String × Document)) :
    (Json.obj (valuedFields ms)).Each p ↔ (Json.obj (presentFields ms)).Each p := by
  simp only [Json.each_obj, mem_valuedFields, and_imp]
  constructor
  · intro h m hm
    by_cases hnull : m.2 = .null
    · rw [hnull]
      exact .null
    · exact h m hm hnull
  · exact fun h m hm _ => h m hm

omit [DataSeller.Canonicalize] [SellerAgent.Rfc8785] in
theorem valuedFields_eq {ms : List (String × Document)}
    (h : ∀ k ∈ DataSeller.receiptSignedFields, ms.lookup k ≠ some .null) :
    valuedFields ms = presentFields ms := by
  refine List.filterMap_congr fun k hk => ?_
  cases hv : ms.lookup k with
  | none => rfl
  | some v =>
      have hnull : isNull v = false := by
        rw [Bool.eq_false_iff, ne_eq, isNull_iff]
        rintro rfl
        exact h k hk hv
      simp [hnull]

section Forms

variable {ms : List (String × Document)}

/-- What the three implementations need to agree on a receipt: among the nine signed members,
unless a number is out of range anyway, no integer that is not safe and no `null`. -/
def Portable (ms : List (String × Document)) : Prop :=
  DataSeller.allFinite (parsed (.obj (presentFields ms))) = true →
    (Json.obj (presentFields ms)).Each Literal.Safe ∧
      ∀ k ∈ DataSeller.receiptSignedFields, ms.lookup k ≠ some .null

theorem sellerBytes_of_finite (hforms : OneForm) (hms : (Json.obj ms).Distinct)
    (hfinite : DataSeller.allFinite (parsed (.obj (presentFields ms))) = true) :
    ∃ s, DataSeller.Canonicalize.canonicalize (parsed (.obj (presentFields ms))) = .ok (some s) ∧
      sellerBytes ms = some (SellerAgent.receiptDomainTag ++ utf8 s) := by
  obtain ⟨s, hs⟩ := (hforms.canonicalizes _ (distinct_presentFields hms)).2 hfinite
  refine ⟨s, hs, ?_⟩
  rw [sellerBytes_eq, DataSeller.jcs, hs]
  rfl

theorem sellerBytes_of_not_finite (hforms : OneForm) (hms : (Json.obj ms).Distinct)
    (hfinite : DataSeller.allFinite (parsed (.obj (presentFields ms))) ≠ true) :
    sellerBytes ms = none := by
  have hnone := mt (hforms.canonicalizes _ (distinct_presentFields hms)).1 hfinite
  rw [sellerBytes_eq, DataSeller.jcs]
  cases hs : DataSeller.Canonicalize.canonicalize (parsed (.obj (presentFields ms))) with
  | error e => rfl
  | ok s =>
      cases s with
      | none => rfl
      | some s => exact absurd ⟨s, hs⟩ hnone

theorem agentBytes_of_safe (hforms : OneForm) (hms : (Json.obj ms).Distinct)
    (hfinite : DataSeller.allFinite (parsed (.obj (presentFields ms))) = true)
    (hsafe : (Json.obj (presentFields ms)).Each Literal.Safe) :
    ∃ b, SellerAgent.Rfc8785.dumps (loaded (.obj (valuedFields ms))) = .ok b ∧
      agentBytes ms = some (SellerAgent.receiptDomainTag ++ b) := by
  obtain ⟨b, hb⟩ := (hforms.dumps _ (distinct_valuedFields hms)).2
    ⟨(allFinite_valuedFields ms).trans hfinite, (each_valuedFields ms).2 hsafe⟩
  refine ⟨b, hb, ?_⟩
  rw [agentBytes_eq, hb]
  rfl

/-- A receipt the Python agents have bytes for has safe integers, and numbers in range. -/
theorem safe_of_agentBytes (hforms : OneForm) (hms : (Json.obj ms).Distinct) {bytes : Bytes}
    (h : agentBytes ms = some bytes) :
    DataSeller.allFinite (parsed (.obj (presentFields ms))) = true ∧
      (Json.obj (presentFields ms)).Each Literal.Safe := by
  rw [agentBytes_eq] at h
  cases hb : SellerAgent.Rfc8785.dumps (loaded (.obj (valuedFields ms))) with
  | error e =>
      rw [hb] at h
      cases h
  | ok b =>
      obtain ⟨hfinite, hsafe⟩ := (hforms.dumps _ (distinct_valuedFields hms)).1 ⟨b, hb⟩
      exact ⟨(allFinite_valuedFields ms).symm.trans hfinite, (each_valuedFields ms).1 hsafe⟩

omit [DataSeller.Canonicalize] [SellerAgent.Rfc8785] in
/-- Members that hold the same data with and without the `null`s have no `null`. -/
theorem no_null_of_sameData (h : DataSeller.SameData (parsed (.obj (presentFields ms)))
    (parsed (.obj (valuedFields ms)))) :
    ∀ k ∈ DataSeller.receiptSignedFields, ms.lookup k ≠ some .null := by
  intro k hk hnull
  rw [parsed_obj, parsed_obj] at h
  have hlookup := DataSeller.sameData_lookup h k
  rw [Json.lookup_map, Json.lookup_map, presentFields, valuedFields,
    DataSeller.lookup_filterMap, DataSeller.lookup_filterMap, if_pos hk, if_pos hk, hnull] at hlookup
  cases hlookup

/-- The data seller and the Python agents build the same bytes for a portable receipt only. -/
theorem sellerBytes_eq_agentBytes_iff (hforms : OneForm) (hms : (Json.obj ms).Distinct) :
    sellerBytes ms = agentBytes ms ↔ Portable ms := by
  constructor
  · intro h hfinite
    obtain ⟨s, hs, hseller⟩ := sellerBytes_of_finite hforms hms hfinite
    have hagent := h.symm.trans hseller
    obtain ⟨_, hsafe⟩ := safe_of_agentBytes hforms hms hagent
    refine ⟨hsafe, no_null_of_sameData ?_⟩
    obtain ⟨b, hb, hbytes⟩ := agentBytes_of_safe hforms hms hfinite hsafe
    have hsb := List.append_cancel_left (Option.some.inj (hagent.symm.trans hbytes))
    exact (hforms.same _ _ _ _ (distinct_presentFields hms) (distinct_valuedFields hms) hs hb).1 hsb
  · intro h
    by_cases hfinite : DataSeller.allFinite (parsed (.obj (presentFields ms))) = true
    · obtain ⟨hsafe, hnull⟩ := h hfinite
      obtain ⟨s, hs, hseller⟩ := sellerBytes_of_finite hforms hms hfinite
      obtain ⟨b, hb, hagent⟩ := agentBytes_of_safe hforms hms hfinite hsafe
      have hsame := hforms.same _ _ _ _ (distinct_presentFields hms) (distinct_valuedFields hms) hs hb
      rw [valuedFields_eq hnull] at hsame
      rw [hseller, hagent, hsame.2 (Json.Same.refl _)]
    · rw [sellerBytes_of_not_finite hforms hms hfinite]
      cases hagent : agentBytes ms with
      | none => rfl
      | some b => exact absurd (safe_of_agentBytes hforms hms hagent).1 hfinite

omit [DataSeller.Canonicalize] [SellerAgent.Rfc8785] in
theorem distinct_withoutNullCommand (hms : (Json.obj ms).Distinct) :
    (Json.obj (withoutNullCommand ms)).Distinct := by
  obtain ⟨hnames, hvalues⟩ := Json.distinct_obj.1 hms
  exact .obj (hnames.sublist (List.filter_sublist.map Prod.fst))
    fun m hm => hvalues m (List.mem_filter.1 hm).1

omit [DataSeller.Canonicalize] [SellerAgent.Rfc8785] in
/-- A `null` that is left out was not signed by the Python programs. -/
theorem valuedFields_withoutNullCommand (hms : (Json.obj ms).Distinct) :
    valuedFields (withoutNullCommand ms) = valuedFields ms := by
  refine List.filterMap_congr fun k _ => ?_
  rw [withoutNullCommand, Json.lookup_filter _ (Json.distinct_obj.1 hms).1]
  cases ms.lookup k with
  | none => rfl
  | some v =>
      cases hv : isNull v with
      | false => simp [Option.filter, hv]
      | true => by_cases hk : k = "commandId" ∨ k = "commandHash" <;> simp [Option.filter, hv, hk]

/-- On a portable receipt the data seller's bytes do not change either. -/
theorem sellerBytes_withoutNullCommand (hforms : OneForm) (hms : (Json.obj ms).Distinct)
    (h : Portable ms) : sellerBytes (withoutNullCommand ms) = sellerBytes ms := by
  have hms' := distinct_withoutNullCommand hms
  by_cases hfinite : DataSeller.allFinite (parsed (.obj (presentFields ms))) = true
  · have hnull := (h hfinite).2
    have hpresent : presentFields (withoutNullCommand ms) = presentFields ms := by
      refine List.filterMap_congr fun k hk => ?_
      rw [withoutNullCommand, Json.lookup_filter _ (Json.distinct_obj.1 hms).1]
      cases hv : ms.lookup k with
      | none => rfl
      | some v =>
          have hne : isNull v = false := by
            rw [Bool.eq_false_iff, ne_eq, isNull_iff]
            rintro rfl
            exact hnull k hk hv
          simp [Option.filter, hne]
    rw [sellerBytes_eq, sellerBytes_eq, hpresent]
  · have hfinite' : DataSeller.allFinite
        (parsed (.obj (presentFields (withoutNullCommand ms)))) ≠ true := by
      rw [← allFinite_valuedFields, valuedFields_withoutNullCommand hms, allFinite_valuedFields]
      exact hfinite
    rw [sellerBytes_of_not_finite hforms hms hfinite,
      sellerBytes_of_not_finite hforms hms' hfinite']

end Forms

end Preimages

/-! ## Packages that agree -/

section Demo

open JavaScript DataSeller

/-- Zero without its sign. -/
def unsignedZero (x : Number) : Number :=
  if x == 0 then 0 else x

theorem jsonOf_of_allFinite {v : Value} (h : allFinite v = true) :
    jsonOf v = v.mapNum unsignedZero := by
  induction v using Json.nestedInduction with
  | null | bool | str => rfl
  | num x => exact if_pos h
  | arr xs ih =>
      rw [allFinite_arr, List.all_eq_true] at h
      rw [jsonOf_arr, Json.mapNum_arr]
      exact congrArg Json.arr (List.map_congr_left fun x hx => ih x hx (h x hx))
  | obj ms ih =>
      rw [allFinite_obj, List.all_eq_true] at h
      rw [jsonOf_obj, Json.mapNum_obj]
      exact congrArg Json.obj (List.map_congr_left fun m hm =>
        congrArg (Prod.mk m.1) (ih m hm (h m hm)))

theorem allFinite_mapNum_congr {ν : Type} {f g : ν → Number}
    (hfg : ∀ q, (f q).isFinite = (g q).isFinite) (d : Json ν) :
    allFinite (d.mapNum f) = allFinite (d.mapNum g) := by
  induction d using Json.nestedInduction with
  | null | bool | str => rfl
  | num q => exact hfg q
  | arr xs ih =>
      rw [Json.mapNum_arr, Json.mapNum_arr, allFinite_arr, allFinite_arr, List.all_map, List.all_map,
        Bool.eq_iff_iff, List.all_eq_true, List.all_eq_true]
      exact forall₂_congr fun x hx => by rw [Function.comp_apply, Function.comp_apply, ih x hx]
  | obj ms ih =>
      rw [Json.mapNum_obj, Json.mapNum_obj, allFinite_obj, allFinite_obj, List.all_map, List.all_map,
        Bool.eq_iff_iff, List.all_eq_true, List.all_eq_true]
      exact forall₂_congr fun m hm => by rw [Function.comp_apply, Function.comp_apply, ih m hm]

/-- The binary64 value of a Python number. -/
def numberOf : Python.PyNumber → Number
  | .int n => signed (n < 0) (Number.ofDecimal n.natAbs 0)
  | .float x => x

/-- Whether the form of an integer is within the range of the package. -/
def inRange : Python.PyNumber → Bool
  | .int n => n.natAbs ≤ 9007199254740991
  | .float _ => true

/-- Whether every number has a property. -/
def eachNumber {ν : Type} (p : ν → Bool) : Json ν → Bool
  | .num q => p q
  | .arr xs => items xs
  | .obj ms => members ms
  | _ => true
where
  items : List (Json ν) → Bool
    | [] => true
    | x :: xs => eachNumber p x && items xs
  members : List (String × Json ν) → Bool
    | [] => true
    | (_, v) :: ms => eachNumber p v && members ms

theorem eachNumber_mapNum {ν : Type} {p : Python.PyNumber → Bool} {f : ν → Python.PyNumber}
    {P : ν → Prop} (hP : ∀ q, p (f q) = true ↔ P q) (d : Json ν) :
    eachNumber p (d.mapNum f) = true ↔ d.Each P := by
  induction d using Json.nestedInduction with
  | null => exact iff_of_true rfl .null
  | bool b => exact iff_of_true rfl (.bool b)
  | str s => exact iff_of_true rfl (.str s)
  | num q => exact (hP q).trans Json.each_num.symm
  | arr xs ih =>
      rw [Json.mapNum_arr, Json.each_arr]
      show eachNumber.items p (xs.map _) = true ↔ _
      induction xs with
      | nil => simp [eachNumber.items]
      | cons x xs ihs =>
          rw [List.map_cons, eachNumber.items, Bool.and_eq_true, List.forall_mem_cons,
            ih x List.mem_cons_self, ihs fun y hy => ih y (List.mem_cons_of_mem _ hy)]
  | obj ms ih =>
      rw [Json.mapNum_obj, Json.each_obj]
      show eachNumber.members p (ms.map _) = true ↔ _
      induction ms with
      | nil => simp [eachNumber.members]
      | cons m ms ihs =>
          rw [List.map_cons, eachNumber.members, Bool.and_eq_true, List.forall_mem_cons,
            ih m List.mem_cons_self, ihs fun n hn => ih n (List.mem_cons_of_mem _ hn)]

/-- The canonical text of the two demo packages. -/
def formOf (v : Value) : String :=
  String.ofList (Json.text bitText ((v.mapNum unsignedZero).sorted codeUnitLe))

@[reducible] def formPackage : Canonicalize where
  canonicalize v := if allFinite v then .ok (some (formOf v)) else .error "not a number"

@[reducible] def formLibrary : SellerAgent.Rfc8785 where
  dumps v :=
    if allFinite (v.mapNum numberOf) && eachNumber inRange v then
      .ok (utf8 (formOf (v.mapNum numberOf)))
    else .error (.builtin .ValueError)

theorem numberOf_toPyNumber (l : Literal) :
    numberOf l.toPyNumber = l.toNumber ∨ l = ⟨true, 0, none⟩ := by
  obtain ⟨negative, digits, _ | e⟩ := l
  · cases negative with
    | false => exact Or.inl rfl
    | true =>
        rcases Nat.eq_zero_or_pos digits with rfl | hpos
        · exact Or.inr rfl
        · refine Or.inl ?_
          have hneg : (-(digits : ℤ) < 0) = True := eq_true (by omega)
          have habs : (-(digits : ℤ)).natAbs = digits := by omega
          simp [numberOf, Literal.toPyNumber, Literal.toNumber, habs, hpos]
  · exact Or.inl rfl

theorem unsignedZero_numberOf (l : Literal) :
    unsignedZero (numberOf l.toPyNumber) = unsignedZero l.toNumber ∧
      (numberOf l.toPyNumber).isFinite = l.toNumber.isFinite := by
  rcases numberOf_toPyNumber l with h | rfl
  · rw [h]
    exact ⟨rfl, rfl⟩
  · constructor
    · exact eq_of_toBits (by decide +kernel)
    · decide +kernel

theorem inRange_toPyNumber (l : Literal) : inRange l.toPyNumber = true ↔ l.Safe := by
  obtain ⟨negative, digits, _ | e⟩ := l
  · have habs : (if negative then -(digits : ℤ) else digits).natAbs = digits := by
      split_ifs <;> omega
    simp [inRange, Literal.toPyNumber, Literal.Safe, habs]
  · simp [inRange, Literal.toPyNumber, Literal.Safe]

/-- Both demo packages see the same numbers. -/
theorem mapNum_loaded (d : Document) :
    allFinite ((loaded d).mapNum numberOf) = allFinite (parsed d) ∧
      ((loaded d).mapNum numberOf).mapNum unsignedZero = (parsed d).mapNum unsignedZero := by
  rw [loaded, parsed, Json.mapNum_mapNum, Json.mapNum_mapNum, Json.mapNum_mapNum]
  refine ⟨allFinite_mapNum_congr (fun l => (unsignedZero_numberOf l).2) d, ?_⟩
  exact congrArg (fun f => d.mapNum f) (funext fun l => (unsignedZero_numberOf l).1)

attribute [local instance] formPackage formLibrary

theorem canonicalize_form {v : Value} {s : String} :
    Canonicalize.canonicalize v = .ok (some s) ↔ allFinite v = true ∧ s = formOf v := by
  show (if allFinite v then Except.ok (some (formOf v)) else .error "not a number") = _ ↔ _
  split_ifs with h <;> simp [h, eq_comm]

theorem dumps_form {v : Python.PyValue} {b : Bytes} :
    SellerAgent.Rfc8785.dumps v = .ok b ↔
      (allFinite (v.mapNum numberOf) = true ∧ eachNumber inRange v = true) ∧
        b = utf8 (formOf (v.mapNum numberOf)) := by
  rw [← Bool.and_eq_true]
  show (if allFinite (v.mapNum numberOf) && eachNumber inRange v then
    Except.ok (utf8 (formOf (v.mapNum numberOf)))
      else .error (Python.Failure.builtin .ValueError)) = _ ↔ _
  split_ifs with h <;> simp only [h, true_and, false_and, Except.ok.injEq, eq_comm,
    Bool.false_eq_true]

/-- The demo packages tell documents apart by their data. -/
theorem formOf_eq_iff {d e : Document} (hd : d.Distinct) (he : e.Distinct)
    (hfinite : allFinite (parsed d) = true) (hfinite' : allFinite (parsed e) = true) :
    formOf (parsed d) = formOf (parsed e) ↔ SameData (parsed d) (parsed e) := by
  have heach (v : Value) : v.Each fun _ => True := by
    induction v using Json.nestedInduction with
    | null => exact .null
    | bool b => exact .bool b
    | num q => exact .num trivial
    | str s => exact .str s
    | arr xs ih => exact .arr ih
    | obj ms ih => exact .obj ih
  have hnumeral {v w : Value} : Json.Same (v.mapNum bitText.numeral) (w.mapNum bitText.numeral) ↔
      Json.Same v w := by
    constructor
    · intro h
      have hid := Json.same_mapNum_of_imp (g := id) (fun x y _ _ hxy => bitText_injective
        (congrArg Numeral.chars hxy)) (heach v) (heach w) h
      rwa [Json.mapNum_id, Json.mapNum_id] at hid
    · intro h
      refine Json.same_mapNum_of_imp (f := id) (fun x y _ _ hxy => congrArg bitText.numeral hxy)
        (heach v) (heach w) ?_
      rwa [Json.mapNum_id, Json.mapNum_id]
  have htext {cs ds : List Char} : String.ofList cs = String.ofList ds ↔ cs = ds :=
    ⟨fun h => String.ofList_injective h, fun h => by rw [h]⟩
  have hd' : ((parsed d).mapNum unsignedZero).Distinct := (hd.mapNum _).mapNum _
  have he' : ((parsed e).mapNum unsignedZero).Distinct := (he.mapNum _).mapNum _
  rw [formOf, formOf, htext, Json.text_sorted_eq_iff bitText hd' he', hnumeral, SameData,
    jsonOf_of_allFinite hfinite, jsonOf_of_allFinite hfinite']

theorem formPackage_oneForm : OneForm := by
  refine ⟨fun d _ => ?_, fun d _ => ?_, fun d e s b hd he hs hb => ?_⟩
  · simp only [canonicalize_form, exists_and_left, exists_eq, and_true]
  · simp only [dumps_form, exists_and_left, exists_eq, and_true, (mapNum_loaded d).1]
    rw [loaded, eachNumber_mapNum inRange_toPyNumber d]
  · obtain ⟨hfinite, rfl⟩ := canonicalize_form.1 hs
    obtain ⟨⟨hfinite', _⟩, rfl⟩ := dumps_form.1 hb
    rw [(mapNum_loaded e).1] at hfinite'
    have hform : formOf ((loaded e).mapNum numberOf) = formOf (parsed e) := by
      rw [formOf, formOf, (mapNum_loaded e).2]
    rw [hform, ← formOf_eq_iff hd he hfinite hfinite']
    exact ⟨fun h => utf8_injective h, fun h => by rw [h]⟩

/-- A receipt of a transition without a command, as the schema has it. -/
def demoReceipt : List (String × Document) :=
  [("receiptId", .str "atr_1"), ("dealId", .str "deal_0"), ("fromState", .str "COMMITTED"),
    ("toState", .str "FULFILLING"), ("revision", .num ⟨false, 3, none⟩),
    ("runtimeSignature", .null), ("auditStatus", .str "pending")]

end Demo

end Conformance

end Coordination
