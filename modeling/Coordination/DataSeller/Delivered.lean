import Coordination.DataSeller.Acceptance
import Coordination.DataSeller.Limits
import Coordination.JavaScript.Integer

/-!
# A delivery passes its own verification

The other direction of the verification: what `generateDelivery` produces,
`verifyDelivery` accepts, also when the manifest has been written as canonical JSON
and read back. A buyer holds the parsed manifest, which is the one that was written
up to the order of its members and up to which number of a value it has.
-/

namespace Coordination

namespace DataSeller

open JavaScript Library Engine

/-! ## Reading JSON back -/

/-- The same data: members in any order, and numbers of the same value. -/
inductive Reads : Value → Value → Prop where
  | null : Reads .null .null
  | bool (b : Bool) : Reads (.bool b) (.bool b)
  | num {x y : Number} : Exact.ofNumber x = Exact.ofNumber y → Reads (.num x) (.num y)
  | str (s : String) : Reads (.str s) (.str s)
  | arr {xs ys : List Value} : List.Forall₂ Reads xs ys → Reads (.arr xs) (.arr ys)
  | obj {ms ns : List (String × Value)} :
      (∀ k, Option.Rel Reads (ms.lookup k) (ns.lookup k)) → Reads (.obj ms) (.obj ns)

/-- `JSON.parse` of the canonical bytes of a value reads the value back. -/
def ReadsBack [Canonicalize] (parse : Bytes → Option Value) (value : Value) : Prop :=
  ∀ bytes, jcs value = .ok bytes → ∃ w, parse bytes = some w ∧ Reads value w

namespace Reads

variable {v w u : Value} {k s : String} {x : Number}

theorem refl : ∀ v : Value, Reads v v
  | .null => .null
  | .bool b => .bool b
  | .num _ => .num rfl
  | .str s => .str s
  | .arr xs => .arr (items xs)
  | .obj ms => .obj (members ms)
where
  items : ∀ xs : List Value, List.Forall₂ Reads xs xs
    | [] => .nil
    | x :: xs => .cons (refl x) (items xs)
  members : ∀ (ms : List (String × Value)) (k : String),
      Option.Rel Reads (ms.lookup k) (ms.lookup k)
    | [], _ => .none
    | (k', v) :: ms, k => by
        rw [List.lookup_cons]
        cases k == k' with
        | true => exact .some (refl v)
        | false => exact members ms k

/-- A member is read as a member, and nothing else is. -/
theorem rel_field (h : Reads v w) (k : String) :
    Option.Rel Reads (field v k) (field w k) := by
  cases h with
  | obj hmembers => exact hmembers k
  | null => exact .none
  | bool b => exact .none
  | num hvalue => exact .none
  | str s => exact .none
  | arr hitems => exact .none

theorem exists_field (h : Reads v w) (hu : field v k = some u) :
    ∃ u', field w k = some u' ∧ Reads u u' := by
  have hrel := h.rel_field k
  rw [hu] at hrel
  cases hw : field w k with
  | none =>
      rw [hw] at hrel
      cases hrel
  | some u' =>
      rw [hw] at hrel
      cases hrel with
      | some hread => exact ⟨u', rfl, hread⟩

theorem textList {xs : List String} (h : Reads (Engine.textList xs) v) :
    v = Engine.textList xs := by
  cases h with
  | @arr _ ys hitems =>
      refine congrArg Json.arr ?_
      induction xs generalizing ys with
      | nil =>
          cases hitems
          rfl
      | cons x xs ih =>
          cases hitems with
          | cons hhead htail =>
              cases hhead
              exact congrArg _ (ih htail)

/-- Two members that are read as one. -/
theorem exists_common {a b u' : Value} (ha : Reads a w) (hb : Reads b w) (hu : field a k = some u)
    (hu' : field b k = some u') : ∃ v, Reads u v ∧ Reads u' v := by
  obtain ⟨v, hv, hread⟩ := ha.exists_field hu
  obtain ⟨v', hv', hread'⟩ := hb.exists_field hu'
  rw [hv] at hv'
  cases hv'
  exact ⟨v, hread, hread'⟩

theorem text_eq {a b : Value} {s' : String} (ha : Reads a w) (hb : Reads b w)
    (hs : field a k = some (.str s)) (hs' : field b k = some (.str s')) : s = s' := by
  obtain ⟨v, hread, hread'⟩ := exists_common ha hb hs hs'
  cases hread
  cases hread'
  rfl

theorem bool_eq {a b : Value} {c c' : Bool} (ha : Reads a w) (hb : Reads b w)
    (hc : field a k = some (.bool c)) (hc' : field b k = some (.bool c')) : c = c' := by
  obtain ⟨v, hread, hread'⟩ := exists_common ha hb hc hc'
  cases hread
  cases hread'
  rfl

theorem optionalText_eq {a b : Value} {o o' : Option String} (ha : Reads a w) (hb : Reads b w)
    (ho : field a k = some ((o.map Json.str).getD .null))
    (ho' : field b k = some ((o'.map Json.str).getD .null)) : o = o' := by
  obtain ⟨v, hread, hread'⟩ := exists_common ha hb ho ho'
  cases o with
  | none =>
      cases hread
      cases o' with
      | none => rfl
      | some s' => cases hread'
  | some s =>
      cases hread
      cases o' with
      | none => cases hread'
      | some s' =>
          cases hread'
          rfl

theorem num_eq {a b : Value} {y : Number} (ha : Reads a w) (hb : Reads b w)
    (hx : field a k = some (.num x)) (hy : field b k = some (.num y)) :
    Exact.ofNumber x = Exact.ofNumber y := by
  obtain ⟨v, hread, hread'⟩ := exists_common ha hb hx hy
  cases hread with
  | num hleft =>
      cases hread' with
      | num hright => exact hleft.trans hright.symm

end Reads

/-! ## The manifest read back -/

/-- What `verifyDelivery` reads of a manifest is the same. -/
structure SameChecks (m m' : DeliveryManifest) : Prop where
  algorithm : m.generator.algorithm = m'.generator.algorithm
  density : validRows m.density = validRows m'.density
  rowCount : Exact.ofNumber m.rowCount = Exact.ofNumber m'.rowCount
  seed : m.seed = m'.seed
  columns : m.columns = m'.columns
  contentHash : m.artifact.contentHash = m'.artifact.contentHash
  sourceStatsHash : m.sourceStatsHash = m'.sourceStatsHash
  quotedStatsHash : m.quotedStatsHash = m'.quotedStatsHash
  calibrated : m.calibrated = m'.calibrated

/-- A manifest is verified by what is read of it. -/
theorem verifyDelivery_congr [Digests] [HostLocale] {m m' : DeliveryManifest} (h : SameChecks m m')
    (received : Bytes) (corpus : Corpus) (query : Query) :
    verifyDelivery m received corpus query = verifyDelivery m' received corpus query := by
  have hoptions (n : ℕ) : regenerationOptions m n = regenerationOptions m' n := by
    rw [regenerationOptions, regenerationOptions, h.rowCount, h.seed, h.columns]
  unfold verifyDelivery
  simp only [h.algorithm, h.density, hoptions, h.columns, h.contentHash, h.sourceStatsHash,
    h.quotedStatsHash, h.calibrated]

section Members

variable (m : DeliveryManifest)

theorem field_density : field m.toValue "density" = m.density.map Density.toValue := by
  unfold DeliveryManifest.toValue field
  cases m.density <;> rfl

/-- The members `verifyDelivery` reads. -/
theorem field_manifest :
    field m.toValue "sourceStatsHash" = some (.str m.sourceStatsHash) ∧
    field m.toValue "quotedStatsHash" = some ((m.quotedStatsHash.map Json.str).getD .null) ∧
    field m.toValue "rowCount" = some (.num m.rowCount) ∧
    field m.toValue "columns" = some (textList m.columns) ∧
    field m.toValue "seed" = some (.str m.seed) ∧
    field m.toValue "generator" = some m.generator.toValue ∧
    field m.toValue "calibrated" = some (.bool m.calibrated) ∧
    field m.toValue "artifact" = some m.artifact.toValue := by
  unfold DeliveryManifest.toValue field
  cases m.density <;> exact ⟨rfl, rfl, rfl, rfl, rfl, rfl, rfl, rfl⟩

end Members

theorem textList_injective : Function.Injective textList := by
  intro xs ys h
  exact List.map_injective_iff.2 (fun _ _ h => Json.str.inj h) (Json.arr.inj h)

theorem field_rowsPerTract (d : Density) :
    field d.toValue "rowsPerTract" = some (.num d.rowsPerTract) := rfl

/-- The floor of the density is read back. -/
theorem validRows_eq {a b v : Value} {d d' : Option Density} (ha : Reads a v) (hb : Reads b v)
    (hd : field a "density" = d.map Density.toValue)
    (hd' : field b "density" = d'.map Density.toValue) : validRows d = validRows d' := by
  have hrel := ha.rel_field "density"
  have hrel' := hb.rel_field "density"
  rw [hd] at hrel
  rw [hd'] at hrel'
  cases hv : field v "density" with
  | none =>
      rw [hv] at hrel hrel'
      cases d <;> cases hrel
      cases d' <;> cases hrel'
      rfl
  | some u =>
      rw [hv] at hrel hrel'
      cases d with
      | none => cases hrel
      | some d =>
          cases d' with
          | none => cases hrel'
          | some d' =>
              cases hrel with
              | some hread =>
                  cases hrel' with
                  | some hread' =>
                      have hrows := Reads.num_eq hread hread' (field_rowsPerTract d)
                        (field_rowsPerTract d')
                      simp only [validRows, Option.map_some, hrows]

/-- Two manifests that one JSON value stands for are verified alike. -/
theorem sameChecks_of_reads {m m' : DeliveryManifest} {v : Value} (h : Reads m.toValue v)
    (h' : Reads m'.toValue v) : SameChecks m m' := by
  obtain ⟨hstats, hquoted, hrows, hcolumns, hseed, hgenerator, hcalibrated, hartifact⟩ :=
    field_manifest m
  obtain ⟨hstats', hquoted', hrows', hcolumns', hseed', hgenerator', hcalibrated', hartifact'⟩ :=
    field_manifest m'
  obtain ⟨g, hg, hg'⟩ := Reads.exists_common h h' hgenerator hgenerator'
  obtain ⟨a, ha, ha'⟩ := Reads.exists_common h h' hartifact hartifact'
  refine ⟨Reads.text_eq (k := "algorithm") hg hg' rfl rfl, ?_, Reads.num_eq h h' hrows hrows',
    Reads.text_eq h h' hseed hseed', ?_, Reads.text_eq (k := "contentHash") ha ha' rfl rfl,
    Reads.text_eq h h' hstats hstats', Reads.optionalText_eq h h' hquoted hquoted',
    Reads.bool_eq h h' hcalibrated hcalibrated'⟩
  · exact validRows_eq h h' (field_density m) (field_density m')
  · obtain ⟨c, hc, hc'⟩ := Reads.exists_common h h' hcolumns hcolumns'
    exact textList_injective (hc.textList.symm.trans hc'.textList)
/-! ## The rows of a delivery -/

theorem ofNumber_ofNat {n : ℕ} (hn : n < 2 ^ 53) : Exact.ofNumber (Float.ofNat n) = (n : Exact) := by
  rw [Exact.ofNumber, Number.toRat?_ofNat hn]
  rfl

theorem validRows_ofNat {n : ℕ} (hpositive : 1 ≤ n) (hn : n < 2 ^ 53) (tractCount withRows : ℕ)
    (least : Number) (errors : List (String × Number)) :
    validRows (some ⟨Float.ofNat n, tractCount, withRows, least, errors⟩) = some n := by
  have hfin : Exact.ofNumber (Float.ofNat n) = .fin (n : ℚ) := ofNumber_ofNat hn
  have hone : (1 : ℚ) ≤ n := by exact_mod_cast hpositive
  simp only [validRows, Option.map_some, hfin]
  simp [hone]

section Rows

variable [Digests] [HostLocale]

/-- Every tract in order, with the same number of rows each. -/
def rowsOf (seed : String) (columns : List String) (tracts : List Tract) (rowsPerTract : ℕ) :
    List SyntheticPerson :=
  (tracts.flatMap fun t => List.replicate rowsPerTract t).mapIdx fun i t =>
    personOf seed columns t i

omit [Digests] [HostLocale] in
theorem zip_map_flatMap (tracts : List Tract) (n : ℕ) :
    (((tracts.map fun _ => n).zip tracts).flatMap fun (k, t) => List.replicate k t) =
      tracts.flatMap fun t => List.replicate n t := by
  induction tracts with
  | nil => rfl
  | cons t tracts ih => rw [List.map_cons, List.zip_cons_cons, List.flatMap_cons, List.flatMap_cons, ih]

/-- The rows of a generation at a fixed density. -/
theorem generateSyntheticPeople_rows {tracts : List Tract} {rowsPerTract : ℕ} {seed : String}
    {columns : List String} {people : List SyntheticPerson}
    (h : generateSyntheticPeople tracts
      ⟨(rowsPerTract * tracts.length : ℕ), some rowsPerTract, seed, columns⟩ = .ok people) :
    1 ≤ rowsPerTract ∧ rowsPerTract * tracts.length ≤ maxRows ∧
      people = rowsOf seed columns tracts rowsPerTract := by
  unfold generateSyntheticPeople at h
  by_cases hempty : tracts.length = 0
  · simp only [if_pos hempty] at h
    cases h
  · simp only [if_neg hempty] at h
    by_cases habove : Exact.above (rowsPerTract * tracts.length : ℕ) maxRows = true
    · simp only [if_pos habove] at h
      cases h
    · simp only [if_neg habove, Exact.count_natCast] at h
      obtain ⟨assigned, hassigned, hpeople⟩ := bind_eq_ok.1 h
      obtain ⟨alloc, halloc, hpure⟩ := bind_eq_ok.1 hassigned
      have hmax : rowsPerTract * tracts.length ≤ maxRows := by simpa using habove
      have hpositive := (limits_of_allocateRows halloc).1
      rw [allocateRows_ok hpositive hmax] at halloc
      cases halloc
      rw [any_rows_eq_false hmax] at hpure
      cases hpure
      refine ⟨hpositive, hmax, ?_⟩
      obtain ⟨hlength, hrows⟩ := List.forall₂_iff_get.1 (forall₂_of_mapM_eq_ok hpeople)
      rw [List.length_range] at hlength
      rw [zip_map_flatMap] at hrows
      have hcount : (tracts.flatMap fun t => List.replicate rowsPerTract t).length =
          rowsPerTract * tracts.length := by
        rw [← zip_map_flatMap, length_assigned]
      refine List.ext_getElem ?_ fun i hi hi' => ?_
      · rw [rowsOf, List.length_mapIdx, hcount, hlength]
      · have hrange : i < (List.range (rowsPerTract * tracts.length)).length := by
          rw [List.length_range, hlength]
          exact hi
        have hrow := hrows i hrange hi
        have htract : i < (tracts.flatMap fun t => List.replicate rowsPerTract t).length := by
          rw [hcount, hlength]
          exact hi
        simp only [List.get_eq_getElem, List.getElem_range, tractOfRow,
          List.getElem?_eq_getElem htract, ok_bind] at hrow
        simp only [rowsOf, List.getElem_mapIdx]
        exact (Except.ok.inj hrow).symm

end Rows

/-! ## Complete verification -/

section Delivery

variable [Digests] [Canonicalize] [HostLocale] {input : DeliveryInput} {out : DeliveryResult}

omit [Canonicalize] in
/-- What was priced and what is delivered: the terms count the rows of the delivery. -/
theorem Issued.totalRows {seller : Seller} {body : Option Value} {record : QuoteRecord}
    (h : Issued seller body record) : record.termsDocument.totalRows =
      record.termsDocument.rowsPerTract * (selectedTracts seller body).length := by
  obtain ⟨hasked, hcount, _⟩ := h.size
  obtain ⟨facts, statsHash, price, deliverable, hcompose, _, _, hdoc⟩ := h.priced
  obtain ⟨_, _, _, hrows, _⟩ := composeQuote_accepted hcompose
  rw [← hcount, hdoc]
  exact hrows

/-- The bytes of a delivery: the matched tracts in order, with the promised rows each. -/
theorem generated_rows (hout : generateDelivery input = .ok out) :
    1 ≤ input.rowsPerTract ∧
    input.rowsPerTract * (evaluateQuery input.query input.corpus).tracts.length ≤ maxRows ∧
    out.bytes = serializeCsv (rowsOf input.seed input.query.columns
      (evaluateQuery input.query input.corpus).tracts input.rowsPerTract) input.query.columns := by
  obtain ⟨_, commitment, people, bytes, _, _, hpeople, _, _, rfl⟩ := generateDelivery_eq_ok.1 hout
  obtain ⟨hpositive, hmax, rfl⟩ := generateSyntheticPeople_rows hpeople
  exact ⟨hpositive, hmax, rfl⟩

theorem generated_rowCount (hout : generateDelivery input = .ok out) :
    Exact.ofNumber out.manifest.rowCount =
      (input.rowsPerTract * (evaluateQuery input.query input.corpus).tracts.length : ℕ) := by
  obtain ⟨_, hmax, _⟩ := generated_rows hout
  obtain ⟨_, commitment, people, bytes, _, _, _, _, _, rfl⟩ := generateDelivery_eq_ok.1 hout
  exact ofNumber_ofNat (lt_of_le_of_lt hmax (by norm_num [maxRows]))

/-- The manifest as it was made is verified. -/
theorem verifyDelivery_generated (hout : generateDelivery input = .ok out) :
    verifyDelivery out.manifest out.bytes input.corpus input.query =
      .ok ⟨true, [], some (sha256Bytes out.bytes)⟩ := by
  have hcount := generated_rowCount hout
  obtain ⟨hpositive, hmax, _⟩ := generated_rows hout
  obtain ⟨hne, commitment, people, bytes, hcommitment, hquoted, hpeople, hcalibrated, _, rfl⟩ :=
    generateDelivery_eq_ok.1 hout
  have hdensity : validRows (manifestFor input commitment people).density =
      some input.rowsPerTract := by
    refine validRows_ofNat hpositive (lt_of_le_of_lt ?_ (by norm_num [maxRows] : maxRows < 2 ^ 53))
      _ _ _ _
    exact (Nat.le_mul_of_pos_right _ (Nat.pos_of_ne_zero hne)).trans hmax
  have hoptions : regenerationOptions (manifestFor input commitment people) input.rowsPerTract =
      deliveryOptions input := by
    rw [regenerationOptions, hcount]
    rfl
  have hpinned : input.quotedStatsHash.all (· = commitment.statsHash) = true := by
    cases hq : input.quotedStatsHash with
    | none => rfl
    | some hash =>
        rw [hq] at hquoted
        exact decide_eq_true hquoted
  exact verifyDelivery_eq_ok rfl hdensity (hoptions ▸ hpeople) hcommitment rfl rfl rfl hpinned rfl

/-- What is delivered passes its verification once the manifest is read back, and is
what was priced: every matched tract in order, with the rows it was sold, and the
figures of the quote where the query is the quoted one. -/
theorem delivery_complete {parse : Bytes → Option Value}
    (hout : generateDelivery input = .ok out) (hparse : ReadsBack parse out.manifest.toValue) :
    (∃ v, parse out.manifestBytes = some v ∧ Reads out.manifest.toValue v) ∧
    (∀ v manifest, parse out.manifestBytes = some v → Reads manifest.toValue v →
      verifyDelivery manifest out.bytes input.corpus input.query =
        .ok ⟨true, [], some (sha256Bytes out.bytes)⟩) ∧
    Exact.ofNumber out.manifest.rowCount =
      (input.rowsPerTract * (evaluateQuery input.query input.corpus).tracts.length : ℕ) ∧
    out.bytes = serializeCsv (rowsOf input.seed input.query.columns
      (evaluateQuery input.query input.corpus).tracts input.rowsPerTract) input.query.columns ∧
    ∀ (seller : Seller) buyerAgentId body s s' result record,
      (quote seller buyerAgentId body).run s = (.ok result, s') → result.record = some record →
      input.corpus = seller.corpus → input.query = readQuery record.queryBody →
      input.rowsPerTract = record.termsDocument.rowsPerTract →
        Exact.ofNumber out.manifest.rowCount = (record.termsDocument.totalRows : Exact) ∧
        out.manifest.sourceStatsHash = record.termsDocument.statsHash := by
  have hbytes : jcs out.manifest.toValue = .ok out.manifestBytes := by
    obtain ⟨_, _, _, _, _, _, _, _, hjcs, rfl⟩ := generateDelivery_eq_ok.1 hout
    exact hjcs
  obtain ⟨v, hv, hread⟩ := hparse _ hbytes
  refine ⟨⟨v, hv, hread⟩, ?_, generated_rowCount hout, (generated_rows hout).2.2, ?_⟩
  · intro v' manifest hv' hread'
    rw [hv] at hv'
    cases hv'
    rw [verifyDelivery_congr (sameChecks_of_reads hread' hread)]
    exact verifyDelivery_generated hout
  · intro seller buyerAgentId body s s' result record hquote hrecord hcorpus hquery hrows
    have hissued := quote_issued hquote hrecord
    have htracts : (evaluateQuery input.query input.corpus).tracts = selectedTracts seller body := by
      rw [hcorpus, hquery, hissued.queryBody]
      rfl
    constructor
    · rw [generated_rowCount hout, htracts, hissued.totalRows, hrows]
    · obtain ⟨_, _, _, commitment, hcommitment, hstats⟩ := hissued.size
      obtain ⟨_, committed, _, _, hcommitted, _, _, _, _, rfl⟩ := generateDelivery_eq_ok.1 hout
      rw [htracts, hquery, hissued.queryBody, hcommitment] at hcommitted
      cases hcommitted
      exact hstats.symm

end Delivery

section OneTract

attribute [local instance] Digests.ideal HostLocale.ascii Canonicalize.plain

/-- The delivery of the order of one measure passes its verification. -/
theorem oneMeasure_complete : ∃ (record : QuoteRecord) (out : DeliveryResult)
    (parse : Bytes → Option Value) (v : Value),
    generateDelivery (deliveryInputFor (demoSeller oneTractCorpus) record "deal_0" "cap" 0) =
      .ok out ∧
    parse out.manifestBytes = some v ∧ Reads out.manifest.toValue v ∧
    verifyDelivery out.manifest out.bytes oneTractCorpus (readQuery record.queryBody) =
      .ok ⟨true, [], some (sha256Bytes out.bytes)⟩ := by
  obtain ⟨_, _, record, out, _, _, hout⟩ := exists_oneMeasure_delivery
  let parse (bytes : Bytes) : Option Value :=
    if bytes = out.manifestBytes then some out.manifest.toValue else none
  have hread : ReadsBack parse out.manifest.toValue := by
    intro bytes hbytes
    obtain ⟨_, _, _, _, _, _, _, _, hjcs, rfl⟩ := generateDelivery_eq_ok.1 hout
    rw [hjcs] at hbytes
    cases hbytes
    exact ⟨_, if_pos rfl, Reads.refl _⟩
  obtain ⟨⟨v, hv, hreads⟩, hverified, _⟩ := delivery_complete hout hread
  exact ⟨record, out, parse, v, hout, hv, hreads, hverified v out.manifest hv hreads⟩

end OneTract

end DataSeller

end Coordination
