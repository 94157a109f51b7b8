import Coordination.DataSeller.Engine.Refusals
import Coordination.DataSeller.Filters
import Coordination.JavaScript.Printed

/-!
# What the criteria hash pins

`criteriaHashOf` hashes the lists of a body with repetitions and with items that are no texts, and
the thresholds in the order they were written; `readQuery` keeps each text once and drops the rest.
So one query may have several hashes. In the other direction an absent filter and an empty one, and
an infinite bound and any other, are hashed alike.
-/

namespace Coordination

namespace DataSeller

open JavaScript Library Engine

/-! ## The same query -/

/-- Lists of the same items. -/
def SameSet (xs ys : List String) : Prop :=
  ∀ x, x ∈ xs ↔ x ∈ ys

/-- Queries that are the same, up to the order and repetition of the lists and the order of the
members of the thresholds. -/
structure SameQuery (q q' : Query) : Prop where
  columns : SameSet q.columns q'.columns
  states : Option.Rel SameSet q.states q'.states
  counties : Option.Rel SameSet q.counties q'.counties
  minPopulation : Option.Rel SameValue q.minPopulation q'.minPopulation
  thresholds : Option.Rel SameValue q.thresholds q'.thresholds

/-- The thresholds a body spells, `{}` where there are none. -/
def spelledThresholds (body : Value) : Value :=
  (orElse (bodyMember body "thresholds") (some (.obj []))).getD .null

/-- Bodies that spell the same criteria: the same items in their lists, as often, and the same
text of the other filters. -/
structure SameSpelling (b b' : Value) : Prop where
  columns : (sortedMember b "columns").map printed = (sortedMember b' "columns").map printed
  states : (sortedMember b "states").map printed = (sortedMember b' "states").map printed
  counties : (sortedMember b "counties").map printed = (sortedMember b' "counties").map printed
  minPopulation : printed (orNull (bodyMember b "minPopulation")) =
    printed (orNull (bodyMember b' "minPopulation"))
  thresholds : printed (spelledThresholds b) = printed (spelledThresholds b')

/-- Bodies with the same filters there, and the same infinite bounds in the thresholds. -/
structure SameFilters (b b' : Value) : Prop where
  states : (readQuery b).states.isSome = (readQuery b').states.isSome
  counties : (readQuery b).counties.isSome = (readQuery b').counties.isSome
  thresholds : Option.Rel SameBounds (readQuery b).thresholds (readQuery b').thresholds

/-! ## Lists of the body -/

/-- Sorting keeps the items. -/
theorem sortValues_perm {xs ys : List Value} (h : sortValues xs = .ok ys) : ys.Perm xs := by
  unfold sortValues at h
  split_ifs at h with hshort
  · cases h
    rfl
  · obtain ⟨keyed, hkeyed, hys⟩ := bind_eq_ok.1 h
    cases hys
    have hitems : keyed.map Prod.snd = xs := by
      have hforall := forall₂_of_mapM_eq_ok hkeyed
      clear h hkeyed hshort
      induction hforall with
      | nil => rfl
      | cons hkey _ ih =>
          obtain ⟨_, _, hpair⟩ := bind_eq_ok.1 hkey
          cases hpair
          rw [List.map_cons, ih]
    have hperm := (List.perm_insertionSort (fun a b : String × Value => codeUnitLe a.1 b.1)
      keyed).map Prod.snd
    rwa [hitems] at hperm

theorem sortedMember_eq_ok {body v : Value} {k : String} (h : sortedMember body k = .ok v) :
    ∃ xs ys, spread (bodyMember body k) = .ok xs ∧ ys.Perm xs ∧ v = .arr ys := by
  obtain ⟨xs, hxs, h₁⟩ := bind_eq_ok.1 h
  obtain ⟨ys, hsorted, h₂⟩ := bind_eq_ok.1 h₁
  cases h₂
  exact ⟨xs, ys, hxs, sortValues_perm hsorted, rfl⟩

theorem mem_strArray {v : Value} {xs : List String} (h : strArray (some v) = some xs) :
    ∃ items, v = .arr items ∧ ∀ s, s ∈ xs ↔ .str s ∈ items := by
  cases v with
  | arr items =>
      refine ⟨items, rfl, fun s => ?_⟩
      cases h
      rw [mem_distinct, List.mem_filterMap]
      constructor
      · rintro ⟨v, hv, hs⟩
        split at hs
        · cases hs
          exact hv
        · cases hs
      · exact fun hs => ⟨.str s, hs, rfl⟩
  | null | bool | num | str | obj => cases h

theorem mem_printed {s : String} {xs : List Value} :
    Json.str s ∈ xs.map printed ↔ .str s ∈ xs := by
  rw [List.mem_map]
  constructor
  · rintro ⟨v, hv, hs⟩
    rwa [← printed_eq_str.1 hs]
  · exact fun hs => ⟨.str s, hs, rfl⟩

/-- The texts of a list can be read off its spelling. -/
theorem mem_of_spelled {body u : Value} {k : String} {xs : List String}
    (hxs : strArray (bodyMember body k) = some xs) (hu : sortedMember body k = .ok u) :
    ∃ ts, printed u = .arr ts ∧ ∀ s, s ∈ xs ↔ Json.str s ∈ ts := by
  obtain ⟨_, zs, hspread, hperm, rfl⟩ := sortedMember_eq_ok hu
  cases hv : bodyMember body k with
  | none =>
      rw [hv] at hxs
      cases hxs
  | some v =>
      rw [hv] at hxs hspread
      obtain ⟨items, rfl, hmem⟩ := mem_strArray hxs
      cases hspread
      exact ⟨zs.map printed, printed_arr zs, fun s => by rw [mem_printed, hperm.mem_iff, hmem]⟩

/-- Lists that are spelled alike have the same texts. -/
theorem rel_strArray_of_spelling {b b' : Value} {k : String}
    (hok : (sortedMember b k).isOk = true)
    (h : (sortedMember b k).map printed = (sortedMember b' k).map printed)
    (hpresent : (strArray (bodyMember b k)).isSome = (strArray (bodyMember b' k)).isSome) :
    Option.Rel SameSet (strArray (bodyMember b k)) (strArray (bodyMember b' k)) := by
  obtain ⟨u, hu⟩ := exists_of_isOk hok
  rw [hu] at h
  obtain ⟨u', hu', hprinted⟩ := map_eq_ok.1 h.symm
  cases hxs : strArray (bodyMember b k) with
  | none =>
      rw [hxs] at hpresent
      rw [Option.isNone_iff_eq_none.1 (Option.isSome_eq_false_iff.1 hpresent.symm)]
      exact .none
  | some xs =>
      rw [hxs] at hpresent
      obtain ⟨ys, hys⟩ := Option.isSome_iff_exists.1 hpresent.symm
      obtain ⟨ts, hts, hmem⟩ := mem_of_spelled hxs hu
      obtain ⟨ts', hts', hmem'⟩ := mem_of_spelled hys hu'
      rw [hts, hts'] at hprinted
      rw [hys]
      exact .some fun s => by rw [hmem, hmem', Json.arr.inj hprinted]

/-! ## Accepted bodies -/

section Accepted

variable {corpus : Corpus} {body : Value}

/-- A validated body lists its columns. -/
theorem columns_of_validated (h : validateQuery (readQuery body) corpus = []) :
    ∃ xs, strArray (bodyMember body "columns") = some xs := by
  obtain ⟨hcolumns, _⟩ := validateQuery_eq_nil.1 h
  cases hxs : strArray (bodyMember body "columns") with
  | some xs => exact ⟨xs, rfl⟩
  | none =>
      have hnone : (readQuery body).columns = [] := by
        show (strArray (bodyMember body "columns")).getD [] = []
        rw [hxs]
        rfl
      rw [hnone] at hcolumns
      cases hcolumns

/-- The population filter of a validated body is a finite number. -/
theorem population_of_validated (h : validateQuery (readQuery body) corpus = []) :
    ∀ v ∈ bodyMember body "minPopulation", ∃ x : Number, v = .num x ∧ x.isFinite = true := by
  obtain ⟨_, _, _, hpopulation, _⟩ := validateQuery_eq_nil.1 h
  intro v hv
  have hvalid := isPopulation_of_validated hpopulation
  rw [show (readQuery body).minPopulation = some v from hv] at hvalid
  cases v with
  | num x =>
      rw [Option.all_some, isPopulation, Bool.and_eq_true] at hvalid
      exact ⟨x, rfl, isFinite_of_isInteger hvalid.1⟩
  | null | bool | str | arr | obj => cases hvalid

/-- The thresholds a body is read with are the ones it spells. -/
theorem spelledThresholds_of_read {v : Value} (h : (readQuery body).thresholds = some v) :
    spelledThresholds body = v := by
  unfold spelledThresholds
  cases hv : bodyMember body "thresholds" with
  | none => simp [readQuery, hv] at h
  | some w =>
      cases w with
      | obj ms =>
          simp only [readQuery, hv, Option.some.injEq] at h
          rw [← h]
          rfl
      | arr xs =>
          simp only [readQuery, hv, Option.some.injEq] at h
          rw [← h]
          rfl
      | null | bool | num | str => simp [readQuery, hv] at h

/-- The criteria an accepted body is hashed by. -/
theorem statedCriteria_of_accepted [Digests] {criteriaHash : String}
    (hvalid : validateQuery (readQuery body) corpus = [])
    (h : criteriaHashOf body = .ok criteriaHash) :
    ∃ criteria, statedCriteria body = .ok criteria ∧
      criteriaHash = Digests.sha256Ref (utf8 (stringify criteria)) := by
  obtain ⟨xs, hxs⟩ := columns_of_validated hvalid
  cases body with
  | obj ms =>
      obtain ⟨criteria, hcriteria, hhash⟩ := bind_eq_ok.1 h
      cases hhash
      exact ⟨criteria, hcriteria, rfl⟩
  | null | bool | num | str | arr => cases hxs

/-- What an accepted body spells. -/
theorem statedCriteria_eq_ok {criteria : Value} (h : statedCriteria body = .ok criteria) :
    ∃ columns states counties, sortedMember body "columns" = .ok columns ∧
      sortedMember body "states" = .ok states ∧ sortedMember body "counties" = .ok counties ∧
      criteria = .obj [("columns", columns), ("states", states), ("counties", counties),
        ("minPopulation", orNull (bodyMember body "minPopulation")),
        ("thresholds", spelledThresholds body)] := by
  obtain ⟨columns, hcolumns, h₁⟩ := bind_eq_ok.1 h
  obtain ⟨states, hstates, h₂⟩ := bind_eq_ok.1 h₁
  obtain ⟨counties, hcounties, h₃⟩ := bind_eq_ok.1 h₂
  cases h₃
  exact ⟨columns, states, counties, hcolumns, hstates, hcounties, rfl⟩

end Accepted

/-! ## The hash -/

section Pair

variable {b b' : Value} {corpus : Corpus}

/-- Criteria are printed alike exactly when the bodies spell them alike. -/
theorem printed_criteria_iff {criteria criteria' : Value} (h : statedCriteria b = .ok criteria)
    (h' : statedCriteria b' = .ok criteria') :
    printed criteria = printed criteria' ↔ SameSpelling b b' := by
  obtain ⟨columns, states, counties, hcolumns, hstates, hcounties, rfl⟩ := statedCriteria_eq_ok h
  obtain ⟨columns', states', counties', hcolumns', hstates', hcounties', rfl⟩ :=
    statedCriteria_eq_ok h'
  rw [printed_obj, printed_obj]
  constructor
  · intro heq
    have hms := Json.obj.inj heq
    simp only [List.map_cons, List.map_nil, List.cons.injEq, Prod.mk.injEq, true_and, and_true]
      at hms
    obtain ⟨h₁, h₂, h₃, h₄, h₅⟩ := hms
    refine ⟨?_, ?_, ?_, h₄, h₅⟩
    · rw [hcolumns, hcolumns']
      exact congrArg Except.ok h₁
    · rw [hstates, hstates']
      exact congrArg Except.ok h₂
    · rw [hcounties, hcounties']
      exact congrArg Except.ok h₃
  · rintro ⟨h₁, h₂, h₃, h₄, h₅⟩
    rw [hcolumns, hcolumns'] at h₁
    rw [hstates, hstates'] at h₂
    rw [hcounties, hcounties'] at h₃
    simp only [List.map_cons, List.map_nil, h₄, h₅]
    rw [Except.ok.inj h₁, Except.ok.inj h₂, Except.ok.inj h₃]

/-- Accepted bodies have one hash exactly when they spell the same criteria. -/
theorem criteriaHash_eq_iff [Digests] (hsha : Function.Injective (Digests.sha256 : Bytes → Bytes))
    {criteria criteria' : Value} (h : statedCriteria b = .ok criteria)
    (h' : statedCriteria b' = .ok criteria') :
    Digests.sha256Ref (utf8 (stringify criteria)) = Digests.sha256Ref (utf8 (stringify criteria')) ↔
      SameSpelling b b' := by
  rw [Digests.sha256Ref_inj hsha, utf8_injective.eq_iff, stringify_eq_iff,
    printed_criteria_iff h h']

theorem rel_population_of_spelling (hvalid : validateQuery (readQuery b) corpus = [])
    (hvalid' : validateQuery (readQuery b') corpus = [])
    (h : printed (orNull (bodyMember b "minPopulation")) =
      printed (orNull (bodyMember b' "minPopulation"))) :
    Option.Rel SameValue (bodyMember b "minPopulation") (bodyMember b' "minPopulation") := by
  have hnumber := population_of_validated hvalid
  have hnumber' := population_of_validated hvalid'
  cases hv : bodyMember b "minPopulation" with
  | none =>
      rw [hv] at h
      cases hw : bodyMember b' "minPopulation" with
      | none => exact .none
      | some w =>
          obtain ⟨x, rfl, hx⟩ := hnumber' w hw
          rw [hw] at h
          cases h.trans (printed_num hx)
  | some v =>
      obtain ⟨x, rfl, hx⟩ := hnumber v hv
      rw [hv] at h
      cases hw : bodyMember b' "minPopulation" with
      | none =>
          rw [hw] at h
          cases h.symm.trans (printed_num hx)
      | some w =>
          obtain ⟨y, rfl, hy⟩ := hnumber' w hw
          rw [hw] at h
          have htext := toText_eq_of_printed h (by rw [unbounded, unbounded, if_pos hx, if_pos hy])
          exact .some (sameValue_num.2 htext)

/-- Bodies that are spelled alike are read alike exactly when they have the same filters. -/
theorem SameSpelling.query_iff (h : SameSpelling b b')
    (hvalid : validateQuery (readQuery b) corpus = [])
    (hvalid' : validateQuery (readQuery b') corpus = []) {criteria : Value}
    (hcriteria : statedCriteria b = .ok criteria) :
    SameQuery (readQuery b) (readQuery b') ↔ SameFilters b b' := by
  obtain ⟨columns, states, counties, hcolumns, hstates, hcounties, -⟩ :=
    statedCriteria_eq_ok hcriteria
  constructor
  · intro hq
    exact ⟨Json.isSome_eq_of_rel hq.states, Json.isSome_eq_of_rel hq.counties,
      Json.rel_of_imp hq.thresholds fun v _ w _ hvw => hvw.bounds⟩
  · intro hf
    refine ⟨?_, rel_strArray_of_spelling (by rw [hstates]; rfl) h.states hf.states,
      rel_strArray_of_spelling (by rw [hcounties]; rfl) h.counties hf.counties,
      rel_population_of_spelling hvalid hvalid' h.minPopulation, ?_⟩
    · obtain ⟨xs, hxs⟩ := columns_of_validated hvalid
      obtain ⟨ys, hys⟩ := columns_of_validated hvalid'
      have hrel := rel_strArray_of_spelling (by rw [hcolumns]; rfl) h.columns
        (by rw [hxs, hys]; rfl)
      show SameSet ((strArray (bodyMember b "columns")).getD [])
        ((strArray (bodyMember b' "columns")).getD [])
      rw [hxs, hys] at hrel ⊢
      cases hrel with
      | some hset => exact hset
    · refine Json.rel_of_imp hf.thresholds fun v hv w hw hvw => hvw.value ?_
      rw [← spelledThresholds_of_read hv, ← spelledThresholds_of_read hw]
      exact h.thresholds

end Pair

/-! ## Plain bodies -/

/-- A list of texts, each once, if it is there. -/
def PlainList (v : Option Value) : Prop :=
  ∀ items ∈ v, ∃ xs : List String, items = textList xs ∧ xs.Nodup

/-- Thresholds with finite bounds and their members in order, if they are there. -/
def PlainThresholds (v : Option Value) : Prop :=
  ∀ th ∈ v, (∃ ms, th = .obj ms) ∧ th.Distinct ∧ th.sorted codeUnitLe = th ∧
    Json.Each (fun x => x.isFinite = true) th

structure PlainBody (body : Value) : Prop where
  columns : PlainList (bodyMember body "columns")
  states : PlainList (bodyMember body "states")
  counties : PlainList (bodyMember body "counties")
  thresholds : PlainThresholds (bodyMember body "thresholds")

/-- Bodies with the same filters written down. -/
def SamePresence (b b' : Value) : Prop :=
  ∀ k ∈ ["states", "counties", "thresholds"],
    (bodyMember b k).isSome = (bodyMember b' k).isSome

theorem sortValues_texts (xs : List String) :
    sortValues (xs.map .str) = .ok ((sortTexts xs).map .str) := by
  have hkeyed : (xs.map Json.str).mapM (fun x : Value => do return (← textOf x, x)) =
      .ok (xs.map fun s => (s, Json.str s)) := by
    induction xs with
    | nil => rfl
    | cons x xs ih =>
        rw [List.map_cons, List.mapM_cons, ih]
        rfl
  unfold sortValues
  rw [hkeyed, List.length_map]
  split_ifs with hshort
  · match xs, hshort with
    | [], _ => rfl
    | [_], _ => rfl
  · rw [ok_bind, ← List.map_insertionSort codeUnitLe (fun a b : String × Value =>
      codeUnitLe a.1 b.1) (fun s => (s, Json.str s)) _ fun _ _ _ _ => Iff.rfl, List.map_map]
    rfl

theorem isSome_strArray {v : Option Value} (h : PlainList v) : (strArray v).isSome = v.isSome := by
  cases v with
  | none => rfl
  | some items =>
      obtain ⟨xs, rfl, _⟩ := h items rfl
      rfl

/-- Plain lists of the same texts are spelled alike. -/
theorem sortedMember_eq_of_rel {b b' : Value} {k : String} (h : PlainList (bodyMember b k))
    (h' : PlainList (bodyMember b' k))
    (hrel : Option.Rel SameSet (strArray (bodyMember b k)) (strArray (bodyMember b' k))) :
    sortedMember b k = sortedMember b' k := by
  have hpresent := Json.isSome_eq_of_rel hrel
  rw [isSome_strArray h, isSome_strArray h'] at hpresent
  unfold sortedMember
  cases hv : bodyMember b k with
  | none =>
      rw [hv] at hpresent
      rw [Option.isNone_iff_eq_none.1 (Option.isSome_eq_false_iff.1 hpresent.symm)]
  | some v =>
      rw [hv] at hpresent
      obtain ⟨w, hw⟩ := Option.isSome_iff_exists.1 hpresent.symm
      obtain ⟨xs, rfl, hxs⟩ := h v hv
      obtain ⟨ys, rfl, hys⟩ := h' w hw
      rw [hv, hw, strArray_textList, strArray_textList] at hrel
      cases hrel with
      | some hset =>
          have hperm : xs.Perm ys := by
            refine (List.perm_ext_iff_of_nodup hxs hys).2 fun x => ?_
            rw [← mem_distinct, hset x, mem_distinct]
          have hsorted : sortValues (xs.map .str) = sortValues (ys.map .str) := by
            rw [sortValues_texts, sortValues_texts, sortTexts_eq_of_perm hperm]
          rw [hw]
          show (sortValues (xs.map .str) >>= fun zs => _) =
            (sortValues (ys.map .str) >>= fun zs => _)
          rw [hsorted]

theorem thresholds_of_plain {body : Value} (h : PlainThresholds (bodyMember body "thresholds")) :
    (readQuery body).thresholds = bodyMember body "thresholds" := by
  cases hv : bodyMember body "thresholds" with
  | none => simp [readQuery, hv]
  | some th =>
      obtain ⟨⟨ms, rfl⟩, _⟩ := h th hv
      simp [readQuery, hv]

section Plain

variable {b b' : Value} {corpus : Corpus} (hb : PlainBody b) (hb' : PlainBody b')

include hb hb'

/-- Plain bodies that are read alike are spelled alike. -/
theorem SameQuery.spelling (hvalid : validateQuery (readQuery b) corpus = [])
    (hvalid' : validateQuery (readQuery b') corpus = [])
    (h : SameQuery (readQuery b) (readQuery b')) : SameSpelling b b' := by
  have hcolumns : Option.Rel SameSet (strArray (bodyMember b "columns"))
      (strArray (bodyMember b' "columns")) := by
    obtain ⟨xs, hxs⟩ := columns_of_validated hvalid
    obtain ⟨ys, hys⟩ := columns_of_validated hvalid'
    have hset : SameSet ((strArray (bodyMember b "columns")).getD [])
        ((strArray (bodyMember b' "columns")).getD []) := h.columns
    rw [hxs, hys] at hset ⊢
    exact .some hset
  refine ⟨congrArg _ (sortedMember_eq_of_rel hb.columns hb'.columns hcolumns),
    congrArg _ (sortedMember_eq_of_rel hb.states hb'.states h.states),
    congrArg _ (sortedMember_eq_of_rel hb.counties hb'.counties h.counties), ?_, ?_⟩
  · have hnumber := population_of_validated hvalid
    have hnumber' := population_of_validated hvalid'
    have hrel : Option.Rel SameValue (bodyMember b "minPopulation")
      (bodyMember b' "minPopulation") := h.minPopulation
    cases hv : bodyMember b "minPopulation" <;> cases hw : bodyMember b' "minPopulation" <;>
      rw [hv, hw] at hrel <;> cases hrel
    case some.some.some v w hvw =>
      obtain ⟨x, rfl, hx⟩ := hnumber _ hv
      obtain ⟨y, rfl, hy⟩ := hnumber' _ hw
      show printed (.num x) = printed (.num y)
      rw [printed_num hx, printed_num hy, (numeral_eq_iff hx hy).2 (sameValue_num.1 hvw)]
  · have hrel := h.thresholds
    rw [thresholds_of_plain hb.thresholds, thresholds_of_plain hb'.thresholds] at hrel
    unfold spelledThresholds
    cases hv : bodyMember b "thresholds" <;> cases hw : bodyMember b' "thresholds" <;>
      rw [hv, hw] at hrel <;> cases hrel
    case some.some.some v w hvw =>
      obtain ⟨⟨ms, rfl⟩, hdistinct, hsorted, hfinite⟩ := hb.thresholds _ hv
      obtain ⟨⟨ns, rfl⟩, hdistinct', hsorted', hfinite'⟩ := hb'.thresholds _ hw
      exact hvw.printed_eq hfinite hfinite' hdistinct hdistinct' hsorted hsorted'

/-- Plain bodies with the same filters written down and spelled alike have the same filters. -/
theorem SameSpelling.filters (hpresent : SamePresence b b') (h : SameSpelling b b') :
    SameFilters b b' := by
  refine ⟨?_, ?_, ?_⟩
  · show (strArray (bodyMember b "states")).isSome = (strArray (bodyMember b' "states")).isSome
    rw [isSome_strArray hb.states, isSome_strArray hb'.states]
    exact hpresent "states" (by decide)
  · show (strArray (bodyMember b "counties")).isSome = (strArray (bodyMember b' "counties")).isSome
    rw [isSome_strArray hb.counties, isSome_strArray hb'.counties]
    exact hpresent "counties" (by decide)
  · have hspelled := h.thresholds
    have hsome := hpresent "thresholds" (by decide)
    rw [thresholds_of_plain hb.thresholds, thresholds_of_plain hb'.thresholds]
    unfold spelledThresholds at hspelled
    cases hv : bodyMember b "thresholds" <;> cases hw : bodyMember b' "thresholds" <;>
      rw [hv, hw] at hspelled hsome
    · exact .none
    · cases hsome
    · cases hsome
    · obtain ⟨⟨ms, rfl⟩, -, -, hfinite⟩ := hb.thresholds _ hv
      obtain ⟨⟨ns, rfl⟩, -, -, hfinite'⟩ := hb'.thresholds _ hw
      exact .some (.of_printed hfinite hfinite' hspelled)

end Plain

/-! ## One hash for one query -/

section Hash

variable [Digests] [HostLocale]

end Hash

/-! ## A column named twice -/

section Twice

attribute [local instance] Digests.ideal HostLocale.ascii

def onceOrder : Value :=
  .obj [("columns", .arr [.str "DIABETES"])]

def twiceOrder : Value :=
  .obj [("columns", .arr [.str "DIABETES", .str "DIABETES"])]

theorem exists_onceOrder_quote : ∃ facts,
    composeQuote oneTractCorpus onceOrder ⟨100, 0, 500, 500, 10000⟩ ⟨25, 1, 100⟩ =
      .ok (.accepted facts) :=
  exists_accepted (validateQuery_eq_nil.2 ⟨by decide +kernel, by decide +kernel,
    by decide +kernel, by decide +kernel, by decide +kernel⟩)
    (answerable_oneTract (by decide +kernel) (by decide +kernel) (by decide +kernel))

theorem exists_twiceOrder_quote : ∃ facts,
    composeQuote oneTractCorpus twiceOrder ⟨100, 0, 500, 500, 10000⟩ ⟨25, 1, 100⟩ =
      .ok (.accepted facts) :=
  exists_accepted (validateQuery_eq_nil.2 ⟨by decide +kernel, by decide +kernel,
    by decide +kernel, by decide +kernel, by decide +kernel⟩)
    (answerable_oneTract (by decide +kernel) (by decide +kernel) (by decide +kernel))

/-- An empty filter and an absent one have one hash. -/
example : (criteriaHashOf onceOrder).toOption = (criteriaHashOf
    (.obj [("columns", .arr [.str "DIABETES"]), ("states", .arr [])])).toOption := by
  decide +kernel

end Twice

end DataSeller

end Coordination
