import Coordination.Library.Decimal
import Coordination.DataSeller.Allocation
import Coordination.DataSeller.Engine.Cells

/-!
# The records and their file

A record is drawn from the seed, its position and its tract, and each of its flags from the name
of the column besides: buying other columns changes no flag. The file has a record on each line,
and the reader of the corpus reads its cells back.
-/

namespace Coordination

namespace DataSeller

namespace Engine

open JavaScript Library

/-! ## Drawing -/

section Drawing

variable [Digests] [HostLocale] {tracts : List Tract} {rowCount : Exact}
  {rowsPerTract : Option ℕ} {seed : String} {columns columns' : List String}
  {people : List SyntheticPerson}

/-- The tracts of the rows, which are found without looking at the columns. -/
def drawnTracts (tracts : List Tract) (rowCount : Exact) (rowsPerTract : Option ℕ)
    (seed : String) : Except Failure (List Tract) := do
  let assigned ← assignedTracts tracts ⟨rowCount, rowsPerTract, seed, []⟩
  (List.range rowCount.count).mapM fun i => tractOfRow tracts seed assigned i

/-- A generation draws the tract of every row, and then the rows. -/
theorem generateSyntheticPeople_eq_ok :
    generateSyntheticPeople tracts ⟨rowCount, rowsPerTract, seed, columns⟩ = .ok people ↔
      tracts ≠ [] ∧ rowCount.above maxRows = false ∧
        ∃ drawn, drawnTracts tracts rowCount rowsPerTract seed = .ok drawn ∧
          people = List.zipWith (fun i t => personOf seed columns t i)
            (List.range rowCount.count) drawn := by
  have hrows (assigned : Option (List Tract)) :
      ((List.range rowCount.count).mapM fun i => do
        let tract ← tractOfRow tracts seed assigned i
        return personOf seed columns tract i) =
      ((List.range rowCount.count).mapM fun i => tractOfRow tracts seed assigned i).map
        (List.zipWith (fun i t => personOf seed columns t i) (List.range rowCount.count)) :=
    mapM_bind_pure _ _ _
  unfold generateSyntheticPeople drawnTracts
  by_cases hempty : tracts.length = 0
  · simp [List.length_eq_zero_iff.1 hempty, synthError]
  · have hne : tracts ≠ [] := fun h => hempty (List.length_eq_zero_iff.2 h)
    by_cases habove : rowCount.above maxRows = true
    · simp only [if_neg hempty, if_pos habove]
      simp [habove, synthError]
    · rw [Bool.not_eq_true] at habove
      simp only [if_neg hempty, habove, Bool.false_eq_true, if_false, hrows]
      show (assignedTracts tracts ⟨rowCount, rowsPerTract, seed, []⟩ >>= fun assigned => _) = _ ↔ _
      simp only [ne_eq, hne, not_false_eq_true, true_and]
      constructor
      · intro h
        obtain ⟨assigned, hassigned, hmap⟩ := bind_eq_ok.1 h
        obtain ⟨drawn, hdrawn, rfl⟩ := map_eq_ok.1 hmap
        exact ⟨drawn, by rw [hassigned, ok_bind]; exact hdrawn, rfl⟩
      · rintro ⟨drawn, hdrawn, rfl⟩
        obtain ⟨assigned, hassigned, hmapM⟩ := bind_eq_ok.1 hdrawn
        rw [hassigned, ok_bind, hmapM]
        rfl

omit [HostLocale] in
/-- The flag of a column of the record is drawn for that column alone. -/
theorem lookup_flags {c : String} (hc : c ∈ columns) (hname : c ≠ "__proto__") (t : Tract) (i : ℕ) :
    (personOf seed columns t i).flags.lookup c =
      some (flagOf seed i t (pickAgeBand (uniform seed i "age")) c) := by
  suffices h : ∀ flags : List (String × Bool), c ∈ columns ∨ flags.lookup c =
      some (flagOf seed i t (pickAgeBand (uniform seed i "age")) c) →
      (columns.foldl (fun flags key =>
        assign key (flagOf seed i t (pickAgeBand (uniform seed i "age")) key) flags) flags).lookup c =
          some (flagOf seed i t (pickAgeBand (uniform seed i "age")) c) from h [] (Or.inl hc)
  clear hc
  induction columns with
  | nil =>
      rintro flags (hmem | hlookup)
      · exact absurd hmem List.not_mem_nil
      · exact hlookup
  | cons key columns ih =>
      intro flags hflags
      rw [List.foldl_cons]
      refine ih _ ?_
      by_cases hkey : key = c
      · subst hkey
        right
        rw [assign, if_neg hname, lookup_setMember_self]
      · rcases hflags with hmem | hlookup
        · exact Or.inl ((List.mem_cons.1 hmem).resolve_left fun h => hkey h.symm)
        · right
          unfold assign
          split_ifs
          · exact hlookup
          · rw [lookup_setMember_of_ne _ _ fun h => hkey h.symm, hlookup]

/-- Two records of one row, of which the flags of `shared` columns are the same. -/
structure SameRow (shared : String → Prop) (p q : SyntheticPerson) : Prop where
  id : p.syntheticPersonId = q.syntheticPersonId
  tract : p.sourceTractFIPS = q.sourceTractFIPS
  county : p.sourceCountyName = q.sourceCountyName
  state : p.sourceStateAbbr = q.sourceStateAbbr
  age : p.ageBand = q.ageBand
  flags : ∀ c, shared c → ∃ flag, p.flags.lookup c = some flag ∧ q.flags.lookup c = some flag

omit [Digests] [HostLocale] in
theorem name_ne_proto {c : String} (hc : isSoldMeasure c = true) : c ≠ "__proto__" := by
  rintro rfl
  revert hc
  decide

/-- Whatever columns are bought, a generation succeeds alike, and its records differ in the flags
of the other columns only. -/
theorem columns_drawn_independently (hsold : ∀ c ∈ columns, isSoldMeasure c = true)
    (hpeople : generateSyntheticPeople tracts ⟨rowCount, rowsPerTract, seed, columns⟩ =
      .ok people) :
    ∃ people', generateSyntheticPeople tracts ⟨rowCount, rowsPerTract, seed, columns'⟩ =
        .ok people' ∧
      List.Forall₂ (SameRow fun c => c ∈ columns ∧ c ∈ columns') people people' := by
  obtain ⟨hne, habove, drawn, hdrawn, rfl⟩ := generateSyntheticPeople_eq_ok.1 hpeople
  refine ⟨_, generateSyntheticPeople_eq_ok.2 ⟨hne, habove, drawn, hdrawn, rfl⟩, ?_⟩
  clear hdrawn hpeople
  generalize List.range rowCount.count = rows
  induction rows generalizing drawn with
  | nil => exact .nil
  | cons i rows ih =>
      cases drawn with
      | nil => exact .nil
      | cons t drawn =>
          refine .cons ⟨rfl, rfl, rfl, rfl, rfl, fun c hc => ?_⟩ (ih drawn)
          have hname := name_ne_proto (hsold c hc.1)
          exact ⟨_, lookup_flags hc.1 hname t i, lookup_flags hc.2 hname t i⟩

/-- Every record stands for a tract of the slice. -/
theorem exists_tract_of_mem
    (hpeople : generateSyntheticPeople tracts ⟨rowCount, rowsPerTract, seed, columns⟩ =
      .ok people) {p : SyntheticPerson} (hp : p ∈ people) :
    ∃ t ∈ tracts, ∃ i, p = personOf seed columns t i := by
  obtain ⟨_, _, drawn, hdrawn, rfl⟩ := generateSyntheticPeople_eq_ok.1 hpeople
  obtain ⟨assigned, hassigned, hmapM⟩ := bind_eq_ok.1 hdrawn
  have hassigned : ∀ ts, assigned = some ts → ∀ t ∈ ts, t ∈ tracts := by
    rintro ts rfl t ht
    unfold assignedTracts at hassigned
    cases rowsPerTract with
    | none => cases hassigned
    | some r =>
        obtain ⟨alloc, _, hguard⟩ := bind_eq_ok.1 hassigned
        split_ifs at hguard
        · cases hguard
        · cases hguard
          obtain ⟨x, hx, ht⟩ := List.mem_flatMap.1 ht
          rw [(List.mem_replicate.1 ht).2]
          exact (List.of_mem_zip hx).2
  have hrow {i : ℕ} {t : Tract} (h : tractOfRow tracts seed assigned i = .ok t) : t ∈ tracts := by
    unfold tractOfRow at h
    cases assigned with
    | none =>
        unfold pickTract at h
        simp only at h
        split at h
        · rename_i found hfound
          cases h
          split_ifs at hfound
          · exact List.mem_of_head? hfound
          · exact List.mem_of_getElem? hfound
        · cases h
    | some ts =>
        simp only at h
        split at h
        · rename_i found hfound
          cases h
          exact hassigned ts rfl _ (List.mem_of_getElem? hfound)
        · cases h
  obtain ⟨k, hk, rfl⟩ := List.mem_iff_getElem.1 hp
  rw [List.length_zipWith] at hk
  have hrows := List.forall₂_iff_get.1 (forall₂_of_mapM_eq_ok hmapM)
  refine ⟨drawn[k], hrow (hrows.2 k (by omega) (by omega)), (List.range rowCount.count)[k], ?_⟩
  rw [List.getElem_zipWith]

end Drawing

/-! ## Ids -/

section Ids

/-- A row number as the id spells it. -/
def paddedNumber (n : ℕ) : List Char :=
  List.replicate (6 - (Nat.toDigits 10 n).length) '0' ++ Nat.toDigits 10 n

theorem toList_syntheticPersonId [Digests] (seed : String) (columns : List String) (t : Tract)
    (i : ℕ) : (personOf seed columns t i).syntheticPersonId.toList =
      "syn_".toList ++ paddedNumber (i + 1) := by
  show ("syn_" ++ String.ofList (List.replicate (6 - (toString (i + 1)).length) '0') ++
    toString (i + 1)).toList = _
  rw [String.toList_append, String.toList_append, String.toList_ofList, List.append_assoc,
    Nat.toString_eq_ofList_toDigits, String.length_ofList, String.toList_ofList,
    String.toList_ofList, paddedNumber]

theorem isDigit_of_mem_paddedNumber {n : ℕ} {c : Char} (hc : c ∈ paddedNumber n) :
    c.isDigit = true := by
  rcases List.mem_append.1 hc with hc | hc
  · rw [(List.mem_replicate.1 hc).2]
    rfl
  · exact Nat.isDigit_of_mem_toDigits (by decide) (by decide) hc

theorem length_paddedNumber {n : ℕ} (hn : n ≤ maxRows) : (paddedNumber n).length = 6 := by
  have hle : (Nat.toDigits 10 n).length ≤ 6 :=
    (Nat.length_toDigits_le_iff (by decide) (by decide)).2 (lt_of_le_of_lt hn (by decide))
  rw [paddedNumber, List.length_append, List.length_replicate]
  omega

/-- The numbers of the rows are ordered as texts. -/
theorem paddedNumber_lt {m n : ℕ} (hmn : m < n) (hn : n ≤ maxRows) :
    (paddedNumber m).map Char.toNat < (paddedNumber n).map Char.toNat := by
  refine map_toNat_lt (fun _ => isDigit_of_mem_paddedNumber) (fun _ => isDigit_of_mem_paddedNumber)
    ?_ ?_
  · rw [length_paddedNumber hn, length_paddedNumber (hmn.le.trans hn)]
  · rwa [paddedNumber, paddedNumber, ofDigitChars_zeros_append, ofDigitChars_zeros_append,
      Nat.ofDigitChars_ten_toDigits, Nat.ofDigitChars_ten_toDigits]

theorem ascii_syntheticPersonId [Digests] (seed : String) (columns : List String) (t : Tract)
    (i : ℕ) : ∀ c ∈ (personOf seed columns t i).syntheticPersonId.toList, c.toNat < 128 := by
  have hmark : ∀ c ∈ ['s', 'y', 'n', '_'], c.toNat < 128 := by simp
  intro c hc
  rw [toList_syntheticPersonId] at hc
  rcases List.mem_append.1 hc with hc | hc
  · exact hmark c hc
  · have hbounds := digit_bounds (isDigit_of_mem_paddedNumber hc)
    omega

theorem syntheticPersonId_lt [Digests] (seed : String) (columns : List String) (t t' : Tract)
    {i j : ℕ} (hij : i < j) (hj : j < maxRows) :
    utf16 (personOf seed columns t i).syntheticPersonId <
      utf16 (personOf seed columns t' j).syntheticPersonId := by
  rw [utf16_eq_map fun c hc => (ascii_syntheticPersonId seed columns t i c hc).trans (by decide),
    utf16_eq_map fun c hc => (ascii_syntheticPersonId seed columns t' j c hc).trans (by decide),
    toList_syntheticPersonId, toList_syntheticPersonId, List.map_append, List.map_append]
  exact List.append_left_lt (paddedNumber_lt (Nat.succ_lt_succ hij) hj)

theorem count_le_of_not_above {total : Exact} {cap : ℕ} (h : total.above cap = false) :
    total.count ≤ cap := by
  cases total with
  | nan => exact Nat.zero_le _
  | inf negative => exact Nat.zero_le _
  | fin q =>
      have hcap : q ≤ (cap : ℚ) := by simpa [Exact.above] using h
      have hceil : ⌈q⌉ ≤ (cap : ℤ) := Int.ceil_le.2 (by exact_mod_cast hcap)
      show ⌈q⌉.toNat ≤ cap
      omega

/-- The ids of a generation increase in the order of the rows. -/
theorem ids_increase [Digests] [HostLocale] {tracts : List Tract} {options : SynthesisOptions}
    {people : List SyntheticPerson} (hpeople : generateSyntheticPeople tracts options = .ok people) :
    people.Pairwise fun p q => utf16 p.syntheticPersonId < utf16 q.syntheticPersonId := by
  obtain ⟨_, habove, drawn, _, rfl⟩ := generateSyntheticPeople_eq_ok.1 hpeople
  have hcount := count_le_of_not_above habove
  rw [List.pairwise_iff_getElem]
  intro i j hi hj hij
  rw [List.length_zipWith, List.length_range] at hj
  rw [List.getElem_zipWith, List.getElem_zipWith, List.getElem_range, List.getElem_range]
  exact syntheticPersonId_lt _ _ _ _ hij (by omega)

end Ids

/-! ## The file -/

section File

variable [HostLocale] {columns : List String} {people : List SyntheticPerson}

/-- The values of a record in the order of the header. -/
def valuesOf (columns : List String) (p : SyntheticPerson) : List String :=
  [p.syntheticPersonId, p.sourceTractFIPS, p.sourceCountyName, p.sourceStateAbbr, p.ageBand.band] ++
    columns.map (fun c => if (p.flags.lookup c).getD false then "1" else "0") ++ ["true"]

/-- The header and the records of the file, each without its line end. -/
def csvLines (people : List SyntheticPerson) (columns : List String) : List String :=
  String.intercalate "," (deliverableHeader columns) :: people.map (csvRow columns)

/-- `text.split("\n")`. -/
def textLines (text : String) : List String :=
  (text.toList.splitOn '\n').map String.ofList

theorem columnName_unquoted (hsold : ∀ c ∈ columns, isSoldMeasure c = true) :
    ∀ t ∈ columns.map columnName ++ ["is_synthetic"], Unquoted t := by
  have hname : ∀ m : MeasureKey, Unquoted (syntheticColumn m) := by
    intro m
    cases m <;> decide
  intro t ht
  rcases List.mem_append.1 ht with ht | ht
  · obtain ⟨c, hc, rfl⟩ := List.mem_map.1 ht
    obtain ⟨m, _, hm⟩ := columnName_of_sold (hsold c hc)
    rw [hm]
    exact hname m
  · rw [List.mem_singleton.1 ht]
    decide

/-- The header line is read back. -/
theorem splitCsvLine_header (hsold : ∀ c ∈ columns, isSoldMeasure c = true) :
    splitCsvLine (String.intercalate "," (deliverableHeader columns)) = deliverableHeader columns := by
  refine splitCsvLine_intercalate (spells_plain (by decide)) ?_
  refine .cons (spells_plain (by decide)) (.cons (spells_plain (by decide))
    (.cons (spells_plain (by decide)) (.cons (spells_plain (by decide)) ?_)))
  exact forall₂_unquoted (columnName_unquoted hsold)

omit [HostLocale] in
/-- The line of a record is read back. -/
theorem splitCsvLine_row (hsold : ∀ c ∈ columns, isSoldMeasure c = true) {p : SyntheticPerson}
    (hid : Unquoted p.syntheticPersonId) (htract : Unquoted p.sourceTractFIPS)
    (hstate : Unquoted p.sourceStateAbbr) : splitCsvLine (csvRow columns p) = valuesOf columns p := by
  have hband : Unquoted p.ageBand.band := by
    cases p.ageBand <;> decide
  have hflags : columns.map (flagCell p) =
      columns.map fun c => if (p.flags.lookup c).getD false then "1" else "0" :=
    List.map_congr_left fun c hc => if_neg (name_ne_proto (hsold c hc))
  rw [csvRow, hflags]
  refine splitCsvLine_intercalate (spells_plain hid) ?_
  refine .cons (spells_plain htract) (.cons (spells_quoted p.sourceCountyName)
    (.cons (spells_plain hstate) (.cons (spells_plain hband) (forall₂_unquoted fun t ht => ?_))))
  rcases List.mem_append.1 ht with ht | ht
  · obtain ⟨c, _, rfl⟩ := List.mem_map.1 ht
    split_ifs <;> decide
  · rw [List.mem_singleton.1 ht]
    decide

/-! ## Lines -/

omit [HostLocale] in
theorem intercalate_append_singleton {α : Type} (c : α) : ∀ {xs : List (List α)}, xs ≠ [] →
    [c].intercalate xs ++ [c] = [c].intercalate (xs ++ [[]])
  | [], hne => absurd rfl hne
  | [x], _ => by simp [List.intercalate]
  | x :: y :: xs, _ => by
      have hrest := intercalate_append_singleton c (List.cons_ne_nil y xs)
      rw [intercalate_cons_cons_eq, List.append_assoc, List.cons_append, hrest]
      exact (intercalate_cons_cons_eq x y (xs ++ [[]])).symm

omit [HostLocale] in
/-- Lines without a line end inside are the lines of their text. -/
theorem textLines_intercalate {lines : List String} (hne : lines ≠ [])
    (h : ∀ line ∈ lines, '\n' ∉ line.toList) :
    textLines (String.intercalate "\n" lines ++ "\n") = lines ++ [""] := by
  have hsplit : (['\n'].intercalate (lines.map String.toList ++ [[]])).splitOn '\n' =
      lines.map String.toList ++ [[]] := by
    refine List.splitOn_intercalate _ (fun l hl => ?_) (by simp)
    rcases List.mem_append.1 hl with hl | hl
    · obtain ⟨line, hline, rfl⟩ := List.mem_map.1 hl
      exact h line hline
    · rw [List.mem_singleton.1 hl]
      exact List.not_mem_nil
  have hne' : lines.map String.toList ≠ [] := by simpa using hne
  rw [textLines, String.toList_append, String.toList_intercalate]
  refine (congrArg (fun cs => (cs.splitOn '\n').map String.ofList)
    (intercalate_append_singleton '\n' hne')).trans ?_
  rw [hsplit]
  simp

/-- No field of the record breaks its line. -/
def Unbroken (p : SyntheticPerson) : Prop :=
  '\n' ∉ p.sourceTractFIPS.toList ∧ '\n' ∉ p.sourceCountyName.toList ∧
    '\n' ∉ p.sourceStateAbbr.toList

theorem csvLines_unbroken (hsold : ∀ c ∈ columns, isSoldMeasure c = true)
    (hids : ∀ p ∈ people, '\n' ∉ p.syntheticPersonId.toList)
    (hpeople : ∀ p ∈ people, Unbroken p) :
    ∀ line ∈ csvLines people columns, '\n' ∉ line.toList := by
  intro line hline
  rcases List.mem_cons.1 hline with rfl | hrow
  · rw [String.toList_intercalate]
    exact notMem_intercalate (by decide) fun name hname =>
      (deliverableHeader_plain hsold name hname).2
  · obtain ⟨p, hp, rfl⟩ := List.mem_map.1 hrow
    obtain ⟨htract, hcounty, hstate⟩ := hpeople p hp
    have hquoted : '\n' ∉ (quoteCsv p.sourceCountyName).toList := by
      rw [quoteCsv, String.toList_ofList, List.cons_append, List.mem_cons, List.mem_append,
        List.mem_flatMap, List.mem_singleton]
      rintro (h | ⟨c, hc, h⟩ | h)
      · revert h; decide
      · have hsame : '\n' = c := by
          split_ifs at h <;> simpa using h
        exact hcounty (hsame ▸ hc)
      · revert h; decide
    have hband : '\n' ∉ p.ageBand.band.toList := by
      cases p.ageBand <;> decide
    have hflag (c : String) : '\n' ∉ (flagCell p c).toList := by
      unfold flagCell
      split_ifs <;> decide
    rw [csvRow, String.toList_intercalate]
    refine notMem_intercalate (by decide) fun cell hcell => ?_
    obtain ⟨s, hs, rfl⟩ := List.mem_map.1 hcell
    simp only [List.cons_append, List.nil_append, List.mem_cons, List.mem_append, List.mem_map,
      List.not_mem_nil, or_false] at hs
    rcases hs with rfl | rfl | rfl | rfl | rfl | ⟨c, _, rfl⟩ | rfl
    · exact hids p hp
    · exact htract
    · exact hquoted
    · exact hstate
    · exact hband
    · exact hflag c
    · decide

/-- Every line of the file reads back as the values of its record, as many as the header has
columns, and the ids increase from line to line. -/
theorem serializeCsv_lossless [Digests] {tracts : List Tract} {options : SynthesisOptions}
    (hsold : ∀ c ∈ columns, isSoldMeasure c = true)
    (hpeople : generateSyntheticPeople tracts options = .ok people)
    (hcodes : ∀ p ∈ people, Unquoted p.sourceTractFIPS ∧ Unquoted p.sourceStateAbbr) :
    (csvLines people columns).map splitCsvLine =
        deliverableHeader columns :: people.map (valuesOf columns) ∧
      (∀ p, (valuesOf columns p).length = (deliverableHeader columns).length) ∧
      ((∀ p ∈ people, Unbroken p) → ∃ text, serializeCsv people columns = utf8 text ∧
        textLines text = csvLines people columns ++ [""]) ∧
      people.Pairwise fun p q => utf16 p.syntheticPersonId < utf16 q.syntheticPersonId := by
  have hids : ∀ p ∈ people, ∀ c ∈ p.syntheticPersonId.toList, c ∈ "syn_".toList ∨ c.isDigit := by
    intro p hp c hc
    obtain ⟨t, _, i, rfl⟩ := exists_tract_of_mem hpeople hp
    rw [toList_syntheticPersonId] at hc
    exact (List.mem_append.1 hc).imp_right isDigit_of_mem_paddedNumber
  have hid {p : SyntheticPerson} (hp : p ∈ people) {c : Char} (hmark : c ∉ "syn_".toList)
      (hdigit : ¬ c.isDigit) : c ∉ p.syntheticPersonId.toList := fun hc =>
    (hids p hp c hc).elim hmark hdigit
  refine ⟨?_, fun p => ?_, fun hunbroken => ⟨_, rfl, ?_⟩, ids_increase hpeople⟩
  · rw [csvLines, List.map_cons, splitCsvLine_header hsold, List.map_map]
    refine congrArg _ (List.map_congr_left fun p hp => ?_)
    exact splitCsvLine_row hsold ⟨hid hp (by decide) (by decide), hid hp (by decide) (by decide)⟩
      (hcodes p hp).1 (hcodes p hp).2
  · simp [valuesOf, deliverableHeader]
  · exact textLines_intercalate (List.cons_ne_nil _ _) (csvLines_unbroken hsold
      (fun p hp => hid hp (by decide) (by decide)) hunbroken)

end File

section Demo

attribute [local instance] Digests.checksum HostLocale.ascii

theorem demoSlice_generable (columns : List String) : ∃ people,
    generateSyntheticPeople demoSlice ⟨(5 : ℕ), some 1, "seed", columns⟩ = .ok people := by
  refine exists_of_isOk ((isOk_generateSyntheticPeople (le_refl 1) _ _).2 ⟨nofun, ?_, ?_, nofun⟩)
  · exact (Exact.above_natCast 5 maxRows).trans (by decide)
  · exact (Exact.below_natCast 5 _).trans (by decide)

theorem columns_drawn_independently_demo : ∃ people people',
    generateSyntheticPeople demoSlice ⟨(5 : ℕ), some 1, "seed", ["DIABETES", "SLEEP"]⟩ =
        .ok people ∧
      generateSyntheticPeople demoSlice ⟨(5 : ℕ), some 1, "seed", ["SLEEP"]⟩ = .ok people' ∧
      List.Forall₂ (SameRow fun c => c ∈ ["DIABETES", "SLEEP"] ∧ c ∈ ["SLEEP"]) people people' := by
  obtain ⟨people, hpeople⟩ := demoSlice_generable ["DIABETES", "SLEEP"]
  exact ⟨people, (columns_drawn_independently (by decide) hpeople).imp fun _ h => ⟨hpeople, h⟩⟩

theorem serializeCsv_lossless_demo : ∃ people,
    generateSyntheticPeople demoSlice ⟨(5 : ℕ), some 1, "seed", ["SLEEP"]⟩ = .ok people ∧
      (csvLines people ["SLEEP"]).map splitCsvLine =
        deliverableHeader ["SLEEP"] :: people.map (valuesOf ["SLEEP"]) := by
  obtain ⟨people, hpeople⟩ := demoSlice_generable ["SLEEP"]
  refine ⟨people, hpeople, (serializeCsv_lossless (by decide) hpeople fun p hp => ?_).1⟩
  have hcodes : ∀ t ∈ demoSlice, Unquoted t.tractFips ∧ Unquoted t.stateAbbr := by decide
  obtain ⟨t, ht, i, rfl⟩ := exists_tract_of_mem hpeople hp
  exact hcodes t ht

end Demo

end Engine

end DataSeller

end Coordination
