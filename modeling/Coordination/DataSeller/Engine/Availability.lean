import Coordination.DataSeller.Engine.Query
import Coordination.Library.Fallible

/-!
# Availability

`loadPlaces` counts, line by line, the tracts of each state and those among them with a value
of each measure. The counters stay equal to the numbers of tracts gathered so far; hence the
states listed as unavailable are those without a published value, and the exhaustiveness flag
says that a tract lacks a value only in such a state.
-/

namespace Coordination

namespace DataSeller

namespace Engine

open JavaScript Library

/-! ## Counters -/

theorem lookup_countUp {κ : Type} [DecidableEq κ] [BEq κ] [LawfulBEq κ] (k k' : κ)
    (counts : List (κ × ℕ)) :
    ((countUp k counts).lookup k').getD 0 =
      (counts.lookup k').getD 0 + if k' = k then 1 else 0 := by
  induction counts with
  | nil =>
      by_cases hk : k' = k
      · simp [countUp, hk]
      · simp [countUp, List.lookup_cons, hk, beq_false_of_ne hk]
  | cons c counts ih =>
      obtain ⟨c, n⟩ := c
      by_cases hc : c = k
      · subst hc
        by_cases hk : k' = c
        · simp [countUp, hk]
        · simp [countUp, List.lookup_cons, hk, beq_false_of_ne hk]
      · by_cases hk : k' = c
        · subst hk
          simp [countUp, hc]
        · have hskip (n : ℕ) (counts : List (κ × ℕ)) :
              ((c, n) :: counts).lookup k' = counts.lookup k' := by
            rw [List.lookup_cons, beq_false_of_ne hk]
          rw [countUp, if_neg hc, hskip, hskip, ih]

/-- A key that is counted once for each of a list of measures. -/
theorem lookup_foldl_countUp (m : MeasureKey) (st st' : String) (ms : List MeasureKey)
    (counts : List ((MeasureKey × String) × ℕ)) :
    ((ms.foldl (fun counts m' => countUp (m', st) counts) counts).lookup (m, st')).getD 0 =
      (counts.lookup (m, st')).getD 0 + if st' = st then ms.count m else 0 := by
  induction ms generalizing counts with
  | nil => simp
  | cons m' ms ih =>
      rw [List.foldl_cons, ih, lookup_countUp, List.count_cons]
      by_cases hst : st' = st
      · by_cases hm : m' = m
        · simp [hst, hm]
          omega
        · simp [hst, hm, Ne.symm hm]
      · simp [hst]

theorem mem_addTo {α : Type} [DecidableEq α] {xs : List α} {x y : α} :
    y ∈ addTo xs x ↔ y ∈ xs ∨ y = x := by
  unfold addTo
  split_ifs with hx
  · constructor
    · exact Or.inl
    · rintro (h | rfl)
      · exact h
      · exact hx
  · simp

theorem nodup_measureKeys : measureKeys.Nodup := by decide

theorem mem_measureKeys (m : MeasureKey) : m ∈ measureKeys := by cases m <;> decide

/-! ## The loop -/

/-- The tract lies in the state. -/
def Tract.isIn (st : String) (t : Tract) : Bool :=
  t.stateAbbr = st

/-- The tract has a published value of the measure. -/
def Tract.isPublished (m : MeasureKey) (t : Tract) : Bool :=
  (t.values m).isSome

/-- The counters agree with the tracts gathered so far. -/
structure Counted (l : Loading) : Prop where
  states : ∀ st, st ∈ l.states ↔ ∃ t ∈ l.tracts, t.stateAbbr = st
  withValue : ∀ m st, (l.withValue.lookup (m, st)).getD 0 =
    l.tracts.countP fun t => t.isPublished m && t.isIn st
  rowsPerState : ∀ st, (l.rowsPerState.lookup st).getD 0 = l.tracts.countP (Tract.isIn st)

theorem counted_start : Counted Loading.start where
  states st := by simp [Loading.start]
  withValue m st := by simp [Loading.start]
  rowsPerState st := by simp [Loading.start]

/-- One more tract, with every counter moved on. -/
theorem Counted.add {l l' : Loading} (h : Counted l) {t : Tract}
    (htracts : l'.tracts = l.tracts ++ [t]) (hstates : l'.states = addTo l.states t.stateAbbr)
    (hvalues : l'.withValue = (measureKeys.filter fun m => (t.values m).isSome).foldl
      (fun counts m => countUp (m, t.stateAbbr) counts) l.withValue)
    (hrows : l'.rowsPerState = countUp t.stateAbbr l.rowsPerState) : Counted l' := by
  constructor
  · intro st
    rw [hstates, htracts, mem_addTo, h.states]
    constructor
    · rintro (⟨t', ht', hst⟩ | rfl)
      · exact ⟨t', List.mem_append_left _ ht', hst⟩
      · exact ⟨t, List.mem_append_right _ (List.mem_singleton_self t), rfl⟩
    · rintro ⟨t', ht', hst⟩
      rcases List.mem_append.1 ht' with ht' | ht'
      · exact Or.inl ⟨t', ht', hst⟩
      · exact Or.inr (List.mem_singleton.1 ht' ▸ hst.symm)
  · intro m st
    have hcount : (measureKeys.filter fun m' => (t.values m').isSome).count m =
        if (t.values m).isSome then 1 else 0 := by
      split_ifs with hm
      · exact List.count_eq_one_of_mem (nodup_measureKeys.filter _)
          (List.mem_filter.2 ⟨mem_measureKeys m, hm⟩)
      · exact List.count_eq_zero_of_not_mem fun hmem => hm (List.mem_filter.1 hmem).2
    rw [hvalues, htracts, lookup_foldl_countUp, h.withValue, List.countP_append, hcount]
    by_cases hst : st = t.stateAbbr
    · simp [Tract.isPublished, Tract.isIn, hst]
    · simp [Tract.isPublished, Tract.isIn, hst, Ne.symm hst]
  · intro st
    rw [hrows, htracts, lookup_countUp, h.rowsPerState, List.countP_append]
    by_cases hst : st = t.stateAbbr
    · simp [Tract.isIn, hst]
    · simp [Tract.isIn, hst, Ne.symm hst]

theorem counted_readRow {l : Loading} (h : Counted l) (idx : List (String × ℕ))
    (cells : List String) : Counted (readRow idx cells l) := by
  by_cases hstate : (readTract idx cells).stateAbbr = ""
  · have hskip : readRow idx cells l = l := if_pos hstate
    rw [hskip]
    exact h
  · refine h.add (t := readTract idx cells) ?_ ?_ ?_ ?_
    all_goals simp only [readRow, if_neg hstate]

/-- Every line keeps the counters right. -/
theorem counted_of_readLine {path line : String} {l l' : Loading} (h : Counted l)
    (hline : readLine path l line = .ok l') : Counted l' := by
  unfold readLine at hline
  split_ifs at hline
  · cases hline
  · cases hline
    exact h
  · simp only at hline
    split at hline
    · obtain ⟨idx, _, hl'⟩ := bind_eq_ok.1 hline
      cases hl'
      exact ⟨h.states, h.withValue, h.rowsPerState⟩
    · cases hline
      exact counted_readRow h _ _

/-! ## The corpus of an accepted file -/

section Loaded

variable {path : String} {lines : List String} {corpus : Corpus}

/-- What `loadPlaces` returns comes from counters that are right. -/
theorem loadPlaces_eq_ok (h : loadPlaces path lines = .ok corpus) :
    ∃ l, Counted l ∧ corpus.tracts = l.tracts ∧ corpus.states = l.states ∧
      corpus.unavailableStates = gapsOf l ∧
      corpus.availabilityIsExhaustiveAtStateLevel = !(measureKeys.any (partiallySuppressed l)) := by
  unfold loadPlaces at h
  obtain ⟨l, hl, h₁⟩ := bind_eq_ok.1 h
  have hcounted : Counted l :=
    foldlM_keeps (fun _ _ _ => counted_of_readLine) counted_start hl
  refine ⟨l, hcounted, ?_⟩
  split_ifs at h₁
  · cases h₁
  · cases h₁
    exact ⟨rfl, rfl, rfl, rfl⟩

theorem mem_states_iff (h : loadPlaces path lines = .ok corpus) {st : String} :
    st ∈ corpus.states ↔ ∃ t ∈ corpus.tracts, t.stateAbbr = st := by
  obtain ⟨l, hl, htracts, hstates, _⟩ := loadPlaces_eq_ok h
  rw [htracts, hstates]
  exact hl.states st

/-- A state is listed for a measure when none of its tracts has a value of it. -/
theorem mem_unavailableStates (h : loadPlaces path lines = .ok corpus) {m : MeasureKey}
    {st : String} :
    st ∈ corpus.unavailableStates m ↔
      st ∈ corpus.states ∧ ∀ t ∈ corpus.tracts, t.stateAbbr = st → t.values m = none := by
  obtain ⟨l, hl, htracts, hstates, hgaps, _⟩ := loadPlaces_eq_ok h
  have hnone : (l.tracts.countP fun t => t.isPublished m && t.isIn st) = 0 ↔
      ∀ t ∈ l.tracts, t.stateAbbr = st → t.values m = none := by
    rw [List.countP_eq_zero]
    refine forall₂_congr fun t _ => ?_
    cases hvalue : t.values m with
    | none => simp [Tract.isPublished, hvalue]
    | some x => simp [Tract.isPublished, Tract.isIn, hvalue]
  rw [htracts, hstates, hgaps, gapsOf, sortTexts, List.mem_insertionSort, List.mem_filter,
    decide_eq_true_iff, hl.withValue, hnone]

/-- In an exhaustive corpus the states listed say which tracts lack a value. -/
theorem values_eq_none_iff (h : loadPlaces path lines = .ok corpus)
    (hexhaustive : corpus.availabilityIsExhaustiveAtStateLevel = true) {m : MeasureKey}
    {t : Tract} (ht : t ∈ corpus.tracts) :
    t.values m = none ↔ t.stateAbbr ∈ corpus.unavailableStates m := by
  constructor
  · intro hvalue
    obtain ⟨l, hl, htracts, hstates, hgaps, hflag⟩ := loadPlaces_eq_ok h
    rw [htracts] at ht
    have hstate : t.stateAbbr ∈ l.states := (hl.states _).2 ⟨t, ht, rfl⟩
    rw [hgaps, gapsOf, sortTexts, List.mem_insertionSort, List.mem_filter, decide_eq_true_iff]
    refine ⟨hstate, ?_⟩
    by_contra hpublished
    -- the state is not partially suppressed, so all its tracts are counted as published
    have hnot : ¬ partiallySuppressed l m = true := by
      rw [hflag, Bool.not_eq_true', List.any_eq_false] at hexhaustive
      exact hexhaustive m (mem_measureKeys m)
    unfold partiallySuppressed at hnot
    simp only [List.any_eq_true, decide_eq_true_iff, not_exists, not_and, not_lt] at hnot
    have hall := hnot t.stateAbbr hstate hpublished
    rw [hl.withValue, hl.rowsPerState, ← List.countP_filter,
      List.countP_eq_length_filter (p := Tract.isIn t.stateAbbr)] at hall
    have heq := List.countP_eq_length.1 (le_antisymm List.countP_le_length hall) t
      (List.mem_filter.2 ⟨ht, by simp [Tract.isIn]⟩)
    rw [Tract.isPublished, hvalue] at heq
    cases heq
  · intro hlisted
    exact ((mem_unavailableStates h).1 hlisted).2 t ht rfl

end Loaded

end Engine

end DataSeller

end Coordination
