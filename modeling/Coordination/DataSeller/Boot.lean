import Mathlib.Data.List.Induction
import Coordination.DataSeller.Exclusion
import Coordination.JavaScript.Sorting

/-!
# Booting the seller

`boot` loads the corpus and checks the card against it before anything is served. What it
compares is the corpus with itself: the tract and state totals and the states without values
are taken from the corpus, and of the card only the measures and their tiers are read. So the
card's own lists of states are served unchecked, right or wrong.
-/

namespace Coordination

namespace DataSeller

open JavaScript Library

namespace Engine

/-! ## The check of the engine -/

def Tier.name : Tier → String
  | premium => "premium"
  | standard => "standard"

/-- `Object.fromEntries`. -/
def fromEntries {α : Type} (entries : List (String × α)) : List (String × α) :=
  entries.foldl (fun members e => setMember e.1 e.2 members) []

/-- What a card claims, as the check is given it. -/
structure CardClaims where
  cardTracts : ℕ
  cardStates : ℕ
  cardUnavailable : List (String × List String)
  cardTiers : Option (List (String × String))

/-- What the check has against a card for one measure. -/
def measureProblems (corpus : Corpus) (input : CardClaims) (m : MeasureKey) : List String :=
  (match input.cardTiers.bind fun tiers => tiers.lookup m.name with
    | some tier =>
      if tier ≠ (soldMeasures m).name then
        [s!"{m.name}: card tier \"{tier}\" but engine prices it as \"{(soldMeasures m).name}\""]
      else []
    | none => []) ++
  let claimed := String.intercalate "," (sortTexts ((input.cardUnavailable.lookup m.name).getD []))
  let actual := String.intercalate "," (corpus.unavailableStates m)
  if claimed ≠ actual then
    [s!"{m.name}: card says unavailable in [{claimed}], corpus says [{actual}]"]
  else []

/-- What the check has against a card. -/
def cardProblems (corpus : Corpus) (input : CardClaims) : List String :=
  let cardMeasures := input.cardUnavailable.map Prod.fst
  let extra := cardMeasures.filter fun m => !isSoldMeasure m
  let missing := (measureKeys.map MeasureKey.name).filter fun m => m ∉ cardMeasures
  (if corpus.totals.tracts ≠ input.cardTracts then
    [s!"card claims {input.cardTracts} tracts, corpus has {corpus.totals.tracts}"] else []) ++
  (if corpus.totals.states ≠ input.cardStates then
    [s!"card claims {input.cardStates} states, corpus has {corpus.totals.states}"] else []) ++
  (if extra ≠ [] then
    ["card sells measures the engine cannot price: " ++ String.intercalate ", " extra] else []) ++
  (if missing ≠ [] then
    ["engine prices measures the card does not sell: " ++ String.intercalate ", " missing]
    else []) ++
  measureKeys.flatMap (measureProblems corpus input) ++
  if !corpus.availabilityIsExhaustiveAtStateLevel then
    ["card asserts availabilityIsExhaustive at state level, but some measure is partially " ++
      "suppressed within a state — unavailableStates is then an incomplete description"]
  else []

/-- `assertCardMatchesCorpus`. -/
def assertCardMatchesCorpus (corpus : Corpus) (input : CardClaims) : Except Failure Unit :=
  let problems := cardProblems corpus input
  if problems ≠ [] then
    dataError ("The signed card does not describe the loaded corpus:\n  - " ++
      String.intercalate "\n  - " problems ++ "\nRe-render and re-sign the card for this release " ++
      "rather than serving a card that overstates it.")
  else .ok ()

end Engine

open Engine

/-! ## Boot -/

/-- `String(m["key"])`. -/
def keyOf (measure : Value) : Except Failure String := do
  toText (← prop (some measure) "key")

/-- `measures.map` runs over an array only. -/
def arrayOf : Option Value → Except Failure (List Value)
  | some (.arr items) => .ok items
  | _ => .error .typeError

/-- The measures of the card's dataset disclosure. -/
def cardMeasures (cardParams : Value) : Except Failure (List Value) := do
  let dataset ← prop (some cardParams) "dataset"
  arrayOf (orElse (← prop dataset "measures") (some (.arr [])))

/-- `corpus.unavailableStates[key] ?? []`. -/
def gapsUnder (corpus : Corpus) (key : String) : List String :=
  ((measureOf key).map corpus.unavailableStates).getD []

def unavailableEntry (corpus : Corpus) (measure : Value) :
    Except Failure (String × List String) := do
  let key ← keyOf measure
  return (key, gapsUnder corpus key)

def tierEntry (measure : Value) : Except Failure (String × String) := do
  let key ← keyOf measure
  return (key, ← toText (← prop (some measure) "tier"))

/-- `checkCardAgainstCorpus`. -/
def checkCardAgainstCorpus (corpus : Corpus) (input : CardClaims) : Except Failure Unit :=
  assertCardMatchesCorpus corpus input

/-- `boot`, over the card parameters and the lines of the file. -/
def boot (cardParams : Value) (csvPath : String) (lines : List String) : Except Failure Corpus := do
  let corpus ← loadPlaces csvPath lines
  let measures ← cardMeasures cardParams
  let cardUnavailable ← measures.mapM (unavailableEntry corpus)
  let cardTiers ← measures.mapM tierEntry
  checkCardAgainstCorpus corpus {
    cardTracts := corpus.totals.tracts
    cardStates := corpus.totals.states
    cardUnavailable := fromEntries cardUnavailable
    cardTiers := some (fromEntries cardTiers) }
  return corpus

/-! ## When the seller boots -/

/-- The card sells the measures of the engine under their tiers. -/
def SellsMeasures (cardParams : Value) : Prop :=
  ∃ measures tiers, cardMeasures cardParams = .ok measures ∧ measures.mapM tierEntry = .ok tiers ∧
    (∀ e ∈ tiers, isSoldMeasure e.1 = true) ∧
    ∀ m : MeasureKey, (fromEntries tiers).lookup m.name = some (soldMeasures m).name

/-- The card lists the state as one in which the measure is unavailable. -/
def ListsUnavailable (cardParams : Value) (m : MeasureKey) (st : String) : Prop :=
  ∃ measures, cardMeasures cardParams = .ok measures ∧ ∃ measure ∈ measures,
    keyOf measure = .ok m.name ∧
      ∃ states, measure.members.lookup "unavailableStates" = some (.arr states) ∧ .str st ∈ states

/-- For every measure and every state of the corpus, the card lists the state exactly when no
tract of it has a published value. -/
def DescribesCorpus (cardParams : Value) (corpus : Corpus) : Prop :=
  ∀ m, ∀ st ∈ corpus.states, ListsUnavailable cardParams m st ↔
    ∀ t ∈ corpus.tracts, t.stateAbbr = st → t.values m = none

section FromEntries

variable {α : Type} {entries : List (String × α)} {k : String} {v : α}

theorem fromEntries_concat (entries : List (String × α)) (e : String × α) :
    fromEntries (entries ++ [e]) = setMember e.1 e.2 (fromEntries entries) := by
  rw [fromEntries, List.foldl_append]
  rfl

/-- A member comes from an entry. -/
theorem mem_of_lookup_fromEntries (h : (fromEntries entries).lookup k = some v) :
    (k, v) ∈ entries := by
  induction entries using List.reverseRecOn generalizing v with
  | nil => cases h
  | append_singleton entries e ih =>
      rw [fromEntries_concat] at h
      by_cases hk : k = e.1
      · rw [hk, lookup_setMember_self] at h
        cases h
        rw [hk]
        exact List.mem_append_right _ (List.mem_singleton_self _)
      · rw [lookup_setMember_of_ne _ _ hk] at h
        exact List.mem_append_left _ (ih h)

theorem isSome_lookup_fromEntries :
    ((fromEntries entries).lookup k).isSome = true ↔ k ∈ entries.map Prod.fst := by
  induction entries using List.reverseRecOn with
  | nil => simp [fromEntries]
  | append_singleton entries e ih =>
      rw [fromEntries_concat, List.map_append, List.mem_append, List.map_singleton,
        List.mem_singleton]
      by_cases hk : k = e.1
      · rw [hk, lookup_setMember_self]
        simp
      · rw [lookup_setMember_of_ne _ _ hk, ih]
        simp [hk]

/-- Where the member is a function of its name. -/
theorem lookup_fromEntries_of_forall {f : String → α} (hf : ∀ e ∈ entries, e.2 = f e.1)
    (hk : k ∈ entries.map Prod.fst) : (fromEntries entries).lookup k = some (f k) := by
  obtain ⟨v, hv⟩ := Option.isSome_iff_exists.1 (isSome_lookup_fromEntries.2 hk)
  rw [hv, ← hf _ (mem_of_lookup_fromEntries hv)]

theorem mem_map_fst_fromEntries :
    k ∈ (fromEntries entries).map Prod.fst ↔ k ∈ entries.map Prod.fst := by
  rw [← lookup_isSome_iff, isSome_lookup_fromEntries]

end FromEntries

/-- The entries of the two maps stand under the same names. -/
theorem mapM_unavailableEntry (corpus : Corpus) {measures : List Value}
    {tiers : List (String × String)} (h : measures.mapM tierEntry = .ok tiers) :
    measures.mapM (unavailableEntry corpus) =
      .ok (tiers.map fun e => (e.1, gapsUnder corpus e.1)) := by
  induction measures generalizing tiers with
  | nil =>
      cases h
      rfl
  | cons measure measures ih =>
      rw [List.mapM_cons] at h ⊢
      obtain ⟨e, he, h⟩ := bind_eq_ok.1 h
      obtain ⟨es, hes, h⟩ := bind_eq_ok.1 h
      cases h
      obtain ⟨key, hkey, h⟩ := bind_eq_ok.1 he
      obtain ⟨_, _, h⟩ := bind_eq_ok.1 h
      obtain ⟨tier, _, h⟩ := bind_eq_ok.1 h
      cases h
      rw [unavailableEntry, hkey, ok_bind, ih hes]
      rfl

section Check

variable {corpus : Corpus} {tiers : List (String × String)}

/-- What `boot` gives to the check. -/
def bootClaims (corpus : Corpus) (tiers : List (String × String)) : CardClaims where
  cardTracts := corpus.totals.tracts
  cardStates := corpus.totals.states
  cardUnavailable := fromEntries (tiers.map fun e => (e.1, gapsUnder corpus e.1))
  cardTiers := some (fromEntries tiers)

theorem gapsUnder_name (m : MeasureKey) : gapsUnder corpus m.name = corpus.unavailableStates m := by
  rw [gapsUnder, measureOf_name]
  rfl

theorem mem_cardUnavailable {k : String} :
    k ∈ (bootClaims corpus tiers).cardUnavailable.map Prod.fst ↔ k ∈ tiers.map Prod.fst := by
  rw [bootClaims, mem_map_fst_fromEntries, List.map_map]
  rfl

theorem ite_singleton_eq_nil {α : Type} {c : Prop} [Decidable c] {x : α} :
    (if c then [x] else []) = [] ↔ ¬ c := by
  split_ifs with hc
  · simp [hc]
  · simp [hc]

/-- The list of states given for a measure is the one it is compared with. -/
theorem measureProblems_bootClaims {m : MeasureKey}
    (hsorted : sortTexts (corpus.unavailableStates m) = corpus.unavailableStates m)
    (hm : m.name ∈ tiers.map Prod.fst) :
    measureProblems corpus (bootClaims corpus tiers) m = [] ↔
      (fromEntries tiers).lookup m.name = some (soldMeasures m).name := by
  obtain ⟨tier, htier⟩ := Option.isSome_iff_exists.1 (isSome_lookup_fromEntries.2 hm)
  have hlists : (bootClaims corpus tiers).cardUnavailable.lookup m.name =
      some (corpus.unavailableStates m) := by
    rw [bootClaims, ← gapsUnder_name]
    refine lookup_fromEntries_of_forall (fun e he => ?_) (by rwa [List.map_map])
    obtain ⟨e', _, rfl⟩ := List.mem_map.1 he
    rfl
  have htiers : (bootClaims corpus tiers).cardTiers.bind (fun tiers => tiers.lookup m.name) =
      some tier := htier
  unfold measureProblems
  rw [hlists, htiers, Option.getD_some, hsorted, htier, List.append_eq_nil_iff,
    ite_singleton_eq_nil, ite_singleton_eq_nil, not_not, not_not, Option.some.injEq]
  exact and_iff_left rfl

/-- The check finds nothing to compare but the measures, their tiers and the flag. -/
theorem cardProblems_bootClaims
    (hsorted : ∀ m, sortTexts (corpus.unavailableStates m) = corpus.unavailableStates m) :
    cardProblems corpus (bootClaims corpus tiers) = [] ↔
      (∀ e ∈ tiers, isSoldMeasure e.1 = true) ∧
        (∀ m : MeasureKey, (fromEntries tiers).lookup m.name = some (soldMeasures m).name) ∧
        corpus.availabilityIsExhaustiveAtStateLevel = true := by
  have hextra : ((bootClaims corpus tiers).cardUnavailable.map Prod.fst).filter
      (fun m => !isSoldMeasure m) = [] ↔ ∀ e ∈ tiers, isSoldMeasure e.1 = true := by
    rw [List.filter_eq_nil_iff]
    simp only [mem_cardUnavailable, List.forall_mem_map, Bool.not_eq_true', Bool.not_eq_false]
  have hmissing : (measureKeys.map MeasureKey.name).filter
      (fun m => m ∉ (bootClaims corpus tiers).cardUnavailable.map Prod.fst) = [] ↔
        ∀ m : MeasureKey, m.name ∈ tiers.map Prod.fst := by
    rw [List.filter_eq_nil_iff]
    simp only [mem_cardUnavailable, List.forall_mem_map, decide_eq_true_iff, not_not]
    exact forall_congr' fun m => ⟨fun h => h (mem_measureKeys m), fun h _ => h⟩
  unfold cardProblems
  simp only [List.append_eq_nil_iff, ite_singleton_eq_nil, not_not, List.flatMap_eq_nil_iff,
    hextra, hmissing, Bool.not_eq_true', Bool.not_eq_false]
  constructor
  · rintro ⟨⟨⟨⟨_, hsold⟩, hkeys⟩, hmeasures⟩, hflag⟩
    exact ⟨hsold, fun m => (measureProblems_bootClaims (hsorted m) (hkeys m)).1
      (hmeasures m (mem_measureKeys m)), hflag⟩
  · rintro ⟨hsold, htiers, hflag⟩
    have hkeys (m : MeasureKey) : m.name ∈ tiers.map Prod.fst :=
      isSome_lookup_fromEntries.1 (by rw [htiers m]; rfl)
    exact ⟨⟨⟨⟨⟨rfl, rfl⟩, hsold⟩, hkeys⟩, fun m _ =>
      (measureProblems_bootClaims (hsorted m) (hkeys m)).2 (htiers m)⟩, hflag⟩

end Check

section Boot

variable {cardParams : Value} {csvPath : String} {lines : List String} {corpus : Corpus}

theorem sortTexts_unavailableStates (h : loadPlaces csvPath lines = .ok corpus) (m : MeasureKey) :
    sortTexts (corpus.unavailableStates m) = corpus.unavailableStates m := by
  obtain ⟨l, _, _, _, hgaps, _⟩ := loadPlaces_eq_ok h
  rw [hgaps, gapsOf, sortTexts_sortTexts]

/-- The seller boots on every accepted file without partial suppression, with every card that
sells the measures: the lists of the card are not read. -/
theorem boot_eq_ok_iff : boot cardParams csvPath lines = .ok corpus ↔
    loadPlaces csvPath lines = .ok corpus ∧
      corpus.availabilityIsExhaustiveAtStateLevel = true ∧ SellsMeasures cardParams := by
  have hcheck (corpus : Corpus) (input : CardClaims) (u : Unit) :
      checkCardAgainstCorpus corpus input = .ok u ↔ cardProblems corpus input = [] := by
    unfold checkCardAgainstCorpus assertCardMatchesCorpus
    by_cases hproblems : cardProblems corpus input = []
    · simp [hproblems]
    · simp [hproblems, dataError]
  unfold boot
  constructor
  · intro h
    obtain ⟨loaded, hload, h⟩ := bind_eq_ok.1 h
    obtain ⟨measures, hmeasures, h⟩ := bind_eq_ok.1 h
    obtain ⟨unavailable, hunavailable, h⟩ := bind_eq_ok.1 h
    obtain ⟨tiers, htiers, h⟩ := bind_eq_ok.1 h
    obtain ⟨u, hu, h⟩ := bind_eq_ok.1 h
    cases h
    rw [mapM_unavailableEntry corpus htiers] at hunavailable
    cases hunavailable
    obtain ⟨hsold, hlookup, hflag⟩ := (cardProblems_bootClaims
      (sortTexts_unavailableStates hload)).1 ((hcheck _ _ _).1 hu)
    exact ⟨hload, hflag, measures, tiers, hmeasures, htiers, hsold, hlookup⟩
  · rintro ⟨hload, hflag, measures, tiers, hmeasures, htiers, hsold, hlookup⟩
    have hproblems : cardProblems corpus (bootClaims corpus tiers) = [] :=
      (cardProblems_bootClaims (sortTexts_unavailableStates hload)).2 ⟨hsold, hlookup, hflag⟩
    have hclaims := (hcheck corpus (bootClaims corpus tiers) ()).2 hproblems
    rw [hload, ok_bind, hmeasures, ok_bind, mapM_unavailableEntry corpus htiers, ok_bind, htiers,
      ok_bind]
    exact bind_eq_ok.2 ⟨(), hclaims, rfl⟩

end Boot

/-! ## A card that is wrong -/

/-- The measures of a card, each with the same list of states. -/
def cardListing (states : List String) : Value :=
  .obj [("dataset", .obj [("measures", .arr (measureKeys.map fun m => .obj [
    ("key", .str m.name),
    ("tier", .str (soldMeasures m).name),
    ("unavailableStates", .arr (states.map .str))]))])]

theorem sellsMeasures_cardListing (states : List String) : SellsMeasures (cardListing states) := by
  refine ⟨_, measureKeys.map fun m => (m.name, (soldMeasures m).name), rfl, rfl, ?_, fun m => ?_⟩
  · intro e he
    obtain ⟨m, _, rfl⟩ := List.mem_map.1 he
    rw [isSoldMeasure, measureOf_name]
    rfl
  · cases m <;> decide +kernel

end DataSeller

end Coordination
