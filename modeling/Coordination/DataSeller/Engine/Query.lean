import Coordination.DataSeller.Engine.Corpus

/-!
# Queries over the corpus

What a quote is computed from: the checks of a query, the tracts it selects, the
price, the aggregates and the commitment to them. A query is what `readQuery`
made of an untrusted body, so its filters are still raw values; `validateQuery`
is what makes them well typed.
-/

namespace Coordination

namespace DataSeller

namespace Engine

open JavaScript Library

/-- A query. -/
structure Query where
  columns : List String
  states : Option (List String)
  counties : Option (List String)
  minPopulation : Option Value
  thresholds : Option Value

/-- `Object.entries` of a value that is an object when it is there. -/
def entriesOf : Option Value → List (String × Value)
  | some (.obj ms) => ms
  | some (.arr xs) => xs.zipIdx.map fun (x, i) => (toString i, x)
  | _ => []

/-- A member of a threshold: `th.min` or `th.max`. -/
def boundOf (th : Value) (k : String) : Option Value :=
  th.members.lookup k

/-! ## Validation -/

inductive RejectionCode where
  | NO_COLUMNS_REQUESTED
  | UNKNOWN_COLUMN
  | STATE_NOT_AVAILABLE
  | COUNTY_FILTER_UNSUPPORTED
  | POPULATION_FILTER_UNSUPPORTED
  | THRESHOLD_FILTER_UNSUPPORTED
  | THRESHOLD_ON_UNREQUESTED_COLUMN
  | THRESHOLD_RANGE_EMPTY
  deriving DecidableEq

/-- A named refusal. -/
structure Rejection where
  code : RejectionCode
  detail : String
  deriving DecidableEq

/-- `xs.join(", ")`. -/
def commaList (xs : List String) : String :=
  String.intercalate ", " xs

def isNumber : Option Value → Bool
  | some (.num _) => true
  | _ => false

def columnProblems (columns : List String) : List Rejection :=
  let unknown := columns.filter fun c => !isSoldMeasure c
  (if columns.length = 0 then
    [⟨.NO_COLUMNS_REQUESTED, "At least one measure must be purchased."⟩] else []) ++
  (if 0 < unknown.length then
    [⟨.UNKNOWN_COLUMN, s!"Not sold: {commaList unknown}. Available: " ++
      s!"{commaList (measureKeys.map MeasureKey.name)}."⟩] else [])

def stateProblems (states : List String) (corpus : Corpus) : List Rejection :=
  (states.filter fun st => st ∉ corpus.states).map fun st =>
    ⟨.STATE_NOT_AVAILABLE, s!"\"{st}\" is not in the 2025 release. The release covers " ++
      s!"{corpus.states.length} states and DC; US territories are not covered."⟩

def countyProblems (states : List String) (counties : Option (List String)) (corpus : Corpus) :
    List Rejection :=
  match counties with
  | none | some [] => []
  | some counties =>
    if states.length = 0 then
      [⟨.COUNTY_FILTER_UNSUPPORTED, "A county filter requires at least one state: county names " ++
        "are not unique nationally."⟩]
    else
      let known := states.flatMap fun st => (corpus.counties.lookup st).getD []
      let missing := counties.filter fun c => c ∉ known
      if 0 < missing.length then
        [⟨.COUNTY_FILTER_UNSUPPORTED,
          s!"No such county in the selected states: {commaList missing}."⟩]
      else []

def populationProblems : Option Value → List Rejection
  | none => []
  | some (.num x) => if x.isInteger && !(x < 0) then [] else refusal
  | some _ => refusal
where
  refusal : List Rejection :=
    [⟨.POPULATION_FILTER_UNSUPPORTED, "minPopulation must be a non-negative integer."⟩]

/-- The problem one threshold has, if any. -/
def thresholdProblem (columns : List String) (key : String) (t : Value) : Option Rejection :=
  match t with
  | .obj _ | .arr _ =>
    let min := boundOf t "min"
    let max := boundOf t "max"
    if (min.isSome && !isNumber min) || (max.isSome && !isNumber max) then
      some ⟨.THRESHOLD_FILTER_UNSUPPORTED, s!"Threshold on {key} must use numeric min/max."⟩
    else if min.isNone && max.isNone then
      some ⟨.THRESHOLD_FILTER_UNSUPPORTED, s!"Threshold on {key} sets neither min nor max."⟩
    else if key ∉ columns then
      some ⟨.THRESHOLD_ON_UNREQUESTED_COLUMN,
        s!"{key} is not being purchased, so it cannot be filtered on."⟩
    else
      match min, max with
      | some (.num lo), some (.num hi) =>
        if hi < lo then some ⟨.THRESHOLD_RANGE_EMPTY, s!"Threshold on {key} has min > max."⟩
        else none
      | _, _ => none
  | _ => some ⟨.THRESHOLD_FILTER_UNSUPPORTED, s!"Threshold on {key} is not an object."⟩

def thresholdProblems (columns : List String) (thresholds : Option Value) : List Rejection :=
  let entries := entriesOf thresholds
  (if measureKeys.length < entries.length then
    [⟨.THRESHOLD_FILTER_UNSUPPORTED,
      s!"At most {measureKeys.length} thresholds — one per sold measure."⟩] else []) ++
  (entries.take measureKeys.length).filterMap fun (key, t) => thresholdProblem columns key t

/-- The longest list of problems one answer carries. -/
def maxProblems : ℕ :=
  24

/-- `validateQuery`: every problem, not the first one. -/
def validateQuery (q : Query) (corpus : Corpus) : List Rejection :=
  let states := q.states.getD []
  let problems := columnProblems q.columns ++ stateProblems states corpus ++
    countyProblems states q.counties corpus ++ populationProblems q.minPopulation ++
    thresholdProblems q.columns q.thresholds
  if maxProblems < problems.length then
    problems.take maxProblems ++
      [⟨.NO_COLUMNS_REQUESTED, s!"…and {problems.length - maxProblems} further problems, not " ++
        "listed. Fix these first."⟩]
  else problems

/-- A query without problems has none of any kind. -/
theorem validateQuery_eq_nil {q : Query} {corpus : Corpus} :
    validateQuery q corpus = [] ↔
      columnProblems q.columns = [] ∧ stateProblems (q.states.getD []) corpus = [] ∧
        countyProblems (q.states.getD []) q.counties corpus = [] ∧
        populationProblems q.minPopulation = [] ∧
        thresholdProblems q.columns q.thresholds = [] := by
  unfold validateQuery
  simp only
  split_ifs with hmany
  · constructor
    · intro h
      simp at h
    · rintro ⟨h₁, h₂, h₃, h₄, h₅⟩
      simp [h₁, h₂, h₃, h₄, h₅] at hmany
  · simp

theorem isSold_of_columnProblems {columns : List String} (h : columnProblems columns = []) :
    ∀ c ∈ columns, isSoldMeasure c = true := by
  intro c hc
  by_contra hsold
  have hunknown : c ∈ columns.filter fun c => !isSoldMeasure c := by
    simpa [hc] using hsold
  have hpos := List.length_pos_of_mem hunknown
  simp [columnProblems, hpos] at h

/-- A validated query names sold measures only. -/
theorem isSold_of_validateQuery {q : Query} {corpus : Corpus}
    (hq : validateQuery q corpus = []) : ∀ c ∈ q.columns, isSoldMeasure c = true :=
  isSold_of_columnProblems (validateQuery_eq_nil.1 hq).1

/-! ## Evaluation -/

/-- `x < v` for a raw `v`. A value without a number compares like `NaN`; a
validated query has none. -/
def lessThan (x : Number) (v : Value) : Bool :=
  match toNumber (some v) with
  | .ok y => x.lt y
  | .error _ => false

/-- `x > v` for a raw `v`. -/
def greaterThan (x : Number) (v : Value) : Bool :=
  match toNumber (some v) with
  | .ok y => y.lt x
  | .error _ => false

/-- Whether a tract's value passes one threshold. -/
def withinThreshold (value : Option (Option Number)) (th : Value) : Bool :=
  match value with
  | some none => false
  | none => true
  | some (some v) =>
    !((boundOf th "min").any (lessThan v)) && !((boundOf th "max").any (greaterThan v))

/-- Whether a tract survives every filter of the query. -/
def survives (q : Query) (t : Tract) : Bool :=
  let states := q.states.getD []
  let counties := q.counties.getD []
  (states = [] ∨ t.stateAbbr ∈ states) && (counties = [] ∨ t.countyName ∈ counties) &&
    !(q.minPopulation.any (lessThan (t.totalPopulation.getD (-1)))) &&
    q.columns.all (fun c => t.value c != some none) &&
    (entriesOf q.thresholds).all (fun (key, th) => withinThreshold (t.value key) th)

structure Matched where
  tracts : List Tract
  /-- The states of the query that yield nothing. -/
  zeroYieldStates : List String

/-- `evaluateQuery`. -/
def evaluateQuery (q : Query) (corpus : Corpus) : Matched where
  tracts := corpus.tracts.filter (survives q)
  zeroYieldStates := (q.states.getD []).foldl (fun zeroYield st =>
    q.columns.foldl (fun zeroYield c =>
      match measureOf c with
      | some m => if st ∈ corpus.unavailableStates m then addTo zeroYield st else zeroYield
      | none => zeroYield) zeroYield) []

/-! ## Price -/

structure RateCardTerms where
  baseCents : Number
  perTractMicroCents : Number
  perStandardColumnCents : Number
  perPremiumColumnCents : Number
  vintageMultiplierBps : Number

structure BreakdownCents where
  base : Number
  tracts : Number
  standardColumns : Number
  premiumColumns : Number
  subtotal : Number

structure Price where
  tractCount : ℕ
  breakdownCents : BreakdownCents
  listCents : Number
  listAmountMinor : String
  listAmountDisplay : String

/-- `roundHalfUp`. -/
def roundHalfUp (x : Number) : Number :=
  Number.floor (x + 0.5)

/-- `BigInt(x)`. -/
def bigInt (x : Number) : Except Failure ℤ :=
  match Number.toRat? x with
  | some q => if q.den = 1 then .ok q.num else .error .rangeError
  | none => .error .rangeError

/-- `priceQuery`. -/
def priceQuery (tractCount : ℕ) (columns : List String) (terms : RateCardTerms) :
    Except Failure Price := do
  let tiers ← (distinct columns).mapM tierOf
  let premium : Number := Float.ofNat (tiers.count .premium)
  let standard : Number := Float.ofNat (tiers.count .standard)
  let tractsCents := roundHalfUp (Float.ofNat tractCount * terms.perTractMicroCents / 1000)
  let standardColumns := standard * terms.perStandardColumnCents
  let premiumColumns := premium * terms.perPremiumColumnCents
  let subtotal := terms.baseCents + tractsCents + standardColumns + premiumColumns
  let listCents := roundHalfUp (subtotal * terms.vintageMultiplierBps / 10000)
  let cents ← bigInt listCents
  return {
    tractCount
    breakdownCents := {
      base := terms.baseCents, tracts := tractsCents, standardColumns, premiumColumns, subtotal }
    listCents
    listAmountMinor := toString (cents * 10000)
    listAmountDisplay := "$" ++ (listCents / 100).toFixed 2 }

/-! ## Aggregates -/

structure MeasureStats where
  min : Number
  max : Number
  mean : Number
  median : Number
  n : ℕ

structure AggregateStats where
  tractCount : ℕ
  totalPopulation : Number
  totalPop18plus : Number
  perMeasure : List (String × MeasureStats)

/-- `record[k] = v` on a plain object: the name `__proto__` is not a member. -/
def assign {α : Type} (k : String) (v : α) (ms : List (String × α)) : List (String × α) :=
  if k = "__proto__" then ms else setMember k v ms

/-- `a + b` over a list, from zero, in order. -/
def sumOf (xs : List Number) : Number :=
  xs.foldl (· + ·) 0

/-- The aggregates of one measure over its published values in order. -/
def measureStats (sorted : List Number) : MeasureStats :=
  let n := sorted.length
  if n = 0 then ⟨0, 0, 0, 0, 0⟩
  else
    let mid := n / 2
    { min := sorted.getD 0 0
      max := sorted.getD (n - 1) 0
      mean := (sumOf sorted / Float.ofNat n).fixed 4
      median :=
        if n % 2 = 1 then sorted.getD mid 0
        else ((sorted.getD (mid - 1) 0 + sorted.getD mid 0) / 2).fixed 4
      n }

/-- `aggregateStats`. -/
def aggregateStats (matched : List Tract) (columns : List String) : AggregateStats where
  tractCount := matched.length
  totalPopulation := sumOf (matched.map fun t => t.totalPopulation.getD 0)
  totalPop18plus := sumOf (matched.map fun t => t.totalPop18plus.getD 0)
  perMeasure := columns.foldl (fun ms c =>
    let vals := matched.filterMap fun t => (t.value c).join.filter Float.isFinite
    assign c (measureStats (vals.insertionSort (· ≤ ·))) ms) []

/-- A number or `null`. -/
def numOrNull : Option Number → Value
  | some x => .num x
  | none => .null

/-- `sampleRows`. -/
def sampleRows (matched : List Tract) (columns : List String) (n : ℕ) : List Value :=
  (matched.take n).map fun t =>
    .obj (columns.foldl (fun row c =>
      match t.value c with
      | some v => setMember (c ++ "_CrudePrev") (numOrNull v) row
      | none => row)
      [("StateAbbr", .str t.stateAbbr), ("StateDesc", .str t.stateDesc),
        ("CountyName", .str t.countyName), ("CountyFIPS", .str t.countyFips),
        ("TractFIPS", .str t.tractFips), ("TotalPopulation", numOrNull t.totalPopulation),
        ("TotalPop18plus", numOrNull t.totalPop18plus)])

/-! ## Commitment -/

/-- Entries in the order of `localeCompare` on their names. -/
def sortByLocale {α : Type} [HostLocale] (ms : List (String × α)) : List (String × α) :=
  ms.insertionSort fun a b => HostLocale.compare a.1 b.1 ≠ .gt

/-- A list of texts as a value. -/
def textList (xs : List String) : Value :=
  .arr (xs.map .str)

/-- `v ?? null`. -/
def orNull (v : Option Value) : Value :=
  (orElse v (some .null)).getD .null

/-- The criteria `statsCommitment` hashes. -/
def committedCriteria [HostLocale] (q : Query) : Value :=
  .obj [
    ("columns", textList (sortTexts q.columns)),
    ("states", textList (sortTexts (q.states.getD []))),
    ("counties", textList (sortTexts (q.counties.getD []))),
    ("minPopulation", orNull q.minPopulation),
    ("thresholds", .obj ((sortByLocale (entriesOf q.thresholds)).map fun (k, v) =>
      (k, .obj [("min", orNull (boundOf v "min")), ("max", orNull (boundOf v "max"))])))]

/-- The factor every aggregate is scaled by before it is hashed. -/
def scale : Number :=
  10000

/-- The aggregates `statsCommitment` hashes. -/
def committedStats [HostLocale] (stats : AggregateStats) : Value :=
  .obj [
    ("tractCount", .num (Float.ofNat stats.tractCount)),
    ("totalPopulation", .num stats.totalPopulation),
    ("totalPop18plus", .num stats.totalPop18plus),
    ("scale", .num scale),
    ("perMeasure", .obj ((sortByLocale stats.perMeasure).map fun (k, v) =>
      (k, .obj [
        ("min", .num (Number.round (v.min * scale))),
        ("max", .num (Number.round (v.max * scale))),
        ("mean", .num (Number.round (v.mean * scale))),
        ("median", .num (Number.round (v.median * scale))),
        ("n", .num (Float.ofNat v.n))])))]

structure StatsCommitment where
  statsHash : String
  criteriaHash : String

/-- `statsCommitment`. -/
def statsCommitment [Digests] [HostLocale] (stats : AggregateStats) (query : Query) :
    Except Failure StatsCommitment := do
  let statsHash ← sha256 (committedStats stats)
  let criteriaHash ← sha256 (committedCriteria query)
  return { statsHash, criteriaHash }

end Engine

end DataSeller

end Coordination
