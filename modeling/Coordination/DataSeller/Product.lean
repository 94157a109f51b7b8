import Coordination.DataSeller.Engine.Deliver

/-!
# Quotes

`composeQuote` is everything one query is worth: the named refusals, or the
priced, sampled and committed quote. The request body is an untrusted value;
`readQuery` keeps what has the right shape and `criteriaHashOf` hashes what it
was sent.
-/

namespace Coordination

namespace DataSeller

open JavaScript Library Engine

/-- The deliverable density and its bounds, as the card publishes them. -/
structure DensityTerms where
  rowsPerTractDefault : ℕ
  rowsPerTractMin : ℕ
  rowsPerTractMax : ℕ

/-! ## The request body -/

/-- `body[k]` of an untrusted body: only an object has members. -/
def bodyMember (body : Value) (k : String) : Option Value :=
  body.members.lookup k

/-- `[...xs]` of a value that may be absent. -/
def spread : Option Value → Except Failure (List Value)
  | none | some .null => .ok []
  | some (.arr xs) => .ok xs
  | some (.str s) => .ok (s.toList.map fun c => .str (String.singleton c))
  | some _ => .error .typeError

/-- `xs.sort()`: by the texts of the items. One item is never compared. -/
def sortValues (xs : List Value) : Except Failure (List Value) :=
  if xs.length < 2 then .ok xs
  else do
    let keyed ← xs.mapM fun x => return (← textOf x, x)
    return (keyed.insertionSort fun a b => codeUnitLe a.1 b.1).map Prod.snd

/-- A list of the body, sorted. -/
def sortedMember (body : Value) (k : String) : Except Failure Value := do
  return .arr (← sortValues (← spread (bodyMember body k)))

/-- The criteria `criteriaHashOf` hashes. -/
def statedCriteria (body : Value) : Except Failure Value := do
  let columns ← sortedMember body "columns"
  let states ← sortedMember body "states"
  let counties ← sortedMember body "counties"
  return .obj [
    ("columns", columns),
    ("states", states),
    ("counties", counties),
    ("minPopulation", orNull (bodyMember body "minPopulation")),
    ("thresholds", (orElse (bodyMember body "thresholds") (some (.obj []))).getD .null)]

/-- `criteriaHashOf`. -/
def criteriaHashOf [Digests] (query : Value) : Except Failure String :=
  match query with
  | .obj _ | .arr _ => do return Digests.sha256Ref (utf8 (stringify (← statedCriteria query)))
  | _ => .ok (Digests.sha256Ref (utf8 (stringify (.obj []))))

/-- The texts of a list of the body, each once. -/
def strArray (v : Option Value) : Option (List String) :=
  match v with
  | some (.arr xs) => some (distinct (xs.filterMap fun
    | .str s => some s
    | _ => none))
  | _ => none

/-- `readQuery`. -/
def readQuery (body : Value) : Query where
  columns := (strArray (bodyMember body "columns")).getD []
  states := strArray (bodyMember body "states")
  counties := strArray (bodyMember body "counties")
  minPopulation := bodyMember body "minPopulation"
  thresholds :=
    match bodyMember body "thresholds" with
    | some (.obj ms) => some (.obj ms)
    | some (.arr xs) => some (.arr xs)
    | _ => none

/-- The density a number asks for, before the bounds. -/
def wholeRows : Exact → ℕ
  | .fin q => if 1 ≤ q then ⌊q⌋.toNat else 1
  | _ => 1

/-- `densityAsked`: the asked density, clamped to the bounds of the card. -/
def densityAsked (body : Value) (density : DensityTerms) : Except Failure ℕ := do
  let asked ← match orElse (bodyMember body "rowsPerTract") none with
    | none => .ok (density.rowsPerTractDefault : Exact)
    | some v => (toNumber (some v)).map Exact.ofNumber
  return min (max (wholeRows asked) density.rowsPerTractMin) density.rowsPerTractMax

/-! ## The quote -/

structure Deliverable where
  unit : String
  rowsPerTract : ℕ
  rowCount : ℕ
  tractCount : ℕ
  everyTractRepresented : Bool
  perTractStandardErrorPp : List (String × Number)
  perTractRatesSupported : Bool
  note : String

structure QuoteBody where
  tractCount : ℕ
  priceable : Bool
  price : Option Price
  zeroYieldStates : List String
  sample : List Value
  stats : AggregateStats
  deliverable : Option Deliverable
  note : String

structure QuoteAccepted where
  tractCount : ℕ
  rowsPerTract : ℕ
  deliverableRowCount : ℕ
  statsHash : Option String
  criteriaHash : String
  summary : String
  body : QuoteBody

inductive QuoteFacts where
  | refused (rejections : List Rejection)
  | accepted (facts : QuoteAccepted)

section Compose

variable [Digests] [HostLocale]

/-- The shape of the file, as a quote discloses it. -/
def deliverableBlock (stats : AggregateStats) (columns : List String)
    (rowsPerTract tractCount : ℕ) : Deliverable where
  unit := "synthetic person, one row each"
  rowsPerTract
  rowCount := rowsPerTract * tractCount
  tractCount
  everyTractRepresented := true
  perTractStandardErrorPp := standardErrors stats columns rowsPerTract
  perTractRatesSupported := false
  note := s!"Every one of the {HostLocale.toLocaleString (Float.ofNat tractCount)} matched tracts " ++
    s!"gets {rowsPerTract} row(s). One tract's rate at that density carries the standard error " ++
    "above, so this file is for person-level work over the slice — not for ranking individual " ++
    "tracts. For a tract's own rate, read the published CDC PLACES value: it is this file's " ++
    "input and it is free."

/-- The price of a slice, unless it is empty. -/
def priceOf (tractCount : ℕ) (columns : List String) (rateCard : RateCardTerms) :
    Except Failure (Option Price) :=
  if tractCount = 0 then .ok none else (priceQuery tractCount columns rateCard).map some

/-- The commitment to the aggregates of a slice, unless it is empty. -/
def commitmentOf (matched : List Tract) (query : Query) : Except Failure (Option String) :=
  if matched.length = 0 then .ok none
  else (statsCommitment (aggregateStats matched query.columns) query).map fun c => some c.statsHash

/-- `composeQuote`. -/
def composeQuote (corpus : Corpus) (body : Value) (rateCard : RateCardTerms)
    (density : DensityTerms) : Except Failure QuoteFacts := do
  let q := readQuery body
  let rejections := validateQuery q corpus
  if 0 < rejections.length then
    return .refused rejections
  let matched := evaluateQuery q corpus
  let tractCount := matched.tracts.length
  let rowsPerTract ← densityAsked body density
  let stats := aggregateStats matched.tracts q.columns
  let price ← priceOf tractCount q.columns rateCard
  let statsHash ← commitmentOf matched.tracts q
  let criteriaHash ← criteriaHashOf body
  let rowCount := rowsPerTract * tractCount
  let listPrice := (price.map Price.listAmountDisplay).getD "—"
  return .accepted {
    tractCount
    rowsPerTract
    deliverableRowCount := rowCount
    statsHash
    criteriaHash
    summary := s!"I can provide a {toLocaleStringEnUS rowCount}-row synthetic dataset over " ++
      s!"{toLocaleStringEnUS tractCount} tracts — every tract represented. List price {listPrice}."
    body := {
      tractCount
      priceable := 0 < tractCount
      price
      zeroYieldStates := matched.zeroYieldStates
      sample := sampleRows matched.tracts q.columns 5
      stats
      deliverable :=
        if tractCount = 0 then none
        else some (deliverableBlock stats q.columns rowsPerTract tractCount)
      note :=
        if tractCount = 0 then
          "No tracts match. Nothing is priced, because an empty slice is not a product."
        else "Free and non-committal. A committed quote is the one pinned into signed terms." } }

end Compose

end DataSeller

end Coordination
