import Coordination.DataSeller.Engine.Hash

/-!
# The PLACES corpus

The measures the seller sells, the CSV reader and `loadPlaces`, which turns the
lines of the release into the corpus every quote and delivery is computed from.
A suppressed value is `none` and never zero.
-/

namespace Coordination

namespace DataSeller

namespace Engine

open JavaScript Library

/-- `throw new DataError(message)`. -/
def dataError {α : Type} (message : String) : Except Failure α :=
  .error (.raised .DataError message)

/-! ## Measures -/

/-- The eight measures on sale. -/
inductive MeasureKey where
  | DIABETES
  | BPHIGH
  | CHD
  | DEPRESSION
  | OBESITY
  | CSMOKING
  | ACCESS2
  | SLEEP
  deriving DecidableEq

/-- The tier that prices a measure. -/
inductive Tier where
  | premium
  | standard
  deriving DecidableEq

namespace MeasureKey

def name : MeasureKey → String
  | DIABETES => "DIABETES"
  | BPHIGH => "BPHIGH"
  | CHD => "CHD"
  | DEPRESSION => "DEPRESSION"
  | OBESITY => "OBESITY"
  | CSMOKING => "CSMOKING"
  | ACCESS2 => "ACCESS2"
  | SLEEP => "SLEEP"

end MeasureKey

open MeasureKey in
/-- `MEASURE_KEYS`. -/
def measureKeys : List MeasureKey :=
  [DIABETES, BPHIGH, CHD, DEPRESSION, OBESITY, CSMOKING, ACCESS2, SLEEP]

/-- `SOLD_MEASURES`. -/
def soldMeasures : MeasureKey → Tier
  | .DIABETES | .BPHIGH | .CHD | .DEPRESSION => .premium
  | .OBESITY | .CSMOKING | .ACCESS2 | .SLEEP => .standard

/-- The sold measure a text names. -/
def measureOf (key : String) : Option MeasureKey :=
  measureKeys.find? fun m => m.name = key

/-- `isSoldMeasure`. -/
def isSoldMeasure (key : String) : Bool :=
  (measureOf key).isSome

theorem measureOf_name (m : MeasureKey) : measureOf m.name = some m := by
  cases m <;> decide

theorem measureOf_eq_some {key : String} {m : MeasureKey} :
    measureOf key = some m ↔ key = m.name := by
  constructor
  · intro h
    have hname := List.find?_some h
    exact (by simpa using hname : m.name = key).symm
  · rintro rfl
    exact measureOf_name m

/-- `tierOf`. -/
def tierOf (key : String) : Except Failure Tier :=
  match measureOf key with
  | some m => .ok (soldMeasures m)
  | none => dataError s!"{key} is not a sold measure."

/-! ## Corpus -/

/-- One tract, projected to what is sold. -/
structure Tract where
  stateAbbr : String
  stateDesc : String
  countyName : String
  countyFips : String
  tractFips : String
  totalPopulation : Option Number
  totalPop18plus : Option Number
  values : MeasureKey → Option Number

/-- `t.values[key]` for any text: `none` where the record has no such member,
`some none` for a suppressed value. -/
def Tract.value (t : Tract) (key : String) : Option (Option Number) :=
  (measureOf key).map t.values

structure Totals where
  tracts : ℕ
  states : ℕ
  counties : ℕ
  population : Number
  pop18plus : Number

structure Corpus where
  tracts : List Tract
  /-- The state abbreviations present. -/
  states : List String
  /-- The states in which no tract has a published value. -/
  unavailableStates : MeasureKey → List String
  availabilityIsExhaustiveAtStateLevel : Bool
  /-- The counties of each state. -/
  counties : List (String × List String)
  totals : Totals
  sourcePath : String

/-! ## CSV -/

/-- Split one CSV line, honouring double quotes. -/
def splitCsvLine (line : String) : List String :=
  scan [] false line.toList
where
  /-- The loop of `splitCsvLine`: the field so far, reversed, and whether the
  scanner is inside quotes. -/
  scan (field : List Char) (inQuotes : Bool) : List Char → List String
    | [] => [String.ofList field.reverse]
    | ch :: c :: cs =>
      if inQuotes then
        if ch = Char.ofNat 34 then
          if c = Char.ofNat 34 then scan (c :: field) true cs else scan field false (c :: cs)
        else scan (ch :: field) true (c :: cs)
      else if ch = Char.ofNat 34 then scan field true (c :: cs)
      else if ch = ',' then String.ofList field.reverse :: scan [] false (c :: cs)
      else scan (ch :: field) false (c :: cs)
    | [ch] =>
      if inQuotes then
        if ch = Char.ofNat 34 then scan field false [] else scan (ch :: field) true []
      else if ch = Char.ofNat 34 then scan field true []
      else if ch = ',' then String.ofList field.reverse :: scan [] false []
      else scan (ch :: field) false []

/-- Parse a published number: blank means suppressed. -/
def parseNum (raw : Option String) : Option Number :=
  let s := trim (String.ofList ((raw.getD "").toList.filter (· ≠ ',')))
  if s = "" then none
  else
    let n := numberOfText s
    if n.isFinite then some n else none

/-! ## Loading -/

/-- What `loadPlaces` has gathered so far. -/
structure Loading where
  header : Option (List (String × ℕ))
  tracts : List Tract
  states : List String
  counties : List (String × List String)
  population : Number
  pop18 : Number
  withValue : List ((MeasureKey × String) × ℕ)
  rowsPerState : List (String × ℕ)

def Loading.start : Loading :=
  ⟨none, [], [], [], 0, 0, [], []⟩

/-- `map.set(k, (map.get(k) ?? 0) + 1)`. -/
def countUp {κ : Type} [DecidableEq κ] (k : κ) : List (κ × ℕ) → List (κ × ℕ)
  | [] => [(k, 1)]
  | (k', n) :: ms => if k' = k then (k', n + 1) :: ms else (k', n) :: countUp k ms

/-- `set.add(x)`. -/
def addTo {α : Type} [DecidableEq α] (xs : List α) (x : α) : List α :=
  if x ∈ xs then xs else xs ++ [x]

/-- The column of each header name; a repeated name keeps its last column. -/
def headerIndex (cells : List String) : List (String × ℕ) :=
  (cells.map trim).zipIdx.foldl (fun idx (name, i) => setMember name i idx) []

def requiredColumns : List String :=
  ["StateAbbr", "CountyName", "TractFIPS", "TotalPopulation"]

/-- The header line: the columns, once the required ones are there. -/
def readHeader (path : String) (cells : List String) : Except Failure (List (String × ℕ)) := do
  let idx := headerIndex cells
  for required in requiredColumns do
    if (idx.lookup required).isNone then
      dataError s!"{path} is missing the required column \"{required}\"."
  for m in measureKeys do
    if (idx.lookup (m.name ++ "_CrudePrev")).isNone then
      dataError s!"{path} has no column for the sold measure {m.name}."
  return idx

/-- The tract of one data line. -/
def readTract (idx : List (String × ℕ)) (cells : List String) : Tract :=
  let at? (name : String) : Option String := (idx.lookup name).bind fun i => cells[i]?
  let text (name : String) : String := trim ((at? name).getD "")
  { stateAbbr := text "StateAbbr"
    stateDesc := text "StateDesc"
    countyName := text "CountyName"
    countyFips := text "CountyFIPS"
    tractFips := text "TractFIPS"
    totalPopulation := parseNum (at? "TotalPopulation")
    totalPop18plus := parseNum (at? "TotalPop18plus")
    values m := parseNum (at? (m.name ++ "_CrudePrev")) }

/-- One data line. -/
def readRow (idx : List (String × ℕ)) (cells : List String) (l : Loading) : Loading :=
  let t := readTract idx cells
  if t.stateAbbr = "" then l
  else
    { l with
      tracts := l.tracts ++ [t]
      states := addTo l.states t.stateAbbr
      counties := setMember t.stateAbbr
        (addTo ((l.counties.lookup t.stateAbbr).getD []) t.countyName) l.counties
      population := l.population + t.totalPopulation.getD 0
      pop18 := l.pop18 + t.totalPop18plus.getD 0
      withValue := (measureKeys.filter fun m => (t.values m).isSome).foldl
        (fun counts m => countUp (m, t.stateAbbr) counts) l.withValue
      rowsPerState := countUp t.stateAbbr l.rowsPerState }

/-- The longest line `loadPlaces` reads, in code units. -/
def maxLine : ℕ :=
  64 * 1024

/-- One line of the file. -/
def readLine (path : String) (l : Loading) (line : String) : Except Failure Loading :=
  if (utf16 line).length > maxLine then
    dataError (s!"{path} has a line of {(utf16 line).length} bytes (limit {maxLine}). This is " ++
      "not the PLACES release — check the path before the process exhausts memory on it.")
  else if trim line = "" then .ok l
  else
    let cells := splitCsvLine line
    match l.header with
    | none => do
      let idx ← readHeader path cells
      return { l with header := some idx }
    | some idx => .ok (readRow idx cells l)

/-- The states of the corpus without a value for the measure. -/
def gapsOf (l : Loading) (m : MeasureKey) : List String :=
  sortTexts (l.states.filter fun st => (l.withValue.lookup (m, st)).getD 0 = 0)

/-- Whether a measure is partially suppressed in some state. -/
def partiallySuppressed (l : Loading) (m : MeasureKey) : Bool :=
  l.states.any fun st =>
    let published := (l.withValue.lookup (m, st)).getD 0
    published ≠ 0 ∧ published < (l.rowsPerState.lookup st).getD 0

/-- `loadPlaces`, over the lines of the file at `path`. -/
def loadPlaces (path : String) (lines : List String) : Except Failure Corpus := do
  let l ← lines.foldlM (readLine path) Loading.start
  if l.tracts.length = 0 then
    dataError s!"{path} contained no data rows."
  return {
    tracts := l.tracts
    states := l.states
    unavailableStates := gapsOf l
    availabilityIsExhaustiveAtStateLevel := !(measureKeys.any (partiallySuppressed l))
    counties := l.counties
    totals := {
      tracts := l.tracts.length
      states := l.states.length
      counties := (l.counties.map fun c => c.2.length).sum
      population := l.population
      pop18plus := l.pop18 }
    sourcePath := path }

end Engine

end DataSeller

end Coordination
