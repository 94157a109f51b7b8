import Coordination.DataSeller.Engine.Query

/-!
# The synthetic records

The deliverable: a fixed number of rows for every tract of the slice, each row's
flags drawn from a counter-based generator over the published seed, and the CSV
they are serialised to. The generator refuses more than `maxRows` rows and an
allocation that cannot meet its own floor.
-/

namespace Coordination

namespace DataSeller

namespace Engine

open JavaScript Library

/-- `throw new SynthError(message)`. -/
def synthError {α : Type} (message : String) : Except Failure α :=
  .error (.raised .SynthError message)

/-! ## Draws -/

inductive AgeBand where
  | from18
  | from35
  | from50
  | from65
  deriving DecidableEq

def AgeBand.band : AgeBand → String
  | .from18 => "18-34"
  | .from35 => "35-49"
  | .from50 => "50-64"
  | .from65 => "65+"

/-- `SYNTHETIC_AGE_BANDS`. -/
def syntheticAgeBands : List (AgeBand × Number) :=
  [(.from18, 0.3), (.from35, 0.25), (.from50, 0.25), (.from65, 0.2)]

/-- `AGE_RESTRICTED`: the measures with a narrower denominator. -/
def ageRestricted : String → Option (List AgeBand)
  | "ACCESS2" => some [.from18, .from35, .from50]
  | _ => none

/-- `SYNTHETIC_COLUMN`: the column name of each measure in the deliverable. -/
def syntheticColumn : MeasureKey → String
  | .DIABETES => "has_diabetes"
  | .BPHIGH => "has_high_bp"
  | .CHD => "has_chd"
  | .DEPRESSION => "has_depression"
  | .OBESITY => "is_obese"
  | .CSMOKING => "is_current_smoker"
  | .ACCESS2 => "is_uninsured_18_64"
  | .SLEEP => "short_sleep"

structure SynthesisOptions where
  rowCount : Exact
  rowsPerTract : Option ℕ
  seed : String
  columns : List String

structure SyntheticPerson where
  syntheticPersonId : String
  sourceTractFIPS : String
  sourceCountyName : String
  sourceStateAbbr : String
  ageBand : AgeBand
  flags : List (String × Bool)

/-- `uniform`: a double in `[0, 1)` from the first 48 bits of a hash. -/
def uniform [Digests] (seed : String) (index : ℕ) (field : String) : Number :=
  let digest := Digests.sha256 (utf8 (seed ++ "|" ++ toString index ++ "|" ++ field))
  Float.ofNat ((digest.take 6).foldl (fun n b => 256 * n + b.toNat) 0) / 281474976710656

/-- The running adult-population weights of `buildSampler`. -/
def cumulativeWeights (tracts : List Tract) : List Number :=
  (tracts.map fun t =>
    match t.totalPop18plus with
    | some pop => if pop.isFinite && 0 < pop then pop else 0
    | none => 0).scanl (· + ·) 0 |>.tail

/-- The binary search of `pickTract`. -/
def searchWeights (cumulative : List Number) (target : Number) (lo hi : ℕ) : ℕ :=
  if lo < hi then
    let mid := (lo + hi) / 2
    if cumulative.getD mid 0 ≤ target then searchWeights cumulative target (mid + 1) hi
    else searchWeights cumulative target lo mid
  else lo
termination_by hi - lo

/-- `pickTract`. -/
def pickTract (tracts : List Tract) (u : Number) : Except Failure Tract :=
  let cumulative := cumulativeWeights tracts
  let totalWeight := cumulative.getLastD 0
  let found :=
    if totalWeight ≤ 0 then tracts.head?
    else tracts[searchWeights cumulative (u * totalWeight) 0 (cumulative.length - 1)]?
  match found with
  | some t => .ok t
  | none => synthError "Cannot generate from an empty slice."

/-- `pickAgeBand`. -/
def pickAgeBand (u : Number) : AgeBand :=
  pick 0 syntheticAgeBands
where
  pick (acc : Number) : List (AgeBand × Number) → AgeBand
    | [] => .from65
    | (band, weight) :: rest => if u < acc + weight then band else pick (acc + weight) rest

/-- `measureAppliesToAge`. -/
def measureAppliesToAge (measureKey : String) (ageBand : AgeBand) : Bool :=
  match ageRestricted measureKey with
  | some bands => ageBand ∈ bands
  | none => true

/-! ## Allocation -/

/-- `MAX_ROWS`. -/
def maxRows : ℕ :=
  999999

/-- The tracts in the order the remainder goes to them, by their position. -/
def remainderOrder [HostLocale] (tracts : List Tract) : List ℕ :=
  ((tracts.zipIdx.insertionSort fun a b =>
    let popA := a.1.totalPop18plus.getD 0
    let popB := b.1.totalPop18plus.getD 0
    popB < popA ∨ (popA == popB ∧ HostLocale.compare a.1.tractFips b.1.tractFips ≠ .gt))).map Prod.snd

/-- Hand out a remainder, one row at a time, around the order. -/
def addRemainder (order : List ℕ) : ℕ → ℕ → List ℕ → List ℕ
  | 0, _, alloc => alloc
  | r + 1, k, alloc =>
    addRemainder order r ((k + 1) % order.length) (alloc.modify (order.getD k 0) (· + 1))

/-- `allocateRows`. -/
def allocateRows [HostLocale] (tracts : List Tract) (rowsPerTract : ℕ) (totalRows : Option Exact) :
    Except Failure (List ℕ) := do
  if rowsPerTract < 1 then
    synthError s!"rowsPerTract must be at least 1, got {rowsPerTract}."
  let floor := rowsPerTract * tracts.length
  let total : Exact := totalRows.getD floor
  if total.above maxRows then
    synthError (s!"{HostLocale.toLocaleString total.toNumber} rows exceeds the " ++
      s!"{HostLocale.toLocaleString (Float.ofNat maxRows)} this generator will produce. " ++
      "Lower rowsPerTract or narrow the slice.")
  if total.below floor then
    synthError (s!"{total.toNumber.toText} rows cannot give {rowsPerTract} to each of " ++
      s!"{tracts.length} tracts. The floor is a promise.")
  let alloc := tracts.map fun _ => rowsPerTract
  return addRemainder (remainderOrder tracts) (total.count - floor) 0 alloc

/-- `perTractPrecisionPp`. -/
def perTractPrecisionPp (prevalencePercent : Number) (rowsPerTract : ℕ) : Number :=
  if rowsPerTract ≤ 0 then 100
  else
    let p := Number.min (Number.max (prevalencePercent / 100) 0) 1
    Number.fixed (Float.sqrt (p * (1 - p) / Float.ofNat rowsPerTract) * 100) 2

/-! ## Generation -/

/-- The flag of one column in row `i`. -/
def flagOf [Digests] (seed : String) (i : ℕ) (tract : Tract) (ageBand : AgeBand) (key : String) :
    Bool :=
  if !measureAppliesToAge key ageBand then false
  else
    let p :=
      match (tract.value key).join with
      | some prevalencePercent => if prevalencePercent.isFinite then prevalencePercent / 100 else 0
      | none => 0
    (uniform seed i key).lt p

/-- Row `i`, drawn for a tract. -/
def personOf [Digests] (seed : String) (columns : List String) (tract : Tract) (i : ℕ) :
    SyntheticPerson :=
  let ageBand := pickAgeBand (uniform seed i "age")
  let id := toString (i + 1)
  { syntheticPersonId := "syn_" ++ String.ofList (List.replicate (6 - id.length) '0') ++ id
    sourceTractFIPS := tract.tractFips
    sourceCountyName := tract.countyName
    sourceStateAbbr := tract.stateAbbr
    ageBand
    flags := columns.foldl (fun flags key => assign key (flagOf seed i tract ageBand key) flags) [] }

/-- The length of the longest array the language has. -/
def maxArrayLength : ℕ :=
  2 ^ 32 - 1

/-- The tract of every row, when a floor was promised. -/
def assignedTracts [HostLocale] (tracts : List Tract) (options : SynthesisOptions) :
    Except Failure (Option (List Tract)) :=
  match options.rowsPerTract with
  | none => .ok none
  | some rowsPerTract => do
    let alloc ← allocateRows tracts rowsPerTract (some options.rowCount)
    -- `Array.from({ length: n })` throws for a longer one
    if alloc.any (maxArrayLength < ·) then
      .error .rangeError
    return some ((alloc.zip tracts).flatMap fun (n, t) => List.replicate n t)

/-- The tract of row `i`. -/
def tractOfRow [Digests] (tracts : List Tract) (seed : String) (assigned : Option (List Tract))
    (i : ℕ) : Except Failure Tract :=
  match assigned with
  | none => pickTract tracts (uniform seed i "tract")
  | some ts =>
    match ts[i]? with
    | some t => .ok t
    | none => .error .typeError

/-- `generateSyntheticPeople`. -/
def generateSyntheticPeople [Digests] [HostLocale] (tracts : List Tract) (options : SynthesisOptions) :
    Except Failure (List SyntheticPerson) := do
  if tracts.length = 0 then
    synthError "Cannot generate from an empty slice."
  if options.rowCount.above maxRows then
    synthError (s!"{HostLocale.toLocaleString options.rowCount.toNumber} rows exceeds the " ++
      s!"{HostLocale.toLocaleString (Float.ofNat maxRows)} this generator will produce: the row id " ++
      "is zero-padded to six digits and would stop sorting as it claims.")
  let assigned ← assignedTracts tracts options
  (List.range options.rowCount.count).mapM fun i => do
    let tract ← tractOfRow tracts options.seed assigned i
    return personOf options.seed options.columns tract i

/-! ## The CSV -/

/-- The column name of a requested column. -/
def columnName [HostLocale] (c : String) : String :=
  match measureOf c with
  | some m => syntheticColumn m
  | none => HostLocale.toLowerCase c

/-- `deliverableHeader`. -/
def deliverableHeader [HostLocale] (columns : List String) : List String :=
  ["synthetic_person_id", "source_tract_fips", "source_county_name", "source_state_abbr",
    "age_band"] ++ columns.map columnName ++ ["is_synthetic"]

/-- `String(p.flags[c] ?? 0)`; reading `__proto__` yields an object. -/
def flagCell (p : SyntheticPerson) (c : String) : String :=
  if c = "__proto__" then "[object Object]"
  else if (p.flags.lookup c).getD false then "1" else "0"

/-- A county name between quotes. -/
def quoteCsv (s : String) : String :=
  String.ofList (Char.ofNat 34 ::
    (s.toList.flatMap fun c => if c = Char.ofNat 34 then [c, c] else [c]) ++ [Char.ofNat 34])

/-- One row of the deliverable. -/
def csvRow (columns : List String) (p : SyntheticPerson) : String :=
  String.intercalate "," ([p.syntheticPersonId, p.sourceTractFIPS, quoteCsv p.sourceCountyName,
    p.sourceStateAbbr, p.ageBand.band] ++ columns.map (flagCell p) ++ ["true"])

/-- `serializeCsv`. -/
def serializeCsv [HostLocale] (people : List SyntheticPerson) (columns : List String) : Bytes :=
  let rows := String.intercalate "," (deliverableHeader columns) :: people.map (csvRow columns)
  utf8 (String.intercalate "\n" rows ++ "\n")

/-! ## Calibration -/

structure MeasureCalibration where
  measure : String
  targetPercent : Number
  realizedPercent : Number
  denominatorRows : ℕ
  tolerancePp : Number
  withinTolerance : Bool

/-- `calibrationTolerancePp`. -/
def calibrationTolerancePp (targetPercent : Number) (denominatorRows : ℕ) : Number :=
  if denominatorRows ≤ 0 then 100
  else
    let p := Number.min (Number.max (targetPercent / 100) 0) 1
    let se := Float.sqrt (p * (1 - p) / Float.ofNat denominatorRows) * 100
    Number.max 1 (3 * se)

/-- The calibration of one measure. -/
def calibrateMeasure (people : List SyntheticPerson) (tracts : List Tract) (measure : String) :
    MeasureCalibration :=
  let rowsOf (t : Tract) : ℕ := people.countP fun p => p.sourceTractFIPS = t.tractFips
  let (weighted, weight) := tracts.foldl (fun (acc : Number × Number) t =>
    let v : Option Number := (t.value measure).getD (some (0 / 0))
    match v with
    | some v =>
      if 0 < rowsOf t then (acc.1 + v * Float.ofNat (rowsOf t), acc.2 + Float.ofNat (rowsOf t))
      else acc
    | none => acc) (0, 0)
  let targetPercent := if 0 < weight then weighted / weight else 0
  let denominator := people.filter fun p => measureAppliesToAge measure p.ageBand
  let hits := denominator.countP fun p => p.flags.lookup measure = some true
  let realizedPercent :=
    if 0 < denominator.length then Float.ofNat hits / Float.ofNat denominator.length * 100 else 0
  let tolerancePp := calibrationTolerancePp targetPercent denominator.length
  { measure
    targetPercent := Number.fixed targetPercent 4
    realizedPercent := Number.fixed realizedPercent 4
    denominatorRows := denominator.length
    tolerancePp := Number.fixed tolerancePp 4
    withinTolerance := Float.abs (realizedPercent - targetPercent) ≤ tolerancePp }

/-- `calibrate`. -/
def calibrate (people : List SyntheticPerson) (tracts : List Tract) (columns : List String) :
    List MeasureCalibration :=
  columns.map (calibrateMeasure people tracts)

/-- `isCalibrated`. -/
def isCalibrated (calibrations : List MeasureCalibration) : Bool :=
  calibrations.all fun c => c.withinTolerance

end Engine

end DataSeller

end Coordination
