import Coordination.DataSeller.Engine.Synth
import Coordination.DataSeller.Signing

/-!
# Delivery and its verification

`generateDelivery` evaluates the query again, refuses a slice that is not the
quoted one, generates the records and describes them in a manifest;
`verifyDelivery` is the buyer's check of the bytes it received against such a
manifest.
-/

namespace Coordination

namespace DataSeller

namespace Engine

open JavaScript Library

/-- `throw new DeliveryError(message)`. -/
def deliveryError {α : Type} (message : String) : Except Failure α :=
  .error (.raised .DeliveryError message)

/-- `GENERATOR_ALGORITHM`. -/
def generatorAlgorithm : String :=
  "stratified-marginal-bernoulli/v2"

/-! ## The manifest -/

structure StoredArtifact where
  contentHash : String
  bytes : ℕ
  locator : String

structure Density where
  rowsPerTract : Number
  tractCount : ℕ
  tractsWithRows : ℕ
  minRowsPerTract : Number
  perTractStandardErrorPp : List (String × Number)

structure Generator where
  algorithm : String
  prng : String
  weighting : String
  limitations : List String

structure DeliveryManifest where
  dealId : String
  productId : String
  criteria : Value
  criteriaHash : String
  sourceStatsHash : String
  quotedStatsHash : Option String
  statsMatchQuote : Bool
  rowCount : Number
  density : Option Density
  columns : List String
  header : List String
  seed : String
  generator : Generator
  calibration : List MeasureCalibration
  calibrated : Bool
  artifact : StoredArtifact
  generatedAt : String

def Density.toValue (d : Density) : Value :=
  .obj [
    ("rowsPerTract", .num d.rowsPerTract),
    ("tractCount", .num (Float.ofNat d.tractCount)),
    ("tractsWithRows", .num (Float.ofNat d.tractsWithRows)),
    ("minRowsPerTract", .num d.minRowsPerTract),
    ("perTractStandardErrorPp", .obj (d.perTractStandardErrorPp.map fun (k, x) => (k, .num x)))]

def Generator.toValue (g : Generator) : Value :=
  .obj [
    ("algorithm", .str g.algorithm),
    ("prng", .str g.prng),
    ("weighting", .str g.weighting),
    ("limitations", textList g.limitations)]

def MeasureCalibration.toValue (c : MeasureCalibration) : Value :=
  .obj [
    ("measure", .str c.measure),
    ("targetPercent", .num c.targetPercent),
    ("realizedPercent", .num c.realizedPercent),
    ("denominatorRows", .num (Float.ofNat c.denominatorRows)),
    ("tolerancePp", .num c.tolerancePp),
    ("withinTolerance", .bool c.withinTolerance)]

def StoredArtifact.toValue (a : StoredArtifact) : Value :=
  .obj [
    ("contentHash", .str a.contentHash),
    ("bytes", .num (Float.ofNat a.bytes)),
    ("locator", .str a.locator)]

/-- The manifest as the value its canonical bytes are taken of. -/
def DeliveryManifest.toValue (m : DeliveryManifest) : Value :=
  .obj ([
    ("dealId", .str m.dealId),
    ("productId", .str m.productId),
    ("criteria", m.criteria),
    ("criteriaHash", .str m.criteriaHash),
    ("sourceStatsHash", .str m.sourceStatsHash),
    ("quotedStatsHash", (m.quotedStatsHash.map Json.str).getD .null),
    ("statsMatchQuote", .bool m.statsMatchQuote),
    ("rowCount", .num m.rowCount)] ++
    (m.density.map fun d => ("density", d.toValue)).toList ++ [
    ("columns", textList m.columns),
    ("header", textList m.header),
    ("seed", .str m.seed),
    ("generator", m.generator.toValue),
    ("calibration", .arr (m.calibration.map MeasureCalibration.toValue)),
    ("calibrated", .bool m.calibrated),
    ("artifact", m.artifact.toValue),
    ("generatedAt", .str m.generatedAt)])

@[simp] theorem allFinite_textList (xs : List String) : allFinite (textList xs) = true := by
  simp [textList, Function.comp_def]

@[simp] theorem Generator.allFinite_toValue (g : Generator) : allFinite g.toValue = true := by
  simp [Generator.toValue]

theorem Density.allFinite_toValue {d : Density} :
    allFinite d.toValue = true ↔
      d.rowsPerTract.isFinite = true ∧ (Float.ofNat d.tractCount).isFinite = true ∧
        (Float.ofNat d.tractsWithRows).isFinite = true ∧ d.minRowsPerTract.isFinite = true ∧
        (d.perTractStandardErrorPp.all fun e => e.2.isFinite) = true := by
  simp [Density.toValue]

/-- The numbers of a manifest are the ones of its criteria, its counts and its
calibration. -/
theorem DeliveryManifest.allFinite_toValue {m : DeliveryManifest} :
    allFinite m.toValue = true ↔
      allFinite m.criteria = true ∧ m.rowCount.isFinite = true ∧
        (∀ d ∈ m.density, allFinite d.toValue = true) ∧
        (m.calibration.all fun c => allFinite c.toValue) = true ∧
        (Float.ofNat m.artifact.bytes).isFinite = true := by
  have hquoted : allFinite ((m.quotedStatsHash.map Json.str).getD .null) = true := by
    cases m.quotedStatsHash <;> rfl
  cases hdensity : m.density <;>
    simp [DeliveryManifest.toValue, StoredArtifact.toValue, hdensity, hquoted]

structure DeliveryResult where
  manifest : DeliveryManifest
  manifestBytes : Bytes
  deliveryHash : String
  bytes : Bytes

section Primitives

variable [Digests] [HostLocale]

/-- `deliverableSeed`. -/
def deliverableSeed (secret dealId : String) : String :=
  toHex (Digests.sha256 (utf8 (secret ++ "|" ++ dealId ++ "|v2")))

/-- `sha256Bytes`. -/
def sha256Bytes (bytes : Bytes) : String :=
  Digests.sha256Ref bytes

/-- `MemoryArtifactStore.put`; nothing reads the stored bytes back. -/
def put (bytes : Bytes) (dealId filename : String) : StoredArtifact where
  contentHash := sha256Bytes bytes
  bytes := bytes.length
  locator := "memory:" ++ dealId ++ "/" ++ filename

/-! ## Generation -/

structure DeliveryInput where
  dealId : String
  productId : String
  query : Query
  corpus : Corpus
  rowsPerTract : ℕ
  seed : String
  artifactLocator : Option String
  quotedStatsHash : Option String
  now : String

/-- The generator block of a manifest. -/
def generatorBlock (rowsPerTract : ℕ) : Generator where
  algorithm := generatorAlgorithm
  prng := "sha256(seed|rowIndex|field), top 48 bits / 2^48 — counter-based, every draw " ++
    "independently addressable"
  weighting := s!"every tract gets {rowsPerTract} row(s); any remainder goes to the largest " ++
    "tracts first, by TotalPop18plus"
  limitations := [
    "Marginal prevalences are reproduced; the JOINT distribution is not. Measure flags are " ++
      "drawn independently, so co-morbidity is absent. NOT sound for co-morbidity rates, " ++
      "multivariate models, or any interaction term.",
    "Each row's flags are Bernoulli draws from ONE tract's published prevalence, so a tract " ++
      s!"represented by {rowsPerTract} row(s) admits only {rowsPerTract + 1} distinct rates for " ++
      "any measure. This file is sound for slice-level marginals and for person-level work over " ++
      "many tracts; it is NOT sound for ranking or comparing individual tracts. For a tract's " ++
      "own rate, read the published CDC PLACES value — it is this file's input, and no number " ++
      "of synthetic rows improves on it.",
    "age_band is illustrative, not estimated. PLACES publishes no age breakdown.",
    "ACCESS2 has an 18-64 denominator and is therefore always 0 for 65+ rows."]

/-- The standard error of one tract's rate, for each requested column. -/
def standardErrors (stats : AggregateStats) (columns : List String) (rowsPerTract : ℕ) :
    List (String × Number) :=
  columns.foldl (fun ms measure =>
    let mean := ((stats.perMeasure.lookup measure).map MeasureStats.mean).getD 0
    setMember measure (perTractPrecisionPp mean rowsPerTract) ms) []

/-- The message for a file that misses the marginals. -/
def uncalibratedMessage (calibration : List MeasureCalibration) : String :=
  "Generated file is not calibrated: " ++ String.intercalate "; "
    ((calibration.filter fun c => !c.withinTolerance).map fun c =>
      s!"{c.measure} realized {c.realizedPercent.toText}% vs target {c.targetPercent.toText}% " ++
        s!"(±{c.tolerancePp.toText}pp)")

/-- The options `generateDelivery` generates with. -/
def deliveryOptions (input : DeliveryInput) : SynthesisOptions where
  rowCount := (input.rowsPerTract * (evaluateQuery input.query input.corpus).tracts.length : ℕ)
  rowsPerTract := some input.rowsPerTract
  seed := input.seed
  columns := input.query.columns

/-- The manifest of a generated file. -/
def manifestFor (input : DeliveryInput) (commitment : StatsCommitment)
    (people : List SyntheticPerson) : DeliveryManifest :=
  let matched := (evaluateQuery input.query input.corpus).tracts
  let columns := input.query.columns
  let stored := put (serializeCsv people columns) input.dealId (input.dealId ++ ".csv")
  { dealId := input.dealId
    productId := input.productId
    criteria := .obj [
      ("columns", textList (sortTexts columns)),
      ("states", textList (sortTexts (input.query.states.getD []))),
      ("counties", textList (sortTexts (input.query.counties.getD []))),
      ("minPopulation", orNull input.query.minPopulation),
      ("thresholds", input.query.thresholds.getD (.obj []))]
    criteriaHash := commitment.criteriaHash
    sourceStatsHash := commitment.statsHash
    quotedStatsHash := input.quotedStatsHash
    statsMatchQuote := true
    rowCount := Float.ofNat (input.rowsPerTract * matched.length)
    density := some {
      rowsPerTract := Float.ofNat input.rowsPerTract
      tractCount := matched.length
      tractsWithRows := (distinct (people.map SyntheticPerson.sourceTractFIPS)).length
      minRowsPerTract := Float.ofNat input.rowsPerTract
      perTractStandardErrorPp :=
        standardErrors (aggregateStats matched columns) columns input.rowsPerTract }
    columns
    header := deliverableHeader columns
    seed := input.seed
    generator := generatorBlock input.rowsPerTract
    calibration := calibrate people matched columns
    calibrated := true
    artifact := { stored with locator := input.artifactLocator.getD stored.locator }
    generatedAt := input.now }

/-- `generateDelivery`. -/
def generateDelivery [Canonicalize] (input : DeliveryInput) : Except Failure DeliveryResult := do
  let matched := (evaluateQuery input.query input.corpus).tracts
  let columns := input.query.columns
  if matched.length = 0 then
    deliveryError s!"Deal {input.dealId} matches no tracts. There is nothing to deliver."
  let stats := aggregateStats matched columns
  let commitment ← statsCommitment stats input.query
  let committed := input.quotedStatsHash.getD commitment.statsHash
  if committed ≠ commitment.statsHash then
    deliveryError (s!"The slice has changed since the quote: committed {committed}, now " ++
      s!"{commitment.statsHash}. Refusing to deliver a different slice under the same agreement.")
  let people ← generateSyntheticPeople matched (deliveryOptions input)
  let calibration := calibrate people matched columns
  if !isCalibrated calibration then
    deliveryError (uncalibratedMessage calibration)
  let manifest := manifestFor input commitment people
  let manifestBytes ← jcs manifest.toValue
  return {
    manifest
    manifestBytes
    deliveryHash := sha256Bytes manifestBytes
    bytes := serializeCsv people columns }

/-- Everything a successful generation has computed. -/
theorem generateDelivery_eq_ok [Canonicalize] {input : DeliveryInput} {out : DeliveryResult} :
    generateDelivery input = .ok out ↔
      (evaluateQuery input.query input.corpus).tracts.length ≠ 0 ∧
      ∃ commitment people manifestBytes,
        statsCommitment (aggregateStats (evaluateQuery input.query input.corpus).tracts
          input.query.columns) input.query = .ok commitment ∧
        input.quotedStatsHash.getD commitment.statsHash = commitment.statsHash ∧
        generateSyntheticPeople (evaluateQuery input.query input.corpus).tracts
          (deliveryOptions input) = .ok people ∧
        isCalibrated (calibrate people (evaluateQuery input.query input.corpus).tracts
          input.query.columns) = true ∧
        jcs (manifestFor input commitment people).toValue = .ok manifestBytes ∧
        out = ⟨manifestFor input commitment people, manifestBytes, sha256Bytes manifestBytes,
          serializeCsv people input.query.columns⟩ := by
  constructor
  · intro h
    unfold generateDelivery at h
    by_cases hempty : (evaluateQuery input.query input.corpus).tracts.length = 0
    · simp only [if_pos hempty] at h
      cases h
    · simp only [if_neg hempty] at h
      obtain ⟨commitment, hcommitment, h₁⟩ := bind_eq_ok.1 h
      by_cases hchanged : input.quotedStatsHash.getD commitment.statsHash ≠ commitment.statsHash
      · simp only [if_pos hchanged] at h₁
        cases h₁
      · simp only [if_neg hchanged] at h₁
        obtain ⟨people, hpeople, h₂⟩ := bind_eq_ok.1 h₁
        by_cases hcalibrated : (!isCalibrated (calibrate people
            (evaluateQuery input.query input.corpus).tracts input.query.columns)) = true
        · simp only [if_pos hcalibrated] at h₂
          cases h₂
        · simp only [if_neg hcalibrated] at h₂
          obtain ⟨manifestBytes, hbytes, h₃⟩ := bind_eq_ok.1 h₂
          cases h₃
          exact ⟨hempty, commitment, people, manifestBytes, hcommitment,
            not_not.1 hchanged, hpeople, by simpa using hcalibrated, hbytes, rfl⟩
  · rintro ⟨hne, commitment, people, manifestBytes, hcommitment, hquoted, hpeople, hcalibrated,
      hbytes, rfl⟩
    unfold generateDelivery
    simp only [if_neg hne, hcommitment, ok_bind, hquoted, ne_eq, not_true_eq_false, if_false,
      hpeople, hcalibrated, Bool.not_true, Bool.false_eq_true, hbytes]
    rfl

/-! ## Verification -/

/-- The floor of a density block that `isValidV2Density` accepts. -/
def validRows (density : Option Density) : Option ℕ :=
  match density.map fun d => Exact.ofNumber d.rowsPerTract with
  | some (.fin q) => if q.den = 1 ∧ 1 ≤ q then some q.num.toNat else none
  | _ => none

structure Verification where
  ok : Bool
  problems : List String
  regeneratedHash : Option String

/-- The options `verifyDelivery` regenerates with. -/
def regenerationOptions (manifest : DeliveryManifest) (rowsPerTract : ℕ) : SynthesisOptions where
  rowCount := Exact.ofNumber manifest.rowCount
  rowsPerTract := some rowsPerTract
  seed := manifest.seed
  columns := manifest.columns

/-- One problem, when the check fails. -/
def problemUnless (check : Bool) (problem : String) : List String :=
  if check then [] else [problem]

/-- `verifyDelivery`. -/
def verifyDelivery (manifest : DeliveryManifest) (received : Bytes) (corpus : Corpus)
    (query : Query) : Except Failure Verification := do
  let contentHash := manifest.artifact.contentHash
  let receivedHash := sha256Bytes received
  let receivedProblems := problemUnless (receivedHash = contentHash)
    s!"received bytes hash {receivedHash}, manifest says {contentHash}"
  let matched := (evaluateQuery query corpus).tracts
  let supported := decide (manifest.generator.algorithm = generatorAlgorithm)
  let algorithmProblems := problemUnless supported
    s!"unsupported generator algorithm {manifest.generator.algorithm}"
  match supported, validRows manifest.density with
  | true, some rowsPerTract => do
    let people ← generateSyntheticPeople matched (regenerationOptions manifest rowsPerTract)
    let regeneratedHash := sha256Bytes (serializeCsv people manifest.columns)
    let { statsHash, .. } ← statsCommitment (aggregateStats matched manifest.columns) query
    let problems := receivedProblems ++
      problemUnless (regeneratedHash = contentHash)
        (s!"regenerating from the published seed produced {regeneratedHash}, not " ++
          s!"{contentHash} — the file is not what the manifest describes") ++
      problemUnless (statsHash = manifest.sourceStatsHash)
        s!"source stats hash {statsHash} does not match the manifest's {manifest.sourceStatsHash}" ++
      problemUnless (manifest.quotedStatsHash.all (· = manifest.sourceStatsHash))
        "manifest admits the delivered slice differs from the quoted one" ++
      problemUnless manifest.calibrated "manifest reports the file is not calibrated"
    return { ok := problems.length = 0, problems, regeneratedHash := some regeneratedHash }
  | _, rows =>
    let problems := receivedProblems ++ algorithmProblems ++
      problemUnless rows.isSome
        s!"{generatorAlgorithm} requires density.rowsPerTract to be a finite integer >= 1"
    return { ok := false, problems, regeneratedHash := none }

end Primitives

end Engine

end DataSeller

end Coordination
