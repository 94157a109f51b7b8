import Coordination.DataSeller.Engine.Query
import Coordination.DataSeller.Signing

/-!
# The terms document

The structured terms behind a deal and the commitment that carries them into the
contract: the document's digest stands, verbatim, inside `acceptanceCriteria`.
-/

namespace Coordination

namespace DataSeller

open JavaScript Library Engine

structure UsageTerms where
  resale : Bool
  retentionDays : ℕ
  prohibitedUse : String
  limitations : List String

/-- The structured terms behind one deal. -/
structure TermsDocument where
  format : String
  criteriaHash : String
  statsHash : String
  rowsPerTract : ℕ
  totalRows : ℕ
  tractCount : ℕ
  perTractStandardErrorPp : Number
  method : String
  seedDisclosure : String
  generatorVersion : String
  corpusHash : String
  verifierHash : String
  usage : UsageTerms
  artifactAvailability : String
  priceBreakdownCents : BreakdownCents
  priceAmount : String

def natValue (n : ℕ) : Value :=
  .num (Float.ofNat n)

def UsageTerms.toValue (u : UsageTerms) : Value :=
  .obj [
    ("resale", .bool u.resale),
    ("retentionDays", natValue u.retentionDays),
    ("prohibitedUse", .str u.prohibitedUse),
    ("limitations", textList u.limitations)]

/-- The document as the value its digest is taken of. -/
def TermsDocument.toValue (doc : TermsDocument) : Value :=
  .obj [
    ("format", .str doc.format),
    ("criteriaHash", .str doc.criteriaHash),
    ("statsHash", .str doc.statsHash),
    ("rowsPerTract", natValue doc.rowsPerTract),
    ("totalRows", natValue doc.totalRows),
    ("tractCount", natValue doc.tractCount),
    ("perTractStandardErrorPp", .num doc.perTractStandardErrorPp),
    ("method", .str doc.method),
    ("seedDisclosure", .str doc.seedDisclosure),
    ("generatorVersion", .str doc.generatorVersion),
    ("corpusHash", .str doc.corpusHash),
    ("verifierHash", .str doc.verifierHash),
    ("usage", doc.usage.toValue),
    ("artifactAvailability", .str doc.artifactAvailability),
    ("priceBreakdownCents", .obj [
      ("base", .num doc.priceBreakdownCents.base),
      ("tracts", .num doc.priceBreakdownCents.tracts),
      ("standardColumns", .num doc.priceBreakdownCents.standardColumns),
      ("premiumColumns", .num doc.priceBreakdownCents.premiumColumns),
      ("subtotal", .num doc.priceBreakdownCents.subtotal)]),
    ("priceAmount", .str doc.priceAmount)]

/-- The numbers of a terms document are its counts, its precision and its price. -/
theorem TermsDocument.allFinite_toValue {doc : TermsDocument} :
    allFinite doc.toValue = true ↔
      ([doc.rowsPerTract, doc.totalRows, doc.tractCount, doc.usage.retentionDays].all fun n =>
        (Float.ofNat n).isFinite) = true ∧
      doc.perTractStandardErrorPp.isFinite = true ∧
      ([doc.priceBreakdownCents.base, doc.priceBreakdownCents.tracts,
        doc.priceBreakdownCents.standardColumns, doc.priceBreakdownCents.premiumColumns,
        doc.priceBreakdownCents.subtotal].all Float.isFinite) = true := by
  simp [TermsDocument.toValue, UsageTerms.toValue, natValue, textList]
  tauto

/-- `termsDocumentHashOf`. -/
def termsDocumentHashOf [Digests] [Canonicalize] (doc : TermsDocument) : Except Failure String := do
  return Digests.sha256Ref (← jcs doc.toValue)

/-- `url.replace(/\/$/, "")`. -/
def withoutSlash (url : String) : String :=
  if url.toList.getLast? = some '/' then String.ofList url.toList.dropLast else url

/-- `buildAcceptanceCriteria`. -/
def buildAcceptanceCriteria (termsDocumentHash locatorBase : String) : String :=
  let base := withoutSlash locatorBase
  s!"Delivery matches the terms document with JCS digest {termsDocumentHash}, " ++
    s!"served content-addressed at {base}/terms/{termsDocumentHash}. " ++
    "The delivered CSV regenerates byte-for-byte from the manifest's published seed " ++
    "under the document's pinned generator version, and its manifest satisfies the " ++
    "document's criteriaHash, statsHash and row counts."

/-! ## Reading the commitment back -/

structure AcceptanceCriteriaCommitment where
  termsDocumentHash : String
  locator : String
  deriving DecidableEq

/-- Remove an exact text from the front. -/
def dropExact : List Char → List Char → Option (List Char)
  | [], cs => some cs
  | d :: ds, c :: cs => if c = d then dropExact ds cs else none
  | _ :: _, [] => none

def isLowerHex (c : Char) : Bool :=
  c.isDigit || (97 ≤ c.toNat && c.toNat < 103)

/-- `(\S+?)\.(?:\s|$)`: the shortest run without white space that a full stop and
then white space or the end follow. -/
def locatorOf (run : List Char) : List Char → Option (List Char)
  | [] => none
  | c :: cs =>
    if c = '.' ∧ run ≠ [] ∧ (cs.head?.all isSpace) then some run.reverse
    else if isSpace c then none
    else locatorOf (c :: run) cs

/-- The pattern of `parseAcceptanceCriteria` at one position. -/
def commitmentAt (cs : List Char) : Option AcceptanceCriteriaCommitment := do
  let afterTag ← dropExact "sha256:".toList cs
  let digest := afterTag.take 64
  if digest.length = 64 ∧ digest.all isLowerHex then
    let rest ← dropExact ", served content-addressed at ".toList (afterTag.drop 64)
    let locator ← locatorOf [] rest
    return ⟨String.ofList ("sha256:".toList ++ digest), String.ofList locator⟩
  else none

/-- `parseAcceptanceCriteria`: the first position at which the pattern matches. -/
def parseAcceptanceCriteria (acceptanceCriteria : String) : Option AcceptanceCriteriaCommitment :=
  acceptanceCriteria.toList.tails.findSome? commitmentAt

/-- `termsDocumentMatchesContract`. -/
def termsDocumentMatchesContract [Digests] [Canonicalize] (doc : TermsDocument)
    (acceptanceCriteria : String) : Except Failure Bool :=
  match parseAcceptanceCriteria acceptanceCriteria with
  | none => .ok false
  | some commitment => do
    return (← termsDocumentHashOf doc) == commitment.termsDocumentHash

/-! ## The commitment is read back -/

theorem dropExact_append (ds cs : List Char) : dropExact ds (ds ++ cs) = some cs := by
  induction ds with
  | nil => rfl
  | cons d ds ih => simp [dropExact, ih]

theorem commitmentAt_of_tag {c : Char} {cs : List Char} (h : c ≠ 's' ∨ ∃ d ds, cs = d :: ds ∧ d ≠ 'h') :
    commitmentAt (c :: cs) = none := by
  have htag : "sha256:".toList = 's' :: 'h' :: "a256:".toList := by decide
  have hdrop : dropExact "sha256:".toList (c :: cs) = none := by
    rw [htag]
    rcases h with hc | ⟨d, ds, rfl, hd⟩
    · rw [dropExact, if_neg hc]
    · rw [dropExact, dropExact, if_neg hd, ite_self]
  unfold commitmentAt
  rw [hdrop]
  rfl

/-- The scan skips a text in which no digest starts. -/
theorem findSome?_commitmentAt_append {front rest : List Char}
    (hfront : ∀ i < front.length, (front.getD i 's' ≠ 's') ∨
      (i + 1 < front.length ∧ front.getD (i + 1) 'h' ≠ 'h')) :
    (front ++ rest).tails.findSome? commitmentAt = rest.tails.findSome? commitmentAt := by
  induction front with
  | nil => rfl
  | cons c front ih =>
      have hhead : commitmentAt (c :: (front ++ rest)) = none := by
        refine commitmentAt_of_tag ?_
        rcases hfront 0 (by simp) with hc | ⟨hlength, hc⟩
        · exact Or.inl (by simpa using hc)
        · cases front with
          | nil => simp at hlength
          | cons d front => exact Or.inr ⟨d, front ++ rest, rfl, by simpa using hc⟩
      rw [List.cons_append, List.tails, List.findSome?_cons, hhead]
      refine ih fun i hi => ?_
      have hnext := hfront (i + 1) (by simpa using hi)
      simpa using hnext

/-- The locator ends at the first full stop that white space or the end follows. -/
theorem locatorOf_append {cs rest : List Char} (hcs : ∀ c ∈ cs, isSpace c = false)
    (hrest : rest.head?.all isSpace = true) :
    ∀ run : List Char, run ++ cs ≠ [] → locatorOf run (cs ++ '.' :: rest) =
      some (run.reverse ++ cs) := by
  induction cs with
  | nil =>
      intro run hne
      have hrun : run ≠ [] := by simpa using hne
      simp [locatorOf, hrun, hrest]
  | cons c cs ih =>
      intro run _
      have hc : isSpace c = false := hcs c List.mem_cons_self
      have hnext : ¬ ((cs ++ '.' :: rest).head?.all isSpace = true) := by
        cases cs with
        | nil => simp [isSpace]
        | cons d cs => simpa using hcs d (by simp)
      have hstop : ¬ (c = '.' ∧ run ≠ [] ∧ (cs ++ '.' :: rest).head?.all isSpace = true) :=
        fun h => hnext h.2.2
      rw [List.cons_append, locatorOf, if_neg hstop, hc,
        ih (fun d hd => hcs d (List.mem_cons_of_mem c hd)) (c :: run) (by simp)]
      simp

theorem isSpace_of_isLowerHex {c : Char} (h : isLowerHex c = true) : isSpace c = false := by
  have hrange : (48 ≤ c.toNat ∧ c.toNat ≤ 57) ∨ (97 ≤ c.toNat ∧ c.toNat < 103) := by
    simp only [isLowerHex, Char.isDigit, Bool.or_eq_true, Bool.and_eq_true, decide_eq_true_eq,
      ge_iff_le, UInt32.le_iff_toNat_le] at h
    exact h
  simp only [isSpace, List.mem_cons, List.not_mem_nil, or_false, decide_eq_false_iff_not]
  omega

/-- The scan finds the commitment at its front. -/
theorem commitmentAt_append {digest locator rest : List Char} (hlength : digest.length = 64)
    (hdigest : digest.all isLowerHex = true) (hne : locator ≠ [])
    (hlocator : ∀ c ∈ locator, isSpace c = false) (hrest : rest.head?.all isSpace = true) :
    commitmentAt ("sha256:".toList ++ (digest ++ (", served content-addressed at ".toList ++
      (locator ++ '.' :: rest)))) =
        some ⟨String.ofList ("sha256:".toList ++ digest), String.ofList locator⟩ := by
  have htake : (digest ++ (", served content-addressed at ".toList ++
      (locator ++ '.' :: rest))).take 64 = digest := List.take_left' hlength
  have hdrop : (digest ++ (", served content-addressed at ".toList ++
      (locator ++ '.' :: rest))).drop 64 = ", served content-addressed at ".toList ++
        (locator ++ '.' :: rest) := List.drop_left' hlength
  unfold commitmentAt
  rw [dropExact_append]
  simp only [Option.bind_eq_bind, Option.bind_some, htake, hdrop, dropExact_append,
    locatorOf_append hlocator hrest [] (by simpa using hne), hlength, hdigest, and_self, if_true,
    List.reverse_nil, List.nil_append]
  rfl

/-- The commitment behind the opening words of `buildAcceptanceCriteria`. -/
theorem findSome?_commitmentAt_opening {digest locator rest : List Char}
    (hlength : digest.length = 64) (hdigest : digest.all isLowerHex = true) (hne : locator ≠ [])
    (hlocator : ∀ c ∈ locator, isSpace c = false) (hrest : rest.head?.all isSpace = true) :
    List.findSome? commitmentAt ("Delivery matches the terms document with JCS digest ".toList ++
      ("sha256:".toList ++ (digest ++ (", served content-addressed at ".toList ++
        (locator ++ '.' :: rest))))).tails =
      some ⟨String.ofList ("sha256:".toList ++ digest), String.ofList locator⟩ := by
  rw [findSome?_commitmentAt_append (by decide)]
  have hcommitment := commitmentAt_append hlength hdigest hne hlocator hrest
  obtain ⟨c, cs, hcons⟩ : ∃ c cs, "sha256:".toList ++ (digest ++
      (", served content-addressed at ".toList ++ (locator ++ '.' :: rest))) = c :: cs :=
    ⟨_, _, rfl⟩
  rw [hcons] at hcommitment ⊢
  rw [List.tails, List.findSome?_cons, hcommitment]

/-- The text of `buildAcceptanceCriteria` up to the full stop behind the locator. -/
theorem toList_buildAcceptanceCriteria (digest locatorBase : String) :
    ∃ rest, (buildAcceptanceCriteria ("sha256:" ++ digest) locatorBase).toList =
      "Delivery matches the terms document with JCS digest ".toList ++
        ("sha256:".toList ++ (digest.toList ++ (", served content-addressed at ".toList ++
          ((withoutSlash locatorBase).toList ++ "/terms/sha256:".toList ++ digest.toList ++
            '.' :: ' ' :: rest)))) := by
  have hserved : ", served content-addressed at ".toList =
      ", ".toList ++ "served content-addressed at ".toList := by decide
  have hterms : "/terms/sha256:".toList = "/terms/".toList ++ "sha256:".toList := by decide
  unfold buildAcceptanceCriteria
  simp only [toString, String.toList_append, List.append_assoc, hserved, hterms]
  exact ⟨_, rfl⟩

/-- What `buildAcceptanceCriteria` writes, `parseAcceptanceCriteria` reads. -/
theorem parse_buildAcceptanceCriteria {digest locatorBase : String}
    (hlength : digest.toList.length = 64) (hdigest : digest.toList.all isLowerHex = true)
    (hbase : locatorBase.toList.all (fun c => !isSpace c) = true) :
    parseAcceptanceCriteria (buildAcceptanceCriteria ("sha256:" ++ digest) locatorBase) =
      some ⟨"sha256:" ++ digest, withoutSlash locatorBase ++ "/terms/" ++ ("sha256:" ++ digest)⟩ := by
  have hplain : ∀ c ∈ (withoutSlash locatorBase).toList, isSpace c = false := by
    intro c hc
    have hmem : c ∈ locatorBase.toList := by
      unfold withoutSlash at hc
      split_ifs at hc
      · exact List.dropLast_subset _ (by simpa using hc)
      · exact hc
    simpa using List.all_eq_true.1 hbase c hmem
  have hlocator : ∀ c ∈ (withoutSlash locatorBase).toList ++ "/terms/sha256:".toList ++
      digest.toList, isSpace c = false := by
    have hpath : ("/terms/sha256:".toList.all fun c => !isSpace c) = true := by decide
    intro c hc
    rcases List.mem_append.1 hc with hc | hc
    · rcases List.mem_append.1 hc with hc | hc
      · exact hplain c hc
      · simpa using List.all_eq_true.1 hpath c hc
    · exact isSpace_of_isLowerHex (List.all_eq_true.1 hdigest c hc)
  have href : String.ofList ("sha256:".toList ++ digest.toList) = "sha256:" ++ digest := by
    rw [← String.toList_inj, String.toList_ofList, String.toList_append]
  have hat : String.ofList ((withoutSlash locatorBase).toList ++ "/terms/sha256:".toList ++
      digest.toList) = withoutSlash locatorBase ++ "/terms/" ++ ("sha256:" ++ digest) := by
    have hterms : "/terms/sha256:".toList = "/terms/".toList ++ "sha256:".toList := by decide
    rw [← String.toList_inj, String.toList_ofList, hterms]
    simp only [String.toList_append, List.append_assoc]
  obtain ⟨rest, htext⟩ := toList_buildAcceptanceCriteria digest locatorBase
  rw [parseAcceptanceCriteria, htext, findSome?_commitmentAt_opening hlength hdigest (by simp)
    hlocator rfl, href, hat]

end DataSeller

end Coordination
