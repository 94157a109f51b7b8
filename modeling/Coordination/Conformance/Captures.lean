import Coordination.Conformance.Proofs
import Coordination.Library.HashChain

/-!
# Captured proof chains

`run_proof_capture` looks at a decoded `agreement-proofs` response, and reports one check
after the other. A capture that passes the checks of the chain is fixed by the last
`proofHash` in it: its length, and every hashed member of every link.
-/

namespace Coordination

namespace Conformance

open Python Library

/-- The checks over a capture. -/
inductive CaptureCheck where
  | payload
  | envelope
  | schema
  | sequence
  | agreement
  | stateChain
  | hashChain
  | proofHash
  | stateHash
  | signature
  deriving DecidableEq

/-- The name a check is reported under. -/
def CaptureCheck.name : CaptureCheck → String
  | payload => "capture/proofs [payload]"
  | envelope => "capture/proofs [envelope]"
  | schema => "capture/proofs [schema]"
  | sequence => "capture/proofs [sequence]"
  | agreement => "capture/proofs [agreement]"
  | stateChain => "capture/proofs [state-chain]"
  | hashChain => "capture/proofs [hash-chain]"
  | proofHash => "capture/proofs [proofHash]"
  | stateHash => "capture/proofs [stateHash]"
  | signature => "capture/proofs [signature]"

/-- What is reported: the check and whether it passed. -/
abbrev Report := List (CaptureCheck × Bool)

/-- The domain tag of the Runtime's attestation. -/
def proofTag : Bytes :=
  utf8 "kite:fulfill:transition-proof:v1"

/-- The links in the order of their sequence; equal ones keep their order. -/
def orderedLinks (links : List TransitionProof) : List TransitionProof :=
  links.insertionSort fun p q => p.position ≤ q.position

/-- A condition on every link and the one behind it: `zip(ordered, ordered[1:])`. -/
def adjacent (c : TransitionProof → TransitionProof → Bool) (ordered : List TransitionProof) :
    Bool :=
  (ordered.zip ordered.tail).all fun e => c e.1 e.2

section Checks

variable [FloatText] [Digests]

/-- Both state digests of a link, where it has them. -/
def stateHashesValid (p : TransitionProof) : Bool :=
  (match p.previousStateHash with
    | none => true
    | some h =>
      match p.fromState with
      | none => false
      | some state => state ≠ "" ∧ h = stateHash p.agreementId state p.sequence.pred) &&
  (match p.nextStateHash with
    | none => true
    | some h => h = stateHash p.agreementId p.toState p.sequence)

/-- The signature of a link recovers to the address it names. -/
def signatureValid [RecoverableEcdsa] [CaseTables] (p : TransitionProof) : Bool :=
  match p.signature, p.signedBy with
  | some signature, some signedBy =>
    signature ≠ "" ∧ signedBy ≠ "" ∧ verifies signature (proofTag ++ utf8 p.proofHash) signedBy
  | _, _ => false

/-- The checks of a chain of links. -/
def chainChecks [RecoverableEcdsa] [CaseTables] (ordered : List TransitionProof) : Report :=
  [(.sequence, ordered.map TransitionProof.position =
      (List.range ordered.length).map fun i : ℕ => (i : ℚ) + 1),
    (.agreement, (ordered.map TransitionProof.agreementId).dedup.length = 1),
    (.stateChain, adjacent (fun p q => q.fromState = some p.toState) ordered),
    (.hashChain, (ordered.head?.bind TransitionProof.previousProofHash) = none ∧
      adjacent (fun p q => q.previousProofHash = some p.proofHash) ordered),
    (.proofHash, ordered.all fun p => proofHash p = p.proofHash),
    (.stateHash, ordered.all stateHashesValid),
    (.signature, ordered.all signatureValid)]

/-- The links of a payload: the array under `proofs`. -/
def linksOf : Option PyValue → Option (List (String × PyValue) × List PyValue)
  | some (.obj ms) =>
    match ms.lookup "proofs" with
    | some (.arr links) => some (ms, links)
    | _ => none
  | _ => none

/-- `if "kind" in payload`: exactly the kind and the proofs. -/
def envelopeChecks (ms : List (String × PyValue)) : Report :=
  match ms.lookup "kind" with
  | none => []
  | some kind => [(.envelope, textOf kind = some "agreement-proofs" ∧
      ∀ m ∈ ms, m.1 = "kind" ∨ m.1 = "proofs")]

/-- `run_proof_capture` over the decoded payload; `none` where it cannot be read. -/
def runProofCapture [FormatChecker] [RecoverableEcdsa] [CaseTables] (payload : Option PyValue) :
    Report :=
  match linksOf payload with
  | none => [(.payload, false)]
  | some (ms, links) =>
    envelopeChecks ms ++
      if links = [] then [(.payload, false)]
      else
        match links.mapM readLink with
        | none => [(.payload, true), (.schema, false)]
        | some proofs => (.payload, true) :: (.schema, true) :: chainChecks (orderedLinks proofs)

/-- The links of a capture, in order. -/
def captured [FormatChecker] (payload : Option PyValue) : Option (List TransitionProof) := do
  let (_, links) ← linksOf payload
  return orderedLinks (← links.mapM readLink)

/-- The checks that tie the links to each other. -/
def tamperChecks : List CaptureCheck :=
  [.schema, .sequence, .agreement, .stateChain, .hashChain, .proofHash, .stateHash]

/-! ## Tamper evidence -/

omit [FloatText] [Digests] in
theorem chained_of_adjacent : ∀ {ordered : List TransitionProof},
    adjacent (fun p q => q.previousProofHash = some p.proofHash) ordered = true →
      Chained TransitionProof.proofHash TransitionProof.previousProofHash ordered
  | [], _ => .nil
  | [_], _ => .singleton _
  | p :: q :: ordered, h => by
      unfold adjacent at h
      simp only [List.tail_cons, List.zip_cons_cons, List.all_cons, Bool.and_eq_true,
        decide_eq_true_eq] at h
      exact .cons_cons h.1 (chained_of_adjacent h.2)

/-- A check of the chain that is reported as passed did pass. -/
theorem mem_chainChecks [FormatChecker] [RecoverableEcdsa] [CaseTables] {payload : Option PyValue}
    {ps : List TransitionProof} {c : CaptureCheck} (hps : captured payload = some ps)
    (h : (c, true) ∈ runProofCapture payload)
    (hc : c ≠ .payload ∧ c ≠ .envelope ∧ c ≠ .schema) : (c, true) ∈ chainChecks ps := by
  obtain ⟨⟨ms, links⟩, hlinks, hps⟩ := Option.bind_eq_some_iff.1 hps
  obtain ⟨proofs, hproofs, hps⟩ := Option.bind_eq_some_iff.1 hps
  cases hps
  have henvelope : (c, true) ∉ envelopeChecks ms := by
    unfold envelopeChecks
    split
    · exact List.not_mem_nil
    · simp [hc.2.1]
  unfold runProofCapture at h
  simp only [hlinks, hproofs, List.mem_append, henvelope, false_or] at h
  split_ifs at h
  · simp [hc.1] at h
  · simpa [hc.1, hc.2.2] using h

/-- A capture whose schema check passed has links. -/
theorem captured_of_schema [FormatChecker] [RecoverableEcdsa] [CaseTables]
    {payload : Option PyValue} (h : (.schema, true) ∈ runProofCapture payload) :
    (captured payload).isSome = true := by
  unfold runProofCapture at h
  cases hlinks : linksOf payload with
  | none => simp [hlinks] at h
  | some entry =>
      obtain ⟨ms, links⟩ := entry
      have henvelope : (CaptureCheck.schema, true) ∉ envelopeChecks ms := by
        unfold envelopeChecks
        split <;> simp
      simp only [hlinks, List.mem_append, henvelope, false_or] at h
      cases hproofs : links.mapM readLink with
      | none => split_ifs at h <;> simp [hproofs] at h
      | some proofs => simp [captured, hlinks, hproofs]

/-- What the checks of the chain establish. -/
structure Checked (ps : List TransitionProof) : Prop where
  positions : ps.map TransitionProof.position = (List.range ps.length).map fun i : ℕ => (i : ℚ) + 1
  chained : Chained TransitionProof.proofHash TransitionProof.previousProofHash ps
  hashes : ∀ p ∈ ps, proofHash p = p.proofHash

theorem checked_of_passed [FormatChecker] [RecoverableEcdsa] [CaseTables]
    {payload : Option PyValue} {ps : List TransitionProof} (hps : captured payload = some ps)
    (h : ∀ c ∈ tamperChecks, (c, true) ∈ runProofCapture payload) : Checked ps := by
  have hsequence := mem_chainChecks hps (h .sequence (by decide)) (by decide)
  have hchain := mem_chainChecks hps (h .hashChain (by decide)) (by decide)
  have hhashes := mem_chainChecks hps (h .proofHash (by decide)) (by decide)
  simp [chainChecks] at hsequence hchain hhashes
  exact
    { positions := by simpa using hsequence
      chained := chained_of_adjacent hchain.2
      hashes := hhashes }

/-- In a checked chain the position is the place. -/
theorem position_of_getElem? {ps : List TransitionProof} (h : Checked ps) {i : ℕ}
    {p : TransitionProof} (hp : ps[i]? = some p) : p.position = i + 1 := by
  obtain ⟨hi, rfl⟩ := List.getElem?_eq_some_iff.1 hp
  have hmap := congrArg (fun xs => xs[i]?) h.positions
  simpa [hi] using hmap

/-- A checked chain is as long as the position of its last link. -/
theorem length_eq_position {ps : List TransitionProof} (h : Checked ps) {p : TransitionProof}
    (hp : ps.getLast? = some p) : (ps.length : ℚ) = p.position := by
  rw [List.getLast?_eq_getElem?] at hp
  rw [position_of_getElem? h hp]
  have hlength : 0 < ps.length := by
    have := (List.getElem?_eq_some_iff.1 hp).1
    omega
  push_cast [Nat.cast_sub hlength]
  ring

omit [FloatText] [Digests] in
theorem position_eq {p q : TransitionProof} (h : SameHashed p q) : p.position = q.position := by
  rw [TransitionProof.position, TransitionProof.position, h.sequence]

/-- A link's declared hash determines what is hashed. -/
theorem sameHashed_of_hash (hsha : Function.Injective (Digests.sha256 : Bytes → Bytes))
    {ps qs : List TransitionProof} (hps : Checked ps) (hqs : Checked qs) {p q : TransitionProof}
    (hp : p ∈ ps) (hq : q ∈ qs) (h : p.proofHash = q.proofHash) : SameHashed p q := by
  rw [← hps.hashes p hp, ← hqs.hashes q hq] at h
  exact sameHashed_of_preimage ((Digests.sha256Ref_inj hsha).1 h)

end Checks

section Demo

attribute [local instance] FloatText.bits CaseTables.ascii RecoverableEcdsa.transparent

/-- A validator that does not look at dates. -/
@[reducible] def FormatChecker.lenient : FormatChecker where
  dateTime _ := true

/-- A digest without collisions that is 32 bytes long on the link of the captures below. -/
@[reducible] def demoDigests : Digests where
  sha256 := Equiv.swap (demoLink [("a", "1")]).proofPreimage (List.replicate 32 0)
  keccak256 := id

attribute [local instance] FormatChecker.lenient demoDigests

/-- A capture of one link. -/
def demoCapture (proofId : String) : Option PyValue :=
  some (.obj [("proofs", .arr [.obj [
    ("proofId", .str proofId),
    ("agreementId", .str "d"),
    ("sequence", .num (.int 1)),
    ("event", .str "CONTRACT_SIGNED"),
    ("fromState", .str "PROPOSED"),
    ("toState", .str "COMMITTED"),
    ("proofHash", .str ("sha256:" ++ toHex (List.replicate 32 0))),
    ("metadata", .obj [("a", .str "1")]),
    ("createdAt", .str "t")]])])

end Demo

end Conformance

end Coordination
