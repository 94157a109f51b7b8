import Mathlib.Data.List.Sort
import Coordination.Conformance.Runner
import Coordination.Library.InsertionMap
import Coordination.Library.Netstring
import Coordination.Python.Value

/-!
# Transition proofs

One link of the Runtime's record, as the published schema admits it, and the digests the
conformance runner computes over it. The fields are hashed with their lengths, so that the
bytes under a digest determine every field: no two links with different content share a
preimage, and none shares one with a state digest.
-/

namespace Coordination

namespace Conformance

open Python Library

/-! ## Links -/

/-- A sequence number as the schema admits it: integral, from 1 on. -/
def isSequence (n : PyNumber) : Bool :=
  match n.toRat? with
  | some q => q.den = 1 ∧ 1 ≤ q
  | none => false

/-- A link that satisfies the schema. -/
structure TransitionProof where
  proofId : Option String
  agreementId : String
  sequence : PyNumber
  sequence_valid : isSequence sequence = true
  event : String
  fromState : Option String
  toState : String
  previousProofHash : Option String
  proofHash : String
  previousStateHash : Option String
  nextStateHash : Option String
  actorId : Option String
  authorityRef : Option String
  commandId : Option String
  commandHash : Option String
  command_pair : commandId.isSome = commandHash.isSome
  evidenceRefs : Option (List String)
  metadata : Option (InsertionMap String String)
  signedBy : Option String
  signature : Option String
  signature_pair : signedBy.isSome = signature.isSome
  createdAt : String

/-! ## The schema -/

/-- The `date-time` check of the validator, which depends on what is installed. -/
class FormatChecker where
  dateTime : String → Bool

/-- `^<mark>[<digits>]{n}$` as `re.search` reads it: `$` also matches before a newline at
the end. -/
def matchesDigits (mark : String) (n : ℕ) (digit : Char → Bool) (s : String) : Bool :=
  let body := s.toList.drop mark.toList.length
  mark.toList.isPrefixOf s.toList ∧ (body.take n).length = n ∧ (body.take n).all digit ∧
    (body.drop n = [] ∨ body.drop n = ['\n'])

def isLowerHexDigit (c : Char) : Bool :=
  isHexDigit c ∧ c.toLower = c

/-- `^(sha256:[0-9a-f]{64}|0x[0-9a-f]{64})$`. -/
def matchesProofHash (s : String) : Bool :=
  matchesDigits "sha256:" 64 isLowerHexDigit s ∨ matchesDigits "0x" 64 isLowerHexDigit s

/-- The members the schema knows. -/
def proofMembers : List String :=
  ["proofId", "agreementId", "sequence", "event", "fromState", "toState", "previousProofHash",
    "proofHash", "previousStateHash", "nextStateHash", "actorId", "authorityRef", "commandId",
    "commandHash", "evidenceRefs", "metadata", "signedBy", "signature", "createdAt"]

/-- A member that is absent or a string that passes a test. -/
def textMember (ms : List (String × PyValue)) (k : String) (test : String → Bool) :
    Option (Option String) :=
  match ms.lookup k with
  | none => some none
  | some (.str s) => if test s then some (some s) else none
  | some _ => none

def anyText (_ : String) : Bool :=
  true

/-- A member that is required. -/
def requiredText (ms : List (String × PyValue)) (k : String) (test : String → Bool) :
    Option String :=
  (textMember ms k test).join

def textOf : PyValue → Option String
  | .str s => some s
  | _ => none

/-- The member `evidenceRefs`: absent or an array of strings. -/
def evidenceRefsOf (ms : List (String × PyValue)) : Option (Option (List String)) :=
  match ms.lookup "evidenceRefs" with
  | none => some none
  | some (.arr items) => (items.mapM textOf).map some
  | some _ => none

/-- The member `metadata`: absent or an object of strings. -/
def metadataOf (ms : List (String × PyValue)) : Option (Option (InsertionMap String String)) :=
  match ms.lookup "metadata" with
  | none => some none
  | some (.obj members) => do
    let entries ← members.mapM fun m => do return (m.1, ← textOf m.2)
    return some (entries.foldl (fun d m => d.set m.1 m.2) .empty)
  | some _ => none

def sequenceOf (ms : List (String × PyValue)) : Option PyNumber :=
  match ms.lookup "sequence" with
  | some (.num n) => some n
  | _ => none

/-- A link under the schema; `none` where the validator reports an error. -/
def readLink [FormatChecker] (v : PyValue) : Option TransitionProof := do
  let .obj ms := v | none
  guard (∀ m ∈ ms, m.1 ∈ proofMembers)
  let proofId ← textMember ms "proofId" anyText
  let agreementId ← requiredText ms "agreementId" anyText
  let sequence ← sequenceOf ms
  let event ← requiredText ms "event" anyText
  let fromState ← textMember ms "fromState" anyText
  let toState ← requiredText ms "toState" anyText
  let previousProofHash ← textMember ms "previousProofHash" matchesProofHash
  let proofHash ← requiredText ms "proofHash" matchesProofHash
  let previousStateHash ← textMember ms "previousStateHash" anyText
  let nextStateHash ← textMember ms "nextStateHash" anyText
  let actorId ← textMember ms "actorId" anyText
  let authorityRef ← textMember ms "authorityRef" anyText
  let commandId ← textMember ms "commandId" anyText
  let commandHash ← textMember ms "commandHash" (matchesDigits "sha256:" 64 isLowerHexDigit)
  let evidenceRefs ← evidenceRefsOf ms
  let metadata ← metadataOf ms
  let signedBy ← textMember ms "signedBy" (matchesDigits "0x" 40 isHexDigit)
  let signature ← textMember ms "signature" (matchesDigits "0x" 130 isHexDigit)
  let createdAt ← requiredText ms "createdAt" FormatChecker.dateTime
  if h : isSequence sequence = true ∧ commandId.isSome = commandHash.isSome ∧
      signedBy.isSome = signature.isSome then
    return {
      proofId, agreementId, sequence, event, fromState, toState, previousProofHash, proofHash,
      previousStateHash, nextStateHash, actorId, authorityRef, commandId, commandHash,
      evidenceRefs, metadata, signedBy, signature, createdAt
      sequence_valid := h.1
      command_pair := h.2.1
      signature_pair := h.2.2 }
  else none

namespace TransitionProof

/-- The position in the chain, by value. -/
def position (p : TransitionProof) : ℚ :=
  p.sequence.toRat?.getD 0

/-! ## Digests -/

/-- The keys of the metadata, sorted by their bytes. -/
def metadataKeys (p : TransitionProof) : List String :=
  (p.metadata.getD .empty).keys.insertionSort fun k k' => utf8 k ≤ utf8 k'

/-- `meta[k]`. -/
def metadataAt (p : TransitionProof) (k : String) : String :=
  ((p.metadata.getD .empty).get? k).getD ""

variable [FloatText]

/-- What `proof_hash` writes, field by field. -/
def hashedFields (p : TransitionProof) : List String :=
  [p.agreementId, p.sequence.str, p.fromState.getD "", p.toState, p.event,
    p.previousStateHash.getD "", p.nextStateHash.getD "", p.previousProofHash.getD "",
    p.actorId.getD "", p.authorityRef.getD "", p.commandId.getD "", p.commandHash.getD ""] ++
  toString p.metadataKeys.length :: (p.metadataKeys.flatMap fun k => [k, p.metadataAt k]) ++
  toString (p.evidenceRefs.getD []).length :: p.evidenceRefs.getD [] ++ [p.createdAt]

/-- The bytes that `proof_hash` hashes. -/
def proofPreimage (p : TransitionProof) : Bytes :=
  frames (p.hashedFields.map utf8)

end TransitionProof

/-- The bytes that `state_hash` hashes. -/
def statePreimage [FloatText] (agreementId state : String) (sequence : PyNumber) : Bytes :=
  frames ([agreementId, state, sequence.str].map utf8)

section Hashes

variable [FloatText] [Digests]

/-- `proof_hash`. -/
def proofHash (p : TransitionProof) : String :=
  Digests.sha256Ref p.proofPreimage

/-- `state_hash`. -/
def stateHash (agreementId state : String) (sequence : PyNumber) : String :=
  Digests.sha256Ref (statePreimage agreementId state sequence)

end Hashes

/-! ## Injectivity -/

/-- Two links agree on everything that is hashed; an absent member counts as empty. -/
structure SameHashed (p q : TransitionProof) : Prop where
  agreementId : p.agreementId = q.agreementId
  sequence : p.sequence = q.sequence
  fromState : p.fromState.getD "" = q.fromState.getD ""
  toState : p.toState = q.toState
  event : p.event = q.event
  previousStateHash : p.previousStateHash.getD "" = q.previousStateHash.getD ""
  nextStateHash : p.nextStateHash.getD "" = q.nextStateHash.getD ""
  previousProofHash : p.previousProofHash.getD "" = q.previousProofHash.getD ""
  actorId : p.actorId.getD "" = q.actorId.getD ""
  authorityRef : p.authorityRef.getD "" = q.authorityRef.getD ""
  commandId : p.commandId.getD "" = q.commandId.getD ""
  commandHash : p.commandHash.getD "" = q.commandHash.getD ""
  metadata : ∀ k, (p.metadata.getD .empty).get? k = (q.metadata.getD .empty).get? k
  evidenceRefs : p.evidenceRefs.getD [] = q.evidenceRefs.getD []
  createdAt : p.createdAt = q.createdAt

/-- A block that starts with a count, which fixes its length, ends where the count says. -/
theorem counted_append_cancel {m n : ℕ} {as bs s t : List String}
    (hlength : m = n → as.length = bs.length)
    (h : toString m :: as ++ s = toString n :: bs ++ t) : as = bs ∧ s = t := by
  rw [List.cons_append, List.cons_append] at h
  obtain ⟨hcount, htail⟩ := List.cons.inj h
  exact List.append_inj htail (hlength (natRepr_injective hcount))

/-- Keys and values written in turn determine the keys and the values. -/
theorem pairs_inj {f g : String → String} : ∀ {ks ls : List String},
    (ks.flatMap fun k => [k, f k]) = (ls.flatMap fun k => [k, g k]) →
      ks = ls ∧ ∀ k ∈ ks, f k = g k
  | [], [], _ => by simp
  | [], _ :: _, h => by simp at h
  | _ :: _, [], h => by simp at h
  | k :: ks, l :: ls, h => by
      simp only [List.flatMap_cons, List.cons_append, List.nil_append, List.cons.injEq] at h
      obtain ⟨rfl, hvalue, htail⟩ := h
      obtain ⟨rfl, hvalues⟩ := pairs_inj htail
      exact ⟨rfl, List.forall_mem_cons.2 ⟨hvalue, hvalues⟩⟩

theorem mem_metadataKeys {p : TransitionProof} {k : String} :
    k ∈ p.metadataKeys ↔ ((p.metadata.getD .empty).get? k).isSome = true := by
  unfold TransitionProof.metadataKeys
  rw [List.mem_insertionSort, InsertionMap.get?_isSome_iff]

/-- Metadata with the same keys and the same values under them are the same map. -/
theorem metadata_ext {p q : TransitionProof} (hkeys : p.metadataKeys = q.metadataKeys)
    (hvalues : ∀ k ∈ p.metadataKeys, p.metadataAt k = q.metadataAt k) (k : String) :
    (p.metadata.getD .empty).get? k = (q.metadata.getD .empty).get? k := by
  by_cases hk : k ∈ p.metadataKeys
  · obtain ⟨v, hv⟩ := Option.isSome_iff_exists.1 (mem_metadataKeys.1 hk)
    obtain ⟨w, hw⟩ := Option.isSome_iff_exists.1 (mem_metadataKeys.1 (hkeys ▸ hk))
    have hvalue := hvalues k hk
    simp only [TransitionProof.metadataAt, hv, hw, Option.getD_some] at hvalue
    rw [hv, hw, hvalue]
  · have hp := mt mem_metadataKeys.2 hk
    have hq := mt mem_metadataKeys.2 (hkeys ▸ hk)
    rw [Option.not_isSome_iff_eq_none] at hp hq
    rw [hp, hq]

theorem sequence_isSome (p : TransitionProof) : p.sequence.toRat?.isSome = true := by
  have h := p.sequence_valid
  unfold isSequence at h
  cases hq : p.sequence.toRat? with
  | none => simp [hq] at h
  | some q => rfl

section Injectivity

variable [FloatText]

theorem sameHashed_of_fields {p q : TransitionProof} (h : p.hashedFields = q.hashedFields) :
    SameHashed p q := by
  unfold TransitionProof.hashedFields at h
  simp only [List.append_assoc] at h
  obtain ⟨hhead, h⟩ := List.append_inj h rfl
  obtain ⟨hmetadata, h⟩ := counted_append_cancel
    (fun hlength => by simp [List.length_flatMap, hlength]) h
  obtain ⟨hkeys, hvalues⟩ := pairs_inj hmetadata
  obtain ⟨hrefs, h⟩ := counted_append_cancel id h
  simp only [List.cons.injEq, and_true] at hhead h
  obtain ⟨hagreementId, hsequence, hfromState, htoState, hevent, hpreviousStateHash,
    hnextStateHash, hpreviousProofHash, hactorId, hauthorityRef, hcommandId, hcommandHash⟩ := hhead
  exact
    { agreementId := hagreementId
      sequence := PyNumber.str_inj (sequence_isSome p) (sequence_isSome q) hsequence
      fromState := hfromState
      toState := htoState
      event := hevent
      previousStateHash := hpreviousStateHash
      nextStateHash := hnextStateHash
      previousProofHash := hpreviousProofHash
      actorId := hactorId
      authorityRef := hauthorityRef
      commandId := hcommandId
      commandHash := hcommandHash
      metadata := metadata_ext hkeys hvalues
      evidenceRefs := hrefs
      createdAt := h }

/-- Links with one preimage have the same content. -/
theorem sameHashed_of_preimage {p q : TransitionProof} (h : p.proofPreimage = q.proofPreimage) :
    SameHashed p q :=
  sameHashed_of_fields (List.map_injective_iff.2 utf8_injective (frames_injective h))

/-- The preimage of a proof hash determines everything that is hashed, and it is no
preimage of a state hash. -/
theorem proofPreimage_injective :
    (∀ p q : TransitionProof, p.proofPreimage = q.proofPreimage → SameHashed p q) ∧
      ∀ (p : TransitionProof) agreementId state sequence,
        p.proofPreimage ≠ statePreimage agreementId state sequence := by
  refine ⟨fun p q h => sameHashed_of_preimage h, fun p agreementId state sequence h => ?_⟩
  have hfields := congrArg List.length (frames_injective h)
  simp [TransitionProof.hashedFields] at hfields

end Injectivity

section Demo

attribute [local instance] FloatText.bits

/-- A first link with some metadata. -/
def demoLink (metadata : List (String × String)) : TransitionProof where
  proofId := none
  agreementId := "d"
  sequence := .int 1
  sequence_valid := by decide
  event := "CONTRACT_SIGNED"
  fromState := some "PROPOSED"
  toState := "COMMITTED"
  previousProofHash := none
  proofHash := ""
  previousStateHash := none
  nextStateHash := none
  actorId := none
  authorityRef := none
  commandId := none
  commandHash := none
  command_pair := rfl
  evidenceRefs := none
  metadata := some (metadata.foldl (fun d m => d.set m.1 m.2) .empty)
  signedBy := none
  signature := none
  signature_pair := rfl
  createdAt := "t"

/-- The order in which metadata are written is not hashed, and nothing else is left open. -/
theorem proofPreimage_injective_demo :
    SameHashed (demoLink [("b", "1"), ("a", "2")]) (demoLink [("a", "2"), ("b", "1")]) :=
  proofPreimage_injective.1 _ _ (by decide +kernel)

end Demo

end Conformance

end Coordination
