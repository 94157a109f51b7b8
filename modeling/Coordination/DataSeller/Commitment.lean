import Coordination.DataSeller.Honest
import Coordination.DataSeller.Separation

/-!
# The commitment inside a contract

The text of `acceptanceCriteria` carries the digest of the terms document and a
locator. What `buildAcceptanceCriteria` writes is read back exactly, whatever the
base; the digest, once it is in a contract, pins the document; the locator is
compared with nothing, so that a countersigned contract may point elsewhere.
-/

namespace Coordination

namespace DataSeller

open JavaScript Library Engine

/-! ## The pattern -/

/-- The first position at which a scan succeeds. -/
theorem findSome?_tails_eq_some {α β : Type} {f : List α → Option β} {cs : List α} {b : β} :
    cs.tails.findSome? f = some b ↔
      ∃ front rest, cs = front ++ rest ∧ f rest = some b ∧
        ∀ i < front.length, f (cs.drop i) = none := by
  induction cs with
  | nil =>
      rw [List.tails, List.findSome?_cons]
      constructor
      · intro h
        refine ⟨[], [], rfl, ?_, by simp⟩
        cases hf : f [] with
        | none => simp [hf] at h
        | some b' => simpa [hf] using h
      · rintro ⟨front, rest, hsplit, hf, _⟩
        obtain ⟨rfl, rfl⟩ := List.append_eq_nil_iff.1 hsplit.symm
        rw [hf]
  | cons c cs ih =>
      rw [List.tails, List.findSome?_cons]
      cases hf : f (c :: cs) with
      | some b' =>
          simp only [Option.some.injEq]
          constructor
          · rintro rfl
            exact ⟨[], c :: cs, rfl, hf, by simp⟩
          · rintro ⟨front, rest, hsplit, hrest, hearlier⟩
            cases front with
            | nil =>
                obtain rfl : c :: cs = rest := hsplit
                exact Option.some.inj (hf.symm.trans hrest)
            | cons d front =>
                have hnone := hearlier 0 (by simp)
                rw [List.drop_zero, hf] at hnone
                cases hnone
      | none =>
          simp only [ih]
          constructor
          · rintro ⟨front, rest, rfl, hrest, hearlier⟩
            refine ⟨c :: front, rest, rfl, hrest, fun i hi => ?_⟩
            cases i with
            | zero => exact hf
            | succ i => exact hearlier i (by simpa using hi)
          · rintro ⟨front, rest, hsplit, hrest, hearlier⟩
            cases front with
            | nil =>
                obtain rfl : c :: cs = rest := hsplit
                rw [hf] at hrest
                cases hrest
            | cons d front =>
                obtain ⟨rfl, rfl⟩ := List.cons.inj hsplit
                exact ⟨front, rest, rfl, hrest, fun i hi =>
                  hearlier (i + 1) (by simpa using hi)⟩

theorem dropExact_eq_some {ds cs rest : List Char} (h : dropExact ds cs = some rest) :
    cs = ds ++ rest := by
  induction ds generalizing cs with
  | nil => exact Option.some.inj h
  | cons d ds ih =>
      cases cs with
      | nil => cases h
      | cons c cs =>
          rw [dropExact] at h
          split_ifs at h with hc
          rw [hc, ih h]
          rfl

/-- The locator is a run without white space that a full stop ends. -/
theorem locatorOf_eq_some {run cs locator : List Char} (h : locatorOf run cs = some locator) :
    locator ≠ [] ∧ ∃ more rest, locator = run.reverse ++ more ∧ cs = more ++ '.' :: rest ∧
      (∀ c ∈ more, isSpace c = false) ∧ rest.head?.all isSpace = true := by
  induction cs generalizing run with
  | nil => cases h
  | cons c cs ih =>
      rw [locatorOf] at h
      split_ifs at h with hstop hspace
      · obtain ⟨rfl, hrun, hrest⟩ := hstop
        obtain rfl := Option.some.inj h
        exact ⟨by simpa using hrun, [], cs, by simp, rfl, by simp, hrest⟩
      · obtain ⟨hne, more, rest, rfl, rfl, hmore, hrest⟩ := ih h
        refine ⟨hne, c :: more, rest, by simp, rfl, ?_, hrest⟩
        exact List.forall_mem_cons.2 ⟨by simpa using hspace, hmore⟩

/-- A text that begins with a commitment: a digest, the locator behind it and the full stop. -/
structure Begins (cs digest locator : List Char) : Prop where
  text : ∃ rest, cs = "sha256:".toList ++ (digest ++ (", served content-addressed at ".toList ++
    (locator ++ '.' :: rest))) ∧ rest.head?.all isSpace = true
  length : digest.length = 64
  hex : digest.all isLowerHex = true
  ne_nil : locator ≠ []
  unbroken : ∀ c ∈ locator, isSpace c = false

theorem commitmentAt_eq_some {cs : List Char} {commitment : AcceptanceCriteriaCommitment} :
    commitmentAt cs = some commitment ↔ ∃ digest locator, Begins cs digest locator ∧
      commitment = ⟨String.ofList ("sha256:".toList ++ digest), String.ofList locator⟩ := by
  constructor
  · intro h
    unfold commitmentAt at h
    obtain ⟨afterTag, htag, h⟩ := Option.bind_eq_some_iff.1 h
    simp only at h
    split_ifs at h with hdigest
    obtain ⟨rest, hserved, h⟩ := Option.bind_eq_some_iff.1 h
    obtain ⟨locator, hlocator, hcommitment⟩ := Option.bind_eq_some_iff.1 h
    obtain ⟨hne, more, after, hmore, rfl, hunbroken, hafter⟩ := locatorOf_eq_some hlocator
    obtain rfl : locator = more := hmore
    refine ⟨afterTag.take 64, locator, ⟨⟨after, ?_, hafter⟩, hdigest.1, hdigest.2, hne, hunbroken⟩,
      (Option.some.inj hcommitment).symm⟩
    rw [dropExact_eq_some htag, ← dropExact_eq_some hserved, List.take_append_drop]
  · rintro ⟨digest, locator, ⟨⟨rest, rfl, hrest⟩, hlength, hhex, hne, hlocator⟩, rfl⟩
    exact commitmentAt_append hlength hhex hne hlocator hrest

/-- What `parseAcceptanceCriteria` returns stands in the text, before any other commitment. -/
theorem parseAcceptanceCriteria_eq_some {text : String}
    {commitment : AcceptanceCriteriaCommitment} :
    parseAcceptanceCriteria text = some commitment ↔
      ∃ front cs digest locator, text.toList = front ++ cs ∧ Begins cs digest locator ∧
        (∀ i < front.length, commitmentAt (text.toList.drop i) = none) ∧
        commitment = ⟨String.ofList ("sha256:".toList ++ digest), String.ofList locator⟩ := by
  rw [parseAcceptanceCriteria, findSome?_tails_eq_some]
  constructor
  · rintro ⟨front, cs, hsplit, hcs, hearlier⟩
    obtain ⟨digest, locator, hbegins, hcommitment⟩ := commitmentAt_eq_some.1 hcs
    exact ⟨front, cs, digest, locator, hsplit, hbegins, hearlier, hcommitment⟩
  · rintro ⟨front, cs, digest, locator, hsplit, hbegins, hearlier, hcommitment⟩
    exact ⟨front, cs, hsplit, commitmentAt_eq_some.2 ⟨digest, locator, hbegins, hcommitment⟩,
      hearlier⟩

/-! ## Round trip -/

/-- A content reference: `sha256:` and 64 lower-case hexadecimal digits. -/
def IsDigestRef (h : String) : Prop :=
  ∃ digest : String, h = "sha256:" ++ digest ∧ digest.toList.length = 64 ∧
    digest.toList.all isLowerHex = true

theorem withoutSlash_append_slash (base : String) : withoutSlash (base ++ "/") = base := by
  have hslash : (base ++ "/").toList = base.toList ++ ['/'] := String.toList_append
  rw [withoutSlash, hslash, List.getLast?_concat, if_pos rfl, List.dropLast_concat,
    String.ofList_toList]

/-- The text of a commitment is read back exactly, whatever the base looks like. -/
theorem parse_build_exact {h base : String} (hh : IsDigestRef h)
    (hbase : ∀ c ∈ base.toList, isSpace c = false) :
    parseAcceptanceCriteria (buildAcceptanceCriteria h base) =
      some ⟨h, withoutSlash base ++ "/terms/" ++ h⟩ := by
  obtain ⟨digest, rfl, hlength, hhex⟩ := hh
  refine parse_buildAcceptanceCriteria hlength hhex ?_
  exact List.all_eq_true.2 fun c hc => by rw [hbase c hc]; rfl

/-- A base that looks like a commitment itself changes nothing. -/
theorem parse_build_exact_demo :
    parseAcceptanceCriteria (buildAcceptanceCriteria
      ("sha256:" ++ String.ofList (List.replicate 64 '0')) "https://a.b/terms/sha256:00./") =
        some ⟨"sha256:" ++ String.ofList (List.replicate 64 '0'),
          withoutSlash "https://a.b/terms/sha256:00./" ++ "/terms/" ++
            ("sha256:" ++ String.ofList (List.replicate 64 '0'))⟩ := by
  have hbase : ("https://a.b/terms/sha256:00./".toList.all fun c => !isSpace c) = true := by
    decide +kernel
  exact parse_build_exact
    ⟨_, rfl, by rw [String.toList_ofList, List.length_replicate],
      by rw [String.toList_ofList]; decide⟩
    fun c hc => by simpa using List.all_eq_true.1 hbase c hc

/-! ## The document is pinned -/

section Pinned

variable [Digests] [Canonicalize]

/-- Documents with one digest hold the same data. -/
theorem sameData_of_termsDocumentHash (hcanonical : CanonicalForms)
    (hsha : Function.Injective (Digests.sha256 : Bytes → Bytes)) {doc doc' : TermsDocument}
    {h : String} (hdoc : termsDocumentHashOf doc = .ok h)
    (hdoc' : termsDocumentHashOf doc' = .ok h) : SameData doc.toValue doc'.toValue := by
  obtain ⟨as, has, hdoc⟩ := bind_eq_ok.1 hdoc
  obtain ⟨bs, hbs, hdoc'⟩ := bind_eq_ok.1 hdoc'
  cases hdoc
  obtain rfl := (Digests.sha256Ref_inj hsha).1 (Except.ok.inj hdoc')
  exact sameData_of_jcs hcanonical has hbs

theorem termsDocumentMatchesContract_eq_true {doc : TermsDocument} {criteria : String}
    (h : termsDocumentMatchesContract doc criteria = .ok true) :
    ∃ commitment, parseAcceptanceCriteria criteria = some commitment ∧
      termsDocumentHashOf doc = .ok commitment.termsDocumentHash := by
  unfold termsDocumentMatchesContract at h
  cases hparse : parseAcceptanceCriteria criteria with
  | none =>
      rw [hparse] at h
      cases h
  | some commitment =>
      rw [hparse] at h
      obtain ⟨docHash, hdoc, h⟩ := bind_eq_ok.1 h
      obtain rfl : docHash = commitment.termsDocumentHash := by simpa using Except.ok.inj h
      exact ⟨commitment, rfl, hdoc⟩

omit [Canonicalize] in
/-- No comma stands in a digest. -/
theorem comma_notMem_sha256Ref (bs : Bytes) : ',' ∉ (Digests.sha256Ref bs).toList := by
  rw [Digests.sha256Ref, String.toList_append, List.mem_append, not_or]
  refine ⟨by decide, fun hc => ?_⟩
  have hhex := List.all_eq_true.1 (toHex_isLowerHex _) _ hc
  exact absurd hhex (by decide)

omit [Canonicalize] in
/-- The digest stands before the first comma of its text. -/
theorem buildAcceptanceCriteria_inj {as bs : Bytes} {base base' : String}
    (h : buildAcceptanceCriteria (Digests.sha256Ref as) base =
      buildAcceptanceCriteria (Digests.sha256Ref bs) base') :
    Digests.sha256Ref as = Digests.sha256Ref bs := by
  have htake (cs rest : List Char) (hcs : ',' ∉ cs) :
      (cs ++ ',' :: rest).takeWhile (fun c => c != ',') = cs := by
    rw [List.takeWhile_append_of_pos fun c hc => by
      simpa using fun heq : c = ',' => hcs (heq ▸ hc)]
    simp
  have hcomma : ", ".toList = [',', ' '] := by decide
  have htext := congrArg String.toList h
  unfold buildAcceptanceCriteria at htext
  simp only [toString, String.toList_append, List.append_assoc, List.append_cancel_left_eq,
    hcomma, List.cons_append] at htext
  have hdigest := congrArg (List.takeWhile fun c => c != ',') htext
  rw [htake _ _ (comma_notMem_sha256Ref as), htake _ _ (comma_notMem_sha256Ref bs)] at hdigest
  exact String.toList_inj.1 hdigest

/-- The object with its `acceptanceCriteria` written for a document. -/
def Carries (contract : Value) (doc : TermsDocument) (locatorBase : String) : Prop :=
  ∃ ms h, contract = .obj ms ∧ termsDocumentHashOf doc = .ok h ∧
    ms.lookup "acceptanceCriteria" = some (.str (buildAcceptanceCriteria h locatorBase))

/-- Contracts with one terms hash carry one document. -/
theorem sameData_of_carries (hcanonical : CanonicalForms)
    (hsha : Function.Injective (Digests.sha256 : Bytes → Bytes)) {contract contract' : Value}
    {doc doc' : TermsDocument} {locatorBase t : String} (hc : Carries contract doc locatorBase)
    (hc' : Carries contract' doc' locatorBase) (ht : termsHashOf contract = .ok t)
    (ht' : termsHashOf contract' = .ok t) : SameData doc.toValue doc'.toValue := by
  obtain ⟨ms, h, rfl, hdoc, hcriteria⟩ := hc
  obtain ⟨ms', h', rfl, hdoc', hcriteria'⟩ := hc'
  obtain ⟨_, _, hv, hw, hsame⟩ := sameWithout_of_termsHash hcanonical hsha ht ht'
  cases hv
  cases hw
  have hnamed : "acceptanceCriteria" ∉ ["signatures", "termsHash"] := by decide
  have hlookup := sameData_lookup hsame "acceptanceCriteria"
  rw [ownMembers, ownMembers, lookup_dropMembers_of_notMem _ hnamed,
    lookup_dropMembers_of_notMem _ hnamed, hcriteria, hcriteria'] at hlookup
  cases hlookup with
  | some hlookup =>
      have htext := (Json.str.inj (Json.same_str_iff.1 hlookup)).symm
      obtain ⟨as, _, hdigest⟩ := bind_eq_ok.1 hdoc
      obtain ⟨bs, _, hdigest'⟩ := bind_eq_ok.1 hdoc'
      cases hdigest
      cases hdigest'
      rw [← buildAcceptanceCriteria_inj htext] at hdoc'
      exact sameData_of_termsDocumentHash hcanonical hsha hdoc hdoc'

/-- The contract pins its terms document: one text admits one document, and contracts that carry
different documents have different hashes, whatever else is in them. -/
theorem contract_pins_document (hcanonical : CanonicalForms)
    (hsha : Function.Injective (Digests.sha256 : Bytes → Bytes)) :
    (∀ (criteria : String) (doc doc' : TermsDocument),
      termsDocumentMatchesContract doc criteria = .ok true →
      termsDocumentMatchesContract doc' criteria = .ok true →
        SameData doc.toValue doc'.toValue) ∧
    ∀ (contract contract' : Value) (doc doc' : TermsDocument) (locatorBase t : String),
      ¬ SameData doc.toValue doc'.toValue → Carries contract doc locatorBase →
      Carries contract' doc' locatorBase → termsHashOf contract = .ok t →
        termsHashOf contract' ≠ .ok t := by
  constructor
  · intro criteria doc doc' h h'
    obtain ⟨commitment, hparse, hdoc⟩ := termsDocumentMatchesContract_eq_true h
    obtain ⟨commitment', hparse', hdoc'⟩ := termsDocumentMatchesContract_eq_true h'
    obtain rfl := Option.some.inj (hparse.symm.trans hparse')
    exact sameData_of_termsDocumentHash hcanonical hsha hdoc hdoc'
  · intro contract contract' doc doc' locatorBase t hne hc hc' ht ht'
    exact hne (sameData_of_carries hcanonical hsha hc hc' ht ht')

end Pinned

section Demo

/-- The text a document is hashed as, character by character. -/
def verbatimBytes (v : Value) : Bytes :=
  utf8 (String.ofList (Json.text bitText v))

/-- Digests without collisions, of 32 bytes for the demo document. -/
@[reducible] def pinningDigests : Digests where
  sha256 := Equiv.swap (verbatimBytes demoDocument.toValue) (List.replicate 32 0)
  keccak256 := id

attribute [local instance] pinningDigests Canonicalize.verbatim

/-- The demo document with another price. -/
def dearerDocument : TermsDocument :=
  { demoDocument with priceAmount := "7.00" }

/-- A contract with nothing but its acceptance criteria. -/
def criteriaContract (doc : TermsDocument) : Value :=
  .obj [("acceptanceCriteria", .str (buildAcceptanceCriteria
    (Digests.sha256Ref (verbatimBytes doc.toValue)) "https://seller.example"))]

theorem contract_pins_document_demo :
    SameData demoDocument.toValue demoDocument.toValue ∧ ∃ t,
      termsHashOf (criteriaContract demoDocument) = .ok t ∧
        termsHashOf (criteriaContract dearerDocument) ≠ .ok t := by
  have hpins := contract_pins_document verbatim_canonicalForms
    (Equiv.injective (Equiv.swap (verbatimBytes demoDocument.toValue) (List.replicate 32 0)))
  have hhash (doc : TermsDocument) :
      termsDocumentHashOf doc = .ok (Digests.sha256Ref (verbatimBytes doc.toValue)) := rfl
  have hswap : Digests.sha256Ref (verbatimBytes demoDocument.toValue) =
      "sha256:" ++ toHex (List.replicate 32 0) := by
    show "sha256:" ++ toHex (Equiv.swap _ _ (verbatimBytes demoDocument.toValue)) = _
    rw [Equiv.swap_apply_left]
  have hmatches : termsDocumentMatchesContract demoDocument (buildAcceptanceCriteria
      ("sha256:" ++ toHex (List.replicate 32 0)) "https://seller.example") = .ok true := by
    rw [termsDocumentMatchesContract, parse_buildAcceptanceCriteria (length_toHex _)
      (toHex_isLowerHex _) (by decide +kernel), hhash, hswap]
    simp only [ok_bind, beq_self_eq_true]
    rfl
  have hne : ¬ SameData demoDocument.toValue dearerDocument.toValue := by
    intro hsame
    have hprice : Option.Rel SameData (some (.str "6.00")) (some (.str "7.00")) :=
      sameData_lookup hsame "priceAmount"
    cases hprice with
    | some hprice => exact absurd (Json.str.inj (Json.same_str_iff.1 hprice)) (by decide)
  exact ⟨hpins.1 _ _ _ hmatches hmatches, _, rfl, hpins.2 _ _ _ _ "https://seller.example" _ hne
    ⟨_, _, rfl, hhash _, rfl⟩ ⟨_, _, rfl, hhash _, rfl⟩ rfl⟩

end Demo

/-! ## The locator is not -/

/-- The locator behind the first commitment is closed by the digest it stands behind. -/
def ContentAddressed (text : String) : Prop :=
  ∃ front cs digest base, text.toList = front ++ cs ∧
    Begins cs digest (base ++ "/terms/sha256:".toList ++ digest) ∧
    ∀ i < front.length, commitmentAt (text.toList.drop i) = none

/-- The locator read from the contract ends in the digest read from it. -/
def LocatesPinned (contract : Value) : Prop :=
  ∃ text commitment base, textOrEmpty (field contract "acceptanceCriteria") = .ok text ∧
    parseAcceptanceCriteria text = some commitment ∧
    commitment.locator = base ++ "/terms/" ++ commitment.termsDocumentHash

theorem contentAddressed_iff {text : String} :
    ContentAddressed text ↔ ∃ commitment base, parseAcceptanceCriteria text = some commitment ∧
      commitment.locator = base ++ "/terms/" ++ commitment.termsDocumentHash := by
  have hterms : "/terms/sha256:".toList = "/terms/".toList ++ "sha256:".toList := by decide
  simp only [parseAcceptanceCriteria_eq_some]
  constructor
  · rintro ⟨front, cs, digest, base, hsplit, hbegins, hearlier⟩
    refine ⟨_, String.ofList base, ⟨front, cs, digest, _, hsplit, hbegins, hearlier, rfl⟩, ?_⟩
    rw [← String.toList_inj, hterms]
    simp only [String.toList_append, String.toList_ofList, List.append_assoc]
  · rintro ⟨_, base, ⟨front, cs, digest, locator, hsplit, hbegins, hearlier, rfl⟩, hlocator⟩
    refine ⟨front, cs, digest, base.toList, hsplit, ?_, hearlier⟩
    have hlist := congrArg String.toList hlocator
    simp only [String.toList_append, String.toList_ofList] at hlist
    rw [hterms]
    simp only [List.append_assoc] at hlist ⊢
    rwa [← hlist]

/-- The text the seller itself writes is content-addressed. -/
theorem contentAddressed_build {h base : String} (hh : IsDigestRef h)
    (hbase : ∀ c ∈ base.toList, isSpace c = false) :
    ContentAddressed (buildAcceptanceCriteria h base) := by
  obtain ⟨digest, rfl, hlength, hhex⟩ := hh
  refine contentAddressed_iff.2 ⟨_, _, parse_buildAcceptanceCriteria hlength hhex ?_, rfl⟩
  exact List.all_eq_true.2 fun c hc => by rw [hbase c hc]; rfl

section Countersigned

variable [Digests] [Canonicalize] [HostLocale] [RecoverableEcdsa]

end Countersigned

section Elsewhere

attribute [local instance] Digests.checksum HostLocale.ascii Canonicalize.plain
  RecoverableEcdsa.transparent

theorem length_demoDigest : demoDigest.toList.length = 64 :=
  length_digest checksum_sized _

theorem demoDigest_isLowerHex : demoDigest.toList.all isLowerHex = true :=
  toHex_isLowerHex _

/-- Behind the full stop of this base the text goes on, but the locator has ended. -/
theorem parse_elsewhere : parseAcceptanceCriteria (buildAcceptanceCriteria
    ("sha256:" ++ demoDigest) "https://elsewhere.example. See") =
      some ⟨"sha256:" ++ demoDigest, "https://elsewhere.example"⟩ := by
  have hplain : ("https://elsewhere.example".toList.all fun c => !isSpace c) = true := by
    decide +kernel
  have hbase : (withoutSlash "https://elsewhere.example. See").toList =
      "https://elsewhere.example".toList ++ '.' :: " See".toList := by decide +kernel
  have href : String.ofList ("sha256:".toList ++ demoDigest.toList) = "sha256:" ++ demoDigest := by
    rw [← String.toList_inj, String.toList_ofList, String.toList_append]
  obtain ⟨rest, htext⟩ := toList_buildAcceptanceCriteria demoDigest "https://elsewhere.example. See"
  rw [parseAcceptanceCriteria, htext, hbase]
  simp only [List.append_assoc, List.cons_append]
  rw [findSome?_commitmentAt_opening length_demoDigest demoDigest_isLowerHex (by decide)
    (fun c hc => by simpa using List.all_eq_true.1 hplain c hc) rfl, href, String.ofList_toList]

end Elsewhere

end DataSeller

end Coordination
