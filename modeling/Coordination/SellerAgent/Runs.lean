import Coordination.SellerAgent.Executor

/-!
# Runs of the Python seller

Every handler of the executor in every order of requests, answers and events. What the
executor remembers of a deal goes back to a countersignature, and so does what it signs
afterwards: a delivered command or a funding co-signature is traced back to the deal that
was countersigned.
-/

namespace Coordination

namespace SellerAgent

open Python Library

section Runs

variable [Interpreter] [CaseTables] [FloatText] [ContainerText] [DecimalSource] [Digests]
  [RecoverableEcdsa] [Rfc8785] {executor : SellerExecutor}

/-! ## What is remembered -/

/-- The contract of a countersigned deal, with what was verified of it. -/
def Countersigned.Verified (executor : SellerExecutor) (c : Countersigned) : Prop :=
  ∃ contract sig chainId accepted, acceptTerms executor.env contract c.buyerAddress c.dealId sig
    executor.key chainId = .ok accepted ∧ SellerAgent.termsHash accepted = .ok c.termsHash

/-- A contract that is countersigned has the hash of the proposal. -/
theorem verified_of_acceptTerms {contract buyerAddress sig accepted : PyValue} {dealId t : String}
    {chainId : ℤ} (haccepted : acceptTerms executor.env contract buyerAddress dealId sig
      executor.key chainId = .ok accepted) (ht : termsHash contract = .ok t) :
    termsHash accepted = .ok t ∧
      (⟨dealId, t, buyerAddress⟩ : Countersigned).Verified executor := by
  obtain ⟨address, u, rfl, hterms⟩ := acceptedTerms_of_acceptTerms haccepted
  obtain ⟨ms, entries, rfl, rfl⟩ := hterms.kept
  have hhash : termsHash (.obj (setMember "signatures" entries ms)) = .ok t := by
    rw [← ht]
    unfold termsHash without
    simp only [items, ok_bind, dropMembers_setMember entries ms
      (List.mem_cons_self (a := "signatures") (l := ["termsHash"]))]
  exact ⟨hhash, _, _, _, _, haccepted, hhash⟩

/-- What is held of a deal goes back to a countersignature. -/
structure Remembers (executor : SellerExecutor) (s : Executor) : Prop where
  hashed : ∀ t accepted, s.deals.get? t = some accepted → termsHash accepted = .ok t
  entries : ∀ d t, s.dealTerms.get? d = some t →
    ∃ c ∈ s.countersigned, c.dealId = d ∧ c.termsHash = t
  verified : ∀ c ∈ s.countersigned, c.Verified executor
  known : ∀ c ∈ s.countersigned, ∃ t, s.dealTerms.get? c.dealId = some t
  held : ∀ c ∈ s.countersigned, ∃ accepted, s.deals.get? c.termsHash = some accepted

/-- The steps that leave the deals and what is signed about them alone. -/
structure SameDeals (s t : Executor) : Prop where
  deals : t.deals = s.deals
  dealTerms : t.dealTerms = s.dealTerms
  countersigned : t.countersigned = s.countersigned
  commands : t.commands = s.commands
  activations : t.activations = s.activations
  committed : ∀ p ∈ s.committed, p ∈ t.committed

theorem Remembers.same {s t : Executor} (h : Remembers executor s) (hst : SameDeals s t) :
    Remembers executor t := by
  refine ⟨?_, ?_, ?_, ?_, ?_⟩
  · rw [hst.deals]
    exact h.hashed
  · rw [hst.dealTerms, hst.countersigned]
    exact h.entries
  · rw [hst.countersigned]
    exact h.verified
  · rw [hst.countersigned, hst.dealTerms]
    exact h.known
  · rw [hst.countersigned, hst.deals]
    exact h.held

theorem remembers_init : Remembers executor Executor.init :=
  ⟨fun _ _ h => by simp [Executor.init] at h, fun _ _ h => by simp [Executor.init] at h,
    fun _ h => by simp [Executor.init] at h, fun _ h => by simp [Executor.init] at h,
    fun _ h => by simp [Executor.init] at h⟩

/-- A countersigned deal may be remembered. -/
theorem Remembers.remember {s : Executor} (h : Remembers executor s) {c : Countersigned}
    (hc : c.Verified executor) {accepted : PyValue} (ht : termsHash accepted = .ok c.termsHash) :
    Remembers executor (s.remember c.dealId c.termsHash accepted c.buyerAddress) := by
  refine ⟨fun t a hget => ?_, fun d t hget => ?_, fun e he => ?_, fun e he => ?_, fun e he => ?_⟩
  · by_cases hkey : t = c.termsHash
    · subst hkey
      rw [Executor.remember, InsertionMap.get?_set_self] at hget
      cases hget
      exact ht
    · rw [Executor.remember, InsertionMap.get?_set_of_ne _ _ hkey] at hget
      exact h.hashed t a hget
  · by_cases hkey : d = c.dealId
    · subst hkey
      rw [Executor.remember, InsertionMap.get?_set_self] at hget
      cases hget
      exact ⟨c, List.mem_append_right _ (List.mem_singleton_self _), rfl, rfl⟩
    · rw [Executor.remember, InsertionMap.get?_set_of_ne _ _ hkey] at hget
      obtain ⟨e, he, hd, ht⟩ := h.entries d t hget
      exact ⟨e, List.mem_append_left _ he, hd, ht⟩
  · rcases List.mem_append.1 he with he | he
    · exact h.verified e he
    · rw [List.mem_singleton.1 he]
      exact hc
  · by_cases hkey : e.dealId = c.dealId
    · exact ⟨c.termsHash, by rw [hkey, Executor.remember, InsertionMap.get?_set_self]⟩
    · rcases List.mem_append.1 he with he | he
      · rw [Executor.remember, InsertionMap.get?_set_of_ne _ _ hkey]
        exact h.known e he
      · exact absurd (by rw [List.mem_singleton.1 he]) hkey
  · by_cases hkey : e.termsHash = c.termsHash
    · exact ⟨accepted, by rw [hkey, Executor.remember, InsertionMap.get?_set_self]⟩
    · rcases List.mem_append.1 he with he | he
      · rw [Executor.remember, InsertionMap.get?_set_of_ne _ _ hkey]
        exact h.held e he
      · exact absurd (by rw [List.mem_singleton.1 he]) hkey

/-! ## What is signed -/

/-- What is asked of the deals, in view of what the Runtime has committed, and of the
delivered commands and of the Activations, in view of the deals. -/
structure Ledger where
  deal : List (String × String) → Countersigned → Prop
  command : List Countersigned → PyValue → Prop
  activation : List Countersigned → SignedActivation → Prop
  deal_mono : ∀ {ps ps' c}, (∀ p ∈ ps, p ∈ ps') → deal ps c → deal ps' c
  command_mono : ∀ {cs cs' v}, (∀ c ∈ cs, c ∈ cs') → command cs v → command cs' v
  activation_mono : ∀ {cs cs' a}, (∀ c ∈ cs, c ∈ cs') → activation cs a → activation cs' a

/-- The deals are remembered, and all that is signed is as asked. -/
structure Ledger.Holds (L : Ledger) (executor : SellerExecutor) (s : Executor) : Prop where
  remembers : Remembers executor s
  deals : ∀ c ∈ s.countersigned, L.deal s.committed c
  commands : ∀ command ∈ s.commands, L.command s.countersigned command
  activations : ∀ a ∈ s.activations, L.activation s.countersigned a

/-- A deal that has been countersigned or committed stays so. -/
structure Grows (s t : Executor) : Prop where
  countersigned : ∀ c ∈ s.countersigned, c ∈ t.countersigned
  committed : ∀ p ∈ s.committed, p ∈ t.committed

variable {L : Ledger} {s t : Executor}

omit [Interpreter] [CaseTables] [FloatText] [ContainerText] [DecimalSource] [Digests]
  [RecoverableEcdsa] [Rfc8785] in
theorem SameDeals.grows (h : SameDeals s t) : Grows s t :=
  ⟨fun c hc => by rwa [h.countersigned], h.committed⟩

theorem Ledger.Holds.same (h : L.Holds executor s) (hst : SameDeals s t) : L.Holds executor t := by
  refine ⟨h.remembers.same hst, fun c hc => ?_, ?_, ?_⟩
  · rw [hst.countersigned] at hc
    exact L.deal_mono hst.committed (h.deals c hc)
  · rw [hst.commands, hst.countersigned]
    exact h.commands
  · rw [hst.activations, hst.countersigned]
    exact h.activations

theorem holds_init : L.Holds executor Executor.init :=
  ⟨remembers_init, fun _ h => by simp [Executor.init] at h, fun _ h => by simp [Executor.init] at h,
    fun _ h => by simp [Executor.init] at h⟩

/-- A delivery of the contract under the deal id is as asked. -/
def Ledger.Delivers (L : Ledger) (executor : SellerExecutor) (accepted dealId : PyValue)
    (s : Executor) : Prop :=
  ∀ revision evidenceId anchors moment command, makeDelivery executor.env accepted dealId revision
    evidenceId executor.key anchors moment = .ok command → L.command s.countersigned command

/-- A funding request was answered with the context. -/
def Funded (C : ExecutorCondition) (job : ExecutorJob) (dealId termsHash : String) (ctx : PyValue)
    (s : Executor) : Prop :=
  ∃ past, C.answers ⟨job, past, .funding dealId termsHash⟩ (.ok ctx) s

variable [DigitTables]

/-- Whatever the executor signs in a run under the condition is as asked. -/
structure Ledger.Kept (L : Ledger) (executor : SellerExecutor) (C : ExecutorCondition) :
    Prop where
  /-- Countersigning without a Runtime. -/
  direct : ∀ {ps c}, executor.live = false → L.deal ps c
  /-- Countersigning what the Runtime has accepted. -/
  accepted : ∀ {job past s dealId termsHash contract result buyerAddress},
    C.answers ⟨job, past, .acceptance dealId termsHash contract⟩ (.ok result) s →
    L.deal s.committed ⟨dealId, termsHash, buyerAddress⟩
  /-- Delivery of a deal with its own contract. -/
  own : ∀ {s c accepted}, c ∈ s.countersigned → termsHash accepted = .ok c.termsHash →
    L.Delivers executor accepted (.str c.dealId) s
  /-- Delivery on request, without a Runtime. -/
  requested : ∀ {s data named accepted dealId}, Remembers executor s → executor.live = false →
    C.starts (.request true data) s → getD data "kind" (.str "") = .ok (.str "request-delivery") →
    getD data "termsHash" (.str "") = .ok named → lookupText s.deals named = .ok (some accepted) →
    getD data "dealId" (.str "") = .ok (.str dealId) → L.Delivers executor accepted (.str dealId) s
  activation : ∀ {job s c accepted ctx activation}, c ∈ s.countersigned →
    termsHash accepted = .ok c.termsHash → Funded C job c.dealId c.termsHash ctx s →
    (do return orElse (← get ctx "activation") (.obj [])) = .ok activation →
    activationProblems executor activation c.termsHash accepted = .ok [] →
    L.activation s.countersigned ⟨c.dealId, c.termsHash, accepted, ctx⟩

variable {C : ExecutorCondition} {job : ExecutorJob}

/-! ## The rules for the handlers -/

/-- The rules for the tasks of a job. -/
def ledgerRules (L : Ledger) (executor : SellerExecutor) (C : ExecutorCondition)
    (job : ExecutorJob) : Rules Executor RuntimeRequest RuntimeReply ExecutorMoment :=
  Async.untraced ((executorSystem executor).rules C (L.Holds executor) Grows) job

section Handlers

variable {F : Executor → Prop}

/-- A computation that keeps the ledger, as long as a fact lasts. -/
abbrev Steady (L : Ledger) (executor : SellerExecutor) (C : ExecutorCondition) (job : ExecutorJob)
    (F : Executor → Prop) {α : Type} (p : ExecutorTask α) : Prop :=
  Async.Stable ((ledgerRules L executor C job).and F) p

theorem steady_same (hF : ∀ s t, Grows s t → F s → F t) {f : Executor → Executor}
    (hf : ∀ s, SameDeals s (f s)) : Steady L executor C job F (.atomic (Prog.modify f)) :=
  Async.stable_atomic (fun s => (hf s).grows)
    fun s hs => ⟨hs.1.same (hf s), hF _ _ (hf s).grows hs.2⟩

theorem steady_enqueue (hF : ∀ s t, Grows s t → F s → F t) (message : List (String × PyValue)) :
    Steady L executor C job F (enqueue message) :=
  steady_same hF fun _ => ⟨rfl, rfl, rfl, rfl, rfl, fun _ h => h⟩

theorem steady_reject (hF : ∀ s t, Grows s t → F s → F t) (error : String) :
    Steady L executor C job F (reject error) :=
  steady_enqueue hF _

theorem steady_rejectFor (hF : ∀ s t, Grows s t → F s → F t) (exc : Failure) (error : String) :
    Steady L executor C job F (rejectFor exc error) :=
  steady_enqueue hF _

theorem steady_await (hF : ∀ s t, Grows s t → F s → F t) {α : Type} {r : RuntimeRequest}
    {k : RuntimeReply → ExecutorTask α} (hk : ∀ v, Steady L executor C job F (k v)) :
    Steady L executor C job F (.await r k) :=
  Async.stable_await (fun _ hs => hs)
    (fun _ s hs => ⟨hs.1.same ⟨rfl, rfl, rfl, rfl, rfl, fun _ h => h⟩,
      hF s _ ⟨fun _ h => h, fun _ h => h⟩ hs.2⟩) hk

theorem steady_ask (hF : ∀ s t, Grows s t → F s → F t) (r : RuntimeRequest) :
    Steady L executor C job F (ask r) :=
  steady_await hF fun _ => Async.stable_ofExcept _

/-- A check that raises, and what follows it. -/
theorem steady_check {α : Type} {c : Prop} [Decidable c] {x : Except Failure Unit}
    {f : Unit → ExecutorTask α} (hf : ∀ u, Steady L executor C job F (f u)) :
    Steady L executor C job F (if c then (Async.ofExcept x).bind f else f ()) := by
  split
  · exact Async.stable_bind (Async.stable_ofExcept _) hf
  · exact hf ()

/-- What a handler does whatever the outcome of another computation. -/
theorem steady_settled {α β : Type} {p : ExecutorTask α} {f : Except Failure α → ExecutorTask β}
    (hp : Steady L executor C job F p) (hf : ∀ x, Steady L executor C job F (f x)) :
    Steady L executor C job F (((p.bind fun a => .ret (Except.ok a)).onError fun e =>
      .ret (.error e)).bind f) :=
  Async.stable_bind (Async.stable_onError (Async.stable_bind hp fun _ => Async.stable_ret _)
    fun _ => Async.stable_ret _) hf

theorem ensures_remember (hF : ∀ s t, Grows s t → F s → F t) {c : Countersigned}
    (hc : c.Verified executor) {accepted : PyValue} (ht : termsHash accepted = .ok c.termsHash)
    (hs : L.Holds executor s ∧ F s) (hdeal : L.deal s.committed c) :
    Async.Ensures ((ledgerRules L executor C job).and F) (fun _ s => L.Holds executor s ∧ F s)
      (fun _ s => L.Holds executor s ∧ F s) (.atomic (Prog.modify fun s =>
        s.remember c.dealId c.termsHash accepted c.buyerAddress) : ExecutorTask Unit) s := by
  have hgrows : Grows s (s.remember c.dealId c.termsHash accepted c.buyerAddress) :=
    ⟨fun e he => List.mem_append_left _ he, fun _ h => h⟩
  have hholds : L.Holds executor (s.remember c.dealId c.termsHash accepted c.buyerAddress) := by
    refine ⟨hs.1.remembers.remember hc ht, fun e he => ?_, fun command hcommand => ?_,
      fun a ha => ?_⟩
    · rcases List.mem_append.1 he with he | he
      · exact hs.1.deals e he
      · rw [List.mem_singleton.1 he]
        exact hdeal
    · exact L.command_mono hgrows.countersigned (hs.1.commands command hcommand)
    · exact L.activation_mono hgrows.countersigned (hs.1.activations a ha)
  refine Async.ensures_atomic hgrows (fun _ s' h => ?_) fun _ s' h => ?_
  · cases h
    exact ⟨hholds, hF _ _ hgrows hs.2⟩
  · cases h

/-! ### Formation -/

theorem steady_publishTerms (hF : ∀ s t, Grows s t → F s → F t) (data : PyValue) :
    Steady L executor C job F (publishTerms executor data) := by
  refine Async.stable_bind (Async.stable_ofExcept _) fun buyerAgentId => ?_
  refine Async.stable_bind (Async.stable_ofExcept _) fun buyerAddress => ?_
  have hset : Steady L executor C job F (.read fun s => do
      let addresses ← Async.ofExcept (setKey s.addresses buyerAgentId buyerAddress)
      .atomic (Prog.modify fun s => { s with addresses })) :=
    Async.stable_read fun s => Async.stable_bind (Async.stable_ofExcept _)
      fun addresses => steady_same hF fun _ => ⟨rfl, rfl, rfl, rfl, rfl, fun _ h => h⟩
  split
  · exact Async.stable_bind hset fun _ => steady_enqueue hF _
  · exact steady_enqueue hF _

theorem steady_proposeRequest (hF : ∀ s t, Grows s t → F s → F t) (data : PyValue) :
    Steady L executor C job F (proposeRequest executor data) := by
  unfold proposeRequest
  split
  · exact steady_reject hF _
  · refine Async.stable_read fun s => ?_
    split
    · split
      · exact steady_reject hF _
      · exact Async.stable_fail _
    · refine Async.stable_bind (steady_same hF fun _ => ⟨rfl, rfl, rfl, rfl, rfl, fun _ h => h⟩) fun _ => ?_
      refine Async.stable_bind (Async.stable_ofExcept _) fun _ => ?_
      exact steady_enqueue hF _

theorem steady_runtimeChainContext (hF : ∀ s t, Grows s t → F s → F t) (binding : PyValue) :
    Steady L executor C job F (countersignLive.runtimeChainContext binding) := by
  refine Async.stable_bind (Async.stable_ofExcept _) fun key => Async.stable_read fun s => ?_
  split
  · exact Async.stable_ret _
  · refine Async.stable_bind (steady_ask hF _) fun card => ?_
    refine Async.stable_bind (Async.stable_ofExcept _) fun context => ?_
    exact Async.stable_bind (steady_same hF fun _ => ⟨rfl, rfl, rfl, rfl, rfl, fun _ h => h⟩)
      fun _ => Async.stable_ret _

theorem steady_submit (hL : L.Kept executor C) (hF : ∀ s t, Grows s t → F s → F t)
    (data : PyValue) (dealId : String) {contract : PyValue} (buyerAddress status : PyValue)
    {computed : String} (hcomputed : termsHash contract = .ok computed) (chainId : ℤ) :
    Steady L executor C job F
      (countersignLive.submit executor data dealId contract buyerAddress status computed
        chainId) := by
  unfold countersignLive.submit
  dsimp only
  split
  · split
    · exact steady_reject hF _
    · exact Async.stable_fail _
  · rename_i accepted haccepted
    obtain ⟨sig, _, haccepted⟩ := bind_eq_ok.1 haccepted
    obtain ⟨hhash, hverified⟩ := verified_of_acceptTerms haccepted hcomputed
    refine Async.stable_bind (Async.stable_ofExcept _) fun _ s hs => ?_
    refine ⟨hs, fun v m s' hs' _ hanswer => ?_⟩
    have hlater : L.Holds executor ((ledgerRules L executor C job).entered m s') ∧
        F ((ledgerRules L executor C job).entered m s') :=
      ⟨hs'.1.same ⟨rfl, rfl, rfl, rfl, rfl, fun _ h => h⟩,
        hF s' _ ⟨fun _ h => h, fun _ h => h⟩ hs'.2⟩
    cases v with
    | error e => exact steady_rejectFor hF e _ _ hlater
    | ok result =>
        obtain ⟨past, hanswer⟩ := hanswer
        refine Async.ensures_bind (ensures_remember hF hverified hhash hlater
          (hL.accepted hanswer)) fun _ t ht => ?_
        refine Async.stable_bind (Async.stable_ofExcept _) (fun _ => ?_) t ht
        refine Async.stable_bind (Async.stable_ofExcept _) fun _ => ?_
        exact steady_enqueue hF _

theorem steady_countersignProposed (hL : L.Kept executor C) (hF : ∀ s t, Grows s t → F s → F t)
    (data : PyValue) (dealId : String) (contract buyerAddress : PyValue) :
    Steady L executor C job F
      (countersignLive.countersignProposed executor data dealId contract buyerAddress) := by
  refine steady_await hF fun v => ?_
  cases v with
  | error e => exact steady_rejectFor hF e _
  | ok status =>
      refine Async.stable_bind (Async.stable_ofExcept _) fun state => ?_
      split
      · exact steady_reject hF _
      · refine Async.stable_ofExcept_bind fun computed hcomputed => ?_
        refine Async.stable_bind (Async.stable_ofExcept _) fun held => ?_
        refine Async.stable_bind (Async.stable_ofExcept _) fun differs => ?_
        split
        · exact steady_reject hF _
        · refine Async.stable_bind (Async.stable_ofExcept _) fun binding => ?_
          refine steady_settled (steady_runtimeChainContext hF _) fun context => ?_
          cases context with
          | error e => exact steady_rejectFor hF e _
          | ok context => exact steady_submit hL hF data dealId _ status hcomputed context.1

theorem steady_countersignLive (hL : L.Kept executor C) (hF : ∀ s t, Grows s t → F s → F t)
    (data : PyValue) : Steady L executor C job F (countersignLive executor data) := by
  refine Async.stable_read fun s => ?_
  split
  · exact steady_reject hF _
  · refine Async.stable_bind (Async.stable_ofExcept _) fun dealId => ?_
    refine Async.stable_bind (Async.stable_ofExcept _) fun contract => ?_
    split
    · split
      · exact steady_reject hF _
      · refine Async.stable_bind (Async.stable_ofExcept _) fun buyerAgentId => ?_
        refine Async.stable_bind (Async.stable_ofExcept _) fun address => ?_
        split
        · exact steady_reject hF _
        · exact steady_countersignProposed hL hF data dealId _ _
    · exact steady_reject hF _

theorem steady_countersign (hL : L.Kept executor C) (hF : ∀ s t, Grows s t → F s → F t)
    (data : PyValue) : Steady L executor C job F (countersign executor data) := by
  unfold countersign
  split
  · exact steady_countersignLive hL hF data
  · rename_i hlive
    refine Async.stable_read fun s => ?_
    refine Async.stable_bind (Async.stable_ofExcept _) fun dealId => ?_
    refine Async.stable_bind (Async.stable_ofExcept _) fun held => ?_
    split
    · rename_i dealId contract buyerAddress
      dsimp only
      split
      · split
        · exact steady_reject hF _
        · exact Async.stable_fail _
      · rename_i accepted haccepted
        obtain ⟨sig, _, haccepted⟩ := bind_eq_ok.1 haccepted
        obtain ⟨_, t, _, hterms⟩ := acceptedTerms_of_acceptTerms haccepted
        obtain ⟨hhash, hverified⟩ := verified_of_acceptTerms haccepted hterms.hash
        refine Async.stable_ofExcept_bind fun termsHashRef href => ?_
        obtain rfl : t = termsHashRef := Except.ok.inj (hhash.symm.trans href)
        refine fun s hs => Async.ensures_bind (ensures_remember hF hverified hhash hs
          (hL.direct (Bool.not_eq_true _ ▸ hlive))) fun _ t ht => ?_
        refine Async.stable_bind (Async.stable_ofExcept _) (fun _ => ?_) t ht
        exact steady_enqueue hF _
    · exact steady_enqueue hF _

/-- From where the fact holds, the ledger is kept. -/
theorem ensures_of_steady (hF : ∀ s t, Grows s t → F s → F t) {α : Type} {p : ExecutorTask α}
    (hp : Steady L executor C job F p) (hs : L.Holds executor s) (hfact : F s) :
    Async.Ensures (ledgerRules L executor C job) (fun _ => L.Holds executor)
      (fun _ => L.Holds executor) p s :=
  Async.ensures_of_and (R := ledgerRules L executor C job) hF
    (fun _ _ => ⟨fun _ h => h, fun _ h => h⟩) (fun _ _ => ⟨fun _ h => h, fun _ h => h⟩) hfact
    (hp s ⟨hs, hfact⟩)

/-- A computation that keeps the ledger by itself. -/
theorem stable_of_steady {α : Type} {p : ExecutorTask α}
    (hp : Steady L executor C job (fun _ => True) p) :
    Async.Stable (ledgerRules L executor C job) p :=
  fun _ hs => ensures_of_steady (fun _ _ _ _ => trivial) hp hs trivial

/-! ### Funding -/

theorem steady_activation (hF : ∀ s t, Grows s t → F s → F t)
    {a : SignedActivation} (ha : ∀ s, F s → L.activation s.countersigned a) :
    Steady L executor C job F (.atomic (Prog.modify fun s =>
      { s with activations := s.activations ++ [a] })) := by
  refine Async.stable_atomic (fun s => ⟨fun _ h => h, fun _ h => h⟩) fun s hs =>
    ⟨⟨?_, hs.1.deals, hs.1.commands, ?_⟩, hF s _ ⟨fun _ h => h, fun _ h => h⟩ hs.2⟩
  · exact ⟨hs.1.remembers.hashed, hs.1.remembers.entries, hs.1.remembers.verified,
      hs.1.remembers.known, hs.1.remembers.held⟩
  · intro b hb
    rcases List.mem_append.1 hb with hb | hb
    · exact hs.1.activations b hb
    · rw [List.mem_singleton.1 hb]
      exact ha s hs.2

theorem steady_coSign (hF : ∀ s t, Grows s t → F s → F t)
    {dealId termsRef : String} {accepted ctx : PyValue}
    (ha : ∀ s, F s → ∀ activation,
      (do return orElse (← get ctx "activation") (.obj [])) = Except.ok (ε := Failure) activation →
      activationProblems executor activation termsRef accepted = .ok [] →
      L.activation s.countersigned ⟨dealId, termsRef, accepted, ctx⟩) :
    Steady L executor C job F (funding.coSign executor dealId termsRef accepted ctx) := by
  refine Async.stable_bind (Async.stable_ofExcept _) fun _ => ?_
  refine Async.stable_ofExcept_bind fun member hmember => ?_
  refine Async.stable_bind (Async.stable_ofExcept _) fun buyer => ?_
  split
  · exact steady_enqueue hF _
  · refine Async.stable_bind (Async.stable_ofExcept _) fun vault => ?_
    refine Async.stable_bind (Async.stable_ofExcept _) fun chainId => ?_
    split
    · exact steady_reject hF _
    · refine Async.stable_ofExcept_bind fun problems hproblems => ?_
      split
      · exact steady_reject hF _
      · rename_i hnone
        rw [ne_eq, not_not] at hnone
        subst hnone
        split
        · split
          · exact steady_reject hF _
          · exact Async.stable_fail _
        · refine Async.stable_bind (steady_activation hF fun s hs => ?_) fun _ => ?_
          · exact ha s hs _ (bind_eq_ok.2 ⟨member, hmember, rfl⟩) hproblems
          · refine steady_await hF fun v => ?_
            cases v with
            | error e => exact steady_rejectFor hF e _
            | ok status =>
                exact Async.stable_bind (Async.stable_ofExcept _) fun _ => steady_enqueue hF _

theorem stable_funding (hL : L.Kept executor C) (data : PyValue) :
    Async.Stable (ledgerRules L executor C job) (funding executor data) := by
  intro s hs
  have hquiet {p : ExecutorTask Unit} (hp : Steady L executor C job (fun _ => True) p) :=
    stable_of_steady hp s hs
  unfold funding
  simp only [Async.Ensures]
  split
  · exact hquiet (steady_reject (fun _ _ _ _ => trivial) _)
  · split
    · exact hquiet (steady_reject (fun _ _ _ _ => trivial) _)
    · refine Async.ensures_ofExcept_bind (fun dealId _ => ?_) fun _ _ => hs
      split
      · exact hquiet (steady_reject (fun _ _ _ _ => trivial) _)
      · rename_i termsRef hterms
        split
        · exact hs
        · rename_i accepted haccepted
          obtain ⟨c, hc, rfl, rfl⟩ := hs.remembers.entries dealId termsRef hterms
          have hhash := hs.remembers.hashed _ accepted haccepted
          refine ⟨hs, fun v m s' hs' hgrows hanswer => ?_⟩
          have hlater : L.Holds executor ((ledgerRules L executor C job).entered m s') :=
            hs'.same ⟨rfl, rfl, rfl, rfl, rfl, fun _ h => h⟩
          cases v with
          | error e =>
              exact stable_of_steady (steady_rejectFor (fun _ _ _ _ => trivial) e _) _ hlater
          | ok ctx =>
              refine ensures_of_steady (F := fun s => ∀ activation,
                  (do return orElse (← get ctx "activation") (.obj [])) =
                    Except.ok (ε := Failure) activation →
                  activationProblems executor activation c.termsHash accepted = .ok [] →
                  L.activation s.countersigned ⟨c.dealId, c.termsHash, accepted, ctx⟩) ?_
                (steady_coSign ?_ fun s hs => hs) hlater ?_
              · exact fun t u htu ht activation hactivation hproblems =>
                  L.activation_mono htu.countersigned (ht activation hactivation hproblems)
              · exact fun t u htu ht activation hactivation hproblems =>
                  L.activation_mono htu.countersigned (ht activation hactivation hproblems)
              · exact fun activation => hL.activation (hgrows.countersigned c hc) hhash hanswer

/-! ### Delivery -/

theorem steady_signDelivered (hF : ∀ s t, Grows s t → F s → F t) {accepted dealId : PyValue}
    (hdelivers : ∀ s, F s → L.Delivers executor accepted dealId s) (expectedRevision : ℤ)
    (evidenceId : PyValue) (anchors : Anchors) :
    Steady L executor C job F
      (signDelivered executor accepted dealId expectedRevision evidenceId anchors) := by
  refine Async.stable_read fun s => Async.stable_ofExcept_bind fun command hcommand => ?_
  have hwrite : Steady L executor C job F (.atomic (Prog.modify fun s =>
      { s with commands := s.commands ++ [command] })) := by
    refine Async.stable_atomic (fun _ => ⟨fun _ h => h, fun _ h => h⟩) fun t ht =>
      ⟨⟨?_, ht.1.deals, ?_, ht.1.activations⟩, hF t _ ⟨fun _ h => h, fun _ h => h⟩ ht.2⟩
    · exact ⟨ht.1.remembers.hashed, ht.1.remembers.entries, ht.1.remembers.verified,
        ht.1.remembers.known, ht.1.remembers.held⟩
    · intro other hother
      rcases List.mem_append.1 hother with hother | hother
      · exact ht.1.commands other hother
      · rw [List.mem_singleton.1 hother]
        exact hdelivers t ht.2 _ _ _ _ _ hcommand
  exact Async.stable_bind hwrite fun _ => Async.stable_ret _

theorem steady_vaultDomainOf (hF : ∀ s t, Grows s t → F s → F t) (dealId termsRef : String)
    (vault : PyValue) :
    Steady L executor C job F (runDelivery.vaultDomainOf dealId termsRef vault) := by
  refine Async.stable_bind (Async.stable_ofExcept _) fun chainId => ?_
  refine Async.stable_bind (Async.stable_ofExcept _) fun vaultAddress => ?_
  split
  · exact Async.stable_bind (steady_ask hF _) fun ctx => Async.stable_ofExcept _
  · exact Async.stable_ret _

theorem steady_deliverAccepted (hF : ∀ s t, Grows s t → F s → F t) {dealId termsRef : String}
    {accepted : PyValue} (hdelivers : ∀ s, F s → L.Delivers executor accepted (.str dealId) s) :
    Steady L executor C job F
      (runDelivery.deliverAccepted executor dealId termsRef accepted) := by
  refine Async.stable_bind (steady_ask hF _) fun status => ?_
  refine Async.stable_bind (Async.stable_ofExcept _) fun state => steady_check fun _ => ?_
  refine Async.stable_bind (Async.stable_ofExcept _) fun vault => ?_
  refine Async.stable_bind (Async.stable_ofExcept _) fun receiptHash => ?_
  refine Async.stable_bind (Async.stable_ofExcept _) fun vaultDealId => ?_
  refine Async.stable_bind (Async.stable_ofExcept _) fun nonce => steady_check fun _ => ?_
  refine Async.stable_bind (Async.stable_ofExcept _) fun envelope => ?_
  refine Async.stable_bind (steady_ask hF _) fun evidenceId => ?_
  refine Async.stable_bind (steady_vaultDomainOf hF _ _ _) fun domain => ?_
  refine Async.stable_read fun s => ?_
  refine Async.stable_bind (Async.stable_ofExcept _) fun anchors => ?_
  refine Async.stable_bind (steady_signDelivered hF hdelivers _ _ _) fun command => ?_
  refine Async.stable_bind (steady_ask hF _) fun result => ?_
  refine Async.stable_bind (Async.stable_ofExcept _) fun resultStatus => ?_
  exact Async.stable_bind (Async.stable_ofExcept _) fun _ => Async.stable_ret _

theorem stable_runDelivery (hL : L.Kept executor C) (dealId : String) :
    Async.Stable (ledgerRules L executor C job) (runDelivery executor dealId) := by
  intro s hs
  unfold runDelivery
  simp only [Async.Ensures]
  split
  · exact Async.ensures_ofExcept (fun _ _ => hs) fun _ _ => hs
  · split
    · exact Async.ensures_ofExcept (fun _ _ => hs) fun _ _ => hs
    · rename_i termsRef hterms
      split
      · exact hs
      · rename_i accepted haccepted
        obtain ⟨c, hc, rfl, rfl⟩ := hs.remembers.entries dealId termsRef hterms
        have hhash := hs.remembers.hashed _ accepted haccepted
        have hlasts (t u : Executor) (htu : Grows t u) (ht : c ∈ t.countersigned) :
            c ∈ u.countersigned := htu.countersigned c ht
        exact ensures_of_steady hlasts
          (steady_deliverAccepted hlasts fun t ht => hL.own ht hhash) hs hc

theorem stable_deliverLive (hL : L.Kept executor C) (data : PyValue) :
    Async.Stable (ledgerRules L executor C job) (deliverLive executor data) := by
  refine Async.stable_bind (Async.stable_ofExcept _) fun dealId => ?_
  refine Async.stable_bind (Async.stable_onError (Async.stable_bind (stable_runDelivery hL dealId)
    fun _ => Async.stable_ret _) fun _ => Async.stable_ret _) fun payload => ?_
  have hquiet (message : List (String × PyValue)) :
      Async.Stable (ledgerRules L executor C job) (enqueue message) :=
    stable_of_steady (steady_enqueue (fun _ _ _ _ => trivial) message)
  split
  · exact hquiet _
  · exact hquiet _
  · exact Async.stable_ret _

/-- The delivery without a Runtime never waits, and signs what it has been asked for. -/
theorem ensures_deliverStandalone (hL : L.Kept executor C) (hlive : executor.live = false)
    {data : PyValue} (hkind : getD data "kind" (.str "") = .ok (.str "request-delivery"))
    (hs : L.Holds executor s) (hstarts : C.starts (.request true data) s) :
    Async.Ensures (ledgerRules L executor C job) (fun _ => L.Holds executor)
      (fun _ => L.Holds executor) (deliverStandalone executor data) s := by
  unfold deliverStandalone
  simp only [Async.Ensures]
  refine Async.ensures_ofExcept_bind (fun named hnamed => ?_) fun _ _ => hs
  refine Async.ensures_ofExcept_bind (fun held hheld => ?_) fun _ _ => hs
  split
  · exact stable_of_steady (steady_enqueue (fun _ _ _ _ => trivial) _) s hs
  · rename_i accepted
    refine Async.ensures_ofExcept_bind (fun dealId hdealId => ?_) fun _ _ => hs
    have hdelivers (text : String) (htext : dealId = .str text) :
        L.Delivers executor accepted dealId s := by
      subst htext
      exact hL.requested hs.remembers hlive hstarts hkind hnamed hheld hdealId
    have hlasts (t u : Executor) (htu : Grows t u)
        (ht : ∀ text, dealId = .str text → L.Delivers executor accepted dealId t) (text : String)
        (htext : dealId = .str text) : L.Delivers executor accepted dealId u :=
      fun revision evidenceId anchors moment command hcommand =>
        L.command_mono htu.countersigned (ht text htext revision evidenceId anchors moment command hcommand)
    refine ensures_of_steady hlasts ?_ hs hdelivers
    refine Async.stable_bind (Async.stable_ofExcept _) fun termsHashRef => ?_
    refine Async.stable_bind (Async.stable_ofExcept _) fun envelope => ?_
    refine Async.stable_bind (Async.stable_ofExcept _) fun known => ?_
    refine Async.stable_bind (Async.stable_ofExcept _) fun evidence => ?_
    refine Async.stable_bind (steady_same hlasts fun _ => ⟨rfl, rfl, rfl, rfl, rfl, fun _ h => h⟩) fun _ => ?_
    refine Async.stable_ofExcept_bind fun anchors hanchors => ?_
    -- the demo anchors are those of a text
    obtain ⟨_, _, h₁⟩ := bind_eq_ok.1 hanchors
    obtain ⟨_, _, h₂⟩ := bind_eq_ok.1 h₁
    obtain ⟨_, hdemo, _⟩ := bind_eq_ok.1 h₂
    obtain ⟨text, htext, _⟩ := bind_eq_ok.1 hdemo
    refine Async.stable_bind (steady_signDelivered hlasts
      (fun _ h => h text (asText_eq_ok.1 htext)) _ _ _) fun command => ?_
    exact steady_enqueue hlasts _

/-! ### Notifications and the delivery loop -/

theorem steady_runtimeNotification (hF : ∀ s t, Grows s t → F s → F t) (note : PyValue) :
    Steady L executor C job F (runtimeNotification executor note) := by
  refine Async.stable_bind (Async.stable_ofExcept _) fun dealId => ?_
  refine Async.stable_bind (Async.stable_ofExcept _) fun type => steady_check fun _ => ?_
  refine steady_check fun _ => Async.stable_read fun s => ?_
  split
  · exact Async.stable_ofExcept _
  · refine Async.stable_bind (Async.stable_ofExcept _) fun named => steady_check fun _ => ?_
    refine Async.stable_bind (steady_ask hF _) fun status => ?_
    refine Async.stable_bind (Async.stable_ofExcept _) fun state => steady_check fun _ => ?_
    have hstart : Steady L executor C job F
        (runtimeNotification.startDelivery note dealId) := by
      intro t ht
      unfold runtimeNotification.startDelivery
      simp only [Async.Ensures]
      split
      · exact ht
      · refine ⟨⟨fun _ h => h, fun _ h => h⟩, ?_⟩
        refine Async.stable_bind (Async.stable_ofExcept _) (fun _ => Async.stable_start _) _
          ⟨ht.1.same ⟨rfl, rfl, rfl, rfl, rfl, fun _ h => h⟩,
            hF t _ ⟨fun _ h => h, fun _ h => h⟩ ht.2⟩
    exact Async.stable_bind hstart fun _ => steady_enqueue hF _

theorem stable_deliveryTurn (hL : L.Kept executor C) (dealId : String) (limit : ℤ) :
    Async.Stable (ledgerRules L executor C job) (deliveryTurn executor dealId limit) := by
  have htrivial (s t : Executor) (_ : Grows s t) (_ : True) : True := trivial
  have hprobe : Async.Stable (ledgerRules L executor C job)
      (deliveryTurn.stillFulfilling dealId) :=
    stable_of_steady (Async.stable_bind (steady_ask htrivial _) fun status =>
      Async.stable_bind (Async.stable_ofExcept _) fun _ => Async.stable_ret _)
  refine Async.stable_bind (Async.stable_onError
    (Async.stable_bind (stable_runDelivery hL dealId) fun _ => Async.stable_ret _) fun e => ?_)
    fun failed => ?_
  · split
    · exact Async.stable_ret _
    · exact Async.stable_ret _
  · split
    · refine Async.stable_bind (Async.stable_onError hprobe fun _ => Async.stable_ret _)
        fun fulfilling => ?_
      split
      · refine Async.stable_read fun s => ?_
        split
        · exact Async.stable_ret _
        · exact stable_of_steady (steady_await htrivial fun _ => Async.stable_ret _)
      · exact Async.stable_ret _
    · exact Async.stable_ret _

theorem stable_backgroundDelivery (hL : L.Kept executor C) (dealId : String) (limit : Option ℤ) :
    Async.Stable (ledgerRules L executor C job) (backgroundDelivery executor dealId limit) := by
  have hrelease : Async.Stable (ledgerRules L executor C job)
      (backgroundDelivery.releaseSlot dealId) :=
    stable_of_steady (steady_same (fun _ _ _ _ => trivial) fun _ => ⟨rfl, rfl, rfl, rfl, rfl, fun _ h => h⟩)
  refine Async.stable_read fun s => ?_
  refine Async.stable_bind (Async.stable_onError (stable_deliveryTurn hL dealId _) fun e =>
    Async.stable_bind hrelease fun _ => Async.stable_fail e) fun another => ?_
  split
  · exact Async.stable_start _
  · exact hrelease

/-! ### Every job -/

theorem ensures_handle (hL : L.Kept executor C) {data : PyValue} (hs : L.Holds executor s)
    (hstarts : C.starts (.request true data) s) :
    Async.Ensures (ledgerRules L executor C job) (fun _ => L.Holds executor)
      (fun _ => L.Holds executor) (handle executor data) s := by
  have htrivial (s t : Executor) (_ : Grows s t) (_ : True) : True := trivial
  refine Async.ensures_ofExcept_bind (fun kind hkind => ?_) fun _ _ => hs
  split
  · exact stable_of_steady (steady_publishTerms htrivial data) s hs
  · exact stable_of_steady (steady_proposeRequest htrivial data) s hs
  · exact stable_of_steady (steady_countersign hL htrivial data) s hs
  · exact stable_funding hL data s hs
  · unfold deliver
    split
    · exact stable_deliverLive hL data s hs
    · rename_i hlive
      exact ensures_deliverStandalone hL (Bool.not_eq_true _ ▸ hlive) hkind hs hstarts
  · exact stable_of_steady (steady_enqueue htrivial _) s hs

theorem ensures_executorBody (hL : L.Kept executor C) (hs : L.Holds executor s)
    (hstarts : C.starts job s) :
    Async.Ensures (ledgerRules L executor C job) (fun _ => L.Holds executor)
      (fun _ => L.Holds executor) (executorBody executor job) s := by
  have htrivial (s t : Executor) (_ : Grows s t) (_ : True) : True := trivial
  cases job with
  | request optedIn data =>
      cases optedIn with
      | true => exact ensures_handle hL hs hstarts
      | false => exact stable_of_steady (steady_reject htrivial _) s hs
  | notification optedIn note =>
      cases optedIn with
      | true => exact stable_of_steady (steady_runtimeNotification htrivial note) s hs
      | false => exact stable_of_steady (steady_reject htrivial _) s hs
  | backgroundDelivery dealId limit => exact stable_backgroundDelivery hL dealId limit s hs

end Handlers

omit [Interpreter] [CaseTables] [FloatText] [ContainerText] [DecimalSource] [Digests]
  [RecoverableEcdsa] [Rfc8785] [DigitTables] in
theorem sameDeals_outside {s t : Executor} {e : ExecutorEvent} (h : s.outside e = some t) :
    SameDeals s t := by
  cases e with
  | binding state detail =>
      cases h
      exact ⟨rfl, rfl, rfl, rfl, rfl, fun _ h => h⟩
  | commit dealId termsHash =>
      simp only [Executor.outside, Option.ite_none_right_eq_some, Option.some.injEq] at h
      obtain ⟨-, rfl⟩ := h
      exact ⟨rfl, rfl, rfl, rfl, rfl, fun _ h => List.mem_append_left _ h⟩

/-- In every run whose steps meet the condition, the ledger is kept. -/
theorem holds_of_run (hL : L.Kept executor C) {es : List ExecutorStep} {c : ExecutorConfig}
    (hmeets : (executorSystem executor).machine.Meets ((executorSystem executor).Meets C) es)
    (hrun : (executorSystem executor).machine.run es = some c) : L.Holds executor c.state := by
  have hrelies : (executorSystem executor).Relies Grows :=
    ⟨fun _ => ⟨fun _ h => h, fun _ h => h⟩,
      fun hst htu => ⟨fun c hc => htu.countersigned c (hst.countersigned c hc),
        fun p hp => htu.committed p (hst.committed p hp)⟩,
      fun _ _ => ⟨fun _ h => h, fun _ h => h⟩, fun _ _ => ⟨fun _ h => h, fun _ h => h⟩,
      fun _ _ _ h => (sameDeals_outside h).grows⟩
  refine System.run_invariant (S := executorSystem executor) (C := C) (I := L.Holds executor)
    hrelies holds_init (fun job m s hs hstarts => ?_) (fun e s s' hs _ h => ?_) hmeets hrun
  · refine Async.ensures_traced (fun call s hs => ?_) (fun call s t h => ?_)
      (ensures_executorBody hL (hs.same ⟨rfl, rfl, rfl, rfl, rfl, fun _ h => h⟩) hstarts)
    · exact Ledger.Holds.same (t := { s with calls := s.calls ++ [call] }) hs
        ⟨rfl, rfl, rfl, rfl, rfl, fun _ h => h⟩
    · have hsent : Grows { s with calls := s.calls ++ [call] } t := h
      exact ⟨hsent.countersigned, hsent.committed⟩
  · exact hs.same (sameDeals_outside h)

end Runs

end SellerAgent

end Coordination
