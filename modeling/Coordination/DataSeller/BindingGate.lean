import Coordination.DataSeller.Binding

/-!
# The signing gate

What `block` says follows the last probe of the key: the gate is open when it was answered with
an entry of this agent, and closed after anything else. The first such answer also ends the
filing of bind requests for good.
-/

namespace Coordination

namespace DataSeller

open JavaScript Library Identity

/-- A probe is answered with an entry of this agent, whose runtime has an id that is readable. -/
def Confirms (did : Did) (v : Answer Number) (matched : Option Value) : Prop :=
  ∃ status body entry, v = .response status body ∧ entryOf status body = .ok (some entry) ∧
    memberText (some entry) "did" "" = .ok did.text ∧ matchedRuntime entry = .ok matched ∧
    (memberText matched "id" "").isOk = true

/-- What the state of the gate says about the exchanges so far. -/
structure Gate (did : Did) (active : Prop) (everActive : Bool) (heard : BindExchanges Number) :
    Prop where
  closes : active → ∃ v matched, (probesOf heard).getLast? = some v ∧ Confirms did v matched
  opens : ∀ v matched, (probesOf heard).getLast? = some v → Confirms did v matched →
    (memberText matched "bind_method" "direct").isOk = true → active
  latched : ∀ v ∈ probesOf heard, ∀ matched, Confirms did v matched → everActive = true
  once : heard.Pairwise fun x y => x.1.probes = true →
    (∃ matched, Confirms did x.2.answer matched) → y.1.registers = false

theorem gate_nil {did : Did} {everActive : Bool} : Gate did False everActive [] where
  closes := False.elim
  opens _ _ h := by cases h
  latched _ h := by cases h
  once := .nil

section Gate

variable {did : Did} {active active' : Prop} {everActive everActive' : Bool}
  {heard : BindExchanges Number}

theorem Gate.congr (h : Gate did active everActive heard) (hactive : active' ↔ active) :
    Gate did active' everActive heard :=
  ⟨fun ha => h.closes (hactive.1 ha), fun v m hv hm hok => hactive.2 (h.opens v m hv hm hok),
    h.latched, h.once⟩

/-- While no probe has been confirmed the gate is closed. -/
theorem Gate.not_active (h : Gate did active false heard) : ¬ active := by
  intro ha
  obtain ⟨v, matched, hv, hm⟩ := h.closes ha
  cases h.latched v (List.mem_of_getLast? hv) matched hm

/-- An exchange that is no probe changes nothing. -/
theorem Gate.other (h : Gate did active everActive heard) {r : BindWait} (hr : r.probes = false)
    (hregisters : r.registers = true → everActive = false) (v : BindReply Number) :
    Gate did active everActive (heard ++ [(r, v)]) := by
  have hprobes : probesOf (heard ++ [(r, v)]) = probesOf heard := by
    rw [probesOf_append]
    simp [probesOf, hr]
  refine ⟨by rw [hprobes]; exact h.closes, by rw [hprobes]; exact h.opens,
    by rw [hprobes]; exact h.latched,
    List.pairwise_append.2 ⟨h.once, List.pairwise_singleton _ _, ?_⟩⟩
  rintro x hx y hy hprobe ⟨matched, hm⟩
  cases List.mem_singleton.1 hy
  by_contra hfiles
  have hmem : x.2.answer ∈ probesOf heard :=
    List.mem_map.2 ⟨x, List.mem_filter.2 ⟨hx, hprobe⟩, rfl⟩
  have hever := h.latched _ hmem matched hm
  rw [hregisters (Bool.eq_true_of_not_eq_false hfiles)] at hever
  cases hever

/-- What a probe makes of the gate. -/
theorem Gate.probe (h : Gate did active everActive heard) {pubKey : String} {v : BindReply Number}
    (hlatch : everActive = true → everActive' = true)
    (hconfirmed : ∀ matched, Confirms did v.answer matched → everActive' = true)
    (hcloses : active' → ∃ matched, Confirms did v.answer matched)
    (hopens : ∀ matched, Confirms did v.answer matched →
      (memberText matched "bind_method" "direct").isOk = true → active') :
    Gate did active' everActive' (heard ++ [(.lookupKey pubKey, v)]) := by
  have hprobes : probesOf (heard ++ [(.lookupKey pubKey, v)]) = probesOf heard ++ [v.answer] := by
    rw [probesOf_append]
    rfl
  refine ⟨fun ha => ?_, fun w matched hw hm hok => ?_, fun w hw matched hm => ?_,
    List.pairwise_append.2 ⟨h.once, List.pairwise_singleton _ _, ?_⟩⟩
  · obtain ⟨matched, hm⟩ := hcloses ha
    exact ⟨v.answer, matched, by rw [hprobes, List.getLast?_concat], hm⟩
  · rw [hprobes, List.getLast?_concat] at hw
    cases hw
    exact hopens matched hm hok
  · rw [hprobes] at hw
    rcases List.mem_append.1 hw with hw | hw
    · exact hlatch (h.latched w hw matched hm)
    · cases List.mem_singleton.1 hw
      exact hconfirmed matched hm
  · rintro x _ y hy _ _
    cases List.mem_singleton.1 hy
    rfl

end Gate

/-! ## A pass of the loop -/

/-- The gate of a binding. -/
def GateOf (did : Did) (b : Binding) (heard : BindExchanges Number) : Prop :=
  Gate did (b.status.state = .active) b.everActive heard

/-- What holds at every wait: no request is filed after an approval. -/
def GateAt (did : Did) (r : BindWait) (b : Binding) (heard : BindExchanges Number) : Prop :=
  GateOf did b heard ∧ (r.registers = true → b.everActive = false)

/-- The key has not been confirmed yet. -/
def Unconfirmed (did : Did) (b : Binding) (heard : BindExchanges Number) : Prop :=
  GateOf did b heard ∧ b.everActive = false

section Pass

variable {config : BindingConfig} {key : BindKey}

/-- What is kept while a bind request is filed. -/
abbrev Files {α : Type} (did : Did) (p : BindTask α) : Prop :=
  Async.Steady (GateAt did) (Unconfirmed did) p

theorem files_fetch {did : Did} {r : BindWait} (hr : r.probes = false) : Files did (fetch r) :=
  steady_fetch (fun _ _ h => ⟨h.1, fun _ => h.2⟩)
    fun v _ _ h => ⟨h.1.other hr (fun _ => h.2) v, h.2⟩

theorem Unconfirmed.modify {did : Did} {f : Binding → Binding}
    (hever : ∀ b, (f b).everActive = b.everActive)
    (hstate : ∀ b, (f b).status.state = .active → b.status.state = .active) (b : Binding)
    (heard : BindExchanges Number) (h : Unconfirmed did b heard) : Unconfirmed did (f b) heard := by
  have hgate : Gate did (b.status.state = .active) false heard := h.2 ▸ h.1
  have hclosed : ¬ (f b).status.state = .active := fun ha => hgate.not_active (hstate b ha)
  refine ⟨?_, (hever b).trans h.2⟩
  unfold GateOf
  rw [hever, h.2]
  exact hgate.congr (iff_of_false hclosed hgate.not_active)

theorem files_modify {did : Did} {f : Binding → Binding}
    (hever : ∀ b, (f b).everActive = b.everActive)
    (hstate : ∀ b, (f b).status.state = .active → b.status.state = .active) :
    Files did (.atomic (Prog.modify f) : BindTask Unit) :=
  Async.steady_modify (Unconfirmed.modify hever hstate)

theorem files_registerDirect (agentStorageId : String) :
    Files config.agentDid (registerDirect config key agentStorageId) := by
  refine Async.steady_bind (files_fetch rfl) fun ⟨status, body⟩ => ?_
  dsimp only
  split
  · exact Async.steady_ofExcept _
  · refine Async.steady_bind (Async.steady_ofExcept _) fun nonce => ?_
    split
    · exact Async.steady_ofExcept _
    · refine Async.steady_bind (files_fetch rfl) fun ⟨status, body⟩ => ?_
      dsimp only
      split
      · exact Async.steady_ofExcept _
      · exact Async.steady_ofExcept _

theorem files_agentStorageIdOf : Files config.agentDid (agentStorageIdOf config) :=
  steady_agentStorageIdOf (files_fetch rfl) fun agentStorageId =>
    Unconfirmed.modify (f := fun b => { b with status := { b.status with agentStorageId } })
      (fun _ => rfl) fun _ h => h

theorem files_fileRequest : Files config.agentDid (fileRequest config key) := by
  refine Async.steady_bind files_agentStorageIdOf fun agentStorageId => ?_
  refine Async.steady_bind (files_registerDirect agentStorageId) fun view => ?_
  refine Async.steady_bind (files_modify (fun _ => rfl) fun _ h => h) fun _ => ?_
  refine Async.steady_bind (Async.steady_ofExcept _) fun runtimeId => ?_
  refine Async.steady_bind (files_modify (fun _ => rfl) fun _ h => h) fun _ => ?_
  exact files_modify (fun _ => rfl) fun _ h => nomatch h

/-- What a probe has been answered with, when it is an entry, decides what it confirms. -/
theorem confirms_iff {did : Did} {status : ℕ} {body : Option Value} {entry : Value}
    (hentry : entryOf status body = .ok (some entry)) {matched : Option Value} :
    Confirms did (.response status body) matched ↔
      memberText (some entry) "did" "" = .ok did.text ∧ matchedRuntime entry = .ok matched ∧
        (memberText matched "id" "").isOk = true := by
  constructor
  · rintro ⟨_, _, entry', h, hentry', hdid, hmatched, hid⟩
    cases h
    rw [hentry] at hentry'
    cases hentry'
    exact ⟨hdid, hmatched, hid⟩
  · rintro ⟨hdid, hmatched, hid⟩
    exact ⟨status, body, entry, rfl, hentry, hdid, hmatched, hid⟩

/-- A probe that confirms nothing closes the gate. -/
theorem GateOf.closed {did : Did} {b : Binding} {heard : BindExchanges Number}
    (h : GateOf did b heard) {v : BindReply Number}
    (hnone : ∀ matched, ¬ Confirms did v.answer matched) (pubKey : String) : Gate did False b.everActive (heard ++ [(.lookupKey pubKey, v)]) :=
  h.probe id (fun m hm => absurd hm (hnone m)) False.elim fun m hm => absurd hm (hnone m)

theorem keeps_onEntry {b : Binding} {heard : BindExchanges Number}
    (h : GateOf config.agentDid b heard) {v : BindReply Number} {status : ℕ} {body : Option Value}
    {entry : Value} (hv : v.answer = .response status body)
    (hentry : entryOf status body = .ok (some entry)) (pubKey : String) :
    (onEntry config entry).Keeps (GateAt config.agentDid) (fun _ => GateOf config.agentDid)
      (fun _ b heard => Gate config.agentDid False b.everActive heard) b
      (heard ++ [(.lookupKey pubKey, v)]) := by
  have hiff {matched : Option Value} : Confirms config.agentDid v.answer matched ↔ _ :=
    hv ▸ confirms_iff hentry
  have hclosed (hnone : ∀ matched, ¬ Confirms config.agentDid v.answer matched) :=
    h.closed hnone pubKey
  unfold onEntry
  refine Async.keeps_bind.2 (Async.keeps_ofExcept.2 ⟨fun resolvedDid hdid => ?_, fun e hdid => ?_⟩)
  · split
    · next hforeign =>
        have hnone : ∀ matched, ¬ Confirms config.agentDid v.answer matched := by
          intro matched hm
          have hours := (hiff.1 hm).1
          rw [hdid] at hours
          exact hforeign (Except.ok.inj hours)
        exact (hclosed hnone).congr (iff_of_false nofun id)
    · next hours =>
        refine Async.keeps_bind.2
          (Async.keeps_ofExcept.2 ⟨fun matched hmatched => ?_, fun e hmatched => ?_⟩)
        · refine Async.keeps_bind.2
            (Async.keeps_ofExcept.2 ⟨fun runtimeId hid => ?_, fun e hid => ?_⟩)
          · have hconfirms : Confirms config.agentDid v.answer matched :=
              hiff.2 ⟨by rw [hdid, not_not.1 hours], hmatched, by rw [hid]; rfl⟩
            have hsame : ∀ matched', Confirms config.agentDid v.answer matched' →
                matched' = matched := by
              intro matched' hm
              have hmatched' := (hiff.1 hm).2.1
              rw [hmatched] at hmatched'
              exact (Except.ok.inj hmatched').symm
            refine Async.keeps_bind.2 ?_
            change Async.Keeps _ _ _ (ite _ _ _) _ _
            split
            · refine Async.keeps_bind.2
                (Async.keeps_ofExcept.2 ⟨fun method _ => ?_, fun e hmethod => ?_⟩)
              · exact h.probe (fun _ => rfl) (fun _ _ => rfl) (fun _ => ⟨matched, hconfirms⟩)
                  fun _ _ _ => rfl
              · refine h.probe (fun _ => rfl) (fun _ _ => rfl) False.elim fun matched' hm hok => ?_
                rw [hsame matched' hm, hmethod] at hok
                cases hok
            · next hactive =>
                exact h.probe (fun _ => rfl) (fun _ _ => rfl) (fun _ => ⟨matched, hconfirms⟩)
                  fun _ _ _ => not_not.1 hactive
          · refine hclosed fun matched' hm => ?_
            obtain ⟨_, hmatched', hid'⟩ := hiff.1 hm
            rw [hmatched] at hmatched'
            cases hmatched'
            rw [hid] at hid'
            cases hid'
        · refine hclosed fun matched' hm => ?_
          obtain ⟨_, hmatched', _⟩ := hiff.1 hm
          rw [hmatched] at hmatched'
          cases hmatched'
  · refine hclosed fun matched hm => ?_
    have hours := (hiff.1 hm).1
    rw [hdid] at hours
    cases hours

/-- The key does not resolve: the gate closes, or a bind request is filed. -/
theorem keeps_onUnresolved {b : Binding} {heard : BindExchanges Number}
    (h : GateOf config.agentDid b heard) {v : BindReply Number}
    (hnone : ∀ matched, ¬ Confirms config.agentDid v.answer matched) (pubKey : String) :
    (onUnresolved config key).Keeps (GateAt config.agentDid) (fun _ => GateOf config.agentDid)
      (fun _ b heard => Gate config.agentDid False b.everActive heard) b
      (heard ++ [(.lookupKey pubKey, v)]) := by
  have hclosed := h.closed hnone pubKey
  unfold onUnresolved
  change Async.Keeps _ _ _ (ite _ _ _) _ _
  split
  · split
    · exact hclosed.congr (iff_of_false nofun id)
    · next hstate =>
        refine hclosed.congr (iff_of_false ?_ id)
        rw [not_not.1 hstate]
        exact nofun
  · next hever =>
      have hnever : b.everActive = false := Bool.eq_false_iff.2 hever
      have hopen : ¬ b.status.state = .active := by
        unfold GateOf at h
        rw [hnever] at h
        exact h.not_active
      have hgate : GateOf config.agentDid b (heard ++ [(.lookupKey pubKey, v)]) :=
        hclosed.congr (iff_of_false hopen id)
      split
      · refine (files_fileRequest b _ ⟨hgate, hnever⟩).mono (fun _ _ _ h => h.1) ?_
        intro _ b' heard' h
        have hgate' : Gate config.agentDid (b'.status.state = .active) false heard' := h.2 ▸ h.1
        rw [h.2]
        exact hgate'.congr (iff_of_false id hgate'.not_active)
      · split
        · exact hclosed.congr (iff_of_false nofun id)
        · exact hclosed.congr (iff_of_false nofun id)

theorem not_confirms_of_entryOf {did : Did} {v : Answer Number} {status : ℕ}
    {body : Option Value} (hv : v = .response status body)
    (hentry : ∀ entry, entryOf status body ≠ .ok (some entry)) (matched : Option Value) :
    ¬ Confirms did v matched := by
  rintro ⟨_, _, entry, h, hentry', _⟩
  rw [hv] at h
  cases h
  exact hentry entry hentry'

theorem keeps_attempt {b : Binding} {heard : BindExchanges Number}
    (h : GateOf config.agentDid b heard) :
    (attempt config key).Keeps (GateAt config.agentDid) (fun _ => GateOf config.agentDid)
      (fun _ b heard => Gate config.agentDid False b.everActive heard) b heard := by
  unfold attempt lookupLiveBinding fetch
  refine Async.keeps_bind.2 (Async.keeps_bind.2 ⟨⟨h, nofun⟩, fun v => ?_⟩)
  dsimp only
  cases hv : v.answer with
  | lost =>
      refine h.closed ?_ _
      rintro matched ⟨_, _, _, hlost, _⟩
      rw [hv] at hlost
      cases hlost
  | response status body =>
      refine Async.keeps_ofExcept.2 ⟨fun entry? hentry => ?_, fun e hentry => ?_⟩
      · cases entry? with
        | some entry => exact keeps_onEntry h hv hentry _
        | none =>
            refine keeps_onUnresolved h (not_confirms_of_entryOf hv fun entry hsome => ?_) _
            rw [hentry] at hsome
            cases hsome
      · refine h.closed (not_confirms_of_entryOf hv fun entry hsome => ?_) _
        rw [hentry] at hsome
        cases hsome

/-- Every pass of the loop keeps the gate right. -/
theorem keeps_maintain {b : Binding} {heard : BindExchanges Number}
    (h : GateOf config.agentDid b heard) :
    (maintain config key).Keeps (GateAt config.agentDid) (fun _ => GateOf config.agentDid)
      (fun _ _ _ => False) b heard := by
  have hsleep {b : Binding} {heard : BindExchanges Number} (h : GateOf config.agentDid b heard) :
      (Async.await .sleep fun _ => .ret true : BindTask Bool).Keeps (GateAt config.agentDid)
        (fun _ => GateOf config.agentDid) (fun _ _ _ => False) b heard :=
    ⟨⟨h, nofun⟩, fun v => h.other (r := .sleep) rfl nofun v⟩
  refine Async.keeps_bind.2 (Async.keeps_onError.2 ?_)
  refine (keeps_attempt h).mono (fun _ _ _ h => hsleep h) fun e b' heard' h => ?_
  exact hsleep (h.congr (iff_of_false nofun id))

end Pass

/-! ## The gate over a run -/

section Run

variable (config : BindingConfig)

/-- The state of the gate after any sequence of answers, and what may be asked next. -/
theorem gate_runBinding (replies : List (BindReply Number)) :
    GateOf config.agentDid (runBinding config replies).state (runBinding config replies).heard ∧
      ∀ r, (runBinding config replies).request = some r → r.registers = true →
        (runBinding config replies).state.everActive = false := by
  have hstart (state : BindState) (detail pubKey : String) (hstate : state ≠ .active) :
      GateOf config.agentDid (startedWith state detail pubKey) [] :=
    gate_nil.congr (iff_of_false hstate id)
  unfold runBinding
  split
  · exact ⟨hstart _ _ _ nofun, nofun⟩
  · split
    · exact ⟨hstart _ _ _ nofun, nofun⟩
    · next key _ =>
        have hpending := hstart .pending "resolving agent and filing bind request" key.pubKey nofun
        have hholds : Cycle.Holds (GateAt config.agentDid) (fun _ => GateOf config.agentDid)
            (Cycle.run (maintain config key) _ replies) :=
          Cycle.run_holds (fun _ _ h => keeps_maintain h) hpending replies
        exact ⟨hholds.always (fun _ _ _ h => h.1) fun _ _ _ h => h,
          fun r hr => (hholds.waits hr).2⟩

end Run

/-! ## Entries with text members -/

/-- A member that is there is a text. -/
def HasTexts (v : Value) (ks : List String) : Prop :=
  ∀ k ∈ ks, ∀ w ∈ v.members.lookup k, w = .null ∨ ∃ s, w = .str s

/-- The members of an entry that the loop reads are texts. -/
structure TextEntry (entry : Value) : Prop where
  did : HasTexts entry ["did"]
  runtime : ∀ w ∈ entry.members.lookup "matched_runtime", HasTexts w ["id", "bind_method"]

/-- A probe that is answered with an entry is answered with one that has text members. -/
def TextAnswer (v : Answer Number) : Prop :=
  ∀ status body entry, v = .response status body → entryOf status body = .ok (some entry) →
    TextEntry entry

/-- A probe is answered with an entry whose `did` is the agent's DID. -/
def NamesAgent (did : Did) (v : Answer Number) : Prop :=
  ∃ status body entry, v = .response status body ∧ entryOf status body = .ok (some entry) ∧
    entry.members.lookup "did" = some (.str did.text)

theorem prop_members {v : Value} (hv : v ≠ .null) (k : String) :
    prop (some v) k = .ok (v.members.lookup k) := by
  cases v with
  | null => exact absurd rfl hv
  | bool | num | str | arr | obj => rfl

/-- An optional text member is read as it is. -/
theorem memberText_text {v : Value} (hv : v ≠ .null) {k absent : String} {ks : List String}
    (htexts : HasTexts v ks) (hk : k ∈ ks) :
    ∃ s, memberText (some v) k absent = .ok s ∧
      (s = absent ∨ v.members.lookup k = some (.str s)) := by
  unfold memberText
  rw [prop_members hv, ok_bind]
  cases hw : v.members.lookup k with
  | none => exact ⟨absent, rfl, Or.inl rfl⟩
  | some w =>
      rcases htexts k hk w hw with rfl | ⟨s, rfl⟩
      · exact ⟨absent, rfl, Or.inl rfl⟩
      · exact ⟨s, rfl, Or.inr rfl⟩

theorem entryOf_ne_null {status : ℕ} {body : Option Value} {entry : Value}
    (h : entryOf status body = .ok (some entry)) : entry ≠ .null := by
  rintro rfl
  unfold entryOf at h
  split_ifs at h
  · cases h
  · cases h
  · obtain ⟨data, hdata, hpure⟩ := bind_eq_ok.1 h
    cases hpure
    unfold dataOf at hdata
    split at hdata
    · cases hdata
    · obtain ⟨v, _, hv⟩ := bind_eq_ok.1 hdata
      rcases v with _ | v
      · cases hv
      · cases v <;> cases hv

theorem matchedRuntime_text {entry : Value} (hne : entry ≠ .null) (htexts : TextEntry entry) :
    ∃ w, w ≠ .null ∧ matchedRuntime entry = .ok (some w) ∧ HasTexts w ["id", "bind_method"] := by
  unfold matchedRuntime
  rw [prop_members hne, ok_bind]
  have hempty : HasTexts (.obj []) ["id", "bind_method"] := by
    rintro k _ w ⟨⟩
  cases hw : entry.members.lookup "matched_runtime" with
  | none => exact ⟨.obj [], nofun, rfl, hempty⟩
  | some w =>
      have htext := htexts.runtime w hw
      cases w with
      | null => exact ⟨.obj [], nofun, rfl, hempty⟩
      | bool | num | str | arr | obj =>
          refine ⟨_, ?_, rfl, htext⟩
          nofun

/-- With text members, an entry that names the agent confirms the binding. -/
theorem exists_confirms {did : Did} {v : Answer Number} (htext : TextAnswer v)
    (hnames : NamesAgent did v) : ∃ matched, Confirms did v matched ∧
      (memberText matched "bind_method" "direct").isOk = true := by
  obtain ⟨status, body, entry, rfl, hentry, hdid⟩ := hnames
  have hne := entryOf_ne_null hentry
  obtain ⟨w, hw, hmatched, htexts⟩ :=
    matchedRuntime_text hne (htext status body entry rfl hentry)
  obtain ⟨id, hid, _⟩ := memberText_text hw htexts List.mem_cons_self
  obtain ⟨method, hmethod, _⟩ := memberText_text hw htexts
    (List.mem_cons_of_mem _ List.mem_cons_self)
  have hread : memberText (some entry) "did" "" = .ok did.text := by
    unfold memberText
    rw [prop_members hne, ok_bind, hdid]
    rfl
  exact ⟨some w, (confirms_iff hentry).2 ⟨hread, hmatched, by rw [hid]; rfl⟩,
    by rw [hmethod]; rfl⟩

theorem names_of_confirms {did : Did} {v : Answer Number} (htext : TextAnswer v)
    {matched : Option Value} (h : Confirms did v matched) : NamesAgent did v := by
  obtain ⟨status, body, entry, rfl, hentry, hdid, _⟩ := h
  obtain ⟨s, hs, hmember⟩ : ∃ s, memberText (some entry) "did" "" = .ok s ∧
      (s = "" ∨ entry.members.lookup "did" = some (.str s)) :=
    memberText_text (entryOf_ne_null hentry) (htext status body entry rfl hentry).did
      List.mem_cons_self
  rw [hdid] at hs
  cases hs
  exact ⟨status, body, entry, rfl, hentry, hmember.resolve_left did.ne_empty⟩

/-- The gate is open exactly when the last probe was answered with an entry of this agent, and
once there has been such an answer no bind request is filed any more. -/
theorem gate_follows_probes (config : BindingConfig) (replies : List (BindReply Number))
    (htext : ∀ v ∈ probesOf (runBinding config replies).heard, TextAnswer v) :
    ((runBinding config replies).state.block = none ↔
      ∃ v, (probesOf (runBinding config replies).heard).getLast? = some v ∧
        NamesAgent config.agentDid v) ∧
    ∀ before x after, (runBinding config replies).heard = before ++ x :: after →
      x.1.probes = true → NamesAgent config.agentDid x.2.answer →
        (∀ y ∈ after, y.1.registers = false) ∧
          ∀ r, (runBinding config replies).request = some r → r.registers = false := by
  obtain ⟨hgate, hnext⟩ := gate_runBinding config replies
  have hblock : (runBinding config replies).state.block = none ↔
      (runBinding config replies).state.status.state = .active := by
    unfold Binding.block
    split_ifs with hactive
    · exact iff_of_true rfl hactive
    · exact iff_of_false nofun hactive
  refine ⟨hblock.trans ⟨?_, ?_⟩, ?_⟩
  · intro hactive
    obtain ⟨v, matched, hv, hm⟩ := hgate.closes hactive
    exact ⟨v, hv, names_of_confirms (htext v (List.mem_of_getLast? hv)) hm⟩
  · rintro ⟨v, hv, hnames⟩
    obtain ⟨matched, hm, hmethod⟩ :=
      exists_confirms (htext v (List.mem_of_getLast? hv)) hnames
    exact hgate.opens v matched hv hm hmethod
  · intro before x after hheard hprobe hnames
    have hmem : x.2.answer ∈ probesOf (runBinding config replies).heard := by
      rw [hheard]
      exact List.mem_map.2 ⟨x, List.mem_filter.2 ⟨by simp, hprobe⟩, rfl⟩
    obtain ⟨matched, hm, _⟩ := exists_confirms (htext _ hmem) hnames
    constructor
    · intro y hy
      have honce := hgate.once
      rw [hheard] at honce
      obtain ⟨_, hafter, _⟩ := List.pairwise_append.1 honce
      exact (List.pairwise_cons.1 hafter).1 y hy hprobe ⟨matched, hm⟩
    · intro r hr
      by_contra hfiles
      have hnever := hnext r hr (Bool.eq_true_of_not_eq_false hfiles)
      have hever := hgate.latched _ hmem matched hm
      rw [hnever] at hever
      cases hever

/-! ## An approval -/

/-- A seller whose key does not resolve yet. -/
def demoBinding : BindingConfig where
  agentDid := ⟨"did:kite:corp-kite:example-data-seller-agent", by decide⟩
  identityBaseUrl := "https://identity.example"
  privateKey := some ⟨"secp256k1:AiIi", fun message => message⟩
  registers := true
  runtimeEnv := "example"
  describe _ := "TypeError: fetch failed"

/-- A lookup that answers with an entry of an agent. -/
def entryReply (did : String) : BindReply Number :=
  ⟨false, .response 200 (some (.obj [("data", .obj [("did", .str did)])]))⟩

theorem textAnswer_entryReply (did : String) : TextAnswer (entryReply did).answer := by
  rintro status body entry h hentry
  cases h
  cases hentry
  constructor
  · intro k hk w hw
    cases List.mem_singleton.1 hk
    exact Or.inr ⟨did, (Option.some.inj hw).symm⟩
  · rintro w ⟨⟩

/-- An approval opens the gate. -/
theorem demoBinding_open :
    (runBinding demoBinding [entryReply demoBinding.agentDid.text]).state.block = none := by
  have hprobes : probesOf (runBinding demoBinding
      [entryReply demoBinding.agentDid.text]).heard =
        [(entryReply demoBinding.agentDid.text).answer] := rfl
  refine (gate_follows_probes demoBinding [entryReply demoBinding.agentDid.text] ?_).1.2
    ⟨_, by rw [hprobes]; rfl, 200, _, _, rfl, rfl, rfl⟩
  intro v hv
  rw [hprobes] at hv
  cases List.mem_singleton.1 hv
  exact textAnswer_entryReply _

end DataSeller

end Coordination
