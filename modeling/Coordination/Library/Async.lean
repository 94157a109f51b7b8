import Mathlib.Data.Nat.Notation
import Coordination.Library.Machine
import Coordination.Library.Prog

/-!
# Suspendable computations and their interleaving

`Async` is the tree of what a computation of an event loop may do: read and write
the shared state, start another job, wait for the answer to a request, return or
fail. Between two waits it runs alone; while it waits, everything else may run.

A `System` is a set of jobs over such a state. Its machine interleaves the tasks
in every order: an answer may arrive late, in another order than it was asked
for, or never. `Async.Ensures` is the rule a task is verified with, one wait at a
time, and `System.run_invariant` is what it gives for every run.
-/

namespace Coordination

namespace Library

/-- A computation that fails with `ε`, shares a state `σ`, asks requests `ρ`,
gets answers `ν` and starts jobs `κ`. -/
inductive Async (ε σ ρ ν κ α : Type) where
  | ret (a : α)
  | fail (e : ε)
  | read (k : σ → Async ε σ ρ ν κ α)
  | write (s : σ) (k : Async ε σ ρ ν κ α)
  | spawn (j : κ) (k : Async ε σ ρ ν κ α)
  | await (r : ρ) (k : ν → Async ε σ ρ ν κ α)

namespace Async

variable {ε σ τ ρ ν κ α β : Type}

def bind : Async ε σ ρ ν κ α → (α → Async ε σ ρ ν κ β) → Async ε σ ρ ν κ β
  | ret a, f => f a
  | fail e, _ => fail e
  | read k, f => read fun s => bind (k s) f
  | write s k, f => write s (bind k f)
  | spawn j k, f => spawn j (bind k f)
  | await r k, f => await r fun v => bind (k v) f

instance : Monad (Async ε σ ρ ν κ) where
  pure := ret
  bind := bind

/-- Run a handler when a computation fails. -/
def onError : Async ε σ ρ ν κ α → (ε → Async ε σ ρ ν κ α) → Async ε σ ρ ν κ α
  | ret a, _ => ret a
  | fail e, handler => handler e
  | read k, handler => read fun s => onError (k s) handler
  | write s k, handler => write s (onError k handler)
  | spawn j k, handler => spawn j (onError k handler)
  | await r k, handler => await r fun v => onError (k v) handler

/-- A computation on a part of the state. -/
def within (part : σ → τ) (put : τ → σ → σ) : Async ε τ ρ ν κ α → Async ε σ ρ ν κ α
  | ret a => ret a
  | fail e => fail e
  | read k => read fun s => within part put (k (part s))
  | write t k => read fun s => write (put t s) (within part put k)
  | spawn j k => spawn j (within part put k)
  | await r k => await r fun v => within part put (k v)

/-- A computation that never waits. -/
def atomic (p : Prog ε σ α) : Async ε σ ρ ν κ α :=
  read fun s =>
    match p.run s with
    | (.ok a, s') => write s' (ret a)
    | (.error e, s') => write s' (fail e)

def ofExcept (x : Except ε α) : Async ε σ ρ ν κ α :=
  match x with
  | .ok a => ret a
  | .error e => fail e

/-- Start a job and go on. -/
def start (j : κ) : Async ε σ ρ ν κ Unit :=
  spawn j (ret ())

@[simp] theorem pure_eq (a : α) : (pure a : Async ε σ ρ ν κ α) = ret a := rfl

@[simp] theorem bind_eq (p : Async ε σ ρ ν κ α) (f : α → Async ε σ ρ ν κ β) :
    p >>= f = p.bind f := rfl

theorem within_bind (part : σ → τ) (put : τ → σ → σ) (p : Async ε τ ρ ν κ α)
    (f : α → Async ε τ ρ ν κ β) :
    within part put (p.bind f) = (within part put p).bind fun a => within part put (f a) := by
  induction p with
  | ret a => rfl
  | fail e => rfl
  | read k ih => exact congrArg read (funext fun s => ih (part s))
  | write t k ih => exact congrArg read (funext fun s => congrArg (write (put t s)) ih)
  | spawn j k ih => exact congrArg (spawn j) ih
  | await r k ih => exact congrArg (await r) (funext ih)

/-! ## Running to the next wait -/

/-- How a computation stops: it is over, or it waits for an answer. -/
inductive Pause (ε σ ρ ν κ α : Type) where
  | ended (result : Except ε α)
  | waits (r : ρ) (k : ν → Async ε σ ρ ν κ α)

/-- Run to the next wait; also the jobs started on the way. -/
def advance : Async ε σ ρ ν κ α → σ → Pause ε σ ρ ν κ α × σ × List κ
  | ret a, s => (.ended (.ok a), s, [])
  | fail e, s => (.ended (.error e), s, [])
  | read k, s => advance (k s) s
  | write s' k, _ => advance k s'
  | spawn j k, s =>
    let (pause, s', js) := advance k s
    (pause, s', j :: js)
  | await r k, s => (.waits r k, s, [])

end Async

/-! ## What a task guarantees -/

/-- The assumptions a task is verified under: the invariant of the shared state
between waits, what any step may do to the state, what sending a request and
taking the next step do to it, and which answers arrive in which states. -/
structure Rules (σ ρ ν μ : Type) where
  invariant : σ → Prop
  rely : σ → σ → Prop
  sent : ρ → σ → σ
  entered : μ → σ → σ
  answers : ρ → ν → σ → Prop

/-- The rules with a fact as part of the invariant. -/
def Rules.and {σ ρ ν μ : Type} (R : Rules σ ρ ν μ) (F : σ → Prop) : Rules σ ρ ν μ :=
  { R with invariant := fun s => R.invariant s ∧ F s }

namespace Async

variable {ε σ ρ ν κ μ α β : Type}

/-- From state `s` on, every write is one the others may rely on, every wait is
reached with the invariant, and the computation returns with `Q` or fails with
`E`. -/
def Ensures (R : Rules σ ρ ν μ) (Q : α → σ → Prop) (E : ε → σ → Prop) :
    Async ε σ ρ ν κ α → σ → Prop
  | ret a, s => Q a s
  | fail e, s => E e s
  | read k, s => Ensures R Q E (k s) s
  | write s' k, s => R.rely s s' ∧ Ensures R Q E k s'
  | spawn _ k, s => Ensures R Q E k s
  | await r k, s => R.invariant (R.sent r s) ∧ ∀ v m s', R.invariant s' →
      R.rely (R.sent r s) s' → R.answers r v (R.entered m s') →
        Ensures R Q E (k v) (R.entered m s')

/-- The same, for a computation that has stopped. -/
def Pause.Ensures (R : Rules σ ρ ν μ) (Q : α → σ → Prop) (E : ε → σ → Prop) :
    Pause ε σ ρ ν κ α → σ → Prop
  | .ended (.ok a), s => Q a s
  | .ended (.error e), s => E e s
  | .waits r k, s => Async.Ensures R Q E (await r k) s

variable {R : Rules σ ρ ν μ} {Q : α → σ → Prop} {E : ε → σ → Prop}

theorem ensures_bind {Q' : β → σ → Prop} {p : Async ε σ ρ ν κ α} {f : α → Async ε σ ρ ν κ β}
    {s : σ} (hp : Ensures R Q E p s) (hf : ∀ a s, Q a s → Ensures R Q' E (f a) s) :
    Ensures R Q' E (p.bind f) s := by
  induction p generalizing s with
  | ret a => exact hf a s hp
  | fail e => exact hp
  | read k ih => exact ih s hp
  | write s' k ih => exact ⟨hp.1, ih hp.2⟩
  | spawn j k ih => exact ih hp
  | await r k ih => exact ⟨hp.1, fun v m s' hs' hrely ha => ih v (hp.2 v m s' hs' hrely ha)⟩

theorem ensures_onError {E' : ε → σ → Prop} {p : Async ε σ ρ ν κ α}
    {handler : ε → Async ε σ ρ ν κ α} {s : σ} (hp : Ensures R Q E' p s)
    (hhandler : ∀ e s, E' e s → Ensures R Q E (handler e) s) :
    Ensures R Q E (p.onError handler) s := by
  induction p generalizing s with
  | ret a => exact hp
  | fail e => exact hhandler e s hp
  | read k ih => exact ih s hp
  | write s' k ih => exact ⟨hp.1, ih hp.2⟩
  | spawn j k ih => exact ih hp
  | await r k ih => exact ⟨hp.1, fun v m s' hs' hrely ha => ih v (hp.2 v m s' hs' hrely ha)⟩

theorem ensures_atomic {p : Prog ε σ α} {s : σ} (hrely : R.rely s (p.run s).2)
    (hok : ∀ a s', p.run s = (.ok a, s') → Q a s')
    (herror : ∀ e s', p.run s = (.error e, s') → E e s') :
    Ensures R Q E (atomic p : Async ε σ ρ ν κ α) s := by
  unfold atomic
  simp only [Ensures]
  cases h : p.run s with
  | mk r s' =>
      rw [h] at hrely
      cases r with
      | ok a => exact ⟨hrely, hok a s' h⟩
      | error e => exact ⟨hrely, herror e s' h⟩

/-- What a program ends with, as a computation that never waits. -/
theorem ensures_atomic_of_prog {E' : σ → Prop} {p : Prog ε σ α} {s : σ}
    (hrely : R.rely s (p.run s).2) (hp : p.Ensures Q E' s) :
    Ensures R Q (fun _ => E') (atomic p : Async ε σ ρ ν κ α) s := by
  unfold Prog.Ensures at hp
  refine ensures_atomic hrely ?_ ?_
  · intro a s' h
    rwa [h] at hp
  · intro e s' h
    rwa [h] at hp

theorem ensures_ofExcept {x : Except ε α} {s : σ} (hok : ∀ a, x = .ok a → Q a s)
    (herror : ∀ e, x = .error e → E e s) :
    Ensures R Q E (ofExcept x : Async ε σ ρ ν κ α) s := by
  cases x with
  | ok a => exact hok a rfl
  | error e => exact herror e rfl

theorem ensures_ofExcept_bind {x : Except ε α} {f : α → Async ε σ ρ ν κ β} {Q : β → σ → Prop}
    {s : σ} (hok : ∀ a, x = .ok a → Ensures R Q E (f a) s) (herror : ∀ e, x = .error e → E e s) :
    Ensures R Q E ((ofExcept x).bind f) s := by
  cases x with
  | ok a => exact hok a rfl
  | error e => exact herror e rfl

/-- What has been ensured is there when the computation stops. -/
theorem ensures_advance (hrefl : ∀ s, R.rely s s)
    (htrans : ∀ {s t u}, R.rely s t → R.rely t u → R.rely s u)
    {p : Async ε σ ρ ν κ α} {s : σ} (hp : Ensures R Q E p s) :
    R.rely s (p.advance s).2.1 ∧ (p.advance s).1.Ensures R Q E (p.advance s).2.1 := by
  induction p generalizing s with
  | ret a => exact ⟨hrefl s, hp⟩
  | fail e => exact ⟨hrefl s, hp⟩
  | read k ih => exact ih s hp
  | write s' k ih =>
      obtain ⟨hrely, hstop⟩ := ih hp.2
      exact ⟨htrans hp.1 hrely, hstop⟩
  | spawn j k ih => exact ih hp
  | await r k ih => exact ⟨hrefl s, hp⟩

/-! ## Tasks that keep the invariant -/

/-- From every state with the invariant, the computation keeps it throughout. -/
def Stable (R : Rules σ ρ ν μ) (p : Async ε σ ρ ν κ α) : Prop :=
  ∀ s, R.invariant s → Ensures R (fun _ => R.invariant) (fun _ => R.invariant) p s

theorem stable_ret (a : α) : Stable R (ret a : Async ε σ ρ ν κ α) :=
  fun _ hs => hs

theorem stable_fail (e : ε) : Stable R (fail e : Async ε σ ρ ν κ α) :=
  fun _ hs => hs

theorem stable_ofExcept (x : Except ε α) : Stable R (ofExcept x : Async ε σ ρ ν κ α) :=
  fun _ hs => ensures_ofExcept (fun _ _ => hs) (fun _ _ => hs)

theorem stable_read {k : σ → Async ε σ ρ ν κ α} (hk : ∀ s, Stable R (k s)) :
    Stable R (read k) :=
  fun s hs => hk s s hs

theorem stable_start (j : κ) : Stable R (start j : Async ε σ ρ ν κ Unit) :=
  fun _ hs => hs

theorem stable_atomic {p : Prog ε σ α} (hrely : ∀ s, R.rely s (p.run s).2)
    (hp : ∀ s, R.invariant s → R.invariant (p.run s).2) :
    Stable R (atomic p : Async ε σ ρ ν κ α) := by
  intro s hs
  have hend := hp s hs
  refine ensures_atomic (hrely s) ?_ ?_
  · intro a s' h
    rwa [h] at hend
  · intro e s' h
    rwa [h] at hend

theorem stable_bind {p : Async ε σ ρ ν κ α} {f : α → Async ε σ ρ ν κ β} (hp : Stable R p)
    (hf : ∀ a, Stable R (f a)) : Stable R (p.bind f) :=
  fun s hs => ensures_bind (hp s hs) fun a s' hs' => hf a s' hs'

theorem stable_onError {p : Async ε σ ρ ν κ α} {handler : ε → Async ε σ ρ ν κ α}
    (hp : Stable R p) (hhandler : ∀ e, Stable R (handler e)) :
    Stable R (p.onError handler) :=
  fun s hs => ensures_onError (hp s hs) fun e s' hs' => hhandler e s' hs'

/-- What a computation without state returns may be used in what follows. -/
theorem stable_ofExcept_bind {x : Except ε α} {f : α → Async ε σ ρ ν κ β}
    (hf : ∀ a, x = .ok a → Stable R (f a)) : Stable R ((ofExcept x).bind f) := by
  cases x with
  | ok a => exact hf a rfl
  | error e => exact stable_fail e

/-- A fact that every step keeps may be assumed from where it holds. -/
theorem ensures_of_and {F : σ → Prop} (hF : ∀ s t, R.rely s t → F s → F t)
    (hsent : ∀ r s, R.rely s (R.sent r s)) (hentered : ∀ m s, R.rely s (R.entered m s))
    {p : Async ε σ ρ ν κ α} {s : σ} (hs : F s)
    (hp : Ensures (R.and F) (fun _ => (R.and F).invariant) (fun _ => (R.and F).invariant) p s) :
    Ensures R (fun _ => R.invariant) (fun _ => R.invariant) p s := by
  induction p generalizing s with
  | ret a => exact hp.1
  | fail e => exact hp.1
  | read k ih => exact ih s hs hp
  | write s' k ih => exact ⟨hp.1, ih (hF _ _ hp.1 hs) hp.2⟩
  | spawn j k ih => exact ih hs hp
  | await r k ih =>
      refine ⟨hp.1.1, fun v m s' hs' hrely ha => ?_⟩
      have hlater : F s' := hF _ _ hrely (hF _ _ (hsent r s) hs)
      exact ih v (hF _ _ (hentered m s') hlater) (hp.2 v m s' ⟨hs', hlater⟩ hrely ha)

/-- A wait whose answers need no looking at. -/
theorem stable_await {r : ρ} {k : ν → Async ε σ ρ ν κ α}
    (hsent : ∀ s, R.invariant s → R.invariant (R.sent r s))
    (hentered : ∀ m s, R.invariant s → R.invariant (R.entered m s))
    (hk : ∀ v, Stable R (k v)) : Stable R (await r k) :=
  fun s hs => ⟨hsent s hs, fun v m s' hs' _ _ => hk v _ (hentered m s' hs')⟩

end Async

/-! ## Interleaving -/

/-- Jobs over a shared state. `sent` is what sending a request does to the state,
`entered` what a moment in time brings with it, and `outside` what happens
without a task. -/
structure System (ε σ ρ ν κ μ η : Type) where
  init : σ
  body : κ → Async ε σ ρ ν κ Unit
  /-- The jobs that come from outside; the others are started by jobs. -/
  isRequest : κ → Bool
  sent : ρ → σ → σ
  entered : μ → σ → σ
  outside : η → σ → Option σ

namespace System

variable {ε σ ρ ν κ μ η : Type}

/-- The shared state, the tasks that wait and the jobs that have been started. -/
structure Config (ε σ ρ ν κ : Type) where
  state : σ
  waiting : List (ρ × (ν → Async ε σ ρ ν κ Unit))
  ready : List κ

inductive Event (ν κ μ η : Type) where
  | request (j : κ) (m : μ)
  | begin (i : ℕ) (m : μ)
  | answer (i : ℕ) (v : ν) (m : μ)
  | outside (e : η)

variable (S : System ε σ ρ ν κ μ η)

/-- Run a task to its next wait. -/
def settle (c : Config ε σ ρ ν κ) (p : Async ε σ ρ ν κ Unit) (s : σ) : Config ε σ ρ ν κ :=
  match p.advance s with
  | (.ended _, s', js) => { c with state := s', ready := c.ready ++ js }
  | (.waits r k, s', js) =>
    { state := S.sent r s', waiting := c.waiting ++ [(r, k)], ready := c.ready ++ js }

/-- The machine of all interleavings. -/
def machine : Machine (Config ε σ ρ ν κ) (Event ν κ μ η) where
  init := ⟨S.init, [], []⟩
  step c
    | .request j m =>
      if S.isRequest j then some (S.settle c (S.body j) (S.entered m c.state)) else none
    | .begin i m => c.ready[i]?.map fun j =>
      S.settle { c with ready := c.ready.eraseIdx i } (S.body j) (S.entered m c.state)
    | .answer i v m => c.waiting[i]?.map fun (_, k) =>
      S.settle { c with waiting := c.waiting.eraseIdx i } (k v) (S.entered m c.state)
    | .outside e => (S.outside e c.state).map fun s => { c with state := s }

/-- A task that is over before it waits. -/
theorem settle_of_ended {c : Config ε σ ρ ν κ} {p : Async ε σ ρ ν κ Unit} {s s' : σ}
    {result : Except ε Unit} {js : List κ} (h : p.advance s = (.ended result, s', js)) :
    S.settle c p s = { c with state := s', ready := c.ready ++ js } := by
  unfold settle
  rw [h]

/-- A task that waits. -/
theorem settle_of_waits {c : Config ε σ ρ ν κ} {p : Async ε σ ρ ν κ Unit} {s s' : σ} {r : ρ}
    {k : ν → Async ε σ ρ ν κ Unit} {js : List κ} (h : p.advance s = (.waits r k, s', js)) :
    S.settle c p s =
      { state := S.sent r s', waiting := c.waiting ++ [(r, k)], ready := c.ready ++ js } := by
  unfold settle
  rw [h]

/-- A condition on the steps of a run, by what the step is. -/
structure Condition (σ ρ ν κ η : Type) where
  starts : κ → σ → Prop
  answers : ρ → ν → σ → Prop
  outside : η → σ → Prop

/-- The condition at one step. -/
def Meets (C : Condition σ ρ ν κ η) (c : Config ε σ ρ ν κ) : Event ν κ μ η → Prop
  | .request j m => C.starts j (S.entered m c.state)
  | .begin i m => ∀ j, c.ready[i]? = some j → C.starts j (S.entered m c.state)
  | .answer i v m => ∀ r k, c.waiting[i]? = some (r, k) → C.answers r v (S.entered m c.state)
  | .outside e => C.outside e c.state

/-- The rules for the tasks of a system under a condition. -/
def rules (C : Condition σ ρ ν κ η) (I : σ → Prop) (G : σ → σ → Prop) : Rules σ ρ ν μ where
  invariant := I
  rely := G
  sent := S.sent
  entered := S.entered
  answers := C.answers

/-- A task that keeps an invariant. -/
def Keeps (C : Condition σ ρ ν κ η) (I : σ → Prop) (G : σ → σ → Prop) {α : Type}
    (p : Async ε σ ρ ν κ α) (s : σ) : Prop :=
  p.Ensures (S.rules C I G) (fun _ => I) (fun _ => I) s

/-- What every step outside of the tasks is: one the tasks may rely on. -/
structure Relies (G : σ → σ → Prop) : Prop where
  refl : ∀ s, G s s
  trans : ∀ {s t u}, G s t → G t u → G s u
  sent : ∀ r s, G s (S.sent r s)
  entered : ∀ m s, G s (S.entered m s)
  outside : ∀ e s s', S.outside e s = some s' → G s s'

/-- No condition on the steps. -/
def Condition.any : Condition σ ρ ν κ η where
  starts _ _ := True
  answers _ _ _ := True
  outside _ _ := True

theorem meets_any (es : List (Event ν κ μ η)) : S.machine.Meets (S.Meets Condition.any) es := by
  refine S.machine.meets_of_forall (fun c e => ?_) es
  cases e with
  | request j m => exact trivial
  | begin i m => exact fun _ _ => trivial
  | answer i v m => exact fun _ _ _ => trivial
  | outside e => exact trivial

variable {S} {C : Condition σ ρ ν κ η} {I : σ → Prop} {G : σ → σ → Prop}

/-- The invariant holds, and every waiting task keeps it when it goes on. -/
def Good (S : System ε σ ρ ν κ μ η) (C : Condition σ ρ ν κ η) (I : σ → Prop)
    (G : σ → σ → Prop) (c : Config ε σ ρ ν κ) : Prop :=
  I c.state ∧ ∀ t ∈ c.waiting, ∀ v m s, I s → G c.state s → C.answers t.1 v (S.entered m s) →
    S.Keeps C I G (t.2 v) (S.entered m s)

theorem good_settle (hG : S.Relies G) {c : Config ε σ ρ ν κ} {p : Async ε σ ρ ν κ Unit} {s : σ}
    (hs : G c.state s)
    (hwaiting : ∀ t ∈ c.waiting, ∀ v m s, I s → G c.state s → C.answers t.1 v (S.entered m s) →
      S.Keeps C I G (t.2 v) (S.entered m s))
    (hp : S.Keeps C I G p s) : Good S C I G (S.settle c p s) := by
  obtain ⟨hrely, hstop⟩ := Async.ensures_advance (R := S.rules C I G) hG.refl hG.trans hp
  have hfrom := hG.trans hs hrely
  unfold settle
  cases h : p.advance s with
  | mk pause rest =>
      obtain ⟨s', js⟩ := rest
      rw [h] at hstop hfrom
      cases pause with
      | ended result =>
          have hI : I s' := by cases result <;> exact hstop
          exact ⟨hI, fun t ht v m s'' hI'' hG'' =>
            hwaiting t ht v m s'' hI'' (hG.trans hfrom hG'')⟩
      | waits r k =>
          refine ⟨hstop.1, ?_⟩
          intro t ht
          rcases List.mem_append.1 ht with ht | ht
          · intro v m s'' hI'' hG''
            exact hwaiting t ht v m s'' hI'' (hG.trans hfrom (hG.trans (hG.sent r s') hG''))
          · rw [List.mem_singleton.1 ht]
            exact hstop.2

section Steps

variable (hG : S.Relies G)
  (hbody : ∀ j m s, I s → C.starts j (S.entered m s) → S.Keeps C I G (S.body j) (S.entered m s))
  (houtside : ∀ e s s', I s → C.outside e s → S.outside e s = some s' → I s')

include hG in
/-- What a task writes before its next wait, the others may rely on. -/
theorem rely_settle {c : Config ε σ ρ ν κ} {p : Async ε σ ρ ν κ Unit} {s : σ}
    (hs : G c.state s) (hp : S.Keeps C I G p s) : G c.state (S.settle c p s).state := by
  have hfrom := hG.trans hs
    (Async.ensures_advance (R := S.rules C I G) hG.refl hG.trans hp).1
  unfold settle
  cases h : p.advance s with
  | mk pause rest =>
      rw [h] at hfrom
      cases pause with
      | ended result => exact hfrom
      | waits r k => exact hG.trans hfrom (hG.sent r _)

include hG hbody houtside

/-- One step keeps the invariant and what the tasks rely on. -/
theorem good_step {c c' : Config ε σ ρ ν κ} {e : Event ν κ μ η} (hc : Good S C I G c)
    (hC : S.Meets C c e) (hstep : S.machine.step c e = some c') :
    Good S C I G c' ∧ G c.state c'.state := by
  cases e with
  | request j m =>
      simp only [machine, Option.ite_none_right_eq_some, Option.some.injEq] at hstep
      rw [← hstep.2]
      have hp := hbody j m c.state hc.1 hC
      exact ⟨good_settle hG (hG.entered m _) hc.2 hp, rely_settle hG (hG.entered m _) hp⟩
  | begin i m =>
      obtain ⟨j, hj, hstep⟩ := Option.map_eq_some_iff.1 hstep
      rw [← hstep]
      have hp := hbody j m c.state hc.1 (hC j hj)
      exact ⟨good_settle hG (hG.entered m _) hc.2 hp,
        rely_settle (c := { c with ready := c.ready.eraseIdx i }) hG (hG.entered m _) hp⟩
  | answer i v m =>
      obtain ⟨⟨r, k⟩, hk, hstep⟩ := Option.map_eq_some_iff.1 hstep
      rw [← hstep]
      have hp := hc.2 (r, k) (List.mem_of_getElem? hk) v m c.state hc.1 (hG.refl _)
        (hC r k hk)
      refine ⟨good_settle hG (hG.entered m _) ?_ hp,
        rely_settle (c := { c with waiting := c.waiting.eraseIdx i }) hG (hG.entered m _) hp⟩
      intro t ht
      exact hc.2 t (List.mem_of_mem_eraseIdx ht)
  | outside e =>
      obtain ⟨s, hs, hstep⟩ := Option.map_eq_some_iff.1 hstep
      rw [← hstep]
      have hrely := hG.outside e c.state s hs
      exact ⟨⟨houtside e c.state s hc.1 hC hs, fun t ht v m s'' hI'' hG'' =>
        hc.2 t ht v m s'' hI'' (hG.trans hrely hG'')⟩, hrely⟩

/-- From a good configuration on, a run stays good and keeps to what the tasks rely on. -/
theorem runFrom_good {es : List (Event ν κ μ η)} {c c' : Config ε σ ρ ν κ}
    (hc : Good S C I G c) (hmeets : S.machine.MeetsFrom (S.Meets C) c es)
    (hrun : S.machine.runFrom c es = some c') : Good S C I G c' ∧ G c.state c'.state := by
  refine S.machine.runFrom_invariant
    (P := fun c' => Good S C I G c' ∧ G c.state c'.state) ?_ ⟨hc, hG.refl _⟩ hmeets hrun
  rintro u e u' ⟨hu, hrely⟩ hC hstep
  obtain ⟨hu', hstep'⟩ := good_step hG hbody houtside hu hC hstep
  exact ⟨hu', hG.trans hrely hstep'⟩

variable (hinit : I S.init)

include hinit

/-- The configurations that a run reaches whose steps meet the condition are good. -/
theorem run_good {es : List (Event ν κ μ η)} {c : Config ε σ ρ ν κ}
    (hmeets : S.machine.Meets (S.Meets C) es) (hrun : S.machine.run es = some c) :
    Good S C I G c := by
  have hstart : Good S C I G S.machine.init := ⟨hinit, fun t ht => absurd ht List.not_mem_nil⟩
  exact (runFrom_good hG hbody houtside hstart hmeets hrun).1

end Steps

/-- An invariant that every job and everything outside keeps holds in every state
that a run reaches whose steps meet the condition. -/
theorem run_invariant (hG : S.Relies G) (hinit : I S.init)
    (hbody : ∀ j m s, I s → C.starts j (S.entered m s) →
      S.Keeps C I G (S.body j) (S.entered m s))
    (houtside : ∀ e s s', I s → C.outside e s → S.outside e s = some s' → I s')
    {es : List (Event ν κ μ η)} {c : Config ε σ ρ ν κ}
    (hmeets : S.machine.Meets (S.Meets C) es) (h : S.machine.run es = some c) : I c.state :=
  (run_good hG hbody houtside hinit hmeets h).1

end System

end Library

end Coordination
