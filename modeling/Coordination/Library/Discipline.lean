import Mathlib.Algebra.Order.BigOperators.Group.List
import Mathlib.Data.Multiset.OrderedMonoid
import Coordination.Library.Async

/-!
# Tasks that hold resources

In a traced system every request carries the job that waits for it and what that
job has exchanged before, so that the tasks of a configuration can be told apart.

A job may hold resources, and the state says which resources are taken. Whatever
the holder of a resource relies on, the other tasks leave alone. `Async.Obeys` is
the rule a task is verified with under such a discipline, one wait at a time, and
`Discipline.Sound` is what it gives for every configuration a run reaches: the
resources that are taken are those that the tasks of the configuration hold.
-/

namespace Coordination

namespace Library

/-- A request, the job that waits for its answer and what that job has exchanged. -/
structure Call (ρ ν κ : Type) where
  job : κ
  past : List (ρ × ν)
  request : ρ

/-- What a task has exchanged since it began, the state it went on from after its last
wait, the jobs it has started since then, and what the other tasks hold. -/
structure Trail (σ ρ ν κ δ : Type) where
  past : List (ρ × ν)
  since : σ
  started : List κ
  others : Multiset δ

namespace Async

variable {ε σ ρ ν κ α β : Type}

/-- The requests of a computation, with the job that makes them. -/
def traced (j : κ) : List (ρ × ν) → Async ε σ ρ ν κ α → Async ε σ (Call ρ ν κ) ν κ α
  | _, ret a => ret a
  | _, fail e => fail e
  | past, read k => read fun s => traced j past (k s)
  | past, write s k => write s (traced j past k)
  | past, spawn i k => spawn i (traced j past k)
  | past, await r k => await ⟨j, past, r⟩ fun v => traced j (past ++ [(r, v)]) (k v)

/-- A computation that is over before it waits has nothing to record. -/
theorem advance_traced_ended {j : κ} {past : List (ρ × ν)} {p : Async ε σ ρ ν κ α} {s s' : σ}
    {result : Except ε α} {js : List κ} (h : p.advance s = (.ended result, s', js)) :
    (p.traced j past).advance s = (.ended result, s', js) := by
  induction p generalizing s js with
  | ret a =>
      cases h
      rfl
  | fail e =>
      cases h
      rfl
  | read k ih => exact ih s h
  | write t k ih => exact ih h
  | spawn i k ih =>
      cases hk : k.advance s with
      | mk pause rest =>
          simp only [advance, hk, Prod.mk.injEq] at h
          obtain ⟨rfl, rfl, rfl⟩ := h
          simp only [traced, advance, ih hk]
  | await r k ih => cases h

/-- A computation that waits, waits with the record of what it has exchanged. -/
theorem advance_traced_waits {j : κ} {past : List (ρ × ν)} {p : Async ε σ ρ ν κ α} {s s' : σ}
    {r : ρ} {k : ν → Async ε σ ρ ν κ α} {js : List κ} (h : p.advance s = (.waits r k, s', js)) :
    (p.traced j past).advance s =
      (.waits ⟨j, past, r⟩ fun v => (k v).traced j (past ++ [(r, v)]), s', js) := by
  induction p generalizing s js with
  | ret a => cases h
  | fail e => cases h
  | read f ih => exact ih s h
  | write t f ih => exact ih h
  | spawn i f ih =>
      cases hf : f.advance s with
      | mk pause rest =>
          simp only [advance, hf, Prod.mk.injEq] at h
          obtain ⟨rfl, rfl, rfl⟩ := h
          simp only [traced, advance, ih hf]
  | await r' f ih =>
      cases h
      rfl

/-- The rules for a computation without the record of its exchanges. -/
def untraced {μ : Type} (R : Rules σ (Call ρ ν κ) ν μ) (j : κ) : Rules σ ρ ν μ where
  invariant := R.invariant
  rely := R.rely
  sent _ s := s
  entered := R.entered
  answers r v s := ∃ past, R.answers ⟨j, past, r⟩ v s

/-- Where nothing looks at the requests that are sent, the record makes no difference. -/
theorem ensures_traced {μ : Type} {R : Rules σ (Call ρ ν κ) ν μ} {j : κ}
    (hinvariant : ∀ call s, R.invariant s → R.invariant (R.sent call s))
    (hrely : ∀ call s t, R.rely (R.sent call s) t → R.rely s t) {Q : α → σ → Prop}
    {E : ε → σ → Prop} {p : Async ε σ ρ ν κ α} {past : List (ρ × ν)} {s : σ}
    (hp : p.Ensures (untraced R j) Q E s) : (p.traced j past).Ensures R Q E s := by
  induction p generalizing past s with
  | ret a => exact hp
  | fail e => exact hp
  | read k ih => exact ih s hp
  | write s' k ih => exact ⟨hp.1, ih hp.2⟩
  | spawn i k ih => exact ih hp
  | await r k ih =>
      exact ⟨hinvariant _ s hp.1, fun v m s' hs' hsent ha =>
        ih v (hp.2 v m s' hs' (hrely _ s s' hsent) ⟨past, ha⟩)⟩

end Async

/-- What the tasks of a system owe each other. A step of any task keeps the
invariant and `guarantee`; it `keeps` what it does not hold itself; a task that is
over has released what it held and `ends` as stated. -/
structure Discipline (σ ρ ν κ δ : Type) where
  invariant : σ → Prop
  guarantee : σ → σ → Prop
  pool : σ → Multiset δ
  held : κ → Multiset δ
  keeps : δ → σ → σ → Prop
  ends : κ → Trail σ ρ ν κ δ → σ → Prop

namespace Discipline

variable {ε σ ρ ν κ μ η δ : Type} (D : Discipline σ ρ ν κ δ)

/-- What a task does to the state. -/
structure Step (j : κ) (s t : σ) : Prop where
  guarantee : D.guarantee s t
  keeps : ∀ d, d ∉ D.held j → D.keeps d s t

/-- What happens to the state while a task waits. -/
structure Meanwhile (j : κ) (s t : σ) : Prop where
  guarantee : D.guarantee s t
  keeps : ∀ d ∈ D.held j, D.keeps d s t

/-- A task that goes on: what is taken is what it holds, what the jobs it has started
hold and what the others hold. -/
structure At (j : κ) (t : Trail σ ρ ν κ δ) (s : σ) : Prop where
  invariant : D.invariant s
  pool : D.pool s = t.others + (t.started.map D.held).sum + D.held j

/-- A task that is over. -/
structure Over (j : κ) (t : Trail σ ρ ν κ δ) (s : σ) : Prop where
  invariant : D.invariant s
  pool : D.pool s = t.others + (t.started.map D.held).sum
  ends : D.ends j t s

end Discipline

namespace Async

variable {ε σ ρ ν κ μ η δ α β : Type}

section Obeys

variable (S : System ε σ (Call ρ ν κ) ν κ μ η) (C : System.Condition σ (Call ρ ν κ) ν κ η)
  (D : Discipline σ ρ ν κ δ) (j : κ)

/-- From state `s` on, the computation of job `j` keeps to the discipline, and it
returns with `Q` or fails with `E`. -/
def Obeys (Q : α → Trail σ ρ ν κ δ → σ → Prop) (E : ε → Trail σ ρ ν κ δ → σ → Prop) :
    Async ε σ ρ ν κ α → Trail σ ρ ν κ δ → σ → Prop
  | ret a, t, s => Q a t s
  | fail e, t, s => E e t s
  | read k, t, s => Obeys Q E (k s) t s
  | write s' k, t, s => D.Step j s s' ∧ Obeys Q E k t s'
  | spawn i k, t, s => Obeys Q E k { t with started := t.started ++ [i] } s
  | await r k, t, s =>
    D.Step j s (S.sent ⟨j, t.past, r⟩ s) ∧ D.At j t (S.sent ⟨j, t.past, r⟩ s) ∧
      ∀ v others s', D.At j ⟨t.past ++ [(r, v)], s', [], others⟩ s' →
        D.Meanwhile j (S.sent ⟨j, t.past, r⟩ s) s' → C.answers ⟨j, t.past, r⟩ v s' →
          Obeys Q E (k v) ⟨t.past ++ [(r, v)], s', [], others⟩ s'

variable {S C D j} {Q : α → Trail σ ρ ν κ δ → σ → Prop} {E : ε → Trail σ ρ ν κ δ → σ → Prop}
  {t : Trail σ ρ ν κ δ} {s : σ}

theorem obeys_mono {Q' : α → Trail σ ρ ν κ δ → σ → Prop} {E' : ε → Trail σ ρ ν κ δ → σ → Prop}
    {p : Async ε σ ρ ν κ α} (hp : Obeys S C D j Q E p t s) (hQ : ∀ a t s, Q a t s → Q' a t s)
    (hE : ∀ e t s, E e t s → E' e t s) : Obeys S C D j Q' E' p t s := by
  induction p generalizing t s with
  | ret a => exact hQ a t s hp
  | fail e => exact hE e t s hp
  | read k ih => exact ih s hp
  | write s' k ih => exact ⟨hp.1, ih hp.2⟩
  | spawn i k ih => exact ih hp
  | await r k ih =>
      exact ⟨hp.1, hp.2.1, fun v others s' hs' hmeanwhile ha =>
        ih v (hp.2.2 v others s' hs' hmeanwhile ha)⟩

theorem obeys_bind {Q' : β → Trail σ ρ ν κ δ → σ → Prop} {p : Async ε σ ρ ν κ α}
    {f : α → Async ε σ ρ ν κ β} (hp : Obeys S C D j Q E p t s)
    (hf : ∀ a t s, Q a t s → Obeys S C D j Q' E (f a) t s) :
    Obeys S C D j Q' E (p.bind f) t s := by
  induction p generalizing t s with
  | ret a => exact hf a t s hp
  | fail e => exact hp
  | read k ih => exact ih s hp
  | write s' k ih => exact ⟨hp.1, ih hp.2⟩
  | spawn i k ih => exact ih hp
  | await r k ih =>
      exact ⟨hp.1, hp.2.1, fun v others s' hs' hmeanwhile ha =>
        ih v (hp.2.2 v others s' hs' hmeanwhile ha)⟩

theorem obeys_onError {E' : ε → Trail σ ρ ν κ δ → σ → Prop} {p : Async ε σ ρ ν κ α}
    {handler : ε → Async ε σ ρ ν κ α} (hp : Obeys S C D j Q E' p t s)
    (hhandler : ∀ e t s, E' e t s → Obeys S C D j Q E (handler e) t s) :
    Obeys S C D j Q E (p.onError handler) t s := by
  induction p generalizing t s with
  | ret a => exact hp
  | fail e => exact hhandler e t s hp
  | read k ih => exact ih s hp
  | write s' k ih => exact ⟨hp.1, ih hp.2⟩
  | spawn i k ih => exact ih hp
  | await r k ih =>
      exact ⟨hp.1, hp.2.1, fun v others s' hs' hmeanwhile ha =>
        ih v (hp.2.2 v others s' hs' hmeanwhile ha)⟩

theorem obeys_atomic {p : Prog ε σ α} (hstep : D.Step j s (p.run s).2)
    (hok : ∀ a s', p.run s = (.ok a, s') → Q a t s')
    (herror : ∀ e s', p.run s = (.error e, s') → E e t s') :
    Obeys S C D j Q E (atomic p) t s := by
  unfold atomic
  simp only [Obeys]
  cases h : p.run s with
  | mk r s' =>
      rw [h] at hstep
      cases r with
      | ok a => exact ⟨hstep, hok a s' h⟩
      | error e => exact ⟨hstep, herror e s' h⟩

/-- The same on a part of the state. -/
theorem obeys_within_atomic {τ : Type} {part : σ → τ} {put : τ → σ → σ} {p : Prog ε τ α}
    (hstep : D.Step j s (put (p.run (part s)).2 s))
    (hok : ∀ a u, p.run (part s) = (.ok a, u) → Q a t (put u s))
    (herror : ∀ e u, p.run (part s) = (.error e, u) → E e t (put u s)) :
    Obeys S C D j Q E (within part put (atomic p)) t s := by
  unfold atomic
  simp only [within, Obeys]
  cases h : p.run (part s) with
  | mk r u =>
      rw [h] at hstep
      cases r with
      | ok a => exact ⟨hstep, hok a u h⟩
      | error e => exact ⟨hstep, herror e u h⟩

theorem obeys_ofExcept {x : Except ε α} (hok : ∀ a, x = .ok a → Q a t s)
    (herror : ∀ e, x = .error e → E e t s) : Obeys S C D j Q E (ofExcept x) t s := by
  cases x with
  | ok a => exact hok a rfl
  | error e => exact herror e rfl

end Obeys

end Async

/-! ## Confined computations -/

/-- Bounds on what a computation does, whatever the states it goes on from: its
writes, the requests it sends, the jobs it starts, and the answers it is looked at
with, given what it has exchanged before. -/
structure Confinement (σ ρ ν κ : Type) where
  writes : σ → σ → Prop
  sends : ρ → Prop
  starts : κ → Prop
  answers : List (ρ × ν) → ρ → ν → σ → Prop

namespace Async

variable {ε σ ρ ν κ α β : Type} (B : Confinement σ ρ ν κ)

/-- From state `s` on, the computation stays within its bounds and returns with `Q`. -/
def Confined (Q : α → List (ρ × ν) → σ → Prop) :
    Async ε σ ρ ν κ α → List (ρ × ν) → σ → Prop
  | ret a, past, s => Q a past s
  | fail _, _, _ => True
  | read k, past, s => Confined Q (k s) past s
  | write s' k, past, s => B.writes s s' ∧ Confined Q k past s'
  | spawn i k, past, s => B.starts i ∧ Confined Q k past s
  | await r k, past, _ => B.sends r ∧
      ∀ v s', B.answers past r v s' → Confined Q (k v) (past ++ [(r, v)]) s'

variable {B} {Q : α → List (ρ × ν) → σ → Prop} {past : List (ρ × ν)} {s : σ}

theorem confined_bind {Q' : β → List (ρ × ν) → σ → Prop} {p : Async ε σ ρ ν κ α}
    {f : α → Async ε σ ρ ν κ β} (hp : p.Confined B Q past s)
    (hf : ∀ a past s, Q a past s → (f a).Confined B Q' past s) :
    (p.bind f).Confined B Q' past s := by
  induction p generalizing past s with
  | ret a => exact hf a past s hp
  | fail e => exact hp
  | read k ih => exact ih s hp
  | write s' k ih => exact ⟨hp.1, ih hp.2⟩
  | spawn i k ih => exact ⟨hp.1, ih hp.2⟩
  | await r k ih => exact ⟨hp.1, fun v s' ha => ih v (hp.2 v s' ha)⟩

theorem confined_onError {p : Async ε σ ρ ν κ α} {handler : ε → Async ε σ ρ ν κ α}
    (hp : p.Confined B Q past s)
    (hhandler : ∀ e past s, (handler e).Confined B Q past s) :
    (p.onError handler).Confined B Q past s := by
  induction p generalizing past s with
  | ret a => exact hp
  | fail e => exact hhandler e past s
  | read k ih => exact ih s hp
  | write s' k ih => exact ⟨hp.1, ih hp.2⟩
  | spawn i k ih => exact ⟨hp.1, ih hp.2⟩
  | await r k ih => exact ⟨hp.1, fun v s' ha => ih v (hp.2 v s' ha)⟩

theorem confined_mono {Q' : α → List (ρ × ν) → σ → Prop} {p : Async ε σ ρ ν κ α}
    (hp : p.Confined B Q past s) (hQ : ∀ a past s, Q a past s → Q' a past s) :
    p.Confined B Q' past s := by
  induction p generalizing past s with
  | ret a => exact hQ a past s hp
  | fail e => exact hp
  | read k ih => exact ih s hp
  | write s' k ih => exact ⟨hp.1, ih hp.2⟩
  | spawn i k ih => exact ⟨hp.1, ih hp.2⟩
  | await r k ih => exact ⟨hp.1, fun v s' ha => ih v (hp.2 v s' ha)⟩

theorem confined_ofExcept {x : Except ε α} (hok : ∀ a, x = .ok a → Q a past s) :
    (ofExcept x : Async ε σ ρ ν κ α).Confined B Q past s := by
  cases x with
  | ok a => exact hok a rfl
  | error e => exact trivial

/-- A program that makes one admitted write. -/
theorem confined_atomic {p : Prog ε σ α} (hwrite : B.writes s (p.run s).2)
    (hok : ∀ a s', p.run s = (.ok a, s') → Q a past s') :
    (atomic p : Async ε σ ρ ν κ α).Confined B Q past s := by
  unfold atomic
  simp only [Confined]
  cases h : p.run s with
  | mk r s' =>
      rw [h] at hwrite
      cases r with
      | ok a => exact ⟨hwrite, hok a s' h⟩
      | error e => exact ⟨hwrite, trivial⟩

/-- The same on a part of the state. -/
theorem confined_within_atomic {τ : Type} {part : σ → τ} {put : τ → σ → σ} {p : Prog ε τ α}
    (hwrite : B.writes s (put (p.run (part s)).2 s))
    (hok : ∀ a u, p.run (part s) = (.ok a, u) → Q a past (put u s)) :
    (within part put (atomic p) : Async ε σ ρ ν κ α).Confined B Q past s := by
  unfold atomic
  simp only [within, Confined]
  cases h : p.run (part s) with
  | mk r u =>
      rw [h] at hwrite
      cases r with
      | ok a => exact ⟨hwrite, hok a u h⟩
      | error e => exact ⟨hwrite, trivial⟩

end Async

/-! ## Configurations -/

namespace System.Config

variable {ε σ ρ ν κ : Type}

/-- The jobs of the tasks that are there: those that wait and those about to begin. -/
def jobs (c : System.Config ε σ (Call ρ ν κ) ν κ) : List κ :=
  c.ready ++ c.waiting.map fun t => t.1.job

end System.Config

namespace Discipline

variable {ε σ ρ ν κ μ η δ : Type} (S : System ε σ (Call ρ ν κ) ν κ μ η)
  (C : System.Condition σ (Call ρ ν κ) ν κ η) (D : Discipline σ ρ ν κ δ)

/-- What happens outside of the tasks. -/
structure Harmless (s t : σ) : Prop where
  invariant : D.invariant s → D.invariant t
  guarantee : D.guarantee s t
  pool : D.pool t = D.pool s
  keeps : ∀ d, D.keeps d s t

/-- What a discipline asks of everything that is not a task. -/
structure Lawful : Prop where
  guarantee_refl : ∀ s, D.guarantee s s
  guarantee_trans : ∀ {s t u}, D.guarantee s t → D.guarantee t u → D.guarantee s u
  keeps_refl : ∀ d s, D.keeps d s s
  keeps_trans : ∀ {d s t u}, D.keeps d s t → D.keeps d t u → D.keeps d s u
  pool_nodup : ∀ s, (D.pool s).Nodup
  init : D.invariant S.init ∧ D.pool S.init = 0
  entered : ∀ m s, D.Harmless s (S.entered m s)
  outside : ∀ e s t, C.outside e s → S.outside e s = some t → D.Harmless s t
  request : ∀ i, S.isRequest i = true → D.held i = 0

/-- What a waiting task does with its answer keeps to the discipline. -/
def Waits (s : σ) (call : Call ρ ν κ) (k : ν → Async ε σ (Call ρ ν κ) ν κ Unit) : Prop :=
  ∃ p : ν → Async ε σ ρ ν κ Unit,
    (∀ v, k v = (p v).traced call.job (call.past ++ [(call.request, v)])) ∧
    ∀ v others t, D.At call.job ⟨call.past ++ [(call.request, v)], t, [], others⟩ t →
      D.Meanwhile call.job s t → C.answers call v t →
        Async.Obeys S C D call.job (fun _ => D.Over call.job) (fun _ => D.Over call.job) (p v)
          ⟨call.past ++ [(call.request, v)], t, [], others⟩ t

/-- The resources that are taken are those the tasks hold, and every task that waits
will go on as the discipline demands. -/
structure Sound (c : System.Config ε σ (Call ρ ν κ) ν κ) : Prop where
  invariant : D.invariant c.state
  pool : D.pool c.state = (c.jobs.map D.held).sum
  waiting : ∀ t ∈ c.waiting, D.Waits S C c.state t.1 t.2

/-- How a task stops. -/
def Stops (j : κ) (t : Trail σ ρ ν κ δ) (s : σ) :
    Async.Pause ε σ (Call ρ ν κ) ν κ Unit → Prop
  | .ended _ => D.Over j t s
  | .waits call k => D.Step j s (S.sent call s) ∧ D.At j t (S.sent call s) ∧ call.job = j ∧
      D.Waits S C (S.sent call s) call k

variable {S C D} {j : κ} {s t u : σ}

theorem Step.refl (hD : D.Lawful S C) : D.Step j s s :=
  ⟨hD.guarantee_refl s, fun d _ => hD.keeps_refl d s⟩

theorem Step.trans (hD : D.Lawful S C) (hst : D.Step j s t) (htu : D.Step j t u) : D.Step j s u :=
  ⟨hD.guarantee_trans hst.guarantee htu.guarantee,
    fun d hd => hD.keeps_trans (hst.keeps d hd) (htu.keeps d hd)⟩

/-- A waiting task goes on from any state that came about while it waited. -/
theorem Waits.later (hD : D.Lawful S C) {call : Call ρ ν κ}
    {k : ν → Async ε σ (Call ρ ν κ) ν κ Unit} (h : D.Waits S C s call k)
    (hst : D.Meanwhile call.job s t) : D.Waits S C t call k := by
  obtain ⟨p, hk, hp⟩ := h
  refine ⟨p, hk, fun v others u hu htu ha => hp v others u hu ⟨?_, fun d hd => ?_⟩ ha⟩
  · exact hD.guarantee_trans hst.guarantee htu.guarantee
  · exact hD.keeps_trans (hst.keeps d hd) (htu.keeps d hd)

/-- Run to the next wait, a computation takes one step and stops as demanded. -/
theorem advance_obeys (hD : D.Lawful S C) {p : Async ε σ ρ ν κ Unit} {trail : Trail σ ρ ν κ δ}
    (hp : p.Obeys S C D j (fun _ => D.Over j) (fun _ => D.Over j) trail s) :
    D.Step j s ((p.traced j trail.past).advance s).2.1 ∧
      D.Stops S C j { trail with
        started := trail.started ++ ((p.traced j trail.past).advance s).2.2 }
        ((p.traced j trail.past).advance s).2.1 ((p.traced j trail.past).advance s).1 := by
  induction p generalizing trail s with
  | ret a =>
      refine ⟨Step.refl hD, ?_⟩
      simp only [Async.traced, Async.advance, List.append_nil]
      exact hp
  | fail e =>
      refine ⟨Step.refl hD, ?_⟩
      simp only [Async.traced, Async.advance, List.append_nil]
      exact hp
  | read k ih => exact ih s hp
  | write s' k ih =>
      obtain ⟨hstep, hstop⟩ := ih hp.2
      exact ⟨Step.trans hD hp.1 hstep, hstop⟩
  | spawn i k ih =>
      obtain ⟨hstep, hstop⟩ := ih hp
      simp only [List.append_assoc, List.singleton_append] at hstop
      exact ⟨hstep, hstop⟩
  | await r k ih =>
      refine ⟨Step.refl hD, ?_⟩
      simp only [Async.traced, Async.advance, List.append_nil]
      exact ⟨hp.1, hp.2.1, rfl, k, fun _ => rfl, hp.2.2⟩

/-- The job has ended as demanded, after an exchange and from a state, and has left the
jobs it started. -/
def Leaves (j : κ) (past : List (ρ × ν)) (s : σ) (c : System.Config ε σ (Call ρ ν κ) ν κ) : Prop :=
  ∃ t : Trail σ ρ ν κ δ, t.past = past ∧ t.since = s ∧ D.ends j t c.state ∧
    ∀ i ∈ t.started, i ∈ c.jobs

variable {c c' : System.Config ε σ (Call ρ ν κ) ν κ}

theorem mem_jobs_of_waiting {t : Call ρ ν κ × (ν → Async ε σ (Call ρ ν κ) ν κ Unit)}
    (ht : t ∈ c.waiting) : t.1.job ∈ c.jobs :=
  List.mem_append.2 (Or.inr (List.mem_map_of_mem ht))

/-- What the holder of a resource relies on, another task leaves alone. -/
theorem Step.meanwhile (hD : D.Lawful S C) (hstep : D.Step j s t)
    (hpool : D.pool s = (c.jobs.map D.held).sum + D.held j) {i : κ} (hi : i ∈ c.jobs) :
    D.Meanwhile i s t := by
  refine ⟨hstep.guarantee, fun d hd => hstep.keeps d fun hj => ?_⟩
  have hnodup := hD.pool_nodup s
  rw [hpool, Multiset.nodup_add] at hnodup
  have hle : D.held i ≤ (c.jobs.map D.held).sum :=
    List.le_sum_of_mem (List.mem_map_of_mem hi)
  exact Multiset.disjoint_left.1 hnodup.2.2 (Multiset.mem_of_le hle hd) hj

/-- Running one task keeps the others as they are. -/
theorem sound_settle (hD : D.Lawful S C) {p : Async ε σ ρ ν κ Unit} {past : List (ρ × ν)}
    (hwaiting : ∀ t ∈ c.waiting, D.Waits S C s t.1 t.2)
    (hpool : D.pool s = (c.jobs.map D.held).sum + D.held j)
    (hp : p.Obeys S C D j (fun _ => D.Over j) (fun _ => D.Over j)
      ⟨past, s, [], (c.jobs.map D.held).sum⟩ s) :
    D.Sound S C (S.settle c (p.traced j past) s) ∧
      D.guarantee s (S.settle c (p.traced j past) s).state ∧
      (∀ i ∈ c.jobs, i ∈ (S.settle c (p.traced j past) s).jobs) ∧
      (j ∈ (S.settle c (p.traced j past) s).jobs ∨
        D.Leaves j past s (S.settle c (p.traced j past) s)) := by
  obtain ⟨hstep, hstop⟩ := advance_obeys hD hp
  simp only at hstep hstop
  unfold System.settle
  cases h : (p.traced j past).advance s with
  | mk pause rest =>
      obtain ⟨s', js⟩ := rest
      rw [h] at hstep hstop
      simp only [List.nil_append] at hstep hstop
      have hothers (t) (ht : t ∈ c.waiting) : D.Waits S C s' t.1 t.2 :=
        (hwaiting t ht).later hD (hstep.meanwhile hD hpool (mem_jobs_of_waiting ht))
      cases pause with
      | ended result =>
          refine ⟨⟨hstop.invariant, ?_, hothers⟩, hstep.guarantee, fun i hi => ?_,
            Or.inr ⟨_, rfl, rfl, hstop.ends, fun i hi => ?_⟩⟩
          · rw [hstop.pool]
            simp only [System.Config.jobs, List.map_append, List.sum_append]
            exact add_right_comm ..
          · simp only [System.Config.jobs, List.mem_append] at hi ⊢
            exact hi.imp_left Or.inl
          · exact List.mem_append.2 (Or.inl (List.mem_append.2 (Or.inr hi)))
      | waits call k =>
          obtain ⟨hsend, hat, rfl, hwaits⟩ := hstop
          refine ⟨⟨hat.invariant, ?_, fun t ht => ?_⟩,
            hD.guarantee_trans hstep.guarantee hsend.guarantee, fun i hi => ?_, Or.inl ?_⟩
          · rw [hat.pool]
            simp only [System.Config.jobs, List.map_append, List.sum_append, List.map_cons,
              List.map_nil, List.sum_cons, List.sum_nil, add_zero]
            rw [← add_assoc]
            exact congrArg (· + D.held call.job) (add_right_comm ..)
          · rcases List.mem_append.1 ht with ht | ht
            · exact (hwaiting t ht).later hD
                ((Step.trans hD hstep hsend).meanwhile hD hpool (mem_jobs_of_waiting ht))
            · rw [List.mem_singleton.1 ht]
              exact hwaits
          · simp only [System.Config.jobs, List.mem_append, List.map_append] at hi ⊢
            exact hi.imp Or.inl Or.inl
          · simp [System.Config.jobs]

/-- Every job keeps to the discipline from its first step on. -/
def Verified (S : System ε σ (Call ρ ν κ) ν κ μ η) (C : System.Condition σ (Call ρ ν κ) ν κ η)
    (D : Discipline σ ρ ν κ δ) (body : κ → Async ε σ ρ ν κ Unit) : Prop :=
  ∀ j others s, D.At j ⟨[], s, [], others⟩ s → C.starts j s →
    (body j).Obeys S C D j (fun _ => D.Over j) (fun _ => D.Over j) ⟨[], s, [], others⟩ s

variable {body : κ → Async ε σ ρ ν κ Unit} {e : System.Event ν κ μ η}

/-- The task that an event lets run, what it has exchanged and the state it goes on from. -/
def GoesOn (S : System ε σ (Call ρ ν κ) ν κ μ η) (c : System.Config ε σ (Call ρ ν κ) ν κ) :
    System.Event ν κ μ η → κ → List (ρ × ν) → σ → Prop
  | .request i m, j, past, s => i = j ∧ past = [] ∧ s = S.entered m c.state
  | .begin n m, j, past, s => c.ready[n]? = some j ∧ past = [] ∧ s = S.entered m c.state
  | .answer n v m, j, past, s => ∃ call k, c.waiting[n]? = some (call, k) ∧ call.job = j ∧
      past = call.past ++ [(call.request, v)] ∧ s = S.entered m c.state
  | .outside _, _, _, _ => False

/-- After an event the job is still there, or the event has let it run to its end. -/
def Survives (S : System ε σ (Call ρ ν κ) ν κ μ η) (D : Discipline σ ρ ν κ δ)
    (c : System.Config ε σ (Call ρ ν κ) ν κ) (e : System.Event ν κ μ η) (j : κ)
    (c' : System.Config ε σ (Call ρ ν κ) ν κ) : Prop :=
  j ∈ c'.jobs ∨ ∃ past s, GoesOn S c e j past s ∧ D.Leaves j past s c'

/-- One task of a sound configuration runs; `c` is what the others are. -/
theorem sound_run (hD : D.Lawful S C) {c₀ : System.Config ε σ (Call ρ ν κ) ν κ} {m : μ}
    {p : Async ε σ ρ ν κ Unit} {past : List (ρ × ν)} (hc : D.Sound S C c₀)
    (hsub : ∀ t ∈ c.waiting, t ∈ c₀.waiting)
    (hjobs : (c₀.jobs.map D.held).sum = (c.jobs.map D.held).sum + D.held j)
    (hmem : ∀ i ∈ c₀.jobs, i ∈ c.jobs ∨ i = j)
    (hgoes : GoesOn S c₀ e j past (S.entered m c₀.state))
    (hp : D.At j ⟨past, S.entered m c₀.state, [], (c.jobs.map D.held).sum⟩
        (S.entered m c₀.state) →
      p.Obeys S C D j (fun _ => D.Over j) (fun _ => D.Over j)
        ⟨past, S.entered m c₀.state, [], (c.jobs.map D.held).sum⟩ (S.entered m c₀.state)) :
    D.Sound S C (S.settle c (p.traced j past) (S.entered m c₀.state)) ∧
      D.guarantee c₀.state (S.settle c (p.traced j past) (S.entered m c₀.state)).state ∧
      ∀ i ∈ c₀.jobs, Survives S D c₀ e i (S.settle c (p.traced j past) (S.entered m c₀.state)) := by
  have hentered := hD.entered m c₀.state
  have hpool : D.pool (S.entered m c₀.state) = (c.jobs.map D.held).sum + D.held j := by
    rw [hentered.pool, hc.pool, hjobs]
  have hat : D.At j ⟨past, S.entered m c₀.state, [], (c.jobs.map D.held).sum⟩
      (S.entered m c₀.state) := by
    refine ⟨hentered.invariant hc.invariant, ?_⟩
    simpa using hpool
  have hwaiting (t) (ht : t ∈ c.waiting) : D.Waits S C (S.entered m c₀.state) t.1 t.2 :=
    (hc.waiting t (hsub t ht)).later hD ⟨hentered.guarantee, fun d _ => hentered.keeps d⟩
  obtain ⟨hsound, hguarantee, hkept, hsurvives⟩ := sound_settle hD hwaiting hpool (hp hat)
  refine ⟨hsound, hD.guarantee_trans hentered.guarantee hguarantee, fun i hi => ?_⟩
  rcases hmem i hi with hi | rfl
  · exact Or.inl (hkept i hi)
  · exact hsurvives.imp_right fun h => ⟨past, _, hgoes, h⟩

/-- The same for a task of the configuration. -/
theorem sound_run_task (hD : D.Lawful S C) {c₀ : System.Config ε σ (Call ρ ν κ) ν κ} {m : μ}
    {p : Async ε σ ρ ν κ Unit} {past : List (ρ × ν)} (hc : D.Sound S C c₀)
    (hsub : ∀ t ∈ c.waiting, t ∈ c₀.waiting) (hperm : c₀.jobs.Perm (j :: c.jobs))
    (hgoes : GoesOn S c₀ e j past (S.entered m c₀.state))
    (hp : D.At j ⟨past, S.entered m c₀.state, [], (c.jobs.map D.held).sum⟩
        (S.entered m c₀.state) →
      p.Obeys S C D j (fun _ => D.Over j) (fun _ => D.Over j)
        ⟨past, S.entered m c₀.state, [], (c.jobs.map D.held).sum⟩ (S.entered m c₀.state)) :
    D.Sound S C (S.settle c (p.traced j past) (S.entered m c₀.state)) ∧
      D.guarantee c₀.state (S.settle c (p.traced j past) (S.entered m c₀.state)).state ∧
      ∀ i ∈ c₀.jobs, Survives S D c₀ e i (S.settle c (p.traced j past) (S.entered m c₀.state)) := by
  refine sound_run hD hc hsub ?_ (fun i hi => ?_) hgoes hp
  · rw [(hperm.map D.held).sum_eq, List.map_cons, List.sum_cons, add_comm]
  · exact (List.mem_cons.1 (hperm.mem_iff.1 hi)).symm

/-- Every step keeps a configuration sound, and no job disappears without an end. -/
theorem sound_step (hD : D.Lawful S C) (hS : ∀ i, S.body i = (body i).traced i [])
    (hbody : D.Verified S C body) (hc : D.Sound S C c) (hC : S.Meets C c e)
    (hstep : S.machine.step c e = some c') :
    D.Sound S C c' ∧ D.guarantee c.state c'.state ∧ ∀ i ∈ c.jobs, Survives S D c e i c' := by
  cases e with
  | request i m =>
      simp only [System.machine, Option.ite_none_right_eq_some, Option.some.injEq] at hstep
      obtain ⟨hi, rfl⟩ := hstep
      rw [hS]
      refine sound_run hD hc (fun _ ht => ht) ?_ (fun _ hi => Or.inl hi) ⟨rfl, rfl, rfl⟩
        fun hat => hbody i _ _ hat hC
      rw [hD.request i hi, add_zero]
  | begin n m =>
      obtain ⟨i, hi, rfl⟩ := Option.map_eq_some_iff.1 hstep
      obtain ⟨hlt, rfl⟩ := List.getElem?_eq_some_iff.1 hi
      rw [hS]
      refine sound_run_task hD hc (fun _ ht => ht) ?_ ⟨hi, rfl, rfl⟩
        fun hat => hbody _ _ _ hat (hC _ hi)
      exact (List.getElem_cons_eraseIdx_perm hlt).symm.append_right _
  | answer n v m =>
      obtain ⟨⟨call, k⟩, hi, rfl⟩ := Option.map_eq_some_iff.1 hstep
      obtain ⟨hlt, hget⟩ := List.getElem?_eq_some_iff.1 hi
      obtain ⟨p, hk, hp⟩ := hc.waiting _ (List.mem_of_getElem? hi)
      simp only at hk hp ⊢
      rw [hk]
      refine sound_run_task hD hc (fun _ ht => List.mem_of_mem_eraseIdx ht) ?_
        ⟨call, k, hi, rfl, rfl, rfl⟩ fun hat => hp v _ _ hat ?_ (hC call k hi)
      · have hperm := (List.getElem_cons_eraseIdx_perm hlt).symm.map fun t => t.1.job
        rw [hget] at hperm
        exact (hperm.append_left _).trans List.perm_middle
      · have hentered := hD.entered m c.state
        exact ⟨hentered.guarantee, fun d _ => hentered.keeps d⟩
  | outside e =>
      obtain ⟨s, hs, rfl⟩ := Option.map_eq_some_iff.1 hstep
      have hout := hD.outside e c.state s hC hs
      refine ⟨⟨hout.invariant hc.invariant, hout.pool.trans hc.pool, fun t ht => ?_⟩,
        hout.guarantee, fun i hi => Or.inl hi⟩
      exact (hc.waiting t ht).later hD ⟨hout.guarantee, fun d _ => hout.keeps d⟩

theorem sound_init (hD : D.Lawful S C) : D.Sound S C S.machine.init :=
  ⟨hD.init.1, hD.init.2, fun _ ht => absurd ht List.not_mem_nil⟩

/-- From a sound configuration on, a run stays sound and keeps the guarantee. -/
theorem sound_runFrom (hD : D.Lawful S C) (hS : ∀ i, S.body i = (body i).traced i [])
    (hbody : D.Verified S C body) {es : List (System.Event ν κ μ η)} (hc : D.Sound S C c)
    (hmeets : S.machine.MeetsFrom (S.Meets C) c es) (hrun : S.machine.runFrom c es = some c') :
    D.Sound S C c' ∧ D.guarantee c.state c'.state := by
  refine S.machine.runFrom_invariant
    (P := fun c' => D.Sound S C c' ∧ D.guarantee c.state c'.state) ?_
    ⟨hc, hD.guarantee_refl _⟩ hmeets hrun
  rintro u e u' ⟨hu, hguarantee⟩ hC hstep
  obtain ⟨hu', hstep', _⟩ := sound_step hD hS hbody hu hC hstep
  exact ⟨hu', hD.guarantee_trans hguarantee hstep'⟩

/-- Every configuration a run reaches is sound. -/
theorem sound_of_run (hD : D.Lawful S C) (hS : ∀ i, S.body i = (body i).traced i [])
    (hbody : D.Verified S C body) {es : List (System.Event ν κ μ η)}
    (hmeets : S.machine.Meets (S.Meets C) es) (hrun : S.machine.run es = some c) :
    D.Sound S C c :=
  (sound_runFrom hD hS hbody (sound_init hD) hmeets hrun).1

/-! ## Confined computations -/

theorem At.harmless {trail : Trail σ ρ ν κ δ} (h : D.At j trail s) (hst : D.Harmless s t) :
    D.At j trail t :=
  ⟨hst.invariant h.invariant, hst.pool.trans h.pool⟩

theorem Harmless.step (h : D.Harmless s t) : D.Step j s t :=
  ⟨h.guarantee, fun d _ => h.keeps d⟩

/-- A task that holds nothing may end as it stands. -/
theorem At.over {trail : Trail σ ρ ν κ δ} (h : D.At j trail s) (hheld : D.held j = 0)
    (hends : D.ends j trail s) : D.Over j trail s :=
  ⟨h.invariant, by rw [h.pool, hheld, add_zero], hends⟩

/-- A confined computation whose bounds are harmless keeps to the discipline. -/
theorem obeys_of_confined {α : Type} {B : Confinement σ ρ ν κ}
    (hwrites : ∀ {s t}, B.writes s t → D.Harmless s t)
    (hsends : ∀ {r} past s, B.sends r → D.Harmless s (S.sent ⟨j, past, r⟩ s))
    (hstarts : ∀ {i}, B.starts i → D.held i = 0)
    (hanswers : ∀ {past r v s}, D.invariant s → C.answers ⟨j, past, r⟩ v s →
      B.answers past r v s)
    {Q : α → List (ρ × ν) → σ → Prop} {p : Async ε σ ρ ν κ α} {trail : Trail σ ρ ν κ δ}
    (hp : p.Confined B Q trail.past s) (hat : D.At j trail s) :
    p.Obeys S C D j (fun a t s => D.At j t s ∧ Q a t.past s) (fun _ => D.At j) trail s := by
  induction p generalizing trail s with
  | ret a => exact ⟨hat, hp⟩
  | fail e => exact hat
  | read k ih => exact ih s hp hat
  | write s' k ih => exact ⟨(hwrites hp.1).step, ih hp.2 (hat.harmless (hwrites hp.1))⟩
  | spawn i k ih =>
      refine ih hp.2 ⟨hat.invariant, ?_⟩
      simpa [hstarts hp.1] using hat.pool
  | await r k ih =>
      have hsent := hsends trail.past s hp.1
      exact ⟨hsent.step, hat.harmless hsent, fun v others s' hs' _ ha =>
        ih v (hp.2 v s' (hanswers hs'.invariant ha)) hs'⟩

end Discipline

end Library

end Coordination
