import Mathlib.Data.List.Forall2
import Coordination.Library.Parts

/-!
# Refinement between systems of tasks

A system `S` is built over a system `T` when a part of its state is the state of
`T`, and what its jobs do to that part is what jobs of `T` do. `Async.Follows` says
so of two tasks, one wait at a time: the first reads and writes the part as the
second reads and writes its state, and asks the same requests; what it does besides,
the leaves of the relation say.

`Related` lifts the relation to configurations, and `System.refines` is what it gives
for runs: to every run of `S` there is one of `T` that ends in a related
configuration, so an invariant of `T` holds of the part in every run of `S`.
-/

namespace Coordination

namespace Library

/-! ## Machines -/

/-- Runs are followed by runs, where every step is. -/
theorem Machine.refines {σ τ ε ε' : Type} {m : Machine σ ε} {m' : Machine τ ε'}
    {C : σ → ε → Prop} {C' : τ → ε' → Prop} {R : σ → τ → Prop} (hinit : R m.init m'.init)
    (hstep : ∀ s t e s', R s t → C s e → m.step s e = some s' →
      ∃ es t', m'.MeetsFrom C' t es ∧ m'.runFrom t es = some t' ∧ R s' t')
    {es : List ε} {s : σ} (hmeets : m.Meets C es) (hrun : m.run es = some s) :
    ∃ es' t, m'.Meets C' es' ∧ m'.run es' = some t ∧ R s t := by
  refine m.run_invariant
    (P := fun s => ∃ es' t, m'.Meets C' es' ∧ m'.run es' = some t ∧ R s t)
    ⟨[], m'.init, trivial, rfl, hinit⟩ ?_ hmeets hrun
  rintro u e u' ⟨es₀, t₀, hmeets₀, hrun₀, hrel₀⟩ hC hu
  obtain ⟨es₁, t₁, hmeets₁, hrun₁, hrel₁⟩ := hstep u t₀ e u' hrel₀ hC hu
  refine ⟨es₀ ++ es₁, t₁, ?_, m'.runFrom_append.2 ⟨t₀, hrun₀, hrun₁⟩, hrel₁⟩
  refine m'.meetsFrom_append.2 ⟨hmeets₀, fun t ht => ?_⟩
  cases hrun₀.symm.trans ht
  exact hmeets₁

namespace Async

variable {ε σ τ ρ ν κ κ' α β γ δ : Type}

/-! ## Tasks that follow others -/

/-- The first task reads and writes a part of its state as the second does with its
own, asks the same requests, and neither starts a job. `L` says how the first may go
on when the second is over. -/
def Follows (part : σ → τ) (L : Async ε σ ρ ν κ α → Except ε β → Prop) :
    Async ε σ ρ ν κ α → Async ε τ ρ ν κ' β → Prop
  | p, ret b => L p (.ok b)
  | p, fail e => L p (.error e)
  | p, read k' => ∃ k, p = read k ∧ ∀ s, Follows part L (k s) (k' (part s))
  | p, write t k' => ∃ (f : σ → σ) (k : Async ε σ ρ ν κ α),
      p = read (fun s => write (f s) k) ∧ (∀ s, part (f s) = t) ∧ Follows part L k k'
  | _, spawn _ _ => False
  | p, await r k' => ∃ k, p = await r k ∧ ∀ v, Follows part L (k v) (k' v)

/-- The first task is over with the same result. -/
def Ends (p : Async ε σ ρ ν κ α) (result : Except ε α) : Prop :=
  p = ofExcept result

/-- A computation that ends without a wait, starts nothing and leaves the part alone. -/
def Idle (part : σ → τ) (p : Async ε σ ρ ν κ α) : Prop :=
  ∀ s, ∃ result s', p.advance s = (.ended result, s', []) ∧ part s' = part s

variable {part : σ → τ} {put : τ → σ → σ}

theorem follows_bind {L : Async ε σ ρ ν κ α → Except ε γ → Prop}
    {L' : Async ε σ ρ ν κ β → Except ε δ → Prop} {p : Async ε σ ρ ν κ α}
    {q : Async ε τ ρ ν κ' γ} {f : α → Async ε σ ρ ν κ β} {g : γ → Async ε τ ρ ν κ' δ}
    (h : Follows part L p q) (hok : ∀ x c, L x (.ok c) → Follows part L' (x.bind f) (g c))
    (herror : ∀ x e, L x (.error e) → L' (x.bind f) (.error e)) :
    Follows part L' (p.bind f) (q.bind g) := by
  induction q generalizing p with
  | ret c => exact hok p c h
  | fail e => exact herror p e h
  | read k' ih =>
      obtain ⟨k, rfl, hk⟩ := h
      exact ⟨fun s => (k s).bind f, rfl, fun s => ih (part s) (hk s)⟩
  | write t k' ih =>
      obtain ⟨put, k, rfl, hput, hk⟩ := h
      exact ⟨put, k.bind f, rfl, hput, ih hk⟩
  | spawn j k' ih => exact h.elim
  | await r k' ih =>
      obtain ⟨k, rfl, hk⟩ := h
      exact ⟨fun v => (k v).bind f, rfl, fun v => ih v (hk v)⟩

/-- Tasks that end alike go on alike. -/
theorem follows_bind_ends {p : Async ε σ ρ ν κ α} {q : Async ε τ ρ ν κ' α}
    {f : α → Async ε σ ρ ν κ β} {g : α → Async ε τ ρ ν κ' β} (h : Follows part Ends p q)
    (hf : ∀ a, Follows part Ends (f a) (g a)) : Follows part Ends (p.bind f) (q.bind g) := by
  refine follows_bind h ?_ ?_
  · rintro _ a rfl
    exact hf a
  · rintro _ e rfl
    rfl

/-- The first task goes on alone when both have come to their ends. -/
theorem Follows.conclude {L : Async ε σ ρ ν κ α → Except ε γ → Prop}
    {L' : Async ε σ ρ ν κ β → Except ε γ → Prop} {p : Async ε σ ρ ν κ α}
    {q : Async ε τ ρ ν κ' γ} (h : Follows part L p q)
    {f : Except ε α → Async ε σ ρ ν κ β} (hL : ∀ x r, L x r → L' (x.conclude f) r) :
    Follows part L' (p.conclude f) q := by
  induction q generalizing p with
  | ret b => exact hL p _ h
  | fail e => exact hL p _ h
  | read k' ih =>
      obtain ⟨k, rfl, hk⟩ := h
      exact ⟨fun s => (k s).conclude f, rfl, fun s => ih (part s) (hk s)⟩
  | write t k' ih =>
      obtain ⟨put, k, rfl, hput, hk⟩ := h
      exact ⟨put, k.conclude f, rfl, hput, ih hk⟩
  | spawn j k' ih => exact h.elim
  | await r k' ih =>
      obtain ⟨k, rfl, hk⟩ := h
      exact ⟨fun v => (k v).conclude f, rfl, fun v => ih v (hk v)⟩

/-- A program on the part. -/
theorem follows_atomic (hpart : Part part put) (p : Prog ε τ α) :
    Follows part Ends (within part put (atomic p) : Async ε σ ρ ν κ α)
      (atomic p : Async ε τ ρ ν κ' α) := by
  refine ⟨_, rfl, fun s => ?_⟩
  beta_reduce
  cases p.run (part s) with
  | mk result t =>
      cases result with
      | ok a => exact ⟨put t, .ret a, rfl, hpart.part_put t, rfl⟩
      | error e => exact ⟨put t, .fail e, rfl, hpart.part_put t, rfl⟩

/-- A wait whose answer is taken as it is. -/
theorem follows_await (r : ρ) (f : ν → Except ε α) :
    Follows part Ends (within part put (await r fun v => ofExcept (f v)) : Async ε σ ρ ν κ α)
      (await r fun v => ofExcept (f v) : Async ε τ ρ ν κ' α) := by
  refine ⟨_, rfl, fun v => ?_⟩
  beta_reduce
  cases f v with
  | ok a => rfl
  | error e => rfl

/-! ## Running to the next wait -/

/-- Two tasks have stopped alike. -/
inductive Alike (part : σ → τ) :
    Pause ε σ ρ ν κ α × σ × List κ → Pause ε τ ρ ν κ' β × τ × List κ' → Prop
  | ended {result result' s t} (hpart : part s = t) :
      Alike part (.ended result, s, []) (.ended result', t, [])
  | waits {r k k' s t} (hpart : part s = t)
      (hk : ∀ v, Follows part (fun x _ => Idle part x) (k v) (k' v)) :
      Alike part (.waits r k, s, []) (.waits r k', t, [])

theorem Follows.advance {p : Async ε σ ρ ν κ α} {q : Async ε τ ρ ν κ' β}
    (h : Follows part (fun x _ => Idle part x) p q) (s : σ) :
    Alike part (p.advance s) (q.advance (part s)) := by
  induction q generalizing p s with
  | ret b =>
      obtain ⟨result, s', hend, hpart⟩ := h s
      rw [hend]
      exact .ended hpart
  | fail e =>
      obtain ⟨result, s', hend, hpart⟩ := h s
      rw [hend]
      exact .ended hpart
  | read k' ih =>
      obtain ⟨k, rfl, hk⟩ := h
      exact ih (part s) (hk s) s
  | write t k' ih =>
      obtain ⟨put, k, rfl, hput, hk⟩ := h
      have hnext := ih hk (put s)
      rw [hput] at hnext
      exact hnext
  | spawn j k' ih => exact h.elim
  | await r k' ih =>
      obtain ⟨k, rfl, hk⟩ := h
      exact .waits rfl hk

end Async

/-! ## Systems -/

/-- One of a pair of lists related item by item is taken out together with its partner. -/
theorem forall₂_eraseIdx {α β : Type*} {R : α → β → Prop} {xs : List α} {ys : List β}
    (h : List.Forall₂ R xs ys) {i : ℕ} {x : α} (hx : xs[i]? = some x) :
    ∃ y, ys[i]? = some y ∧ R x y ∧ List.Forall₂ R (xs.eraseIdx i) (ys.eraseIdx i) := by
  induction h generalizing i with
  | nil => cases hx
  | cons hhead htail ih =>
      cases i with
      | zero =>
          cases hx
          exact ⟨_, rfl, hhead, htail⟩
      | succ i =>
          obtain ⟨y, hy, hxy, hrest⟩ := ih hx
          exact ⟨y, hy, hxy, .cons hhead hrest⟩

namespace System

open Async

variable {ε σ τ ρ ν κ κ' μ η η' : Type} {S : System ε σ ρ ν κ μ η} {T : System ε τ ρ ν κ' μ η'}
  {part : σ → τ}

/-- The part changes with time and with requests as the state of `T` does, and the last
moment entered is the one that counts. -/
structure Shares (S : System ε σ ρ ν κ μ η) (T : System ε τ ρ ν κ' μ η') (part : σ → τ) :
    Prop where
  sent : ∀ r s, part (S.sent r s) = T.sent r (part s)
  entered : ∀ m s, part (S.entered m s) = T.entered m (part s)
  again : ∀ m m' t, T.entered m (T.entered m' t) = T.entered m t

/-- The part is the state of `T` but for the moment, and the same tasks wait. -/
structure Related (S : System ε σ ρ ν κ μ η) (T : System ε τ ρ ν κ' μ η') (part : σ → τ)
    (c : Config ε σ ρ ν κ) (d : Config ε τ ρ ν κ') : Prop where
  state : ∀ m, part (S.entered m c.state) = T.entered m d.state
  waiting : List.Forall₂ (fun t u => t.1 = u.1 ∧
    ∀ v, Follows part (fun x _ => Idle part x) (t.2 v) (u.2 v)) c.waiting d.waiting
  ready : c.ready = [] ∧ d.ready = []

variable {c : Config ε σ ρ ν κ} {d : Config ε τ ρ ν κ'} {s : σ}

theorem Related.requests (h : Related S T part c d) :
    c.waiting.map Prod.fst = d.waiting.map Prod.fst := by
  have hwaiting := h.waiting
  generalize c.waiting = ws, d.waiting = ws' at hwaiting
  induction hwaiting with
  | nil => rfl
  | cons h _ ih => rw [List.map_cons, List.map_cons, h.1, ih]

/-- A step of `S` that leaves the part alone is followed by no step of `T`. -/
theorem Related.settle_idle (hST : Shares S T part) (h : Related S T part c d) (m : μ)
    {p : Async ε σ ρ ν κ Unit} {result : Except ε Unit} {s' : σ}
    (hp : p.advance s = (.ended result, s', [])) (hs : part s = T.entered m d.state)
    (hpart : part s' = part s) : Related S T part (S.settle c p s) d := by
  rw [S.settle_of_ended hp, List.append_nil]
  refine ⟨fun m' => ?_, h.waiting, h.ready⟩
  show part (S.entered m' s') = _
  rw [hST.entered, hpart, hs, hST.again]

/-- Tasks that stop alike lead to related configurations. -/
theorem Related.settle (hST : Shares S T part) (h : Related S T part c d)
    {p : Async ε σ ρ ν κ Unit} {q : Async ε τ ρ ν κ' Unit} {t : τ}
    (hpq : Alike part (p.advance s) (q.advance t)) :
    Related S T part (S.settle c p s) (T.settle d q t) := by
  cases hp : p.advance s with
  | mk pause rest =>
      obtain ⟨s', js⟩ := rest
      cases hq : q.advance t with
      | mk pause' rest' =>
          obtain ⟨t', js'⟩ := rest'
          rw [hp, hq] at hpq
          cases hpq with
          | ended hpart =>
              rw [S.settle_of_ended hp, T.settle_of_ended hq, List.append_nil, List.append_nil]
              exact ⟨fun m => (hST.entered m s').trans (congrArg (T.entered m) hpart), h.waiting,
                h.ready⟩
          | waits hpart hk =>
              rw [S.settle_of_waits hp, T.settle_of_waits hq, List.append_nil, List.append_nil]
              refine ⟨fun m => ?_, ?_, h.ready⟩
              · show part (S.entered m (S.sent _ s')) = T.entered m (T.sent _ t')
                rw [hST.entered, hST.sent, hpart]
              · exact List.rel_append h.waiting (.cons ⟨rfl, hk⟩ .nil)

/-- An answer that comes in is taken by both. -/
theorem Related.answer {c' : Config ε σ ρ ν κ} (hST : Shares S T part) (h : Related S T part c d)
    {C : Condition τ ρ ν κ' η'} {i : ℕ} {v : ν} {m : μ} (hC : T.Meets C d (.answer i v m))
    (hstep : S.machine.step c (.answer i v m) = some c') :
    ∃ es d', T.machine.MeetsFrom (T.Meets C) d es ∧ T.machine.runFrom d es = some d' ∧
      Related S T part c' d' := by
  obtain ⟨⟨r, k⟩, hk, hstep⟩ := Option.map_eq_some_iff.1 hstep
  obtain ⟨⟨r', k'⟩, hk', ⟨_, hfollows⟩, hwaiting⟩ := forall₂_eraseIdx h.waiting hk
  refine ⟨[.answer i v m], T.settle { d with waiting := d.waiting.eraseIdx i } (k' v)
    (T.entered m d.state), ⟨hC, fun _ _ => trivial⟩, ?_, ?_⟩
  · refine T.machine.runFrom_cons.2 ⟨_, ?_, rfl⟩
    show d.waiting[i]?.map _ = _
    rw [hk']
    rfl
  · rw [← hstep]
    have hrest : Related S T part { c with waiting := c.waiting.eraseIdx i }
        { d with waiting := d.waiting.eraseIdx i } := ⟨h.state, hwaiting, h.ready⟩
    exact hrest.settle hST (h.state m ▸ (hfollows v).advance _)

/-- A job of `T` that is over when it stops, as a step. -/
theorem step_request_ended {j : κ'} {m : μ} {result : Except ε Unit} {t : τ}
    (hj : T.isRequest j = true)
    (hended : (T.body j).advance (T.entered m d.state) = (.ended result, t, [])) :
    T.machine.step d (.request j m) = some { d with state := t } := by
  show (if T.isRequest j then _ else none) = _
  rw [if_pos hj, T.settle_of_ended hended, List.append_nil]

end System

end Library

end Coordination
