import Coordination.Library.Async

/-!
# Tasks that are run again

A loop over waits: a task is run, and it is run again each time it returns `true`. A `Cycle` is
how far such a loop has come, with every request it has made and the answer it got.

`Async.Keeps` computes what a task has to start from so that a predicate holds at every wait and
another one when it stops; both may speak about the requests and answers so far.
`Cycle.run_holds` is what it gives for every sequence of answers.
-/

namespace Coordination

namespace Library

variable {ε σ ρ ν κ α β : Type}

/-! ## What a task keeps -/

namespace Async

/-- From the state and the exchanges so far, every wait is reached with `I`, and the task
returns with `Q` or fails with `E`. -/
def Keeps (I : ρ → σ → List (ρ × ν) → Prop) (Q : α → σ → List (ρ × ν) → Prop)
    (E : ε → σ → List (ρ × ν) → Prop) : Async ε σ ρ ν κ α → σ → List (ρ × ν) → Prop
  | ret a, s, heard => Q a s heard
  | fail e, s, heard => E e s heard
  | read k, s, heard => Keeps I Q E (k s) s heard
  | write s' k, _, heard => Keeps I Q E k s' heard
  | spawn _ k, s, heard => Keeps I Q E k s heard
  | await r k, s, heard => I r s heard ∧ ∀ v, Keeps I Q E (k v) s (heard ++ [(r, v)])

variable {I : ρ → σ → List (ρ × ν) → Prop} {Q : α → σ → List (ρ × ν) → Prop}
  {E : ε → σ → List (ρ × ν) → Prop} {s : σ} {heard : List (ρ × ν)}

theorem keeps_ret {a : α} :
    Keeps I Q E (ret a : Async ε σ ρ ν κ α) s heard ↔ Q a s heard := Iff.rfl

theorem keeps_fail {e : ε} :
    Keeps I Q E (fail e : Async ε σ ρ ν κ α) s heard ↔ E e s heard := Iff.rfl

theorem keeps_read {k : σ → Async ε σ ρ ν κ α} :
    Keeps I Q E (read k) s heard ↔ Keeps I Q E (k s) s heard := Iff.rfl

theorem keeps_await {r : ρ} {k : ν → Async ε σ ρ ν κ α} :
    Keeps I Q E (await r k) s heard ↔
      I r s heard ∧ ∀ v, Keeps I Q E (k v) s (heard ++ [(r, v)]) := Iff.rfl

/-- The second part of a sequence starts where the first one returns. -/
theorem keeps_bind {R : β → σ → List (ρ × ν) → Prop} {p : Async ε σ ρ ν κ α}
    {f : α → Async ε σ ρ ν κ β} :
    Keeps I R E (p.bind f) s heard ↔ Keeps I (fun a => Keeps I R E (f a)) E p s heard := by
  induction p generalizing s heard with
  | ret a => exact Iff.rfl
  | fail e => exact Iff.rfl
  | read k ih => exact ih s
  | write s' k ih => exact ih
  | spawn j k ih => exact ih
  | await r k ih => exact and_congr_right fun _ => forall_congr' fun v => ih v

/-- The handler starts where the task fails. -/
theorem keeps_onError {p : Async ε σ ρ ν κ α} {handler : ε → Async ε σ ρ ν κ α} :
    Keeps I Q E (p.onError handler) s heard ↔
      Keeps I Q (fun e => Keeps I Q E (handler e)) p s heard := by
  induction p generalizing s heard with
  | ret a => exact Iff.rfl
  | fail e => exact Iff.rfl
  | read k ih => exact ih s
  | write s' k ih => exact ih
  | spawn j k ih => exact ih
  | await r k ih => exact and_congr_right fun _ => forall_congr' fun v => ih v

theorem keeps_modify {Q : Unit → σ → List (ρ × ν) → Prop} {f : σ → σ} :
    Keeps I Q E (atomic (Prog.modify f) : Async ε σ ρ ν κ Unit) s heard ↔ Q () (f s) heard :=
  Iff.rfl

theorem keeps_ofExcept {x : Except ε α} :
    Keeps I Q E (ofExcept x : Async ε σ ρ ν κ α) s heard ↔
      (∀ a, x = .ok a → Q a s heard) ∧ ∀ e, x = .error e → E e s heard := by
  cases x with
  | ok a => simp [ofExcept, Keeps]
  | error e => simp [ofExcept, Keeps]

/-- A task that keeps more keeps less. -/
theorem Keeps.mono {Q' : α → σ → List (ρ × ν) → Prop} {E' : ε → σ → List (ρ × ν) → Prop}
    (hQ : ∀ a s heard, Q a s heard → Q' a s heard) (hE : ∀ e s heard, E e s heard → E' e s heard)
    {p : Async ε σ ρ ν κ α} (h : Keeps I Q E p s heard) : Keeps I Q' E' p s heard := by
  induction p generalizing s heard with
  | ret a => exact hQ a s heard h
  | fail e => exact hE e s heard h
  | read k ih => exact ih s h
  | write s' k ih => exact ih h
  | spawn j k ih => exact ih h
  | await r k ih => exact ⟨h.1, fun v => ih v (h.2 v)⟩

/-! ## Predicates kept throughout -/

/-- From every state with the predicate the task keeps it, however it ends. -/
def Steady (I : ρ → σ → List (ρ × ν) → Prop) (U : σ → List (ρ × ν) → Prop)
    (p : Async ε σ ρ ν κ α) : Prop :=
  ∀ s heard, U s heard → Keeps I (fun _ => U) (fun _ => U) p s heard

section Steady

variable {U : σ → List (ρ × ν) → Prop}

theorem steady_ret (a : α) : Steady I U (ret a : Async ε σ ρ ν κ α) :=
  fun _ _ h => h

theorem steady_fail (e : ε) : Steady I U (fail e : Async ε σ ρ ν κ α) :=
  fun _ _ h => h

theorem steady_ofExcept (x : Except ε α) : Steady I U (ofExcept x : Async ε σ ρ ν κ α) :=
  fun _ _ h => keeps_ofExcept.2 ⟨fun _ _ => h, fun _ _ => h⟩

theorem steady_read {k : σ → Async ε σ ρ ν κ α} (hk : ∀ s, Steady I U (k s)) :
    Steady I U (read k) :=
  fun s heard h => hk s s heard h

theorem steady_modify {f : σ → σ} (hf : ∀ s heard, U s heard → U (f s) heard) :
    Steady I U (atomic (Prog.modify f) : Async ε σ ρ ν κ Unit) :=
  fun s heard h => hf s heard h

theorem steady_bind {p : Async ε σ ρ ν κ α} {f : α → Async ε σ ρ ν κ β} (hp : Steady I U p)
    (hf : ∀ a, Steady I U (f a)) : Steady I U (p.bind f) :=
  fun s heard h => keeps_bind.2
    ((hp s heard h).mono (fun a s' heard' h' => hf a s' heard' h') fun _ _ _ h' => h')

theorem steady_await {r : ρ} {k : ν → Async ε σ ρ ν κ α}
    (hwait : ∀ s heard, U s heard → I r s heard)
    (hheard : ∀ v s heard, U s heard → U s (heard ++ [(r, v)])) (hk : ∀ v, Steady I U (k v)) :
    Steady I U (await r k) :=
  fun s heard h => ⟨hwait s heard h, fun v => hk v _ _ (hheard v s heard h)⟩

end Steady

/-- What is kept by a task is there when it stops. -/
def Pause.Keeps (I : ρ → σ → List (ρ × ν) → Prop) (Q : α → σ → List (ρ × ν) → Prop)
    (E : ε → σ → List (ρ × ν) → Prop) :
    Pause ε σ ρ ν κ α → σ → List (ρ × ν) → Prop
  | .ended (.ok a), s, heard => Q a s heard
  | .ended (.error e), s, heard => E e s heard
  | .waits r k, s, heard => Async.Keeps I Q E (await r k) s heard

theorem keeps_advance {p : Async ε σ ρ ν κ α} (h : Keeps I Q E p s heard) :
    (p.advance s).1.Keeps I Q E (p.advance s).2.1 heard := by
  induction p generalizing s with
  | ret a => exact h
  | fail e => exact h
  | read k ih => exact ih s h
  | write s' k ih => exact ih h
  | spawn j k ih => exact ih h
  | await r k ih => exact h

end Async

/-! ## Cycles -/

/-- Where a task that is run again stands, and what it has asked and been answered, oldest
first. -/
structure Cycle (ε σ ρ ν κ : Type) where
  pause : Async.Pause ε σ ρ ν κ Bool
  state : σ
  heard : List (ρ × ν)

namespace Cycle

/-- Run a task to its next wait; where it has returned `true`, run the body again. -/
def settle (body p : Async ε σ ρ ν κ Bool) (s : σ) (heard : List (ρ × ν)) : Cycle ε σ ρ ν κ :=
  match (p.advance s).1 with
  | .ended (.ok true) =>
    ⟨(body.advance (p.advance s).2.1).1, (body.advance (p.advance s).2.1).2.1, heard⟩
  | pause => ⟨pause, (p.advance s).2.1, heard⟩

/-- The answer to what the task waits for. -/
def hear (body : Async ε σ ρ ν κ Bool) (c : Cycle ε σ ρ ν κ) (v : ν) : Cycle ε σ ρ ν κ :=
  match c.pause with
  | .waits r k => settle body (k v) c.state (c.heard ++ [(r, v)])
  | .ended _ => c

/-- The cycle after a sequence of answers. -/
def run (body : Async ε σ ρ ν κ Bool) (s : σ) (vs : List ν) : Cycle ε σ ρ ν κ :=
  vs.foldl (hear body) (settle body body s [])

/-- The request the task waits for. -/
def request (c : Cycle ε σ ρ ν κ) : Option ρ :=
  match c.pause with
  | .waits r _ => some r
  | .ended _ => none

variable {I : ρ → σ → List (ρ × ν) → Prop} {J : Bool → σ → List (ρ × ν) → Prop}
  {body : Async ε σ ρ ν κ Bool} {s : σ}

/-- The cycle stands as its body keeps it: it has not failed. -/
def Holds (I : ρ → σ → List (ρ × ν) → Prop) (J : Bool → σ → List (ρ × ν) → Prop)
    (c : Cycle ε σ ρ ν κ) : Prop :=
  c.pause.Keeps I J (fun _ _ _ => False) c.state c.heard

theorem holds_settle
    (hbody : ∀ s heard, J true s heard → body.Keeps I J (fun _ _ _ => False) s heard)
    {p : Async ε σ ρ ν κ Bool} {heard : List (ρ × ν)}
    (hp : p.Keeps I J (fun _ _ _ => False) s heard) : Holds I J (settle body p s heard) := by
  have hstop := Async.keeps_advance hp
  unfold settle
  split
  · next hpause =>
      rw [hpause] at hstop
      exact Async.keeps_advance (hbody _ _ hstop)
  · exact hstop

/-- What every pass over the body keeps holds after every sequence of answers. -/
theorem run_holds
    (hbody : ∀ s heard, J true s heard → body.Keeps I J (fun _ _ _ => False) s heard)
    (hinit : J true s []) (vs : List ν) : Holds I J (run body s vs) := by
  suffices h : ∀ c, Holds I J c → Holds I J (vs.foldl (hear body) c) from
    h _ (holds_settle hbody (hbody _ _ hinit))
  induction vs with
  | nil => exact fun c hc => hc
  | cons v vs ih =>
      intro c hc
      refine ih _ ?_
      unfold hear
      unfold Holds at hc
      split
      · next hpause =>
          rw [hpause] at hc
          exact holds_settle hbody (hc.2 v)
      · exact hc

theorem Holds.waits {c : Cycle ε σ ρ ν κ} (h : Holds I J c) {r : ρ} (hr : c.request = some r) :
    I r c.state c.heard := by
  unfold Holds at h
  unfold request at hr
  cases hpause : c.pause with
  | ended result =>
      rw [hpause] at hr
      cases hr
  | waits r' k =>
      rw [hpause] at h hr
      cases hr
      exact h.1

theorem Holds.ended {c : Cycle ε σ ρ ν κ} (h : Holds I J c) (hr : c.request = none) :
    ∃ again, J again c.state c.heard := by
  unfold Holds at h
  unfold request at hr
  cases hpause : c.pause with
  | ended result =>
      rw [hpause] at h
      cases result with
      | ok again => exact ⟨again, h⟩
      | error e => exact h.elim
  | waits r k =>
      rw [hpause] at hr
      cases hr

/-- What holds at every wait and at every end holds of the cycle. -/
theorem Holds.always {P : σ → List (ρ × ν) → Prop} {c : Cycle ε σ ρ ν κ} (h : Holds I J c)
    (hwait : ∀ r s heard, I r s heard → P s heard)
    (hend : ∀ again s heard, J again s heard → P s heard) : P c.state c.heard := by
  cases hrequest : c.request with
  | none =>
      obtain ⟨again, h⟩ := h.ended hrequest
      exact hend again _ _ h
  | some r => exact hwait r _ _ (h.waits hrequest)

end Cycle

end Library

end Coordination
