import Mathlib.Tactic.Basic

/-!
# Programs that keep their state when they fail

`Prog ε σ α` is a computation on a state `σ` that returns a value or throws, and
that leaves the state it had reached behind in either case, as assignments
before a `throw` do.

What a program may do to the state is stated with `Prog.Within R p`: every run of
`p` ends in a state that the reflexive and transitive relation `R` relates to the
one it started in. What a run from one state ends with is stated with
`Prog.Ensures Q E p s`. The rules follow the syntax of programs.
-/

namespace Coordination

namespace Library

/-- A computation on a state that may fail. -/
def Prog (ε σ α : Type) : Type :=
  σ → Except ε α × σ

namespace Prog

variable {ε σ α β : Type}

/-- Run a computation from a state. -/
def run (p : Prog ε σ α) (s : σ) : Except ε α × σ :=
  p s

instance : Monad (Prog ε σ) where
  pure a := fun s => (.ok a, s)
  bind p f := fun s =>
    match p s with
    | (.ok a, s') => f a s'
    | (.error e, s') => (.error e, s')

/-- Fail; the state stays. -/
def throw (e : ε) : Prog ε σ α :=
  fun s => (.error e, s)

/-- The outcome of a computation without state. -/
def lift (x : Except ε α) : Prog ε σ α :=
  fun s => (x, s)

def get : Prog ε σ σ :=
  fun s => (.ok s, s)

def modify (f : σ → σ) : Prog ε σ Unit :=
  fun s => (.ok (), f s)

/-- Run a handler when a computation fails. -/
def onError (p : Prog ε σ α) (handler : ε → Prog ε σ α) : Prog ε σ α :=
  fun s =>
    match p s with
    | (.ok a, s') => (.ok a, s')
    | (.error e, s') => handler e s'

/-- A computation on a part of the state. -/
def zoom {τ : Type} (part : σ → τ) (put : τ → σ → σ) (p : Prog ε τ α) : Prog ε σ α :=
  fun s => ((p.run (part s)).1, put (p.run (part s)).2 s)

@[simp] theorem run_pure (a : α) (s : σ) : (pure a : Prog ε σ α).run s = (.ok a, s) := rfl

@[simp] theorem run_throw (e : ε) (s : σ) : (throw e : Prog ε σ α).run s = (.error e, s) := rfl

@[simp] theorem run_lift (x : Except ε α) (s : σ) : (lift x : Prog ε σ α).run s = (x, s) := rfl

theorem run_lift_eq {x y : Except ε α} {s s' : σ} :
    (lift x : Prog ε σ α).run s = (y, s') ↔ x = y ∧ s = s' := by
  rw [run_lift, Prod.mk.injEq]

@[simp] theorem run_get (s : σ) : (get : Prog ε σ σ).run s = (.ok s, s) := rfl

@[simp] theorem run_modify (f : σ → σ) (s : σ) :
    (modify f : Prog ε σ Unit).run s = (.ok (), f s) := rfl

@[simp] theorem run_zoom {τ : Type} (part : σ → τ) (put : τ → σ → σ) (p : Prog ε τ α) (s : σ) :
    (p.zoom part put).run s = ((p.run (part s)).1, put (p.run (part s)).2 s) := rfl

theorem run_bind (p : Prog ε σ α) (f : α → Prog ε σ β) (s : σ) :
    (p >>= f).run s =
      match p.run s with
      | (.ok a, s') => (f a).run s'
      | (.error e, s') => (.error e, s') := rfl

theorem run_bind_of_ok {p : Prog ε σ α} {f : α → Prog ε σ β} {s s' : σ} {a : α}
    (h : p.run s = (.ok a, s')) : (p >>= f).run s = (f a).run s' := by
  rw [run_bind, h]

theorem run_bind_of_error {p : Prog ε σ α} {f : α → Prog ε σ β} {s s' : σ} {e : ε}
    (h : p.run s = (.error e, s')) : (p >>= f).run s = (.error e, s') := by
  rw [run_bind, h]

/-- When a sequence returns, both of its parts did. -/
theorem run_bind_eq_ok {p : Prog ε σ α} {f : α → Prog ε σ β} {s s' : σ} {b : β} :
    (p >>= f).run s = (.ok b, s') ↔
      ∃ a t, p.run s = (.ok a, t) ∧ (f a).run t = (.ok b, s') := by
  rw [run_bind]
  cases h : p.run s with
  | mk r t => cases r with
    | error e => simp
    | ok a =>
        constructor
        · intro hf
          exact ⟨a, t, rfl, hf⟩
        · rintro ⟨a', t', ht, hf⟩
          cases ht
          exact hf

/-! ## What a program may do to the state -/

/-- Every run ends in a state related to the first one. -/
def Within (R : σ → σ → Prop) (p : Prog ε σ α) : Prop :=
  ∀ s, R s (p.run s).2

section Within

variable {R : σ → σ → Prop}

theorem within_pure (hrefl : ∀ s, R s s) (a : α) : Within R (pure a : Prog ε σ α) :=
  hrefl

theorem within_throw (hrefl : ∀ s, R s s) (e : ε) : Within R (throw e : Prog ε σ α) :=
  hrefl

theorem within_lift (hrefl : ∀ s, R s s) (x : Except ε α) : Within R (lift x : Prog ε σ α) :=
  hrefl

theorem within_get (hrefl : ∀ s, R s s) : Within R (get : Prog ε σ σ) :=
  hrefl

theorem within_modify {f : σ → σ} (hf : ∀ s, R s (f s)) :
    Within R (modify f : Prog ε σ Unit) :=
  hf

theorem within_bind (htrans : ∀ {s t u}, R s t → R t u → R s u) {p : Prog ε σ α}
    {f : α → Prog ε σ β} (hp : Within R p) (hf : ∀ a, Within R (f a)) :
    Within R (p >>= f) := by
  intro s
  have hfirst := hp s
  rw [run_bind]
  cases h : p.run s with
  | mk r t =>
      rw [h] at hfirst
      cases r with
      | error e => exact hfirst
      | ok a => exact htrans hfirst (hf a t)

theorem within_onError (htrans : ∀ {s t u}, R s t → R t u → R s u) {p : Prog ε σ α}
    {handler : ε → Prog ε σ α} (hp : Within R p) (hh : ∀ e, Within R (handler e)) :
    Within R (onError p handler) := by
  intro s
  have hfirst := hp s
  unfold run onError at *
  cases h : p s with
  | mk r t =>
      rw [h] at hfirst
      cases r with
      | error e => exact htrans hfirst (hh e t)
      | ok a => exact hfirst

end Within

/-! ## What a run ends with -/

/-- The run from `s` returns with `Q` or fails with `E`. -/
def Ensures (Q : α → σ → Prop) (E : σ → Prop) (p : Prog ε σ α) (s : σ) : Prop :=
  match p.run s with
  | (.ok a, t) => Q a t
  | (.error _, t) => E t

section Ensures

variable {Q : α → σ → Prop} {E : σ → Prop}

theorem ensures_pure {a : α} {s : σ} (h : Q a s) : Ensures Q E (pure a : Prog ε σ α) s :=
  h

theorem ensures_throw {e : ε} {s : σ} (h : E s) : Ensures Q E (throw e : Prog ε σ α) s :=
  h

theorem ensures_lift {x : Except ε α} {s : σ} (hok : ∀ a, x = .ok a → Q a s) (herror : E s) :
    Ensures Q E (lift x : Prog ε σ α) s := by
  cases x with
  | error e => exact herror
  | ok a => exact hok a rfl

theorem ensures_bind {Q' : β → σ → Prop} {p : Prog ε σ α} {f : α → Prog ε σ β} {s : σ}
    (hp : Ensures Q E p s) (hf : ∀ a t, Q a t → Ensures Q' E (f a) t) :
    Ensures Q' E (p >>= f) s := by
  unfold Ensures at hp ⊢
  rw [run_bind]
  cases h : p.run s with
  | mk r t =>
      rw [h] at hp
      cases r with
      | error e => exact hp
      | ok a => exact hf a t hp

theorem ensures_get_bind {f : σ → Prog ε σ α} {s : σ} (h : Ensures Q E (f s) s) :
    Ensures Q E (get >>= f) s :=
  h

theorem ensures_modify_bind {g : σ → σ} {f : Unit → Prog ε σ α} {s : σ}
    (h : Ensures Q E (f ()) (g s)) : Ensures Q E (modify g >>= f) s :=
  h

theorem ensures_lift_bind {x : Except ε β} {f : β → Prog ε σ α} {s : σ} (herror : E s)
    (hok : ∀ b, x = .ok b → Ensures Q E (f b) s) : Ensures Q E (lift x >>= f) s := by
  cases x with
  | error e => exact herror
  | ok b => exact hok b rfl

theorem ensures_onError {p : Prog ε σ α} {handler : ε → Prog ε σ α} {s : σ} {F : σ → Prop}
    (hp : Ensures Q F p s) (hhandler : ∀ e t, F t → Ensures Q E (handler e) t) :
    Ensures Q E (onError p handler) s := by
  unfold Ensures run onError at *
  cases h : p s with
  | mk r t =>
      rw [h] at hp
      cases r with
      | error e => exact hhandler e t hp
      | ok a => exact hp

theorem ensures_mono {Q' : α → σ → Prop} {E' : σ → Prop} {p : Prog ε σ α} {s : σ}
    (hp : Ensures Q E p s) (hQ : ∀ a t, Q a t → Q' a t) (hE : ∀ t, E t → E' t) :
    Ensures Q' E' p s := by
  unfold Ensures at hp ⊢
  cases h : p.run s with
  | mk r t =>
      rw [h] at hp
      cases r with
      | error e => exact hE t hp
      | ok a => exact hQ a t hp

theorem ensures_of_state {P : σ → Prop} {p : Prog ε σ α} {s : σ} (hp : P (p.run s).2) :
    Ensures (fun _ => P) P p s := by
  unfold Ensures
  cases h : p.run s with
  | mk r t =>
      rw [h] at hp
      cases r <;> exact hp

/-- A program that stays within `R` ends in a state that `R` relates to the first one. -/
theorem ensures_of_within {R : σ → σ → Prop} {p : Prog ε σ α} (hp : Within R p) {s : σ} :
    Ensures (fun _ => R s) (R s) p s :=
  ensures_of_state (hp s)

theorem ensures_within_bind {R : σ → σ → Prop} {p : Prog ε σ β} {f : β → Prog ε σ α} {s : σ}
    (hp : Within R p) (herror : ∀ t, R s t → E t)
    (hf : ∀ b t, R s t → Ensures Q E (f b) t) : Ensures Q E (p >>= f) s :=
  ensures_bind (ensures_mono (ensures_of_within hp) (fun _ _ h => h) herror) hf

/-- What holds of every end holds of the last state. -/
theorem state_of_ensures {P : σ → Prop} {p : Prog ε σ α} {s : σ}
    (hp : Ensures (fun _ => P) P p s) : P (p.run s).2 := by
  unfold Ensures at hp
  cases h : p.run s with
  | mk r t =>
      rw [h] at hp
      cases r <;> exact hp

end Ensures

end Prog

end Library

end Coordination
