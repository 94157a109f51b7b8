import Coordination.Library.Async

/-!
# Tasks over a part of the state

A service keeps a state of its own around the state of the tasks it runs: it runs a
task on that part (`Async.within`) and goes on with what came of it, result or failure
(`Async.conclude`). The lemmas say how such a task advances, and carry what a task
guarantees for the part over to the whole.
-/

namespace Coordination

namespace Library

namespace Async

variable {ε σ τ ρ ν κ μ α β : Type}

/-- Go on with what came of a computation. -/
def conclude : Async ε σ ρ ν κ α → (Except ε α → Async ε σ ρ ν κ β) → Async ε σ ρ ν κ β
  | ret a, f => f (.ok a)
  | fail e, f => f (.error e)
  | read k, f => read fun s => conclude (k s) f
  | write s k, f => write s (conclude k f)
  | spawn j k, f => spawn j (conclude k f)
  | await r k, f => await r fun v => conclude (k v) f

/-- A computation that never waits. -/
def Prompt : Async ε σ ρ ν κ α → Prop
  | ret _ => True
  | fail _ => True
  | read k => ∀ s, Prompt (k s)
  | write _ k => Prompt k
  | spawn _ k => Prompt k
  | await _ _ => False

theorem prompt_bind {p : Async ε σ ρ ν κ α} {f : α → Async ε σ ρ ν κ β} (hp : p.Prompt)
    (hf : ∀ a, (f a).Prompt) : (p.bind f).Prompt := by
  induction p with
  | ret a => exact hf a
  | fail e => exact trivial
  | read k ih => exact fun s => ih s (hp s)
  | write s k ih => exact ih hp
  | spawn j k ih => exact ih hp
  | await r k ih => exact hp.elim

theorem prompt_ofExcept (x : Except ε α) : (ofExcept x : Async ε σ ρ ν κ α).Prompt := by
  cases x <;> exact trivial

theorem prompt_atomic (p : Prog ε σ α) : (atomic p : Async ε σ ρ ν κ α).Prompt := by
  intro s
  dsimp only
  cases p.run s with
  | mk result t => cases result <;> exact trivial

theorem Prompt.advance {p : Async ε σ ρ ν κ α} (hp : p.Prompt) (s : σ) {r : ρ}
    {k : ν → Async ε σ ρ ν κ α} {t : σ} {js : List κ} : p.advance s ≠ (.waits r k, t, js) := by
  induction p generalizing s js with
  | ret a => nofun
  | fail e => nofun
  | read k' ih => exact ih s (hp s) s
  | write s' k' ih => exact ih hp s'
  | spawn j k' ih =>
      intro h
      simp only [Async.advance] at h
      cases hk : k'.advance s with
      | mk pause rest =>
          obtain ⟨t', js'⟩ := rest
          rw [hk] at h
          cases h
          exact ih hp s hk
  | await r' k' ih => exact hp.elim

/-! ## Running to the first wait -/

theorem bind_assoc {γ : Type} (p : Async ε σ ρ ν κ α) (f : α → Async ε σ ρ ν κ β)
    (g : β → Async ε σ ρ ν κ γ) : (p.bind f).bind g = p.bind fun a => (f a).bind g := by
  induction p with
  | ret a => rfl
  | fail e => rfl
  | read k ih => exact congrArg read (funext ih)
  | write s k ih => exact congrArg (write s) ih
  | spawn j k ih => exact congrArg (spawn j) ih
  | await r k ih => exact congrArg (await r) (funext ih)

/-- A program that succeeds goes on from where it leaves the state. -/
theorem advance_atomic_ok {p : Prog ε σ α} {f : α → Async ε σ ρ ν κ β} {s t : σ} {a : α}
    (h : p.run s = (.ok a, t)) : ((atomic p).bind f).advance s = (f a).advance t := by
  simp only [atomic, bind, advance]
  rw [h]
  rfl

theorem advance_atomic_error {p : Prog ε σ α} {f : α → Async ε σ ρ ν κ β} {s t : σ} {e : ε}
    (h : p.run s = (.error e, t)) :
    ((atomic p).bind f).advance s = (.ended (.error e), t, []) := by
  simp only [atomic, bind, advance]
  rw [h]
  rfl

section Waits

variable {s t : σ} {r : ρ} {k : ν → Async ε σ ρ ν κ β} {js : List κ}

theorem exists_of_waits_ofExcept {x : Except ε α} {f : α → Async ε σ ρ ν κ β}
    (h : ((ofExcept x).bind f).advance s = (.waits r k, t, js)) :
    ∃ a, x = .ok a ∧ (f a).advance s = (.waits r k, t, js) := by
  cases x with
  | ok a => exact ⟨a, rfl, h⟩
  | error e => cases h

theorem exists_of_waits_atomic {p : Prog ε σ α} {f : α → Async ε σ ρ ν κ β}
    (h : ((atomic p).bind f).advance s = (.waits r k, t, js)) :
    ∃ a s', p.run s = (.ok a, s') ∧ (f a).advance s' = (.waits r k, t, js) := by
  cases hrun : p.run s with
  | mk result s' =>
      cases result with
      | ok a => exact ⟨a, s', rfl, (advance_atomic_ok hrun).symm.trans h⟩
      | error e => cases (advance_atomic_error hrun).symm.trans h

end Waits

/-- A part of a state: what is put there is there, and nothing else changes. -/
structure Part (part : σ → τ) (put : τ → σ → σ) : Prop where
  part_put : ∀ t s, part (put t s) = t
  put_put : ∀ t t' s, put t (put t' s) = put t s
  put_part : ∀ s, put (part s) s = s

section Advance

variable {part : σ → τ} {put : τ → σ → σ} (hpart : Part part put) {p : Async ε τ ρ ν κ α}
  {f : Except ε α → Async ε σ ρ ν κ β} {s : σ} {t : τ} {js : List κ}

include hpart

/-- A computation on the part that is over goes on with its conclusion. -/
theorem advance_conclude_ended {result : Except ε α}
    (h : p.advance (part s) = (.ended result, t, js)) :
    ((within part put p).conclude f).advance s =
      (((f result).advance (put t s)).1, ((f result).advance (put t s)).2.1,
        js ++ ((f result).advance (put t s)).2.2) := by
  induction p generalizing s js with
  | ret a =>
      cases h
      rw [hpart.put_part]
      rfl
  | fail e =>
      cases h
      rw [hpart.put_part]
      rfl
  | read k ih => exact ih (part s) h
  | write t' k ih =>
      have hput : k.advance (part (put t' s)) = (.ended result, t, js) := by
        rw [hpart.part_put]
        exact h
      have hnext := ih hput
      rw [hpart.put_put] at hnext
      exact hnext
  | spawn j k ih =>
      simp only [advance] at h
      cases hk : k.advance (part s) with
      | mk pause rest =>
          obtain ⟨t', js'⟩ := rest
          rw [hk] at h
          cases h
          have hnext := ih hk
          simp only [within, conclude, advance]
          rw [hnext]
          rfl
  | await r k ih => cases h

/-- A computation on the part that waits concludes later. -/
theorem advance_conclude_waits {r : ρ} {k : ν → Async ε τ ρ ν κ α}
    (h : p.advance (part s) = (.waits r k, t, js)) :
    ((within part put p).conclude f).advance s =
      (.waits r fun v => (within part put (k v)).conclude f, put t s, js) := by
  induction p generalizing s js with
  | ret a => cases h
  | fail e => cases h
  | read k' ih => exact ih (part s) h
  | write t' k' ih =>
      have hput : k'.advance (part (put t' s)) = (.waits r k, t, js) := by
        rw [hpart.part_put]
        exact h
      have hnext := ih hput
      rw [hpart.put_put] at hnext
      exact hnext
  | spawn j k' ih =>
      simp only [advance] at h
      cases hk : k'.advance (part s) with
      | mk pause rest =>
          obtain ⟨t', js'⟩ := rest
          rw [hk] at h
          cases h
          have hnext := ih hk
          simp only [within, conclude, advance]
          rw [hnext]
  | await r' k' ih =>
      cases h
      rw [hpart.put_part]
      rfl

/-- Computations on the part that advance alike conclude alike. -/
theorem advance_conclude_eq {p' : Async ε τ ρ ν κ α} {u : τ}
    (h : p.advance (part s) = p'.advance u) :
    ((within part put p).conclude f).advance s =
      ((within part put p').conclude f).advance (put u s) := by
  have hu : p'.advance (part (put u s)) = p.advance (part s) := by rw [hpart.part_put, h]
  cases hstop : p.advance (part s) with
  | mk pause rest =>
      obtain ⟨t, js⟩ := rest
      rw [hstop] at hu
      cases pause with
      | ended result =>
          rw [advance_conclude_ended hpart hstop, advance_conclude_ended hpart hu, hpart.put_put]
      | waits r k =>
          rw [advance_conclude_waits hpart hstop, advance_conclude_waits hpart hu, hpart.put_put]

end Advance

/-! ## Guarantees -/

section Ensures

variable {R : Rules σ ρ ν μ} {Q : α → σ → Prop} {E : ε → σ → Prop}

theorem ensures_conclude {Q' : β → σ → Prop} {E' : ε → σ → Prop} {p : Async ε σ ρ ν κ α}
    {f : Except ε α → Async ε σ ρ ν κ β} {s : σ} (hp : Ensures R Q E p s)
    (hok : ∀ a s, Q a s → Ensures R Q' E' (f (.ok a)) s)
    (herror : ∀ e s, E e s → Ensures R Q' E' (f (.error e)) s) :
    Ensures R Q' E' (p.conclude f) s := by
  induction p generalizing s with
  | ret a => exact hok a s hp
  | fail e => exact herror e s hp
  | read k ih => exact ih s hp
  | write s' k ih => exact ⟨hp.1, ih hp.2⟩
  | spawn j k ih => exact ih hp
  | await r k ih => exact ⟨hp.1, fun v m s' hs' hrely ha => ih v (hp.2 v m s' hs' hrely ha)⟩

/-- A fact that every step keeps still holds when the computation returns. -/
theorem ensures_frame {F : σ → Prop} (hF : ∀ s t, R.rely s t → F s → F t)
    (hsent : ∀ r s, R.rely s (R.sent r s)) (hentered : ∀ m s, R.rely s (R.entered m s))
    {p : Async ε σ ρ ν κ α} {s : σ} (hs : F s) (hp : Ensures R Q E p s) :
    Ensures R (fun a t => Q a t ∧ F t) E p s := by
  induction p generalizing s with
  | ret a => exact ⟨hp, hs⟩
  | fail e => exact hp
  | read k ih => exact ih s hs hp
  | write s' k ih => exact ⟨hp.1, ih (hF _ _ hp.1 hs) hp.2⟩
  | spawn j k ih => exact ih hs hp
  | await r k ih =>
      refine ⟨hp.1, fun v m s' hs' hrely ha => ?_⟩
      have hlater : F s' := hF _ _ hrely (hF _ _ (hsent r s) hs)
      exact ih v (hF _ _ (hentered m s') hlater) (hp.2 v m s' hs' hrely ha)

/-- Whatever the computation returns satisfies `P`. -/
def Returns (P : α → Prop) : Async ε σ ρ ν κ α → Prop
  | ret a => P a
  | fail _ => True
  | read k => ∀ s, Returns P (k s)
  | write _ k => Returns P k
  | spawn _ k => Returns P k
  | await _ k => ∀ v, Returns P (k v)

theorem returns_true (p : Async ε σ ρ ν κ α) : p.Returns fun _ => True := by
  induction p with
  | ret a => exact trivial
  | fail e => exact trivial
  | read k ih => exact ih
  | write s k ih => exact ih
  | spawn j k ih => exact ih
  | await r k ih => exact ih

theorem returns_bind {P : α → Prop} {P' : β → Prop} {p : Async ε σ ρ ν κ α}
    {f : α → Async ε σ ρ ν κ β} (hp : p.Returns P) (hf : ∀ a, P a → (f a).Returns P') :
    (p.bind f).Returns P' := by
  induction p with
  | ret a => exact hf a hp
  | fail e => exact trivial
  | read k ih => exact fun s => ih s (hp s)
  | write s k ih => exact ih hp
  | spawn j k ih => exact ih hp
  | await r k ih => exact fun v => ih v (hp v)

theorem returns_atomic {P : α → Prop} {p : Prog ε σ α}
    (hp : ∀ s, p.Ensures (fun a _ => P a) (fun _ => True) s) :
    (atomic p : Async ε σ ρ ν κ α).Returns P := by
  intro s
  have hs := hp s
  unfold Prog.Ensures at hs
  dsimp only
  cases hrun : p.run s with
  | mk result t =>
      rw [hrun] at hs
      cases result with
      | ok a => exact hs
      | error e => exact trivial

theorem ensures_returns {P : α → Prop} {p : Async ε σ ρ ν κ α} {s : σ} (hP : p.Returns P)
    (hp : Ensures R Q E p s) : Ensures R (fun a t => Q a t ∧ P a) E p s := by
  induction p generalizing s with
  | ret a => exact ⟨hp, hP⟩
  | fail e => exact hp
  | read k ih => exact ih s (hP s) hp
  | write s' k ih => exact ⟨hp.1, ih hP hp.2⟩
  | spawn j k ih => exact ih hP hp
  | await r k ih => exact ⟨hp.1, fun v m s' hs' hrely ha => ih v (hP v) (hp.2 v m s' hs' hrely ha)⟩

/-- The rules of a state around a part: the part keeps to rules of its own, and `F`
holds of the rest whatever the part does. -/
structure Around (R : Rules σ ρ ν μ) (R' : Rules τ ρ ν μ) (part : σ → τ) (put : τ → σ → σ)
    (F : σ → Prop) : Prop where
  invariant : ∀ s, R.invariant s ↔ R'.invariant (part s) ∧ F s
  rely : ∀ s t, R.rely s t ↔ R'.rely (part s) (part t)
  sent : ∀ r s, part (R.sent r s) = R'.sent r (part s)
  entered : ∀ m s, part (R.entered m s) = R'.entered m (part s)
  answers : ∀ r v s, R.answers r v s → R'.answers r v (part s)
  puts : ∀ t s, R'.rely (part s) t → F s → F (put t s)
  sends : ∀ r s, F s → F (R.sent r s)
  enters : ∀ m s, F s → F (R.entered m s)

theorem ensures_within {R' : Rules τ ρ ν μ} {part : σ → τ} {put : τ → σ → σ} {F : σ → Prop}
    (hpart : Part part put) (hR : Around R R' part put F) {Q : α → τ → Prop} {E : ε → τ → Prop}
    {p : Async ε τ ρ ν κ α} {s : σ} (hs : F s) (hp : Ensures R' Q E p (part s)) :
    Ensures R (fun a s => Q a (part s) ∧ F s) (fun e s => E e (part s) ∧ F s)
      (within part put p) s := by
  induction p generalizing s with
  | ret a => exact ⟨hp, hs⟩
  | fail e => exact ⟨hp, hs⟩
  | read k ih => exact ih (part s) hs hp
  | write t k ih =>
      refine ⟨(hR.rely _ _).2 ?_, ih (hR.puts t s hp.1 hs) ?_⟩
      · rw [hpart.part_put]
        exact hp.1
      · rw [hpart.part_put]
        exact hp.2
  | spawn j k ih => exact ih hs hp
  | await r k ih =>
      refine ⟨(hR.invariant _).2 ⟨hR.sent r s ▸ hp.1, hR.sends r s hs⟩,
        fun v m s' hs' hrely ha => ?_⟩
      obtain ⟨hinvariant, hF⟩ := (hR.invariant s').1 hs'
      have hrely := (hR.rely _ _).1 hrely
      have ha := hR.answers r v _ ha
      rw [hR.sent] at hrely
      rw [hR.entered] at ha
      refine ih v (hR.enters m s' hF) ?_
      rw [hR.entered]
      exact hp.2 v m (part s') hinvariant hrely ha

end Ensures

end Async

end Library

end Coordination
