import Mathlib.Tactic.Basic

/-!
# Guarded machines and their runs

A machine is a step function `step : σ → ε → Option σ`: it says whether an event
may happen in a state and what it does. A run is a list of events each of which
may happen where it stands.

`Machine.Meets C` picks out the runs whose steps all satisfy a condition `C` on
the state before the step and the event. The induction rule for an invariant
along such runs is stated once, `Machine.run_invariant`.
-/

namespace Coordination

namespace Library

/-- A guarded step function with an initial state. -/
structure Machine (σ ε : Type) where
  init : σ
  step : σ → ε → Option σ

namespace Machine

variable {σ ε : Type} (m : Machine σ ε)

/-- Run events from a state; `none` where one of them may not happen. -/
def runFrom (s : σ) : List ε → Option σ
  | [] => some s
  | e :: es => (m.step s e).bind fun s' => runFrom s' es

/-- Run events from the initial state. -/
def run (es : List ε) : Option σ :=
  m.runFrom m.init es

/-- Every step of the run satisfies the condition. -/
def MeetsFrom (C : σ → ε → Prop) (s : σ) : List ε → Prop
  | [] => True
  | e :: es => C s e ∧ ∀ s', m.step s e = some s' → MeetsFrom C s' es

def Meets (C : σ → ε → Prop) (es : List ε) : Prop :=
  m.MeetsFrom C m.init es

@[simp] theorem runFrom_nil (s : σ) : m.runFrom s [] = some s := rfl

theorem runFrom_cons {s t : σ} {e : ε} {es : List ε} :
    m.runFrom s (e :: es) = some t ↔ ∃ s', m.step s e = some s' ∧ m.runFrom s' es = some t := by
  simp [runFrom, Option.bind_eq_some_iff]

theorem runFrom_append {s t : σ} {es es' : List ε} :
    m.runFrom s (es ++ es') = some t ↔
      ∃ u, m.runFrom s es = some u ∧ m.runFrom u es' = some t := by
  induction es generalizing s with
  | nil => simp
  | cons e es ih =>
      rw [List.cons_append, runFrom_cons]
      constructor
      · rintro ⟨s', hs', h⟩
        obtain ⟨u, hu, ht⟩ := ih.1 h
        exact ⟨u, m.runFrom_cons.2 ⟨s', hs', hu⟩, ht⟩
      · rintro ⟨u, hu, ht⟩
        obtain ⟨s', hs', hu⟩ := m.runFrom_cons.1 hu
        exact ⟨s', hs', ih.2 ⟨u, hu, ht⟩⟩

/-- What the initial state satisfies and every step that meets the condition
keeps, every run that meets the condition ends with. -/
theorem runFrom_invariant {C : σ → ε → Prop} {P : σ → Prop}
    (hstep : ∀ s e s', P s → C s e → m.step s e = some s' → P s') :
    ∀ {es : List ε} {s t : σ}, P s → m.MeetsFrom C s es → m.runFrom s es = some t → P t
  | [], s, t, hs, _, h => by
      cases h
      exact hs
  | e :: es, s, t, hs, hmeets, h => by
      obtain ⟨s', hs', h⟩ := m.runFrom_cons.1 h
      exact runFrom_invariant hstep (hstep s e s' hs hmeets.1 hs') (hmeets.2 s' hs') h

theorem run_invariant {C : σ → ε → Prop} {P : σ → Prop} (hinit : P m.init)
    (hstep : ∀ s e s', P s → C s e → m.step s e = some s' → P s') {es : List ε} {t : σ}
    (hmeets : m.Meets C es) (h : m.run es = some t) : P t :=
  m.runFrom_invariant hstep hinit hmeets h

theorem meets_of_forall {C : σ → ε → Prop} (hC : ∀ s e, C s e) (es : List ε) : m.Meets C es := by
  suffices h : ∀ s, m.MeetsFrom C s es from h m.init
  induction es with
  | nil => exact fun _ => trivial
  | cons e es ih => exact fun s => ⟨hC s e, fun s' _ => ih s'⟩

/-- A condition that holds of every prefix of a run. -/
theorem meetsFrom_append {C : σ → ε → Prop} {s : σ} {es es' : List ε} :
    m.MeetsFrom C s (es ++ es') ↔
      m.MeetsFrom C s es ∧ ∀ u, m.runFrom s es = some u → m.MeetsFrom C u es' := by
  induction es generalizing s with
  | nil => simp [MeetsFrom]
  | cons e es ih =>
      simp only [List.cons_append, MeetsFrom, ih]
      constructor
      · rintro ⟨hC, h⟩
        refine ⟨⟨hC, fun s' hs' => (h s' hs').1⟩, ?_⟩
        intro u hu
        obtain ⟨s', hs', hu⟩ := m.runFrom_cons.1 hu
        exact (h s' hs').2 u hu
      · rintro ⟨⟨hC, h⟩, h'⟩
        exact ⟨hC, fun s' hs' => ⟨h s' hs', fun u hu => h' u (m.runFrom_cons.2 ⟨s', hs', hu⟩)⟩⟩

end Machine

end Library

end Coordination
