import Mathlib.Data.List.Forall2

/-!
# Fallible computations

When a computation in `Except` succeeds, every step of it did.
-/

namespace Coordination

namespace Library

variable {ε α β : Type}

@[simp] theorem ok_bind (a : α) (f : α → Except ε β) : (Except.ok a >>= f) = f a := rfl

@[simp] theorem error_bind (e : ε) (f : α → Except ε β) :
    (Except.error e >>= f) = .error e := rfl

theorem bind_eq_ok {x : Except ε α} {f : α → Except ε β} {b : β} :
    (x >>= f) = .ok b ↔ ∃ a, x = .ok a ∧ f a = .ok b := by
  cases x with
  | error e =>
      constructor
      · intro h
        cases h
      · rintro ⟨a, h, _⟩
        cases h
  | ok a =>
      constructor
      · intro h
        exact ⟨a, rfl, h⟩
      · rintro ⟨a', ha, h⟩
        cases ha
        exact h

theorem bind_eq_error {x : Except ε α} {f : α → Except ε β} {e : ε} :
    (x >>= f) = .error e ↔ x = .error e ∨ ∃ a, x = .ok a ∧ f a = .error e := by
  cases x with
  | error e' => simp [bind, Except.bind]
  | ok a => simp

theorem exists_of_isOk {x : Except ε α} (hx : x.isOk = true) : ∃ a, x = .ok a := by
  cases x with
  | error e => cases hx
  | ok a => exact ⟨a, rfl⟩

theorem map_eq_ok {x : Except ε α} {f : α → β} {b : β} :
    x.map f = .ok b ↔ ∃ a, x = .ok a ∧ f a = b := by
  cases x with
  | error e => simp [Except.map]
  | ok a => simp [Except.map]

/-- A verdict that counts an error as a rejection. -/
theorem toOption_getD_false {x : Except ε Bool} : x.toOption.getD false = true ↔ x = .ok true := by
  cases x with
  | error e => simp [Except.toOption]
  | ok b => simp [Except.toOption]

theorem isOk_bind {x : Except ε α} {f : α → Except ε β} :
    (x >>= f).isOk = true ↔ ∃ a, x = .ok a ∧ (f a).isOk = true := by
  cases x with
  | error e => simp [bind, Except.bind, Except.isOk, Except.toBool]
  | ok a => simp

theorem isOk_map {x : Except ε α} {f : α → β} : (x.map f).isOk = x.isOk := by
  cases x <;> rfl

@[simp] theorem isOk_pure (a : α) : (pure a : Except ε α).isOk = true := rfl

theorem isOk_bind_pure {x : Except ε α} {f : α → β} :
    (x >>= fun a => pure (f a)).isOk = x.isOk := by
  cases x <;> rfl

/-- A traversal succeeds when every step of it does, and only then. -/
theorem isOk_mapM {f : α → Except ε β} {xs : List α} :
    (xs.mapM f).isOk = true ↔ ∀ x ∈ xs, (f x).isOk = true := by
  induction xs with
  | nil => simp
  | cons x xs ih =>
      rw [List.mapM_cons, isOk_bind, List.forall_mem_cons, ← ih]
      constructor
      · rintro ⟨y, hy, hys⟩
        rw [isOk_bind_pure] at hys
        exact ⟨by rw [hy]; rfl, hys⟩
      · rintro ⟨hx, hxs⟩
        obtain ⟨y, hy⟩ := exists_of_isOk hx
        exact ⟨y, hy, by rw [isOk_bind_pure]; exact hxs⟩

/-- A traversal that succeeds has collected what its steps return. -/
theorem forall₂_of_mapM_eq_ok {f : α → Except ε β} {xs : List α} {ys : List β}
    (h : xs.mapM f = .ok ys) : List.Forall₂ (fun x y => f x = .ok y) xs ys := by
  induction xs generalizing ys with
  | nil =>
      cases h
      exact .nil
  | cons x xs ih =>
      rw [List.mapM_cons] at h
      obtain ⟨y, hy, h₁⟩ := bind_eq_ok.1 h
      obtain ⟨ys', hys, h₂⟩ := bind_eq_ok.1 h₁
      cases h₂
      exact .cons hy (ih hys)

/-- What is made of each result can be made after the traversal. -/
theorem mapM_bind_pure {γ : Type} (f : α → Except ε β) (g : α → β → γ) (xs : List α) :
    (xs.mapM fun x => do return g x (← f x)) = (xs.mapM f).map (List.zipWith g xs) := by
  induction xs with
  | nil => rfl
  | cons x xs ih =>
      rw [List.mapM_cons, List.mapM_cons, ih]
      cases f x with
      | error e => rfl
      | ok y => cases xs.mapM f <;> rfl

/-- What every step of a loop keeps holds after it. -/
theorem foldlM_keeps {f : β → α → Except ε β} {P : β → Prop}
    (hstep : ∀ b a b', P b → f b a = .ok b' → P b') {xs : List α} {b b' : β} (hb : P b)
    (h : xs.foldlM f b = .ok b') : P b' := by
  induction xs generalizing b with
  | nil =>
      cases h
      exact hb
  | cons x xs ih =>
      rw [List.foldlM_cons] at h
      obtain ⟨b₁, hb₁, hrest⟩ := bind_eq_ok.1 h
      exact ih (hstep b x b₁ hb hb₁) hrest

end Library

end Coordination
