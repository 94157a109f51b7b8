import Mathlib.Data.List.DropRight
import Mathlib.Data.List.Forall2

/-!
# Recent tails

A bounded log keeps the recent tail `List.rtake n` of what was written to it. To
append to the tail and cut it back gives the tail of the longer log, so nothing else
is ever lost. Logs and the tails they are kept as are related index by index, by
`List.Forall₂`, and a write at one index keeps two lists related.
-/

namespace Coordination

namespace Library

section Tail

variable {α : Type*} (n : ℕ) (l : List α)

theorem length_rtake : (l.rtake n).length = min n l.length := by
  rw [List.rtake, List.length_drop]
  omega

theorem rtake_of_length_le {n : ℕ} {l : List α} (h : l.length ≤ n) : l.rtake n = l := by
  rw [List.rtake, Nat.sub_eq_zero_of_le h, List.drop_zero]

theorem rtake_suffix : l.rtake n <:+ l :=
  List.drop_suffix _ _

theorem rtake_rtake (m : ℕ) : (l.rtake m).rtake n = l.rtake (min n m) := by
  rw [List.rtake_eq_reverse_take_reverse, List.rtake_eq_reverse_take_reverse,
    List.rtake_eq_reverse_take_reverse, List.reverse_reverse, List.take_take]

/-- The tail of a log is all that the tail of a longer log needs. -/
theorem rtake_append_singleton (a : α) : (l.rtake n ++ [a]).rtake n = (l ++ [a]).rtake n := by
  cases n with
  | zero => rw [List.rtake_zero, List.rtake_zero]
  | succ n =>
      rw [List.rtake_concat_succ, List.rtake_concat_succ, rtake_rtake,
        Nat.min_eq_left (Nat.le_succ n)]

end Tail

section Related

variable {α β : Type*} {R S : α → β → Prop} {l₁ : List α} {l₂ : List β}

theorem exists_of_forall₂ (h : List.Forall₂ R l₁ l₂) {i : ℕ} {b : β} (hb : l₂[i]? = some b) :
    ∃ a, l₁[i]? = some a ∧ R a b := by
  obtain ⟨hi, hb⟩ := List.getElem?_eq_some_iff.1 hb
  have hi' : i < l₁.length := h.length_eq ▸ hi
  refine ⟨l₁[i], List.getElem?_eq_getElem hi', ?_⟩
  rw [← hb]
  exact h.get hi' hi

/-- Two lists stay related when both are written to at one index. -/
theorem forall₂_modify {f : α → α} {g : β → β} (hS : ∀ a b, R a b → S a b)
    (hwrite : ∀ a b, R a b → S (f a) (g b)) (h : List.Forall₂ R l₁ l₂) (i : ℕ) :
    List.Forall₂ S (l₁.modify i f) (l₂.modify i g) := by
  induction h generalizing i with
  | nil =>
      rw [List.modify_nil, List.modify_nil]
      exact .nil
  | cons hab htail ih => cases i with
    | zero => exact .cons (hwrite _ _ hab) (htail.imp hS)
    | succ i => exact .cons (hS _ _ hab) (ih i)

end Related

end Library

end Coordination
