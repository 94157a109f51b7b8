import Mathlib.Data.List.Basic

/-!
# Separated texts

Texts joined with a separator character are read back uniquely, as long as the
separator does not occur in the parts.
-/

namespace Coordination

namespace Library

variable {α : Type*} {c : α}

/-- A part ends at the first separator. -/
theorem append_separator_cancel : ∀ {as bs s t : List α}, c ∉ as → c ∉ bs →
    as ++ c :: s = bs ++ c :: t → as = bs ∧ s = t
  | [], [], _, _, _, _, h => ⟨rfl, (List.cons.inj h).2⟩
  | [], b :: bs, _, _, _, hb, h => by
      have hhead : c = b := (List.cons.inj h).1
      exact absurd (hhead ▸ List.mem_cons_self) hb
  | a :: as, [], _, _, ha, _, h => by
      have hhead : a = c := (List.cons.inj h).1
      exact absurd (hhead ▸ List.mem_cons_self) ha
  | a :: as, b :: bs, s, t, ha, hb, h => by
      obtain ⟨rfl, htail⟩ := List.cons.inj h
      obtain ⟨rfl, rfl⟩ := append_separator_cancel (fun hc => ha (List.mem_cons_of_mem _ hc))
        (fun hc => hb (List.mem_cons_of_mem _ hc)) htail
      exact ⟨rfl, rfl⟩

theorem intercalate_cons_cons_eq (x y : List α) (xs : List (List α)) :
    [c].intercalate (x :: y :: xs) = x ++ c :: [c].intercalate (y :: xs) := by
  simp [List.intercalate]

/-- Joining adds no characters but the separator. -/
theorem notMem_intercalate {d : α} (hd : d ≠ c) : ∀ {xs : List (List α)},
    (∀ x ∈ xs, d ∉ x) → d ∉ [c].intercalate xs
  | [], _ => by simp [List.intercalate]
  | [x], hx => by simpa [List.intercalate] using hx
  | x :: y :: xs, hx => by
      have hrest := notMem_intercalate hd fun z hz => hx z (List.mem_cons_of_mem x hz)
      rw [intercalate_cons_cons_eq]
      simp [hx x List.mem_cons_self, hd, hrest]

/-- The first of several lines is followed by its separator. -/
theorem exists_intercalate_cons (x : List α) (xs : List (List α)) :
    ∃ rest, [c].intercalate (x :: xs) ++ [c] = x ++ c :: rest := by
  cases xs with
  | nil => exact ⟨[], by simp [List.intercalate]⟩
  | cons y ys => exact ⟨[c].intercalate (y :: ys) ++ [c], by simp⟩

/-- Parts without the separator are determined by the joined text. -/
theorem intercalate_inj : ∀ {xs ys : List (List α)}, xs ≠ [] → ys ≠ [] →
    (∀ x ∈ xs, c ∉ x) → (∀ y ∈ ys, c ∉ y) →
      [c].intercalate xs = [c].intercalate ys → xs = ys
  | [], _, hxs, _, _, _, _ => absurd rfl hxs
  | _ :: _, [], _, hys, _, _, _ => absurd rfl hys
  | [x], [y], _, _, _, _, h => by
      simpa [List.intercalate] using h
  | [x], y :: y' :: ys, _, _, hx, _, h => by
      rw [intercalate_cons_cons_eq] at h
      have hc : c ∈ [c].intercalate [x] := by
        rw [h]
        exact List.mem_append_right _ List.mem_cons_self
      exact absurd (by simpa [List.intercalate] using hc) (hx x List.mem_cons_self)
  | x :: x' :: xs, [y], _, _, _, hy, h => by
      rw [intercalate_cons_cons_eq] at h
      have hc : c ∈ [c].intercalate [y] := by
        rw [← h]
        exact List.mem_append_right _ List.mem_cons_self
      exact absurd (by simpa [List.intercalate] using hc) (hy y List.mem_cons_self)
  | x :: x' :: xs, y :: y' :: ys, _, _, hx, hy, h => by
      rw [intercalate_cons_cons_eq, intercalate_cons_cons_eq] at h
      obtain ⟨rfl, htail⟩ := append_separator_cancel (hx x List.mem_cons_self)
        (hy y List.mem_cons_self) h
      have hrest := intercalate_inj (List.cons_ne_nil _ _) (List.cons_ne_nil _ _)
        (fun z hz => hx z (List.mem_cons_of_mem _ hz))
        (fun z hz => hy z (List.mem_cons_of_mem _ hz)) htail
      rw [hrest]

end Library

end Coordination
