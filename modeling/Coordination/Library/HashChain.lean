import Mathlib.Data.List.Chain
import Mathlib.Data.List.Forall2

/-!
# Hash chains

Every entry of a hash chain but the first names the hash of the entry before it. The
last hash commits to the whole chain: two chains of one length that end in one hash agree,
entry by entry, on whatever an entry's hash determines.
-/

namespace Coordination

namespace Library

variable {α η : Type*} {hash : α → η} {prev : α → Option η} {R : α → α → Prop}

/-- Every entry names the hash of the one before it. -/
def Chained (hash : α → η) (prev : α → Option η) (xs : List α) : Prop :=
  xs.IsChain fun x y => prev y = some (hash x)

/-- The last hash commits to the chain. -/
theorem forall₂_of_last_hash
    (hprev : ∀ x y a b, R x y → prev x = some a → prev y = some b → a = b) :
    ∀ {xs ys : List α}, (∀ x ∈ xs, ∀ y ∈ ys, hash x = hash y → R x y) →
      Chained hash prev xs → Chained hash prev ys → xs.length = ys.length →
      xs.getLast?.map hash = ys.getLast?.map hash → List.Forall₂ R xs ys
  | [], [], _, _, _, _, _ => .nil
  | [], _ :: _, _, _, _, hlength, _ => by simp at hlength
  | _ :: _, [], _, _, _, hlength, _ => by simp at hlength
  | [x], [y], hR, _, _, _, hlast => by
      have hhash : hash x = hash y := by simpa using hlast
      exact .cons (hR x (by simp) y (by simp) hhash) .nil
  | [_], _ :: _ :: _, _, _, _, hlength, _ => by simp at hlength
  | _ :: _ :: _, [_], _, _, _, hlength, _ => by simp at hlength
  | x :: x' :: xs, y :: y' :: ys, hR, hxs, hys, hlength, hlast => by
      obtain ⟨hx, hxs⟩ := List.isChain_cons_cons.1 hxs
      obtain ⟨hy, hys⟩ := List.isChain_cons_cons.1 hys
      have htail : List.Forall₂ R (x' :: xs) (y' :: ys) := by
        refine forall₂_of_last_hash hprev (fun z hz w hw => ?_) hxs hys (by simpa using hlength) ?_
        · exact hR z (List.mem_cons_of_mem x hz) w (List.mem_cons_of_mem y hw)
        · simpa [List.getLast?_cons_cons] using hlast
      have hnext : R x' y' := (List.forall₂_cons.1 htail).1
      have hhash : hash x = hash y := hprev x' y' _ _ hnext hx hy
      exact .cons (hR x List.mem_cons_self y List.mem_cons_self hhash) htail

end Library

end Coordination
