import Coordination.JavaScript.Value
import Coordination.Library.Digest
import Coordination.Library.Fallible

/-!
# The engine's commitment hash

`encode` prints a value in the canonical form the engine commits to: members in
the order of their names, integers only. Anything else is refused with the path
at which it stands.
-/

namespace Coordination

namespace DataSeller

namespace Engine

open JavaScript Library

/-- `throw new CanonicalError(message)`. -/
def canonicalError {α : Type} (message : String) : Except Failure α :=
  .error (.raised .CanonicalError message)

/-- Entries in the order of their names. -/
def sortEntries {α : Type} (ms : List (String × α)) : List (String × α) :=
  ms.insertionSort fun a b => codeUnitLe a.1 b.1

/-- The value `encode` prints: the numbers checked, the members sorted. -/
def canonical (path : String) : Value → Except Failure Value
  | .num x =>
    if !x.isFinite then
      canonicalError s!"Non-finite number at {path}: canonical form must be reproducible."
    else if !Number.isSafeInteger x then
      canonicalError (s!"Non-integer or unsafe number at {path} ({x.toText}). Commitment hashing " ++
        "takes integers only — scale to minor units or basis points before hashing.")
    else .ok (.num x)
  | .arr xs => (items 0 xs).map .arr
  | .obj ms => do
    let entries ← (sortEntries (members ms)).mapM fun (k, r) => r.map fun w => (k, w)
    return .obj entries
  | v => .ok v
where
  items (i : ℕ) : List Value → Except Failure (List Value)
    | [] => .ok []
    | x :: xs => do
      let y ← canonical (path ++ "[" ++ toString i ++ "]") x
      return y :: (← items (i + 1) xs)
  members : List (String × Value) → List (String × Except Failure Value)
    | [] => []
    | (k, v) :: ms => (k, canonical (path ++ "." ++ k) v) :: members ms

theorem map_fst_canonical_members (path : String) (ms : List (String × Value)) :
    (canonical.members path ms).map Prod.fst = ms.map Prod.fst := by
  induction ms with
  | nil => rfl
  | cons m ms ih => simp [canonical.members, ih]

theorem map_fst_of_mapM {α β : Type} {f : α → Except Failure β} :
    ∀ {ms : List (String × α)} {ns : List (String × β)},
      ms.mapM (fun m => (f m.2).map fun b => (m.1, b)) = .ok ns → ns.map Prod.fst = ms.map Prod.fst
  | [], ns, h => by
      cases h
      rfl
  | m :: ms, ns, h => by
      rw [List.mapM_cons] at h
      obtain ⟨n, hn, h₁⟩ := bind_eq_ok.1 h
      obtain ⟨ns', hns, h₂⟩ := bind_eq_ok.1 h₁
      obtain ⟨b, _, rfl⟩ := map_eq_ok.1 hn
      cases h₂
      simp [map_fst_of_mapM hns]

/-- The canonical form of an object has its members in the order of their names. -/
theorem canonical_obj {path : String} {ms : List (String × Value)} {w : Value}
    (h : canonical path (.obj ms) = .ok w) :
    ∃ entries, w = .obj entries ∧ entries.map Prod.fst = sortTexts (ms.map Prod.fst) := by
  obtain ⟨entries, hentries, h₁⟩ := bind_eq_ok.1 h
  cases h₁
  refine ⟨entries, rfl, ?_⟩
  rw [map_fst_of_mapM (f := id) hentries, sortEntries,
    List.map_insertionSort (fun a b => codeUnitLe a.1 b.1) codeUnitLe Prod.fst _
      (fun _ _ _ _ => Iff.rfl), map_fst_canonical_members]
  rfl

/-- Whether the engine commits to a number. -/
def isCommittable (x : Number) : Bool :=
  x.isFinite && Number.isSafeInteger x

/-- Whether the engine commits to a value: every number in it is a safe integer. -/
def committable : Value → Bool
  | .num x => isCommittable x
  | .arr xs => items xs
  | .obj ms => members ms
  | _ => true
where
  items : List Value → Bool
    | [] => true
    | x :: xs => committable x && items xs
  members : List (String × Value) → Bool
    | [] => true
    | (_, v) :: ms => committable v && members ms

@[simp] theorem committable_num (x : Number) : committable (.num x) = isCommittable x := rfl

@[simp] theorem committable_str (s : String) : committable (.str s) = true := rfl

@[simp] theorem committable_null : committable .null = true := rfl

@[simp] theorem committable_arr (xs : List Value) :
    committable (.arr xs) = xs.all committable := by
  show committable.items xs = _
  induction xs with
  | nil => rfl
  | cons x xs ih => simp [committable.items, ih]

@[simp] theorem committable_obj (ms : List (String × Value)) :
    committable (.obj ms) = ms.all fun m => committable m.2 := by
  show committable.members ms = _
  induction ms with
  | nil => rfl
  | cons m ms ih => simp [committable.members, ih]

theorem isOk_canonicalItems {path : String} {i : ℕ} {xs : List Value}
    (h : ∀ x ∈ xs, ∀ path, (canonical path x).isOk = committable x) :
    (canonical.items path i xs).isOk = xs.all committable := by
  induction xs generalizing i with
  | nil => rfl
  | cons x xs ih =>
      have hx := h x List.mem_cons_self (path ++ "[" ++ toString i ++ "]")
      have hxs := ih (i := i + 1) fun y hy => h y (List.mem_cons_of_mem _ hy)
      rw [canonical.items, List.all_cons, ← hx, ← hxs]
      cases canonical _ x with
      | error e => rfl
      | ok y => rw [ok_bind, isOk_bind_pure]; rfl

theorem canonical_members (path : String) (ms : List (String × Value)) :
    canonical.members path ms = ms.map fun m => (m.1, canonical (path ++ "." ++ m.1) m.2) := by
  induction ms with
  | nil => rfl
  | cons m ms ih => rw [canonical.members, ih]; rfl

/-- The engine commits to values whose numbers are safe integers, and to no other. -/
theorem isOk_canonical (path : String) (v : Value) :
    (canonical path v).isOk = committable v := by
  induction v using Json.nestedInduction generalizing path with
  | null => rfl
  | bool b => rfl
  | num x =>
      rw [canonical, committable_num, isCommittable]
      cases x.isFinite <;> cases Number.isSafeInteger x <;> rfl
  | str s => rfl
  | arr xs ih =>
      rw [canonical, isOk_map, isOk_canonicalItems ih, committable_arr]
  | obj ms ih =>
      rw [Bool.eq_iff_iff, canonical, isOk_bind_pure, isOk_mapM, committable_obj, List.all_eq_true]
      simp only [isOk_map, sortEntries, List.mem_insertionSort, canonical_members,
        List.forall_mem_map]
      exact forall₂_congr fun m hm => by rw [ih m hm]

/-- The canonical text. -/
def encode (path : String) (v : Value) : Except Failure String :=
  (canonical path v).map fun w => String.ofList (Json.text numberText w)

/-- The commitment hash. -/
def sha256 [Digests] (v : Value) : Except Failure String :=
  (encode "$" v).map fun s => Digests.sha256Ref (utf8 s)

end Engine

end DataSeller

end Coordination
