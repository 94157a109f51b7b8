import Mathlib.Data.List.Forall2
import Mathlib.Data.Option.Basic

/-!
# JSON values

`Json ν` is the value a JSON parser hands to a program. What a number literal
reads as is left to the program, as the type `ν`; a text is a sequence of
Unicode scalar values. An object is the list of its members in insertion order, read
through `List.lookup`: the first member with a name is the one that counts.

`Json.Same` is equality up to the order of object members, which is what two
parties compare when they compare parsed documents.
-/

namespace Coordination

namespace Library

/-- A JSON value. -/
inductive Json (ν : Type) where
  | null
  | bool (b : Bool)
  | num (q : ν)
  | str (s : String)
  | arr (items : List (Json ν))
  | obj (members : List (String × Json ν))

namespace Json

variable {ν : Type}

/-- The members of an object; any other value has none. -/
def members : Json ν → List (String × Json ν)
  | obj ms => ms
  | _ => []

@[simp] theorem members_obj (ms : List (String × Json ν)) : (obj ms).members = ms := rfl

mutual

/-- A value with its number literals read otherwise. -/
def mapNum {μ : Type} (f : ν → μ) : Json ν → Json μ
  | null => null
  | bool b => bool b
  | num q => num (f q)
  | str s => str s
  | arr xs => arr (mapItems f xs)
  | obj ms => obj (mapMembers f ms)

def mapItems {μ : Type} (f : ν → μ) : List (Json ν) → List (Json μ)
  | [] => []
  | x :: xs => mapNum f x :: mapItems f xs

def mapMembers {μ : Type} (f : ν → μ) : List (String × Json ν) → List (String × Json μ)
  | [] => []
  | (k, v) :: ms => (k, mapNum f v) :: mapMembers f ms

end

/-- Induction over a value through its items and members. -/
@[elab_as_elim]
theorem nestedInduction {motive : Json ν → Prop} (null : motive null)
    (bool : ∀ b, motive (bool b)) (num : ∀ q, motive (num q)) (str : ∀ s, motive (str s))
    (arr : ∀ xs, (∀ x ∈ xs, motive x) → motive (arr xs))
    (obj : ∀ ms, (∀ m ∈ ms, motive m.2) → motive (obj ms)) (v : Json ν) : motive v :=
  @Json.rec ν motive (fun xs => ∀ x ∈ xs, motive x) (fun ms => ∀ m ∈ ms, motive m.2)
    (fun m => motive m.2) null bool num str (fun xs => arr xs) (fun ms => obj ms)
    (by simp) (fun x xs hx hxs => List.forall_mem_cons.2 ⟨hx, hxs⟩)
    (by simp) (fun m ms hm hms => List.forall_mem_cons.2 ⟨hm, hms⟩)
    (fun k v hv => hv) v

end Json

/-! ## Members -/

section Members

variable {κ : Type} [DecidableEq κ] {α : Type*}

/-- Write one member: in place when the name is there, at the end otherwise. -/
def setMember (k : κ) (v : α) : List (κ × α) → List (κ × α)
  | [] => [(k, v)]
  | (k', v') :: ms => if k' = k then (k, v) :: ms else (k', v') :: setMember k v ms

/-- Leave out the members with the given names. -/
def dropMembers (ks : List κ) (ms : List (κ × α)) : List (κ × α) :=
  ms.filter fun m => m.1 ∉ ks

theorem lookup_setMember_self (k : κ) (v : α) (ms : List (κ × α)) :
    (setMember k v ms).lookup k = some v := by
  induction ms with
  | nil => simp [setMember]
  | cons m ms ih =>
      obtain ⟨k', v'⟩ := m
      by_cases h : k' = k
      · simp [setMember, h]
      · have hne : (k == k') = false := by simpa using fun hk => h hk.symm
        simp [setMember, h, hne, List.lookup_cons, ih]

theorem lookup_setMember_of_ne {k k' : κ} (v : α) (ms : List (κ × α))
    (hk : k' ≠ k) : (setMember k v ms).lookup k' = ms.lookup k' := by
  induction ms with
  | nil => simp [setMember, hk]
  | cons m ms ih =>
      obtain ⟨k'', v''⟩ := m
      by_cases h : k'' = k
      · subst h
        have hne : (k' == k'') = false := by simpa using hk
        simp [setMember, List.lookup_cons, hne]
      · by_cases h' : k' = k''
        · subst h'
          simp [setMember, h]
        · have hne : (k' == k'') = false := by simpa using h'
          simp [setMember, h, List.lookup_cons, hne, ih]

theorem lookup_dropMembers_of_notMem {k : κ} {ks : List κ}
    (ms : List (κ × α)) (hk : k ∉ ks) : (dropMembers ks ms).lookup k = ms.lookup k := by
  induction ms with
  | nil => rfl
  | cons m ms ih =>
      obtain ⟨k', v'⟩ := m
      unfold dropMembers at ih ⊢
      by_cases h : k' ∈ ks
      · have hne : (k == k') = false := by
          simpa using fun hkk : k = k' => hk (hkk ▸ h)
        rw [List.filter_cons_of_neg (by simpa using h), List.lookup_cons, hne, ih]
      · rw [List.filter_cons_of_pos (by simpa using h), List.lookup_cons, List.lookup_cons, ih]

/-- Writing a member that is left out afterwards changes nothing. -/
theorem dropMembers_setMember {k : κ} {ks : List κ} (v : α)
    (ms : List (κ × α)) (hk : k ∈ ks) :
    dropMembers ks (setMember k v ms) = dropMembers ks ms := by
  induction ms with
  | nil => simp [setMember, dropMembers, hk]
  | cons m ms ih =>
      obtain ⟨k', v'⟩ := m
      unfold dropMembers at ih ⊢
      by_cases h : k' = k
      · subst h
        simp [setMember, hk]
      · by_cases h' : k' ∈ ks <;> simpa [setMember, h, h'] using ih

end Members

/-! ## Equality up to member order -/

namespace Json

variable {ν : Type}

/-- Equality of two JSON values up to the order of object members. -/
inductive Same : Json ν → Json ν → Prop where
  | null : Same null null
  | bool (b : Bool) : Same (bool b) (bool b)
  | num (q : ν) : Same (num q) (num q)
  | str (s : String) : Same (str s) (str s)
  | arr {xs ys : List (Json ν)} : List.Forall₂ Same xs ys → Same (arr xs) (arr ys)
  | obj {ms ns : List (String × Json ν)} :
      (∀ k, Option.Rel Same (ms.lookup k) (ns.lookup k)) → Same (obj ms) (obj ns)

theorem same_obj_iff {ms ns : List (String × Json ν)} :
    Same (obj ms) (obj ns) ↔ ∀ k, Option.Rel Same (ms.lookup k) (ns.lookup k) := by
  constructor
  · intro h
    cases h with
    | obj h => exact h
  · exact Same.obj

theorem same_str_iff {s : String} {v : Json ν} : Same (str s) v ↔ v = str s := by
  constructor
  · intro h
    cases h with
    | str => rfl
  · rintro rfl
    exact Same.str s

@[refl] theorem Same.refl : ∀ v : Json ν, Same v v
  | .null => .null
  | .bool b => .bool b
  | .num q => .num q
  | .str s => .str s
  | .arr xs => .arr (sameItems xs)
  | .obj ms => .obj (sameMembers ms)
where
  sameItems : ∀ xs : List (Json ν), List.Forall₂ Same xs xs
    | [] => .nil
    | x :: xs => .cons (Same.refl x) (sameItems xs)
  sameMembers : ∀ (ms : List (String × Json ν)) (k : String),
      Option.Rel Same (ms.lookup k) (ms.lookup k)
    | [], _ => .none
    | (k', v) :: ms, k => by
        rw [List.lookup_cons]
        cases k == k' with
        | true => exact .some (Same.refl v)
        | false => exact sameMembers ms k

end Json

end Library

end Coordination
