import Mathlib.Data.List.Nodup
import Coordination.Library.Json

/-!
# Maps in insertion order

`InsertionMap κ α` is a map that is enumerated in the order in which its keys
were first written: writing a key that is there keeps its place, deleting and
writing it again moves it to the end. That no key occurs twice is a field.

Its updates are `set`, `delete` and `modify`; their effect on lookups and on the
enumeration of the keys is what a cache with an eviction order is reasoned about
with.
-/

namespace Coordination

namespace Library

/-- A map enumerated in insertion order. -/
structure InsertionMap (κ α : Type) where
  entries : List (κ × α)
  nodup : (entries.map Prod.fst).Nodup

section Entries

variable {κ α β : Type} [DecidableEq κ]

theorem keys_setMember (k : κ) (v : α) (ms : List (κ × α)) :
    (setMember k v ms).map Prod.fst =
      if k ∈ ms.map Prod.fst then ms.map Prod.fst else ms.map Prod.fst ++ [k] := by
  induction ms with
  | nil => simp [setMember]
  | cons m ms ih =>
      obtain ⟨k', v'⟩ := m
      by_cases hk : k' = k
      · simp [setMember, hk]
      · have hne : k ≠ k' := fun h => hk h.symm
        by_cases hmem : k ∈ ms.map Prod.fst <;> simp [setMember, hk, hne, ih, hmem] at hmem ⊢

theorem lookup_map_snd (f : κ → α → β) (k : κ) (ms : List (κ × α)) :
    (ms.map fun m => (m.1, f m.1 m.2)).lookup k = (ms.lookup k).map (f k) := by
  induction ms with
  | nil => rfl
  | cons m ms ih =>
      obtain ⟨k', v⟩ := m
      by_cases hk : k = k'
      · subst hk
        simp
      · have hne : (k == k') = false := by simpa using hk
        simp [List.lookup_cons, hne, ih]

theorem lookup_isSome_iff {k : κ} {ms : List (κ × α)} :
    (ms.lookup k).isSome = true ↔ k ∈ ms.map Prod.fst := by
  induction ms with
  | nil => simp
  | cons m ms ih =>
      obtain ⟨k', v⟩ := m
      by_cases hk : k = k'
      · simp [hk]
      · have hne : (k == k') = false := by simpa using hk
        simp [List.lookup_cons, hne, ih, hk]

end Entries

namespace InsertionMap

variable {κ α : Type} [DecidableEq κ]

/-- The empty map. -/
def empty : InsertionMap κ α :=
  ⟨[], List.nodup_nil⟩

/-- The keys, oldest first. -/
def keys (m : InsertionMap κ α) : List κ :=
  m.entries.map Prod.fst

def values (m : InsertionMap κ α) : List α :=
  m.entries.map Prod.snd

def size (m : InsertionMap κ α) : ℕ :=
  m.entries.length

def get? (m : InsertionMap κ α) (k : κ) : Option α :=
  m.entries.lookup k

/-- Write a key: in place when it is there, at the end otherwise. -/
def set (m : InsertionMap κ α) (k : κ) (v : α) : InsertionMap κ α where
  entries := setMember k v m.entries
  nodup := by
    rw [keys_setMember]
    split_ifs with hk
    · exact m.nodup
    · refine List.nodup_append.2 ⟨m.nodup, by simp, ?_⟩
      rintro a ha b hb rfl
      exact hk (List.mem_singleton.1 hb ▸ ha)

/-- Delete the keys that do not satisfy a predicate. -/
def filterKeys (m : InsertionMap κ α) (p : κ → Bool) : InsertionMap κ α where
  entries := m.entries.filter fun e => p e.1
  nodup := by
    have hkeys : (m.entries.filter fun e => p e.1).map Prod.fst =
        (m.entries.map Prod.fst).filter p := (List.filter_map ..).symm
    rw [hkeys]
    exact m.nodup.filter _

/-- Delete one key. -/
def delete (m : InsertionMap κ α) (k : κ) : InsertionMap κ α :=
  m.filterKeys (· ≠ k)

/-- Change the value of a key that is there. -/
def modify (m : InsertionMap κ α) (k : κ) (f : α → α) : InsertionMap κ α where
  entries := m.entries.map fun e => (e.1, if e.1 = k then f e.2 else e.2)
  nodup := by
    rw [List.map_map]
    exact m.nodup

/-! ## Lookups -/

theorem get?_isSome_iff {m : InsertionMap κ α} {k : κ} :
    (m.get? k).isSome = true ↔ k ∈ m.keys :=
  lookup_isSome_iff

@[simp] theorem get?_empty (k : κ) : (empty : InsertionMap κ α).get? k = none := rfl

@[simp] theorem get?_set_self (m : InsertionMap κ α) (k : κ) (v : α) :
    (m.set k v).get? k = some v :=
  lookup_setMember_self k v m.entries

theorem get?_set_of_ne (m : InsertionMap κ α) {k k' : κ} (v : α) (hk : k' ≠ k) :
    (m.set k v).get? k' = m.get? k' :=
  lookup_setMember_of_ne v m.entries hk

theorem get?_filterKeys (m : InsertionMap κ α) (p : κ → Bool) (k : κ) :
    (m.filterKeys p).get? k = if p k = true then m.get? k else none := by
  have hentries : ∀ ms : List (κ × α), (ms.filter fun e => p e.1).lookup k =
      if p k = true then ms.lookup k else none := by
    intro ms
    induction ms with
    | nil => simp
    | cons e ms ih =>
        obtain ⟨k', v⟩ := e
        by_cases hk : k = k'
        · subst hk
          by_cases hp : p k = true
          · simp [hp]
          · simp [hp, ih]
        · have hne : (k == k') = false := by simpa using hk
          by_cases hp : p k' = true <;> simp [hp, List.lookup_cons, hne, ih]
  exact hentries m.entries

@[simp] theorem get?_delete_self (m : InsertionMap κ α) (k : κ) : (m.delete k).get? k = none := by
  simp [delete, get?_filterKeys]

theorem get?_delete_of_ne (m : InsertionMap κ α) {k k' : κ} (hk : k' ≠ k) :
    (m.delete k).get? k' = m.get? k' := by
  simp [delete, get?_filterKeys, hk]

theorem get?_modify (m : InsertionMap κ α) (k : κ) (f : α → α) (k' : κ) :
    (m.modify k f).get? k' = if k' = k then (m.get? k').map f else m.get? k' := by
  have hentries := lookup_map_snd (fun i v => if i = k then f v else v) k' m.entries
  refine hentries.trans ?_
  by_cases hk : k' = k
  · subst hk
    simp [get?]
  · simp [hk, get?]

@[simp] theorem get?_modify_self (m : InsertionMap κ α) (k : κ) (f : α → α) :
    (m.modify k f).get? k = (m.get? k).map f := by
  simp [get?_modify]

theorem get?_modify_of_ne (m : InsertionMap κ α) {k k' : κ} (f : α → α) (hk : k' ≠ k) :
    (m.modify k f).get? k' = m.get? k' := by
  simp [get?_modify, hk]

/-! ## Enumeration -/

omit [DecidableEq κ] in
theorem keys_nodup (m : InsertionMap κ α) : m.keys.Nodup :=
  m.nodup

/-- An entry is found under its key. -/
theorem mem_entries {m : InsertionMap κ α} {k : κ} {v : α} :
    (k, v) ∈ m.entries ↔ m.get? k = some v := by
  have hmem {w : α} (hw : m.get? k = some w) : (k, w) ∈ m.entries := by
    obtain ⟨front, rest, heq, _⟩ := List.lookup_eq_some_iff.1 hw
    rw [heq]
    exact List.mem_append_right _ List.mem_cons_self
  refine ⟨fun h => ?_, hmem⟩
  obtain ⟨w, hw⟩ := Option.isSome_iff_exists.1 (get?_isSome_iff.2 (List.mem_map_of_mem h))
  have hsame := List.inj_on_of_nodup_map m.nodup (hmem hw) h rfl
  exact hw.trans (congrArg some (Prod.ext_iff.1 hsame).2)

theorem mem_values {m : InsertionMap κ α} {v : α} : v ∈ m.values ↔ ∃ k, m.get? k = some v := by
  refine List.mem_map.trans ⟨?_, ?_⟩
  · rintro ⟨⟨k, _⟩, hentry, rfl⟩
    exact ⟨k, mem_entries.1 hentry⟩
  · rintro ⟨k, hk⟩
    exact ⟨(k, v), mem_entries.2 hk, rfl⟩

theorem keys_set (m : InsertionMap κ α) (k : κ) (v : α) :
    (m.set k v).keys = if k ∈ m.keys then m.keys else m.keys ++ [k] :=
  keys_setMember k v m.entries

omit [DecidableEq κ] in
theorem keys_filterKeys (m : InsertionMap κ α) (p : κ → Bool) :
    (m.filterKeys p).keys = m.keys.filter p :=
  (List.filter_map ..).symm

@[simp] theorem keys_modify (m : InsertionMap κ α) (k : κ) (f : α → α) :
    (m.modify k f).keys = m.keys := by
  simp [keys, modify, Function.comp_def]

end InsertionMap

end Library

end Coordination
