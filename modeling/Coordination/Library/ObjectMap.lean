import Coordination.Library.InsertionMap

/-!
# Maps of shared objects

`ObjectMap key` is a map whose values are objects with an identity: the map holds
references, and a holder of a reference goes on reading and writing its object
after the map has dropped it or replaced it by another. Every object knows its
own key, and the field `wf` says that the map keeps to it; hence two keys never
share an object.
-/

namespace Coordination

namespace Library

/-- A map from keys to references to objects, with all objects ever created. -/
structure ObjectMap {κ α : Type} [DecidableEq κ] (key : α → κ) where
  refs : InsertionMap κ ℕ
  objects : List α
  wf : ∀ k r, refs.get? k = some r → ∃ a, objects[r]? = some a ∧ key a = k

namespace ObjectMap

variable {κ α : Type} [DecidableEq κ] {key : α → κ}

/-- No objects. -/
def empty : ObjectMap key where
  refs := InsertionMap.empty
  objects := []
  wf := by simp

/-- The reference held under a key. -/
def find? (m : ObjectMap key) (k : κ) : Option ℕ :=
  m.refs.get? k

/-- The object behind a reference. -/
def object? (m : ObjectMap key) (r : ℕ) : Option α :=
  m.objects[r]?

/-- The object held under a key. -/
def get? (m : ObjectMap key) (k : κ) : Option α :=
  (m.find? k).bind m.object?

/-- The keys, oldest first. -/
def keys (m : ObjectMap key) : List κ :=
  m.refs.keys

/-- Hold a new object under its key. -/
def create (m : ObjectMap key) (a : α) : ObjectMap key where
  refs := m.refs.set (key a) m.objects.length
  objects := m.objects ++ [a]
  wf := by
    intro k r h
    by_cases hk : k = key a
    · subst hk
      rw [InsertionMap.get?_set_self] at h
      cases h
      exact ⟨a, by simp, rfl⟩
    · rw [InsertionMap.get?_set_of_ne _ _ hk] at h
      obtain ⟨b, hb, hkey⟩ := m.wf k r h
      exact ⟨b, by rw [List.getElem?_append_left (List.getElem?_eq_some_iff.1 hb).1, hb], hkey⟩

/-- Keep the keys that satisfy a predicate. -/
def filterKeys (m : ObjectMap key) (p : κ → Bool) : ObjectMap key where
  refs := m.refs.filterKeys p
  objects := m.objects
  wf := by
    intro k r h
    rw [InsertionMap.get?_filterKeys] at h
    split_ifs at h
    exact m.wf k r h

/-- Write to the object behind a reference; its key stays. -/
def modify (m : ObjectMap key) (r : ℕ) (f : α → α) (hf : ∀ a, key (f a) = key a) :
    ObjectMap key where
  refs := m.refs
  objects := m.objects.modify r f
  wf := by
    intro k r' h
    obtain ⟨a, ha, hkey⟩ := m.wf k r' h
    by_cases hr : r = r'
    · subst hr
      exact ⟨f a, by simp [ha], by rw [hf, hkey]⟩
    · exact ⟨a, by simp [hr, ha], hkey⟩

/-! ## Lookups -/

theorem get?_eq_some_iff {m : ObjectMap key} {k : κ} {a : α} :
    m.get? k = some a ↔ ∃ r, m.find? k = some r ∧ m.object? r = some a := by
  simp [get?, Option.bind_eq_some_iff]

theorem key_of_find? {m : ObjectMap key} {k : κ} {r : ℕ} {a : α} (hr : m.find? k = some r)
    (ha : m.object? r = some a) : key a = k := by
  obtain ⟨b, hb, hkey⟩ := m.wf k r hr
  rw [object?, hb] at ha
  cases ha
  exact hkey

theorem exists_of_find? {m : ObjectMap key} {k : κ} {r : ℕ} (hr : m.find? k = some r) :
    ∃ a, m.object? r = some a ∧ m.get? k = some a := by
  obtain ⟨a, ha, _⟩ := m.wf k r hr
  exact ⟨a, ha, get?_eq_some_iff.2 ⟨r, hr, ha⟩⟩

/-- Two keys never share an object. -/
theorem find?_inj {m : ObjectMap key} {k k' : κ} {r : ℕ} (h : m.find? k = some r)
    (h' : m.find? k' = some r) : k = k' := by
  obtain ⟨a, ha, hkey⟩ := m.wf k r h
  obtain ⟨b, hb, hkey'⟩ := m.wf k' r h'
  rw [ha] at hb
  cases hb
  rw [← hkey, hkey']

theorem get?_isSome_iff {m : ObjectMap key} {k : κ} : (m.get? k).isSome = true ↔ k ∈ m.keys := by
  rw [keys, ← InsertionMap.get?_isSome_iff]
  constructor
  · intro h
    obtain ⟨a, ha⟩ := Option.isSome_iff_exists.1 h
    obtain ⟨r, hr, _⟩ := get?_eq_some_iff.1 ha
    exact Option.isSome_iff_exists.2 ⟨r, hr⟩
  · intro h
    obtain ⟨r, hr⟩ := Option.isSome_iff_exists.1 h
    obtain ⟨a, _, ha⟩ := exists_of_find? hr
    exact Option.isSome_iff_exists.2 ⟨a, ha⟩

@[simp] theorem get?_empty (k : κ) : (empty : ObjectMap key).get? k = none := rfl

@[simp] theorem find?_create_self (m : ObjectMap key) (a : α) :
    (m.create a).find? (key a) = some m.objects.length :=
  InsertionMap.get?_set_self ..

@[simp] theorem get?_create_self (m : ObjectMap key) (a : α) :
    (m.create a).get? (key a) = some a :=
  get?_eq_some_iff.2 ⟨m.objects.length, find?_create_self m a, by simp [object?, create]⟩

theorem find?_create_of_ne (m : ObjectMap key) {a : α} {k : κ} (hk : k ≠ key a) :
    (m.create a).find? k = m.find? k :=
  InsertionMap.get?_set_of_ne _ _ hk

theorem object?_create {m : ObjectMap key} {r : ℕ} {b : α} (a : α) (hr : m.object? r = some b) :
    (m.create a).object? r = some b := by
  rw [object?, create, List.getElem?_append_left (List.getElem?_eq_some_iff.1 hr).1]
  exact hr

theorem get?_create_of_ne (m : ObjectMap key) {a : α} {k : κ} (hk : k ≠ key a) :
    (m.create a).get? k = m.get? k := by
  rw [get?, get?, find?_create_of_ne m hk]
  cases hr : m.find? k with
  | none => rfl
  | some r =>
      obtain ⟨b, hb, _⟩ := exists_of_find? hr
      simp [hb, object?_create a hb]

theorem find?_filterKeys (m : ObjectMap key) (p : κ → Bool) (k : κ) :
    (m.filterKeys p).find? k = if p k = true then m.find? k else none :=
  InsertionMap.get?_filterKeys ..

@[simp] theorem object?_filterKeys (m : ObjectMap key) (p : κ → Bool) (r : ℕ) :
    (m.filterKeys p).object? r = m.object? r := rfl

theorem get?_filterKeys (m : ObjectMap key) (p : κ → Bool) (k : κ) :
    (m.filterKeys p).get? k = if p k = true then m.get? k else none := by
  rw [get?, find?_filterKeys]
  split_ifs with hp
  · rfl
  · rfl

@[simp] theorem find?_modify (m : ObjectMap key) (r : ℕ) (f : α → α)
    (hf : ∀ a, key (f a) = key a) (k : κ) : (m.modify r f hf).find? k = m.find? k := rfl

@[simp] theorem keys_modify (m : ObjectMap key) (r : ℕ) (f : α → α)
    (hf : ∀ a, key (f a) = key a) : (m.modify r f hf).keys = m.keys := rfl

theorem object?_modify (m : ObjectMap key) (r : ℕ) (f : α → α) (hf : ∀ a, key (f a) = key a)
    (r' : ℕ) : (m.modify r f hf).object? r' =
      if r' = r then (m.object? r').map f else m.object? r' := by
  by_cases hr : r' = r
  · subst hr
    simp [object?, modify]
  · have hne : r ≠ r' := fun h => hr h.symm
    simp [object?, modify, hr, hne]

/-- A write is seen under the key that holds the reference, and nowhere else. -/
theorem get?_modify (m : ObjectMap key) (r : ℕ) (f : α → α) (hf : ∀ a, key (f a) = key a)
    (k : κ) : (m.modify r f hf).get? k =
      if m.find? k = some r then (m.get? k).map f else m.get? k := by
  rw [get?, get?, find?_modify]
  cases hk : m.find? k with
  | none => simp
  | some r' =>
      simp only [Option.bind_some, object?_modify, Option.some.injEq]

theorem keys_create (m : ObjectMap key) (a : α) :
    (m.create a).keys = if key a ∈ m.keys then m.keys else m.keys ++ [key a] :=
  InsertionMap.keys_set ..

theorem keys_filterKeys (m : ObjectMap key) (p : κ → Bool) :
    (m.filterKeys p).keys = m.keys.filter p :=
  InsertionMap.keys_filterKeys ..

end ObjectMap

end Library

end Coordination
