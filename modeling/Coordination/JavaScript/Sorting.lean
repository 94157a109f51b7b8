import Coordination.JavaScript.Value

/-!
# Sorting

The code units of a text determine it: a character beyond the first plane is spelled with two
surrogates, which no other character is. Hence the order of `sort` is total, and a sorted list
of texts depends only on which texts there are, and how often. Any sort is stable: items that
compare equal keep their order.
-/

namespace Coordination

namespace JavaScript

/-- No character is a surrogate. -/
theorem toNat_char (c : Char) : c.toNat < 55296 ∨ 57343 < c.toNat ∧ c.toNat < 1114112 :=
  c.valid

/-- A character reads off the front of the code units. -/
theorem utf16_cons_cancel {c d : Char} {cs ds : List Char}
    (h : utf16 (String.ofList (c :: cs)) = utf16 (String.ofList (d :: ds))) :
    c = d ∧ utf16 (String.ofList cs) = utf16 (String.ofList ds) := by
  simp only [utf16, String.toList_ofList, List.flatMap_cons] at h ⊢
  have hc := toNat_char c
  have hd := toNat_char d
  have hchar (hval : c.toNat = d.toNat) : c = d := Char.ext (UInt32.toNat_inj.1 hval)
  by_cases hcs : c.toNat < 65536
  · by_cases hds : d.toNat < 65536
    · rw [if_pos hcs, if_pos hds, List.singleton_append, List.singleton_append] at h
      obtain ⟨hval, hrest⟩ := List.cons.inj h
      exact ⟨hchar hval, hrest⟩
    · rw [if_pos hcs, if_neg hds, List.singleton_append, List.cons_append] at h
      have hval := (List.cons.inj h).1
      omega
  · by_cases hds : d.toNat < 65536
    · rw [if_neg hcs, if_pos hds, List.singleton_append, List.cons_append] at h
      have hval := (List.cons.inj h).1
      omega
    · rw [if_neg hcs, if_neg hds, List.cons_append, List.cons_append] at h
      obtain ⟨hhigh, h⟩ := List.cons.inj h
      obtain ⟨hlow, hrest⟩ := List.cons.inj h
      exact ⟨hchar (by omega), hrest⟩

theorem utf16_eq_map {s : String} (hs : ∀ c ∈ s.toList, c.toNat < 65536) :
    utf16 s = s.toList.map Char.toNat := by
  unfold utf16
  generalize s.toList = cs at hs ⊢
  induction cs with
  | nil => rfl
  | cons c cs ih =>
      rw [List.forall_mem_cons] at hs
      rw [List.flatMap_cons, if_pos hs.1, ih hs.2, List.map_cons, List.singleton_append]

theorem utf16_cons_ne_nil (c : Char) (cs : List Char) : utf16 (String.ofList (c :: cs)) ≠ [] := by
  simp only [utf16, String.toList_ofList, List.flatMap_cons]
  split_ifs <;> simp

theorem utf16_injective : Function.Injective utf16 := by
  suffices h : ∀ cs ds : List Char,
      utf16 (String.ofList cs) = utf16 (String.ofList ds) → cs = ds by
    intro a b hab
    rw [← String.ofList_toList (s := a), ← String.ofList_toList (s := b)] at hab
    exact String.toList_inj.1 (h _ _ hab)
  intro cs
  induction cs with
  | nil =>
      rintro (_ | ⟨d, ds⟩) h
      · rfl
      · exact absurd h.symm (utf16_cons_ne_nil d ds)
  | cons c cs ih =>
      rintro (_ | ⟨d, ds⟩) h
      · exact absurd h (utf16_cons_ne_nil c cs)
      · obtain ⟨rfl, hrest⟩ := utf16_cons_cancel h
        rw [ih ds hrest]

instance : Std.Total codeUnitLe :=
  ⟨fun a b => le_total (utf16 a) (utf16 b)⟩

instance : IsTrans String codeUnitLe :=
  ⟨fun _ _ _ hab hbc => le_trans (α := List ℕ) hab hbc⟩

instance : Std.Antisymm codeUnitLe :=
  ⟨fun _ _ hab hba => utf16_injective (le_antisymm (α := List ℕ) hab hba)⟩

theorem sortTexts_sortTexts (xs : List String) : sortTexts (sortTexts xs) = sortTexts xs :=
  (List.pairwise_insertionSort codeUnitLe xs).insertionSort_eq

theorem sortTexts_eq_of_perm {xs ys : List String} (h : xs.Perm ys) : sortTexts xs = sortTexts ys :=
  (((List.perm_insertionSort codeUnitLe xs).trans h).trans
    (List.perm_insertionSort codeUnitLe ys).symm).eq_of_pairwise'
      (List.pairwise_insertionSort codeUnitLe xs) (List.pairwise_insertionSort codeUnitLe ys)

theorem isLE_compare_ascii {a b : String} :
    (HostLocale.ascii.compare a b).isLE = true ↔ codeUnitLe a b := by
  show (if codeUnitLe a b then (if a = b then Ordering.eq else .lt) else .gt).isLE = true ↔ _
  split_ifs with hle heq <;> simp [hle]

/-- The order of the code units is a linear order of the texts. -/
theorem HostLocale.ascii_transCmp : Std.TransCmp HostLocale.ascii.compare where
  eq_swap {a b} := by
    show (if codeUnitLe a b then (if a = b then Ordering.eq else .lt) else .gt) =
      (if codeUnitLe b a then (if b = a then Ordering.eq else .lt) else .gt).swap
    by_cases hab : codeUnitLe a b
    · by_cases hba : codeUnitLe b a
      · obtain rfl := antisymm_of codeUnitLe hab hba
        simp [hab]
      · have hne : a ≠ b := fun h => hba (h ▸ hab)
        simp [hab, hba, hne]
    · have hba := (total_of codeUnitLe a b).resolve_left hab
      have hne : b ≠ a := fun h => hab (h ▸ hba)
      simp [hab, hba, hne]
  isLE_trans hab hbc := by
    rw [isLE_compare_ascii] at hab hbc ⊢
    exact trans_of codeUnitLe hab hbc

/-! ## Stability -/

section Stable

variable {α : Type} {le before : α → α → Prop} [DecidableRel le] {among : α → Prop}

/-- Two items of a stable sort in their order: those that compare equal keep the order they had
`before`. -/
def InTurn (le before : α → α → Prop) (a b : α) : Prop :=
  le a b ∧ (le b a → before a b)

theorem pairwise_orderedInsert (htotal : ∀ a b, among a → among b → le a b ∨ le b a)
    (htrans : ∀ a b c, among a → among b → among c → le a b → le b c → le a c) {a : α} {l : List α}
    (ha : among a) (hl : ∀ b ∈ l, among b) (hbefore : ∀ b ∈ l, before a b)
    (h : l.Pairwise (InTurn le before)) :
    (l.orderedInsert le a).Pairwise (InTurn le before) := by
  induction l with
  | nil => exact List.pairwise_singleton _ _
  | cons b l ih =>
      rw [List.forall_mem_cons] at hl hbefore
      rw [List.pairwise_cons] at h
      rw [List.orderedInsert_cons]
      split_ifs with hab
      · refine List.pairwise_cons.2 ⟨fun c hc => ?_, List.pairwise_cons.2 h⟩
        rcases List.mem_cons.1 hc with rfl | hc
        · exact ⟨hab, fun _ => hbefore.1⟩
        · exact ⟨htrans a b c ha hl.1 (hl.2 c hc) hab (h.1 c hc).1, fun _ => hbefore.2 c hc⟩
      · refine List.pairwise_cons.2 ⟨fun c hc => ?_, ih hl.2 hbefore.2 h.2⟩
        rcases List.mem_cons.1 ((List.perm_orderedInsert le a l).mem_iff.1 hc) with rfl | hc
        · exact ⟨(htotal c b ha hl.1).resolve_left hab, fun h => absurd h hab⟩
        · exact h.1 c hc

/-- Sorting is stable. -/
theorem pairwise_insertionSort (htotal : ∀ a b, among a → among b → le a b ∨ le b a)
    (htrans : ∀ a b c, among a → among b → among c → le a b → le b c → le a c) {l : List α}
    (hl : ∀ a ∈ l, among a) (h : l.Pairwise before) :
    (l.insertionSort le).Pairwise (InTurn le before) := by
  induction l with
  | nil => exact List.Pairwise.nil
  | cons a l ih =>
      rw [List.forall_mem_cons] at hl
      rw [List.pairwise_cons] at h
      have hmem {b : α} (hb : b ∈ l.insertionSort le) : b ∈ l := (List.mem_insertionSort le).1 hb
      exact pairwise_orderedInsert htotal htrans hl.1 (fun b hb => hl.2 b (hmem hb))
        (fun b hb => h.1 b (hmem hb)) (ih hl.2 h.2)

end Stable

end JavaScript

end Coordination
