import Mathlib.Data.List.Sort
import Coordination.Library.JsonText
import Coordination.Library.Separated

/-!
# Canonical texts

The canonical text of a value is the text of the value with the members of every object sorted
by their names. As long as no object has a name twice, the canonical texts of two values agree
exactly when the values are equal up to the order of members and the spelling of numbers.

The proof reads every number as its spelling (`Json.mapNum`): a value of numerals and its text
determine each other, and sorting makes equality up to the order of members an equality.
-/

namespace Coordination

namespace Library

namespace Json

variable {ν μ κ : Type}

/-! ## Joined texts -/

theorem itemsText_eq (nt : NumberText ν) : ∀ xs : List (Json ν),
    text.itemsText nt true xs = [','].intercalate (xs.map (text nt)) ++ [']']
  | [] => rfl
  | [x] => by simp [text.itemsText, List.intercalate]
  | x :: y :: xs => by
      show text nt x ++ ',' :: text.itemsText nt true (y :: xs) = _
      rw [itemsText_eq nt (y :: xs)]
      simp

theorem membersText_eq (nt : NumberText ν) : ∀ ms : List (String × Json ν),
    text.membersText nt true ms = [','].intercalate
      (ms.map fun m => quote m.1 ++ ':' :: text nt m.2) ++ [Char.ofNat 125]
  | [] => rfl
  | [m] => by simp [text.membersText, List.intercalate]
  | m :: n :: ms => by
      show quote m.1 ++ ':' :: (text nt m.2 ++ ',' :: text.membersText nt true (n :: ms)) = _
      rw [membersText_eq nt (n :: ms)]
      simp

theorem text_arr (nt : NumberText ν) (xs : List (Json ν)) : text nt (arr xs) =
    '[' :: ([','].intercalate (xs.map (text nt)) ++ [']']) := by
  rw [text, itemsText_eq]

theorem text_obj (nt : NumberText ν) (ms : List (String × Json ν)) : text nt (obj ms) =
    Char.ofNat 123 :: ([','].intercalate (ms.map fun m => quote m.1 ++ ':' :: text nt m.2) ++
      [Char.ofNat 125]) := by
  rw [text, membersText_eq]

/-! ## Reading numbers otherwise -/

theorem mapItems_eq_map (f : ν → μ) (xs : List (Json ν)) : mapItems f xs = xs.map (mapNum f) := by
  induction xs with
  | nil => rfl
  | cons x xs ih => rw [mapItems, ih, List.map_cons]

theorem mapMembers_eq_map (f : ν → μ) (ms : List (String × Json ν)) :
    mapMembers f ms = ms.map fun m => (m.1, mapNum f m.2) := by
  induction ms with
  | nil => rfl
  | cons m ms ih => rw [mapMembers, ih, List.map_cons]

@[simp] theorem mapNum_arr (f : ν → μ) (xs : List (Json ν)) :
    mapNum f (arr xs) = arr (xs.map (mapNum f)) := by
  rw [mapNum, mapItems_eq_map]

@[simp] theorem mapNum_obj (f : ν → μ) (ms : List (String × Json ν)) :
    mapNum f (obj ms) = obj (ms.map fun m => (m.1, mapNum f m.2)) := by
  rw [mapNum, mapMembers_eq_map]

theorem mapNum_mapNum (g : μ → κ) (f : ν → μ) (v : Json ν) :
    mapNum g (mapNum f v) = mapNum (g ∘ f) v := by
  induction v using Json.nestedInduction with
  | null | bool | num | str => rfl
  | arr xs ih =>
      simp only [mapNum_arr, List.map_map]
      exact congrArg arr (List.map_congr_left ih)
  | obj ms ih =>
      simp only [mapNum_obj, List.map_map]
      exact congrArg obj (List.map_congr_left fun m hm => congrArg (Prod.mk m.1) (ih m hm))

@[simp] theorem mapNum_id (v : Json ν) : v.mapNum id = v := by
  induction v using Json.nestedInduction with
  | null | bool | num | str => rfl
  | arr xs ih =>
      rw [mapNum_arr]
      exact congrArg arr ((List.map_congr_left ih).trans (List.map_id xs))
  | obj ms ih =>
      rw [mapNum_obj]
      refine congrArg obj ((List.map_congr_left fun m hm => ?_).trans (List.map_id ms))
      exact congrArg (Prod.mk m.1) (ih m hm)

end Json

/-! ## Numerals -/

/-- What may spell a number. -/
structure Numeral where
  chars : List Char
  ne_nil : chars ≠ []
  numeric : ∀ c ∈ chars, isNumberChar c = true

/-- The spelling of a number. -/
def NumberText.numeral {ν : Type} (nt : NumberText ν) (q : ν) : Numeral :=
  ⟨nt.text q, nt.ne_nil q, nt.chars q⟩

/-- Numerals spell themselves. -/
def numeralText : NumberText Numeral :=
  ⟨Numeral.chars, Numeral.ne_nil, Numeral.numeric⟩

theorem numeralText_injective : Function.Injective numeralText.text := by
  rintro ⟨cs, _, _⟩ ⟨ds, _, _⟩ h
  cases h
  rfl

namespace Json

variable {ν : Type} (nt : NumberText ν)

/-- The text of a value is that of its numerals. -/
theorem text_numeral (v : Json ν) : text numeralText (mapNum nt.numeral v) = text nt v := by
  induction v using Json.nestedInduction with
  | null | num | str => rfl
  | bool b => cases b <;> rfl
  | arr xs ih =>
      have hitems (first : Bool) : text.itemsText numeralText first (xs.map (mapNum nt.numeral)) =
          text.itemsText nt first xs := by
        induction xs generalizing first with
        | nil => rfl
        | cons x xs ihs =>
            rw [List.map_cons, text.itemsText, text.itemsText, ih x List.mem_cons_self,
              ihs fun x hx => ih x (List.mem_cons_of_mem _ hx)]
      rw [mapNum_arr, text, text, hitems]
  | obj ms ih =>
      have hmembers (first : Bool) : text.membersText numeralText first
          (ms.map fun m => (m.1, mapNum nt.numeral m.2)) = text.membersText nt first ms := by
        induction ms generalizing first with
        | nil => rfl
        | cons m ms ihs =>
            rw [List.map_cons, text.membersText, text.membersText, ih m List.mem_cons_self,
              ihs fun m hm => ih m (List.mem_cons_of_mem _ hm)]
      rw [mapNum_obj, text, text, hmembers]

/-- A text determines the value up to its numerals. -/
theorem text_eq_iff {v w : Json ν} :
    text nt v = text nt w ↔ mapNum nt.numeral v = mapNum nt.numeral w := by
  rw [← text_numeral nt v, ← text_numeral nt w]
  exact ⟨fun h => text_injective numeralText_injective h, fun h => by rw [h]⟩

/-! ## Distinct names -/

/-- No object in the value has a name twice. -/
inductive Distinct : Json ν → Prop
  | null : Distinct null
  | bool (b : Bool) : Distinct (bool b)
  | num (q : ν) : Distinct (num q)
  | str (s : String) : Distinct (str s)
  | arr {xs : List (Json ν)} : (∀ x ∈ xs, Distinct x) → Distinct (arr xs)
  | obj {ms : List (String × Json ν)} :
      (ms.map Prod.fst).Nodup → (∀ m ∈ ms, Distinct m.2) → Distinct (obj ms)

theorem distinct_arr {xs : List (Json ν)} : Distinct (arr xs) ↔ ∀ x ∈ xs, Distinct x := by
  constructor
  · rintro ⟨⟩
    assumption
  · exact .arr

theorem distinct_obj {ms : List (String × Json ν)} :
    Distinct (obj ms) ↔ (ms.map Prod.fst).Nodup ∧ ∀ m ∈ ms, Distinct m.2 := by
  constructor
  · rintro ⟨⟩
    exact ⟨by assumption, by assumption⟩
  · exact fun h => .obj h.1 h.2

theorem Distinct.mapNum {μ : Type} (f : ν → μ) {v : Json ν} (h : Distinct v) :
    Distinct (v.mapNum f) := by
  induction h with
  | null => exact .null
  | bool b => exact .bool b
  | num q => exact .num (f q)
  | str s => exact .str s
  | arr _ ih =>
      rw [mapNum_arr]
      exact .arr (List.forall_mem_map.2 ih)
  | obj hnames _ ih =>
      rw [mapNum_obj]
      refine .obj ?_ (List.forall_mem_map.2 ih)
      rw [List.map_map]
      exact hnames

/-- Every number in the value has a property. -/
inductive Each (p : ν → Prop) : Json ν → Prop
  | null : Each p null
  | bool (b : Bool) : Each p (bool b)
  | num {q : ν} : p q → Each p (num q)
  | str (s : String) : Each p (str s)
  | arr {xs : List (Json ν)} : (∀ x ∈ xs, Each p x) → Each p (arr xs)
  | obj {ms : List (String × Json ν)} : (∀ m ∈ ms, Each p m.2) → Each p (obj ms)

theorem each_num {p : ν → Prop} {q : ν} : Each p (num q) ↔ p q := by
  constructor
  · rintro ⟨⟩
    assumption
  · exact .num

theorem each_arr {p : ν → Prop} {xs : List (Json ν)} : Each p (arr xs) ↔ ∀ x ∈ xs, Each p x := by
  constructor
  · rintro ⟨⟩
    assumption
  · exact .arr

theorem each_obj {p : ν → Prop} {ms : List (String × Json ν)} :
    Each p (obj ms) ↔ ∀ m ∈ ms, Each p m.2 := by
  constructor
  · rintro ⟨⟩
    assumption
  · exact .obj

theorem Each.of_forall {p : ν → Prop} (hp : ∀ q, p q) (v : Json ν) : Each p v := by
  induction v using Json.nestedInduction with
  | null => exact .null
  | bool b => exact .bool b
  | num q => exact .num (hp q)
  | str s => exact .str s
  | arr xs ih => exact .arr ih
  | obj ms ih => exact .obj ih

/-- Readings that agree on the numbers of a value give it the same reading. -/
theorem mapNum_congr {μ : Type} {p : ν → Prop} {f g : ν → μ} (hfg : ∀ x, p x → f x = g x)
    {v : Json ν} (hv : Each p v) : v.mapNum f = v.mapNum g := by
  induction hv with
  | null | bool | str => rfl
  | num hq => exact congrArg num (hfg _ hq)
  | arr _ ih =>
      rw [mapNum_arr, mapNum_arr]
      exact congrArg arr (List.map_congr_left ih)
  | obj _ ih =>
      rw [mapNum_obj, mapNum_obj]
      exact congrArg obj (List.map_congr_left fun m hm => congrArg (Prod.mk m.1) (ih m hm))

theorem mem_of_lookup {α : Type} {k : String} {a : α} {ms : List (String × α)}
    (h : ms.lookup k = some a) : (k, a) ∈ ms := by
  obtain ⟨front, rest, rfl, _⟩ := List.lookup_eq_some_iff.1 h
  exact List.mem_append_right _ List.mem_cons_self

theorem lookup_of_mem {α : Type} {k : String} {a : α} {ms : List (String × α)}
    (hnames : (ms.map Prod.fst).Nodup) (h : (k, a) ∈ ms) : ms.lookup k = some a := by
  induction ms with
  | nil => cases h
  | cons m ms ih =>
      rw [List.map_cons, List.nodup_cons] at hnames
      obtain ⟨k', b⟩ := m
      rcases List.mem_cons.1 h with heq | hmem
      · cases heq
        exact List.lookup_cons_self
      · have hne : (k == k') = false := by
          refine beq_false_of_ne ?_
          rintro rfl
          exact hnames.1 (List.mem_map.2 ⟨_, hmem, rfl⟩)
        rw [List.lookup_cons, hne]
        exact ih hnames.2 hmem

theorem lookup_map {α β : Type} (f : α → β) (k : String) (ms : List (String × α)) :
    (ms.map fun m => (m.1, f m.2)).lookup k = (ms.lookup k).map f := by
  induction ms with
  | nil => rfl
  | cons m ms ih =>
      obtain ⟨k', a⟩ := m
      rw [List.map_cons, List.lookup_cons, List.lookup_cons, ih]
      cases k == k' <;> rfl

/-- Where names are distinct, members that are left out leave no other behind. -/
theorem lookup_filter {α : Type} (p : String × α → Bool) {ms : List (String × α)}
    (hnames : (ms.map Prod.fst).Nodup) (k : String) :
    (ms.filter p).lookup k = (ms.lookup k).filter fun a => p (k, a) := by
  have hnames' : ((ms.filter p).map Prod.fst).Nodup :=
    hnames.sublist ((List.filter_sublist (p := p)).map Prod.fst)
  refine Option.ext fun a => ?_
  rw [Option.filter_eq_some_iff]
  constructor
  · intro h
    have hmem := List.mem_filter.1 (mem_of_lookup h)
    exact ⟨lookup_of_mem hnames hmem.1, hmem.2⟩
  · rintro ⟨h, hp⟩
    exact lookup_of_mem hnames' (List.mem_filter.2 ⟨mem_of_lookup h, hp⟩)

/-- Where names are distinct, the order of members plays no part in looking them up. -/
theorem lookup_perm {α : Type} {ms ns : List (String × α)} (h : ms.Perm ns)
    (hnames : (ms.map Prod.fst).Nodup) (k : String) : ms.lookup k = ns.lookup k := by
  have hnames' : (ns.map Prod.fst).Nodup := (h.map Prod.fst).nodup_iff.1 hnames
  cases hm : ms.lookup k with
  | some a => exact (lookup_of_mem hnames' (h.mem_iff.1 (mem_of_lookup hm))).symm
  | none =>
      cases hn : ns.lookup k with
      | none => rfl
      | some a =>
          rw [lookup_of_mem hnames (h.mem_iff.2 (mem_of_lookup hn))] at hm
          cases hm

/-- Members are determined by their names in order and what stands under them. -/
theorem eq_of_lookup {α : Type} {ms ns : List (String × α)}
    (hnames : ms.map Prod.fst = ns.map Prod.fst) (hdistinct : (ms.map Prod.fst).Nodup)
    (h : ∀ k ∈ ms.map Prod.fst, ms.lookup k = ns.lookup k) : ms = ns := by
  refine List.ext_getElem (by simpa using congrArg List.length hnames) fun i hi hi' => ?_
  have hname : (ms[i]).1 = (ns[i]).1 := by
    have hget := congrArg (fun names => names[i]?) hnames
    simpa [hi, hi'] using hget
  have hm := lookup_of_mem (k := (ms[i]).1) (a := (ms[i]).2) hdistinct (List.getElem_mem hi)
  have hn := lookup_of_mem (k := (ns[i]).1) (a := (ns[i]).2) (hnames ▸ hdistinct)
    (List.getElem_mem hi')
  have hlookup := h _ (List.mem_map_of_mem (List.getElem_mem hi))
  rw [hm, hname, hn] at hlookup
  exact Prod.ext hname (Option.some.inj hlookup)

theorem map_eq_map_of_rel {α β : Type} {R : α → α → Prop} {f : α → β} {o p : Option α}
    (h : Option.Rel R o p) (hf : ∀ a, o = some a → ∀ b, p = some b → R a b → f a = f b) :
    o.map f = p.map f := by
  cases h with
  | none => rfl
  | some hab => exact congrArg some (hf _ rfl _ rfl hab)

theorem rel_of_map_eq_map {α β : Type} {R : α → α → Prop} {f : α → β} {o p : Option α}
    (h : o.map f = p.map f) (hf : ∀ a, o = some a → ∀ b, p = some b → f a = f b → R a b) :
    Option.Rel R o p := by
  cases o <;> cases p
  · exact .none
  · cases h
  · cases h
  · exact .some (hf _ rfl _ rfl (Option.some.inj h))

theorem isSome_eq_of_rel {α : Type} {R : α → α → Prop} {o p : Option α} (h : Option.Rel R o p) :
    o.isSome = p.isSome := by
  cases h <;> rfl

theorem rel_of_imp {α : Type} {R S : α → α → Prop} {o p : Option α} (h : Option.Rel R o p)
    (hRS : ∀ a, o = some a → ∀ b, p = some b → R a b → S a b) : Option.Rel S o p := by
  cases h with
  | none => exact .none
  | some hab => exact .some (hRS _ rfl _ rfl hab)

/-- What two optional items have in common under one reading they have under another. -/
theorem rel_map_of_imp {α β γ : Type} {R : β → β → Prop} {S : γ → γ → Prop} {f : α → β}
    {g : α → γ} {o p : Option α} (h : Option.Rel R (o.map f) (p.map f))
    (hRS : ∀ a, o = some a → ∀ b, p = some b → R (f a) (f b) → S (g a) (g b)) :
    Option.Rel S (o.map g) (p.map g) := by
  cases o <;> cases p <;> cases h
  · exact .none
  · rename_i hab
    exact .some (hRS _ rfl _ rfl hab)

theorem forall₂_imp_of_mem {α β : Type} {R S : α → β → Prop} {xs : List α} {ys : List β}
    (h : List.Forall₂ R xs ys) (hRS : ∀ x ∈ xs, ∀ y ∈ ys, R x y → S x y) :
    List.Forall₂ S xs ys := by
  induction h with
  | nil => exact .nil
  | cons hxy _ ih =>
      refine .cons (hRS _ List.mem_cons_self _ List.mem_cons_self hxy) (ih fun x hx y hy => ?_)
      exact hRS x (List.mem_cons_of_mem _ hx) y (List.mem_cons_of_mem _ hy)

/-- Values that are the same under one reading of their numbers are the same under another that
tells no more of them apart. -/
theorem same_mapNum_of_imp {μ κ : Type} {p : ν → Prop} {f : ν → μ} {g : ν → κ}
    (hfg : ∀ x y, p x → p y → f x = f y → g x = g y) {v w : Json ν} (hv : Each p v)
    (hw : Each p w) (h : Same (v.mapNum f) (w.mapNum f)) : Same (v.mapNum g) (w.mapNum g) := by
  induction v using Json.nestedInduction generalizing w with
  | null => cases w <;> first | exact .null | (simp only [mapNum] at h; cases h)
  | bool b => cases w <;> simp only [mapNum] at h ⊢ <;> cases h; exact .bool b
  | num q =>
      cases w with
      | num q' =>
          have hq : f q = f q' := by
            generalize hx : f q = x
            generalize hy : f q' = y
            simp only [mapNum, hx, hy] at h
            cases h
            rfl
          simp only [mapNum, hfg q q' (each_num.1 hv) (each_num.1 hw) hq]
          exact .num _
      | _ => simp only [mapNum] at h; cases h
  | str s => cases w <;> simp only [mapNum] at h ⊢ <;> cases h; exact .str s
  | arr xs ih =>
      cases w with
      | arr ys =>
          rw [mapNum_arr, mapNum_arr] at h ⊢
          rw [each_arr] at hv hw
          cases h with
          | arr hitems =>
              rw [List.forall₂_map_left_iff, List.forall₂_map_right_iff] at hitems
              refine .arr ?_
              rw [List.forall₂_map_left_iff, List.forall₂_map_right_iff]
              exact forall₂_imp_of_mem hitems fun x hx y hy hxy => ih x hx (hv x hx) (hw y hy) hxy
      | _ => simp only [mapNum] at h; cases h
  | obj ms ih =>
      cases w with
      | obj ns =>
          rw [mapNum_obj, mapNum_obj] at h ⊢
          rw [each_obj] at hv hw
          refine .obj fun k => ?_
          have hk := same_obj_iff.1 h k
          rw [lookup_map, lookup_map] at hk ⊢
          exact rel_map_of_imp hk fun v hm w hn hvw =>
            ih _ (mem_of_lookup hm) (hv _ (mem_of_lookup hm)) (hw _ (mem_of_lookup hn)) hvw
      | _ => simp only [mapNum] at h; cases h

/-! ## Sorted members -/

section Sorted

variable (r : String → String → Prop) [DecidableRel r]

mutual

/-- The value with the members of its objects in the order of their names. -/
def sorted : Json ν → Json ν
  | arr xs => arr (sortedItems xs)
  | obj ms => obj ((sortedMembers ms).insertionSort fun a b => r a.1 b.1)
  | v => v

def sortedItems : List (Json ν) → List (Json ν)
  | [] => []
  | x :: xs => sorted x :: sortedItems xs

def sortedMembers : List (String × Json ν) → List (String × Json ν)
  | [] => []
  | (k, v) :: ms => (k, sorted v) :: sortedMembers ms

end

theorem sorted_arr (xs : List (Json ν)) : sorted r (arr xs) = arr (xs.map (sorted r)) := by
  rw [sorted]
  congr 1
  induction xs with
  | nil => rfl
  | cons x xs ih => rw [sortedItems, ih, List.map_cons]

theorem sorted_obj (ms : List (String × Json ν)) :
    sorted r (obj ms) = obj ((ms.map fun m => (m.1, sorted r m.2)).insertionSort
      fun a b => r a.1 b.1) := by
  rw [sorted]
  congr 2
  induction ms with
  | nil => rfl
  | cons m ms ih => rw [sortedMembers, ih, List.map_cons]

theorem mapNum_sorted {μ : Type} (f : ν → μ) (v : Json ν) :
    (v.sorted r).mapNum f = (v.mapNum f).sorted r := by
  induction v using Json.nestedInduction with
  | null | bool | num | str => rfl
  | arr xs ih =>
      simp only [sorted_arr, mapNum_arr, List.map_map]
      exact congrArg arr (List.map_congr_left ih)
  | obj ms ih =>
      simp only [sorted_obj, mapNum_obj]
      rw [List.map_insertionSort (fun a b : String × Json ν => r a.1 b.1)
        (fun a b : String × Json μ => r a.1 b.1) _ _ (fun _ _ _ _ => Iff.rfl), List.map_map,
        List.map_map]
      have hms : ms.map ((fun m : String × Json ν => (m.1, mapNum f m.2)) ∘
          fun m => (m.1, sorted r m.2)) = ms.map ((fun m => (m.1, sorted r m.2)) ∘
            fun m => (m.1, mapNum f m.2)) :=
        List.map_congr_left fun m hm => congrArg (Prod.mk m.1) (ih m hm)
      rw [hms]

variable {r}

/-- The names of sorted members are the sorted names. -/
theorem map_fst_sortedMembers (ms : List (String × Json ν)) :
    ((ms.map fun m => (m.1, sorted r m.2)).insertionSort fun a b => r a.1 b.1).map Prod.fst =
      (ms.map Prod.fst).insertionSort r := by
  rw [List.map_insertionSort (fun a b => r a.1 b.1) r Prod.fst _ (fun _ _ _ _ => Iff.rfl),
    List.map_map]
  rfl

theorem lookup_sortedMembers {ms : List (String × Json ν)} (hnames : (ms.map Prod.fst).Nodup)
    (k : String) :
    ((ms.map fun m => (m.1, sorted r m.2)).insertionSort fun a b => r a.1 b.1).lookup k =
      (ms.lookup k).map (sorted r) := by
  have hperm := (List.perm_insertionSort (fun a b : String × Json ν => r a.1 b.1)
    (ms.map fun m => (m.1, sorted r m.2))).symm
  rw [← lookup_perm hperm (by rwa [List.map_map]), lookup_map]

variable [Std.Total r] [IsTrans String r] [Std.Antisymm r]

/-- Objects that agree under every name have the same names in order. -/
theorem sortedNames_eq {ms ns : List (String × Json ν)} (hms : (ms.map Prod.fst).Nodup)
    (hns : (ns.map Prod.fst).Nodup) (h : ∀ k, Option.Rel Same (ms.lookup k) (ns.lookup k)) :
    (ms.map Prod.fst).insertionSort r = (ns.map Prod.fst).insertionSort r := by
  have hmem (k : String) : k ∈ ms.map Prod.fst ↔ k ∈ ns.map Prod.fst := by
    have hiff {ps : List (String × Json ν)} (hps : (ps.map Prod.fst).Nodup) :
        k ∈ ps.map Prod.fst ↔ (ps.lookup k).isSome = true := by
      rw [Option.isSome_iff_exists]
      constructor
      · rintro hk
        obtain ⟨⟨_, v⟩, hv, rfl⟩ := List.mem_map.1 hk
        exact ⟨v, lookup_of_mem hps hv⟩
      · rintro ⟨v, hv⟩
        exact List.mem_map_of_mem (mem_of_lookup hv)
    rw [hiff hms, hiff hns]
    have hk := h k
    generalize ms.lookup k = v at hk
    generalize ns.lookup k = w at hk
    cases hk with
    | none => rfl
    | some _ => exact iff_of_true rfl rfl
  have hperm := (List.perm_ext_iff_of_nodup hms hns).2 hmem
  exact (((List.perm_insertionSort r _).trans hperm).trans
    (List.perm_insertionSort r _).symm).eq_of_pairwise' (List.pairwise_insertionSort r _)
      (List.pairwise_insertionSort r _)

/-- Sorting makes equality up to the order of members an equality. -/
theorem sorted_eq_of_same {v w : Json ν} (hv : Distinct v) (hw : Distinct w) (h : Same v w) :
    sorted r v = sorted r w := by
  induction v using Json.nestedInduction generalizing w with
  | null | bool | num | str =>
      cases h
      rfl
  | arr xs ih =>
      cases h with
      | arr hitems =>
          rw [sorted_arr, sorted_arr]
          rw [distinct_arr] at hv hw
          refine congrArg arr ?_
          induction hitems with
          | nil => rfl
          | cons hxy _ ihs =>
              rw [List.forall_mem_cons] at hv hw
              rw [List.map_cons, List.map_cons, ih _ List.mem_cons_self hv.1 hw.1 hxy,
                ihs (fun x hx => ih x (List.mem_cons_of_mem _ hx)) hv.2 hw.2]
  | obj ms ih =>
      cases h with
      | @obj _ ns hlookup =>
          obtain ⟨hms, hvalues⟩ := distinct_obj.1 hv
          obtain ⟨hns, hvalues'⟩ := distinct_obj.1 hw
          have hnames := sortedNames_eq (r := r) hms hns hlookup
          rw [← map_fst_sortedMembers, ← map_fst_sortedMembers] at hnames
          rw [sorted_obj, sorted_obj]
          refine congrArg obj (eq_of_lookup hnames ?_ fun k _ => ?_)
          · rw [map_fst_sortedMembers]
            exact (List.perm_insertionSort r _).nodup_iff.2 hms
          · rw [lookup_sortedMembers hms, lookup_sortedMembers hns]
            exact map_eq_map_of_rel (hlookup k) fun v hv w hw =>
              ih _ (mem_of_lookup hv) (hvalues _ (mem_of_lookup hv)) (hvalues' _ (mem_of_lookup hw))

omit [Std.Total r] [IsTrans String r] [Std.Antisymm r] in
theorem same_of_sorted_eq {v w : Json ν} (hv : Distinct v) (hw : Distinct w)
    (h : sorted r v = sorted r w) : Same v w := by
  induction v using Json.nestedInduction generalizing w with
  | null =>
      cases w <;> first | exact .null | (simp [sorted] at h)
  | bool b =>
      cases w <;> first | (cases h; exact .bool b) | (simp [sorted] at h)
  | num q =>
      cases w <;> first | (cases h; exact .num q) | (simp [sorted] at h)
  | str s =>
      cases w <;> first | (cases h; exact .str s) | (simp [sorted] at h)
  | arr xs ih =>
      cases w with
      | arr ys =>
          rw [sorted_arr, sorted_arr] at h
          rw [distinct_arr] at hv hw
          refine .arr ?_
          have hitems := Json.arr.inj h
          clear h
          induction xs generalizing ys with
          | nil =>
              obtain rfl := List.map_eq_nil_iff.1 hitems.symm
              exact .nil
          | cons x xs ihs =>
              cases ys with
              | nil => cases hitems
              | cons y ys =>
                  rw [List.forall_mem_cons] at hv hw
                  obtain ⟨hxy, hrest⟩ := List.cons.inj hitems
                  exact .cons (ih x List.mem_cons_self hv.1 hw.1 hxy)
                    (ihs (fun x hx => ih x (List.mem_cons_of_mem _ hx)) hv.2 ys hw.2 hrest)
      | _ => simp [sorted] at h
  | obj ms ih =>
      cases w with
      | obj ns =>
          obtain ⟨hms, hvalues⟩ := distinct_obj.1 hv
          obtain ⟨hns, hvalues'⟩ := distinct_obj.1 hw
          rw [sorted_obj, sorted_obj] at h
          refine .obj fun k => ?_
          have hk := congrArg (List.lookup k) (Json.obj.inj h)
          rw [lookup_sortedMembers hms, lookup_sortedMembers hns] at hk
          exact rel_of_map_eq_map hk fun v hv w hw =>
            ih _ (mem_of_lookup hv) (hvalues _ (mem_of_lookup hv)) (hvalues' _ (mem_of_lookup hw))
      | _ => simp [sorted] at h

/-- The canonical texts of two values agree exactly when the values do, up to the order of
members and the spelling of numbers. -/
theorem text_sorted_eq_iff (nt : NumberText ν) {v w : Json ν} (hv : Distinct v)
    (hw : Distinct w) :
    text nt (sorted r v) = text nt (sorted r w) ↔
      Same (mapNum nt.numeral v) (mapNum nt.numeral w) := by
  rw [text_eq_iff, mapNum_sorted, mapNum_sorted]
  exact ⟨same_of_sorted_eq (hv.mapNum _) (hw.mapNum _),
    sorted_eq_of_same (hv.mapNum _) (hw.mapNum _)⟩

end Sorted

end Json

end Library

end Coordination
