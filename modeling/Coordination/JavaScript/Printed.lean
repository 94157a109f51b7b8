import Coordination.JavaScript.Order
import Coordination.JavaScript.Sorting
import Coordination.Library.Canonical

/-!
# What a JSON text tells apart

`printed v` is the value `JSON.stringify v` spells: two texts agree exactly when what they spell
does. A number that is not finite is spelled `null`, so the text does not tell every two values
apart; `SameValue` does, with every number taken by its text and members in any order. Values that
are printed alike are the same exactly when they agree in the numbers that are not finite.
-/

namespace Coordination

namespace JavaScript

open Library

theorem jsonOf_arr (xs : List Value) : jsonOf (.arr xs) = .arr (xs.map jsonOf) := by
  rw [jsonOf]
  congr 1
  induction xs with
  | nil => rfl
  | cons x xs ih => rw [jsonOf.items, ih, List.map_cons]

theorem jsonOf_obj (ms : List (String × Value)) :
    jsonOf (.obj ms) = .obj (ms.map fun m => (m.1, jsonOf m.2)) := by
  rw [jsonOf]
  congr 1
  induction ms with
  | nil => rfl
  | cons m ms ih => rw [jsonOf.members, ih, List.map_cons]

/-- The value a JSON text spells, with its numerals. -/
def printed (v : Value) : Json Numeral :=
  (jsonOf v).mapNum numberText.numeral

theorem stringify_eq_iff {v w : Value} : stringify v = stringify w ↔ printed v = printed w := by
  rw [stringify, stringify, String.ofList_inj]
  exact Json.text_eq_iff numberText

@[simp] theorem printed_arr (xs : List Value) : printed (.arr xs) = .arr (xs.map printed) := by
  rw [printed, jsonOf_arr, Json.mapNum_arr, List.map_map]
  rfl

@[simp] theorem printed_obj (ms : List (String × Value)) :
    printed (.obj ms) = .obj (ms.map fun m => (m.1, printed m.2)) := by
  rw [printed, jsonOf_obj, Json.mapNum_obj, List.map_map]
  rfl

/-! ## Numbers -/

theorem isFinite_iff {x : Number} : x.isFinite = true ↔ ∃ q, Number.toRat? x = some q := by
  show x.toModel.unpack.isFinite = true ↔ _
  unfold Number.toRat?
  cases x.toModel.unpack with
  | finite s => cases s <;> simp [Float.Model.UnpackedFloat.isFinite]
  | _ => simp [Float.Model.UnpackedFloat.isFinite]

theorem isFinite_of_isInteger {x : Number} (h : x.isInteger = true) : x.isFinite = true := by
  refine isFinite_iff.2 (Option.isSome_iff_exists.1 ?_)
  unfold Number.isInteger at h
  cases hq : Number.toRat? x with
  | none =>
      rw [hq] at h
      cases h
  | some q => rfl

theorem numberText_some {x : Number} {q : ℚ} (h : Number.toRat? x = some q) :
    numberText.text x = Number.finiteText x q := by
  simp only [numberText, h]

/-- A finite number is spelled by its text. -/
theorem toText_of_finite {x : Number} (h : x.isFinite = true) :
    x.toText = String.ofList (numberText.text x) := by
  obtain ⟨q, hq⟩ := isFinite_iff.1 h
  rw [numberText_some hq]
  unfold Number.toText
  rw [hq]

theorem numeral_eq_iff {x y : Number} (hx : x.isFinite = true) (hy : y.isFinite = true) :
    numberText.numeral x = numberText.numeral y ↔ x.toText = y.toText := by
  rw [toText_of_finite hx, toText_of_finite hy, String.ofList_inj]
  exact ⟨fun h => congrArg Numeral.chars h, fun h => numeralText_injective h⟩

theorem printed_num {x : Number} (h : x.isFinite = true) :
    printed (.num x) = .num (numberText.numeral x) := by
  show Json.mapNum _ (if x.isFinite then .num (if x == 0 then 0 else x) else .null) = _
  rw [if_pos h]
  refine congrArg Json.num ?_
  split_ifs with hzero
  · obtain ⟨q, hq⟩ := isFinite_iff.1 h
    obtain rfl := (Number.beq_iff hq rfl).1 hzero
    refine numeralText_injective ?_
    have hspelled : numberText.text 0 = numberText.text x := by
      rw [numberText_some hq]
      rfl
    exact hspelled
  · rfl

theorem printed_num_of_not_finite {x : Number} (h : x.isFinite = false) :
    printed (.num x) = .null := by
  show Json.mapNum _ (if x.isFinite then .num (if x == 0 then 0 else x) else .null) = _
  rw [h]
  rfl

/-- The text of a number tells whether it is finite. -/
theorem isFinite_iff_toText {x : Number} :
    x.isFinite = true ↔ ∀ c ∈ x.toText.toList, isNumberChar c = true := by
  constructor
  · intro h
    rw [toText_of_finite h, String.toList_ofList]
    exact numberText.chars x
  · intro h
    by_contra hx
    have hnone : Number.toRat? x = none := by
      rw [Option.eq_none_iff_forall_ne_some]
      exact fun q hq => hx (isFinite_iff.2 ⟨q, hq⟩)
    unfold Number.toText at h
    simp only [hnone] at h
    split_ifs at h
    · exact absurd (h 'N' (by decide)) (by decide)
    · exact absurd (h 'I' (by decide)) (by decide)
    · exact absurd (h 'I' (by decide)) (by decide)

theorem isFinite_congr {x y : Number} (h : x.toText = y.toText) : x.isFinite = y.isFinite := by
  rw [Bool.eq_iff_iff, isFinite_iff_toText, isFinite_iff_toText, h]

theorem printed_eq_str {v : Value} {s : String} : printed v = .str s ↔ v = .str s := by
  constructor
  · intro h
    cases v with
    | str t =>
        cases h
        rfl
    | num x =>
        cases hx : x.isFinite with
        | true =>
            rw [printed_num hx] at h
            cases h
        | false =>
            rw [printed_num_of_not_finite hx] at h
            cases h
    | arr xs => simp at h
    | obj ms => simp at h
    | null | bool => cases h
  · rintro rfl
    rfl

/-! ## Values that are the same -/

/-- Equality up to the order of members, numbers being equal when their texts are. -/
def SameValue (v w : Value) : Prop :=
  Json.Same (v.mapNum Number.toText) (w.mapNum Number.toText)

theorem sameValue_num {x y : Number} :
    SameValue (.num x) (.num y) ↔ x.toText = y.toText := by
  constructor
  · intro h
    simp only [SameValue, Json.mapNum] at h
    generalize x.toText = s at h ⊢
    generalize y.toText = t at h ⊢
    cases h
    rfl
  · intro h
    simp only [SameValue, Json.mapNum, h]
    exact .num _

/-- What the printed value leaves out of a number. -/
def unbounded (x : Number) : Option String :=
  if x.isFinite then none else some x.toText

/-- Values of one shape, with the same numbers that are not finite. -/
def SameBounds (v w : Value) : Prop :=
  Json.Same (v.mapNum unbounded) (w.mapNum unbounded)

theorem SameValue.bounds {v w : Value} (h : SameValue v w) : SameBounds v w := by
  refine Json.same_mapNum_of_imp (p := fun _ => True) (fun x y _ _ hxy => ?_)
    (.of_forall (fun _ => trivial) v) (.of_forall (fun _ => trivial) w) h
  rw [unbounded, unbounded, isFinite_congr hxy, hxy]

theorem toText_eq_of_printed {x y : Number} (h : printed (.num x) = printed (.num y))
    (hbounds : unbounded x = unbounded y) : x.toText = y.toText := by
  unfold unbounded at hbounds
  cases hx : x.isFinite <;> cases hy : y.isFinite <;> rw [hx, hy] at hbounds
  · exact Option.some.inj hbounds
  · cases hbounds
  · cases hbounds
  · rw [printed_num hx, printed_num hy] at h
    exact (numeral_eq_iff hx hy).1 (Json.num.inj h)

/-- Values that are printed alike are the same when they agree in what is not printed. -/
theorem SameBounds.value {v w : Value} (hbounds : SameBounds v w) (h : printed v = printed w) :
    SameValue v w := by
  unfold SameBounds at hbounds
  unfold SameValue
  induction v using Json.nestedInduction generalizing w with
  | null => cases w <;> first | exact .null | (simp only [Json.mapNum] at hbounds; cases hbounds)
  | bool b =>
      cases w <;> simp only [Json.mapNum] at hbounds ⊢ <;> cases hbounds
      exact .bool b
  | str s =>
      cases w <;> simp only [Json.mapNum] at hbounds ⊢ <;> cases hbounds
      exact .str s
  | num x =>
      cases w with
      | num y =>
          have hxy : unbounded x = unbounded y := by
            simp only [Json.mapNum] at hbounds
            generalize unbounded x = a at hbounds ⊢
            generalize unbounded y = b at hbounds ⊢
            cases hbounds
            rfl
          simp only [Json.mapNum, toText_eq_of_printed h hxy]
          exact .num _
      | _ => simp only [Json.mapNum] at hbounds; cases hbounds
  | arr xs ih =>
      cases w with
      | arr ys =>
          rw [Json.mapNum_arr, Json.mapNum_arr] at hbounds ⊢
          rw [printed_arr, printed_arr] at h
          have hprinted := Json.arr.inj h
          cases hbounds with
          | arr hitems =>
              rw [List.forall₂_map_left_iff, List.forall₂_map_right_iff] at hitems
              refine .arr ?_
              rw [List.forall₂_map_left_iff, List.forall₂_map_right_iff]
              clear h
              induction hitems with
              | nil => exact .nil
              | cons hxy _ ihs =>
                  obtain ⟨hhead, htail⟩ := List.cons.inj hprinted
                  exact .cons (ih _ List.mem_cons_self hxy hhead)
                    (ihs (fun x hx => ih x (List.mem_cons_of_mem _ hx)) htail)
      | _ => simp only [Json.mapNum] at hbounds; cases hbounds
  | obj ms ih =>
      cases w with
      | obj ns =>
          rw [Json.mapNum_obj, Json.mapNum_obj] at hbounds ⊢
          rw [printed_obj, printed_obj] at h
          refine .obj fun k => ?_
          have hk := Json.same_obj_iff.1 hbounds k
          have hprinted := congrArg (List.lookup k) (Json.obj.inj h)
          rw [Json.lookup_map, Json.lookup_map] at hk hprinted ⊢
          refine Json.rel_map_of_imp hk fun v hm w hn hvw => ih _ (Json.mem_of_lookup hm) hvw ?_
          rw [hm, hn] at hprinted
          exact Option.some.inj hprinted
      | _ => simp only [Json.mapNum] at hbounds; cases hbounds

/-! ## Finite numbers -/

/-- The numeral of a text. -/
def numeralOfText (s : String) : Numeral :=
  if h : s.toList ≠ [] ∧ ∀ c ∈ s.toList, isNumberChar c = true then ⟨s.toList, h.1, h.2⟩
  else numberText.numeral 0

theorem numeralOfText_toText {x : Number} (h : x.isFinite = true) :
    numeralOfText x.toText = numberText.numeral x := by
  have hchars : x.toText.toList = numberText.text x := by
    rw [toText_of_finite h, String.toList_ofList]
  have hnumeric : x.toText.toList ≠ [] ∧ ∀ c ∈ x.toText.toList, isNumberChar c = true := by
    rw [hchars]
    exact ⟨numberText.ne_nil x, numberText.chars x⟩
  rw [numeralOfText, dif_pos hnumeric]
  exact numeralText_injective hchars

section Finite

variable {v w : Value} (hv : Json.Each (fun x => x.isFinite = true) v)
  (hw : Json.Each (fun x => x.isFinite = true) w)

include hv

theorem printed_of_finite : printed v = v.mapNum numberText.numeral := by
  induction hv with
  | null | bool | str => rfl
  | num hx => exact printed_num hx
  | arr _ ih =>
      rw [printed_arr, Json.mapNum_arr]
      exact congrArg Json.arr (List.map_congr_left ih)
  | obj _ ih =>
      rw [printed_obj, Json.mapNum_obj]
      exact congrArg Json.obj (List.map_congr_left fun m hm => congrArg (Prod.mk m.1) (ih m hm))

include hw

/-- A printed value leaves nothing out of finite numbers. -/
theorem SameBounds.of_printed (h : printed v = printed w) : SameBounds v w := by
  rw [printed_of_finite hv, printed_of_finite hw] at h
  have hnone {u : Value} (hu : Json.Each (fun x => x.isFinite = true) u) :
      u.mapNum unbounded = (u.mapNum numberText.numeral).mapNum fun _ => none := by
    rw [Json.mapNum_mapNum]
    exact Json.mapNum_congr (fun x hx => if_pos hx) hu
  unfold SameBounds
  rw [hnone hv, hnone hw, h]

/-- Values with their members in order are printed alike when they are the same. -/
theorem SameValue.printed_eq (h : SameValue v w) (hdv : v.Distinct) (hdw : w.Distinct)
    (hsv : v.sorted codeUnitLe = v) (hsw : w.sorted codeUnitLe = w) : printed v = printed w := by
  have hsorted := Json.sorted_eq_of_same (r := codeUnitLe) (hdv.mapNum _) (hdw.mapNum _) h
  rw [← Json.mapNum_sorted, ← Json.mapNum_sorted, hsv, hsw] at hsorted
  have htext {u : Value} (hu : Json.Each (fun x => x.isFinite = true) u) :
      printed u = (u.mapNum Number.toText).mapNum numeralOfText := by
    rw [printed_of_finite hu, Json.mapNum_mapNum]
    exact Json.mapNum_congr (fun x hx => (numeralOfText_toText hx).symm) hu
  rw [htext hv, htext hw, hsorted]

end Finite

end JavaScript

end Coordination
