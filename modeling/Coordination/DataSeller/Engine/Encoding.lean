import Coordination.DataSeller.Engine.Hash
import Coordination.JavaScript.IntegerText
import Coordination.JavaScript.Printed
import Coordination.JavaScript.Sorting
import Coordination.Library.Decimal

/-!
# The canonical encoding

What `encode` makes of a value in the form the program builds it, with members that are
`undefined`. Over safe integers it is the JSON canonicalisation scheme: two values have one
encoding exactly when they are equal, the order of their members apart.
-/

namespace Coordination

namespace DataSeller

namespace Engine

open JavaScript Library

/-- A value as the program builds it: `num none` stands for `undefined`. -/
abbrev Loose := Json (Option Number)

def isUndefined : Loose → Bool
  | .num none => true
  | _ => false

/-- `encode`, with the members that are `undefined`. -/
def encodeLoose (path : String) : Loose → Except Failure (List Char)
  | .null => .ok "null".toList
  | .bool true => .ok "true".toList
  | .bool false => .ok "false".toList
  | .num none => canonicalError s!"Cannot canonicalize undefined at {path}."
  | .num (some x) => (canonical path (.num x)).map fun _ => numberText.text x
  | .str s => .ok (Library.quote s)
  | .arr xs => (items 0 xs).map fun ts => '[' :: ([','].intercalate ts ++ [']'])
  | .obj ms => do
    let entries ← (sortEntries (members ms)).mapM fun (k, r) => r.map fun t => (k, t)
    return Char.ofNat 123 ::
      ([','].intercalate (entries.map fun (k, t) => Library.quote k ++ ':' :: t) ++
        [Char.ofNat 125])
where
  items (i : ℕ) : List Loose → Except Failure (List (List Char))
    | [] => .ok []
    | x :: xs => do
      let y ← encodeLoose (path ++ "[" ++ toString i ++ "]") x
      return y :: (← items (i + 1) xs)
  members : List (String × Loose) → List (String × Except Failure (List Char))
    | [] => []
    | (k, v) :: ms =>
      if isUndefined v then members ms
      else (k, encodeLoose (path ++ "." ++ k) v) :: members ms

/-! ## Values without `undefined` -/

theorem sortEntries_map {α β : Type} (f : α → β) (ms : List (String × α)) :
    sortEntries (ms.map fun m => (m.1, f m.2)) = (sortEntries ms).map fun m => (m.1, f m.2) :=
  (List.map_insertionSort (fun a b : String × α => codeUnitLe a.1 b.1)
    (fun a b : String × β => codeUnitLe a.1 b.1) (fun m => (m.1, f m.2)) ms
      fun _ _ _ _ => Iff.rfl).symm

theorem mapM_map_snd {α β : Type} (f : α → β) (ms : List (String × Except Failure α)) :
    (ms.map fun m => (m.1, m.2.map f)).mapM
        (fun m : String × Except Failure β => m.2.map fun b => (m.1, b)) =
      (ms.mapM fun m : String × Except Failure α => m.2.map fun a => (m.1, a)).map
        (List.map fun m => (m.1, f m.2)) := by
  induction ms with
  | nil => rfl
  | cons m ms ih =>
      obtain ⟨k, r⟩ := m
      rw [List.map_cons, List.mapM_cons, List.mapM_cons, ih]
      cases r with
      | error e => rfl
      | ok a =>
          cases ms.mapM fun m : String × Except Failure α => m.2.map fun a => (m.1, a) <;> rfl

theorem isUndefined_mapNum (v : Value) : isUndefined (v.mapNum some) = false := by
  cases v <;> rfl

/-- Where nothing is `undefined`, this is the encoding of the value. -/
theorem encodeLoose_some (path : String) (v : Value) :
    encodeLoose path (v.mapNum some) = (canonical path v).map (Json.text numberText) := by
  induction v using Json.nestedInduction generalizing path with
  | null => rfl
  | bool b => cases b <;> rfl
  | num x =>
      show (canonical path (.num x)).map _ = _
      cases hx : canonical path (.num x) with
      | error e => rfl
      | ok w =>
          unfold canonical at hx
          split_ifs at hx
          · simp [canonicalError] at hx
          · simp [canonicalError] at hx
          · cases hx
            rfl
  | str s => rfl
  | arr xs ih =>
      have hitems (i : ℕ) : encodeLoose.items path i (xs.map (Json.mapNum some)) =
          (canonical.items path i xs).map (List.map (Json.text numberText)) := by
        induction xs generalizing i with
        | nil => rfl
        | cons x xs ihs =>
            rw [List.map_cons, encodeLoose.items, canonical.items, ih x List.mem_cons_self,
              ihs fun y hy => ih y (List.mem_cons_of_mem _ hy)]
            cases canonical (path ++ "[" ++ toString i ++ "]") x with
            | error e => rfl
            | ok y => cases canonical.items path (i + 1) xs <;> rfl
      rw [Json.mapNum_arr, encodeLoose, canonical, hitems]
      cases canonical.items path 0 xs with
      | error e => rfl
      | ok ys => exact congrArg Except.ok (Json.text_arr numberText ys).symm
  | obj ms ih =>
      have hmembers : encodeLoose.members path (ms.map fun m => (m.1, m.2.mapNum some)) =
          (canonical.members path ms).map fun m => (m.1, m.2.map (Json.text numberText)) := by
        induction ms with
        | nil => rfl
        | cons m ms ihs =>
            rw [List.map_cons, encodeLoose.members, isUndefined_mapNum, if_neg Bool.false_ne_true,
              ih m List.mem_cons_self, ihs fun m hm => ih m (List.mem_cons_of_mem _ hm)]
            rfl
      rw [Json.mapNum_obj, encodeLoose, canonical, hmembers, sortEntries_map, mapM_map_snd]
      cases (sortEntries (canonical.members path ms)).mapM fun m => m.2.map fun w => (m.1, w) with
      | error e => rfl
      | ok entries =>
          refine congrArg Except.ok ((Json.text_obj numberText entries).trans ?_).symm
          rw [List.map_map]
          rfl

theorem encode_eq (path : String) (v : Value) :
    encode path v = (encodeLoose path (v.mapNum some)).map String.ofList := by
  rw [encode, encodeLoose_some]
  cases canonical path v <;> rfl

/-! ## Plain values -/

/-- A plain value of safe integers, with every name once; only members may be `undefined`. -/
inductive Encodable : Loose → Prop
  | null : Encodable .null
  | bool (b : Bool) : Encodable (.bool b)
  | num {x : Number} : x.isSafeInteger = true → Encodable (.num (some x))
  | str (s : String) : Encodable (.str s)
  | arr {xs : List Loose} : (∀ x ∈ xs, Encodable x) → Encodable (.arr xs)
  | obj {ms : List (String × Loose)} : (ms.map Prod.fst).Nodup →
      (∀ m ∈ ms, isUndefined m.2 = false → Encodable m.2) → Encodable (.obj ms)

/-- The value without its members that are `undefined`. -/
def prune : Loose → Value
  | .null => .null
  | .bool b => .bool b
  | .num none => .null
  | .num (some x) => .num x
  | .str s => .str s
  | .arr xs => .arr (items xs)
  | .obj ms => .obj (members ms)
where
  items : List Loose → List Value
    | [] => []
    | x :: xs => prune x :: items xs
  members : List (String × Loose) → List (String × Value)
    | [] => []
    | (k, v) :: ms => if isUndefined v then members ms else (k, prune v) :: members ms

theorem prune_arr (xs : List Loose) : prune (.arr xs) = .arr (xs.map prune) := by
  rw [prune]
  congr 1
  induction xs with
  | nil => rfl
  | cons x xs ih => rw [prune.items, ih, List.map_cons]

theorem prune_obj (ms : List (String × Loose)) : prune (.obj ms) =
    .obj ((ms.filter fun m => !isUndefined m.2).map fun m => (m.1, prune m.2)) := by
  rw [prune]
  congr 1
  induction ms with
  | nil => rfl
  | cons m ms ih =>
      obtain ⟨k, v⟩ := m
      rw [prune.members, ih]
      cases hv : isUndefined v with
      | true => rw [if_pos rfl, List.filter_cons_of_neg (by simp [hv])]
      | false =>
          rw [if_neg Bool.false_ne_true, List.filter_cons_of_pos (by simp [hv]), List.map_cons]

theorem mem_pruned {ms : List (String × Loose)} {m : String × Value}
    (hm : m ∈ (ms.filter fun m => !isUndefined m.2).map fun m => (m.1, prune m.2)) :
    ∃ n ∈ ms, isUndefined n.2 = false ∧ m = (n.1, prune n.2) := by
  obtain ⟨n, hn, rfl⟩ := List.mem_map.1 hm
  obtain ⟨hmem, hdefined⟩ := List.mem_filter.1 hn
  exact ⟨n, hmem, by simpa using hdefined, rfl⟩

/-- Members that are `undefined` play no part. -/
theorem encodeLoose_prune {v : Loose} (h : Encodable v) (path : String) :
    encodeLoose path v = encodeLoose path ((prune v).mapNum some) := by
  induction h generalizing path with
  | null => rfl
  | bool b => cases b <;> rfl
  | num _ => rfl
  | str s => rfl
  | @arr xs hxs ih =>
      clear hxs
      have hitems (i : ℕ) : encodeLoose.items path i xs =
          encodeLoose.items path i ((xs.map prune).map (Json.mapNum some)) := by
        induction xs generalizing i with
        | nil => rfl
        | cons x xs ihs =>
            rw [List.map_cons, List.map_cons, encodeLoose.items, encodeLoose.items,
              ih x List.mem_cons_self, ihs fun y hy => ih y (List.mem_cons_of_mem _ hy)]
      rw [prune_arr, Json.mapNum_arr, encodeLoose, encodeLoose, hitems]
  | @obj ms hnames hms ih =>
      clear hnames hms
      have hmembers : encodeLoose.members path ms = encodeLoose.members path
          (((ms.filter fun m => !isUndefined m.2).map fun m => (m.1, prune m.2)).map
            fun m => (m.1, m.2.mapNum some)) := by
        induction ms with
        | nil => rfl
        | cons m ms ihs =>
            rw [encodeLoose.members, ihs fun n hn => ih n (List.mem_cons_of_mem _ hn)]
            cases hm : isUndefined m.2 with
            | true => rw [if_pos rfl, List.filter_cons_of_neg (by simp [hm])]
            | false =>
                rw [if_neg Bool.false_ne_true, List.filter_cons_of_pos (by simp [hm]),
                  ih m List.mem_cons_self hm, List.map_cons, List.map_cons, encodeLoose.members,
                  isUndefined_mapNum, if_neg Bool.false_ne_true]
      rw [prune_obj, Json.mapNum_obj, encodeLoose, encodeLoose, hmembers]

theorem Encodable.distinct {v : Loose} (h : Encodable v) : Json.Distinct (prune v) := by
  induction h with
  | null => exact .null
  | bool b => exact .bool b
  | num _ => exact .num _
  | str s => exact .str s
  | arr _ ih =>
      rw [prune_arr]
      exact .arr (List.forall_mem_map.2 ih)
  | @obj ms hnames _ ih =>
      rw [prune_obj]
      refine .obj ?_ fun m hm => ?_
      · rw [List.map_map]
        exact hnames.sublist (List.filter_sublist.map Prod.fst)
      · obtain ⟨n, hn, hdefined, rfl⟩ := mem_pruned hm
        exact ih n hn hdefined

theorem Encodable.safe {v : Loose} (h : Encodable v) :
    Json.Each (fun x => x.isSafeInteger = true) (prune v) := by
  induction h with
  | null => exact .null
  | bool b => exact .bool b
  | num hx => exact .num hx
  | str s => exact .str s
  | arr _ ih =>
      rw [prune_arr]
      exact .arr (List.forall_mem_map.2 ih)
  | @obj ms _ _ ih =>
      rw [prune_obj]
      refine .obj fun m hm => ?_
      obtain ⟨n, hn, hdefined, rfl⟩ := mem_pruned hm
      exact ih n hn hdefined

/-! ## The canonical form -/

theorem isSafeInteger_spec {x : Number} (h : x.isSafeInteger = true) :
    ∃ z : ℤ, Number.toRat? x = some (z : ℚ) ∧ |z| < 2 ^ 53 := by
  unfold Number.isSafeInteger at h
  cases hx : Number.toRat? x with
  | none =>
      rw [hx] at h
      cases h
  | some q =>
      rw [hx] at h
      obtain ⟨hden, hbound⟩ := of_decide_eq_true h
      refine ⟨q.num, congrArg some (Rat.den_eq_one_iff q |>.1 hden).symm, ?_⟩
      rw [← Rat.den_eq_one_iff q |>.1 hden, ← Int.cast_abs] at hbound
      have hle : |q.num| ≤ 9007199254740991 := by exact_mod_cast hbound
      omega

/-- Over safe integers the canonical form is the value with its members sorted. -/
theorem canonical_eq_sorted (path : String) {v : Value}
    (h : Json.Each (fun x => x.isSafeInteger = true) v) :
    canonical path v = .ok (v.sorted codeUnitLe) := by
  induction v using Json.nestedInduction generalizing path with
  | null | bool | str => rfl
  | num x =>
      have hx := Json.each_num.1 h
      obtain ⟨z, hz, -⟩ := isSafeInteger_spec hx
      rw [canonical, isFinite_iff.2 ⟨_, hz⟩, hx]
      rfl
  | arr xs ih =>
      rw [Json.each_arr] at h
      have hitems (i : ℕ) : canonical.items path i xs =
          .ok (xs.map (Json.sorted codeUnitLe)) := by
        induction xs generalizing i with
        | nil => rfl
        | cons x xs ihs =>
            rw [List.forall_mem_cons] at h
            rw [canonical.items, ih x List.mem_cons_self _ h.1,
              ihs (fun y hy => ih y (List.mem_cons_of_mem _ hy)) h.2]
            rfl
      rw [canonical, hitems, Json.sorted_arr]
      rfl
  | obj ms ih =>
      rw [Json.each_obj] at h
      have hmembers : canonical.members path ms =
          ms.map fun m => (m.1, Except.ok (m.2.sorted codeUnitLe)) := by
        rw [canonical_members]
        exact List.map_congr_left fun m hm => congrArg (Prod.mk m.1) (ih m hm _ (h m hm))
      have hok (ns : List (String × Value)) :
          (ns.map fun m => (m.1, Except.ok (m.2.sorted codeUnitLe))).mapM
              (fun m : String × Except Failure Value => m.2.map fun w => (m.1, w)) =
            .ok (ns.map fun m => (m.1, m.2.sorted codeUnitLe)) := by
        induction ns with
        | nil => rfl
        | cons m ns ihn =>
            rw [List.map_cons, List.mapM_cons, ihn]
            rfl
      rw [canonical, hmembers, sortEntries_map fun w : Value => Except.ok (w.sorted codeUnitLe)]
      have hentries := hok (sortEntries ms)
      refine (congrArg (· >>= fun entries => pure (Json.obj entries)) hentries).trans ?_
      rw [← sortEntries_map, Json.sorted_obj]
      rfl

/-! ## The canonicalisation scheme -/

/-- The JSON canonicalisation scheme: integers in decimal, members in the order of the code
units of their names, no white space. -/
inductive Jcs : Value → List Char → Prop
  | null : Jcs .null "null".toList
  | bool_true : Jcs (.bool true) "true".toList
  | bool_false : Jcs (.bool false) "false".toList
  | num {x : Number} {z : ℤ} : Number.toRat? x = some (z : ℚ) → |z| < 2 ^ 53 →
      Jcs (.num x) (toString z).toList
  | str (s : String) : Jcs (.str s) (Library.quote s)
  | arr {xs : List Value} {ts : List (List Char)} : List.Forall₂ Jcs xs ts →
      Jcs (.arr xs) ('[' :: ([','].intercalate ts ++ [']']))
  | obj {ms entries : List (String × Value)} {ts : List (List Char)} : ms.Perm entries →
      entries.Pairwise (fun a b => utf16 a.1 < utf16 b.1) →
      List.Forall₂ (fun m t => Jcs m.2 t) entries ts →
      Jcs (.obj ms) (Char.ofNat 123 ::
        ([','].intercalate (entries.zipWith (fun m t => Library.quote m.1 ++ ':' :: t) ts) ++
          [Char.ofNat 125]))

theorem forall₂_eq_map_iff {α β : Type} {R : α → β → Prop} {f : α → β} {xs : List α}
    {ys : List β} (h : ∀ x ∈ xs, ∀ y, R x y ↔ y = f x) :
    List.Forall₂ R xs ys ↔ ys = xs.map f := by
  induction xs generalizing ys with
  | nil => rw [List.forall₂_nil_left_iff, List.map_nil]
  | cons x xs ih =>
      rw [List.forall_mem_cons] at h
      rw [List.forall₂_cons_left_iff, List.map_cons]
      constructor
      · rintro ⟨y, ys', hy, hys, rfl⟩
        rw [(h.1 y).1 hy, (ih h.2).1 hys]
      · rintro rfl
        exact ⟨f x, xs.map f, (h.1 _).2 rfl, (ih h.2).2 rfl, rfl⟩

theorem sortEntries_perm {α : Type} (ms : List (String × α)) : (sortEntries ms).Perm ms :=
  List.perm_insertionSort _ ms

theorem sortEntries_strict {α : Type} {ms : List (String × α)}
    (hnames : (ms.map Prod.fst).Nodup) :
    (sortEntries ms).Pairwise fun a b => utf16 a.1 < utf16 b.1 := by
  have hle : (sortEntries ms).Pairwise fun a b => codeUnitLe a.1 b.1 := by
    have hsorted := List.pairwise_insertionSort codeUnitLe (ms.map Prod.fst)
    rw [← List.map_insertionSort (fun a b : String × α => codeUnitLe a.1 b.1) codeUnitLe
      Prod.fst _ fun _ _ _ _ => Iff.rfl] at hsorted
    exact List.pairwise_map.1 hsorted
  have hne : (sortEntries ms).Pairwise fun a b => a.1 ≠ b.1 := by
    exact List.pairwise_map.1 (((sortEntries_perm ms).map Prod.fst).nodup_iff.2 hnames)
  exact hle.imp₂ (fun a b hab hne => lt_of_le_of_ne hab fun h => hne (utf16_injective h)) hne

/-- Names that differ can be put in order in one way. -/
theorem eq_sortEntries {α : Type} {ms entries : List (String × α)} (hperm : ms.Perm entries)
    (horder : entries.Pairwise fun a b => utf16 a.1 < utf16 b.1) : entries = sortEntries ms := by
  have hnames : (ms.map Prod.fst).Nodup := by
    refine (hperm.map Prod.fst).nodup_iff.2 (List.pairwise_map.2 (horder.imp fun h heq => ?_))
    rw [heq] at h
    exact lt_irrefl _ h
  exact (hperm.symm.trans (sortEntries_perm ms).symm).eq_of_pairwise
    (fun a b _ _ hab hba => absurd (hab.trans hba) (lt_irrefl _)) horder (sortEntries_strict hnames)

theorem numberText_integer {x : Number} {z : ℤ} (hx : Number.toRat? x = some (z : ℚ))
    (hz : |z| < 2 ^ 53) : numberText.text x = (toString z).toList := by
  rw [numberText_some hx, Number.finiteText_integer hx hz]

/-- The scheme gives a value of safe integers one text: that of the value with its members
sorted. -/
theorem jcs_iff {v : Value} (hv : Json.Distinct v)
    (hsafe : Json.Each (fun x => x.isSafeInteger = true) v) {t : List Char} :
    Jcs v t ↔ t = Json.text numberText (v.sorted codeUnitLe) := by
  induction v using Json.nestedInduction generalizing t with
  | null =>
      refine ⟨?_, ?_⟩
      · rintro ⟨⟩
        rfl
      · rintro rfl
        exact .null
  | bool b =>
      cases b <;> refine ⟨?_, ?_⟩
      · rintro ⟨⟩
        rfl
      · rintro rfl
        exact .bool_false
      · rintro ⟨⟩
        rfl
      · rintro rfl
        exact .bool_true
  | num x =>
      have hinteger := Json.each_num.1 hsafe
      obtain ⟨z, hx, hz⟩ := isSafeInteger_spec hinteger
      have htext : Json.text numberText (Json.sorted codeUnitLe (.num x)) = (toString z).toList :=
        numberText_integer hx hz
      rw [htext]
      constructor
      · intro h
        cases h with
        | @num _ z' hx' _ =>
            have heq : z = z' := by exact_mod_cast Option.some.inj (hx.symm.trans hx')
            rw [heq]
      · rintro rfl
        exact .num hx hz
  | str s =>
      refine ⟨?_, ?_⟩
      · rintro ⟨⟩
        rfl
      · rintro rfl
        exact .str s
  | arr xs ih =>
      rw [Json.distinct_arr] at hv
      rw [Json.each_arr] at hsafe
      have hitems (ts : List (List Char)) : List.Forall₂ Jcs xs ts ↔
          ts = xs.map fun x => Json.text numberText (x.sorted codeUnitLe) :=
        forall₂_eq_map_iff fun x hx _ => ih x hx (hv x hx) (hsafe x hx)
      rw [Json.sorted_arr, Json.text_arr, List.map_map]
      constructor
      · intro h
        cases h with
        | arr hts =>
            rw [(hitems _).1 hts]
            rfl
      · rintro rfl
        exact .arr ((hitems _).2 rfl)
  | obj ms ih =>
      rw [Json.distinct_obj] at hv
      rw [Json.each_obj] at hsafe
      have hvalues (ts : List (List Char)) :
          List.Forall₂ (fun m t => Jcs m.2 t) (sortEntries ms) ts ↔
            ts = (sortEntries ms).map fun m => Json.text numberText (m.2.sorted codeUnitLe) :=
        forall₂_eq_map_iff fun m hm _ =>
          have hmem := (sortEntries_perm ms).mem_iff.1 hm
          ih m hmem (hv.2 m hmem) (hsafe m hmem)
      rw [Json.sorted_obj, ← sortEntries, sortEntries_map, Json.text_obj, List.map_map]
      have hzip : (sortEntries ms).zipWith (fun m t => Library.quote m.1 ++ ':' :: t)
            ((sortEntries ms).map fun m => Json.text numberText (m.2.sorted codeUnitLe)) =
          (sortEntries ms).map fun m =>
            Library.quote m.1 ++ ':' :: Json.text numberText (m.2.sorted codeUnitLe) := by
        rw [List.zipWith_map_right, List.zipWith_self]
      constructor
      · intro h
        cases h with
        | obj hperm horder hts =>
            obtain rfl := eq_sortEntries hperm horder
            rw [(hvalues _).1 hts, hzip]
            rfl
      · rintro rfl
        have hjcs := Jcs.obj (sortEntries_perm ms).symm (sortEntries_strict hv.1)
          ((hvalues _).2 rfl)
        rwa [hzip] at hjcs

/-- The encoding is canonical: plain values of safe integers are encoded alike exactly when they
are equal, the order of their members and those that are `undefined` apart, and the encoding is
the one the canonicalisation scheme gives. -/
theorem encode_canonical {v w : Loose} (hv : Encodable v) (hw : Encodable w) :
    ∃ s t, encodeLoose "$" v = .ok s ∧ encodeLoose "$" w = .ok t ∧
      (s = t ↔ Json.Same ((prune v).mapNum Number.toRat?) ((prune w).mapNum Number.toRat?)) ∧
      ∀ u, Jcs (prune v) u ↔ u = s := by
  have htext {v : Loose} (hv : Encodable v) : encodeLoose "$" v =
      .ok (Json.text numberText ((prune v).sorted codeUnitLe)) := by
    rw [encodeLoose_prune hv, encodeLoose_some, canonical_eq_sorted _ hv.safe]
    rfl
  refine ⟨_, _, htext hv, htext hw, ?_, fun u => jcs_iff hv.distinct hv.safe⟩
  rw [Json.text_sorted_eq_iff numberText hv.distinct hw.distinct]
  have hread {x y : Number} (hx : x.isSafeInteger = true) (hy : y.isSafeInteger = true) :
      numberText.numeral x = numberText.numeral y ↔ Number.toRat? x = Number.toRat? y := by
    obtain ⟨z, hxz, hz⟩ := isSafeInteger_spec hx
    obtain ⟨z', hyz, hz'⟩ := isSafeInteger_spec hy
    have hspelling : numberText.numeral x = numberText.numeral y ↔
        numberText.text x = numberText.text y :=
      ⟨fun h => congrArg Numeral.chars h, fun h => numeralText_injective h⟩
    rw [hspelling, numberText_integer hxz hz, numberText_integer hyz hz', hxz, hyz]
    constructor
    · intro h
      rw [Library.toString_injective (String.toList_inj.1 h)]
    · intro h
      rw [show z = z' by exact_mod_cast Option.some.inj h]
  exact ⟨Json.same_mapNum_of_imp (fun x y hx hy => (hread hx hy).1) hv.safe hw.safe,
    Json.same_mapNum_of_imp (fun x y hx hy => (hread hx hy).2) hv.safe hw.safe⟩

def oneSpelling : Loose :=
  .obj [("b", .num (some 1)), ("a", .arr [.num (some 0), .str "x"]), ("u", .num none)]

def otherSpelling : Loose :=
  .obj [("a", .arr [.num (some 0), .str "x"]), ("b", .num (some 1))]

theorem encodable_list : Encodable (.arr [.num (some 0), .str "x"]) := by
  refine .arr (List.forall_mem_cons.2 ⟨.num ?_, List.forall_mem_cons.2 ⟨.str "x", by simp⟩⟩)
  decide +kernel

theorem encodable_one : Encodable (.num (some 1)) :=
  .num (by decide +kernel)

theorem encode_canonical_demo : ∃ s t, encodeLoose "$" oneSpelling = .ok s ∧
    encodeLoose "$" otherSpelling = .ok t ∧
    (s = t ↔ Json.Same ((prune oneSpelling).mapNum Number.toRat?)
      ((prune otherSpelling).mapNum Number.toRat?)) ∧
    ∀ u, Jcs (prune oneSpelling) u ↔ u = s := by
  refine encode_canonical (.obj (by decide) ?_) (.obj (by decide) ?_)
  · refine List.forall_mem_cons.2 ⟨fun _ => encodable_one, List.forall_mem_cons.2
      ⟨fun _ => encodable_list, List.forall_mem_cons.2 ⟨fun h => ?_, by simp⟩⟩⟩
    cases h
  · exact List.forall_mem_cons.2 ⟨fun _ => encodable_list, List.forall_mem_cons.2
      ⟨fun _ => encodable_one, by simp⟩⟩

example : (encodeLoose "$" oneSpelling).toOption =
      some "\x7b\"a\":[0,\"x\"],\"b\":1\x7d".toList ∧
    (encodeLoose "$" otherSpelling).toOption = (encodeLoose "$" oneSpelling).toOption := by
  decide +kernel

end Engine

end DataSeller

end Coordination
