import Coordination.JavaScript.Number
import Coordination.Library.Decimal
import Coordination.Library.InsertionMap
import Coordination.Python.Text

/-!
# Python values read from JSON

What `json.loads` hands to the programs: a number literal is an integer or a float, and
the two compare by value. The members of an object stand in the order of the dict, each
name once.
-/

namespace Coordination

namespace Python

open Library JavaScript

/-- A number of a JSON document. -/
inductive PyNumber where
  | int (n : ℤ)
  | float (x : Float)

/-- A value read from JSON. -/
abbrev PyValue := Json PyNumber

/-- What the interpreter writes for a float: text that reads back as the float, with a
point or an exponent in it. -/
class FloatText where
  /-- `repr(x)`. -/
  repr : Float → String
  repr_inj : ∀ {x y : Float}, (Number.toRat? x).isSome → (Number.toRat? y).isSome →
    repr x = repr y → x = y
  repr_point : ∀ {x : Float}, (Number.toRat? x).isSome → ∃ c ∈ (repr x).toList, c = '.' ∨ c = 'e'

/-- Floats written as the number their bits spell, with a point behind it. -/
@[reducible] def FloatText.bits : FloatText where
  repr x := String.ofList (Nat.toDigits 10 x.toModel.toBits.toNat ++ ['.', '0'])
  repr_inj {x y} _ _ h := by
    have hdigits := List.append_cancel_right (String.ofList_injective h)
    have hbits := congrArg (fun ds => Nat.ofDigitChars 10 ds 0) hdigits
    simp only [Nat.ofDigitChars_ten_toDigits] at hbits
    exact eq_of_toBits hbits
  repr_point _ := ⟨'.', by simp, Or.inl rfl⟩

namespace PyNumber

/-- The exact value; `none` for the infinities and for what is no number. -/
def toRat? : PyNumber → Option ℚ
  | int n => some n
  | float x => Number.toRat? x

/-- `str(n)`. -/
def str [FloatText] : PyNumber → String
  | int n => toString n
  | float x => FloatText.repr x

/-- `n - 1`. -/
def pred : PyNumber → PyNumber
  | int n => int (n - 1)
  | float x => float (x - 1)

/-- An integer and a float are never written alike. -/
theorem toString_ne_repr [FloatText] (n : ℤ) {x : Float} (hx : (Number.toRat? x).isSome) :
    toString n ≠ FloatText.repr x := by
  intro h
  obtain ⟨c, hc, hpoint⟩ := FloatText.repr_point hx
  rw [← h] at hc
  rcases digit_or_minus hc with hdigit | rfl
  · rcases hpoint with rfl | rfl <;> exact absurd hdigit (by decide)
  · rcases hpoint with hpoint | hpoint <;> exact absurd hpoint (by decide)

/-- Numbers that are written alike are the same. -/
theorem str_inj [FloatText] {m n : PyNumber} (hm : m.toRat?.isSome) (hn : n.toRat?.isSome)
    (h : m.str = n.str) : m = n := by
  cases m with
  | int m =>
      cases n with
      | int n => rw [toString_injective h]
      | float y => exact absurd h (toString_ne_repr m hn)
  | float x =>
      cases n with
      | int n => exact absurd h.symm (toString_ne_repr n hm)
      | float y => rw [FloatText.repr_inj hm hn h]

end PyNumber

/-! ## Operations -/

/-- `bool(v)`. -/
def truthy : PyValue → Bool
  | .null => false
  | .bool b => b
  | .num (.int n) => n ≠ 0
  | .num (.float x) => !(x == 0)
  | .str s => s ≠ ""
  | .arr items => !items.isEmpty
  | .obj members => !members.isEmpty

/-- `v or w`. -/
def orElse (v w : PyValue) : PyValue :=
  if truthy v then v else w

/-- `v == s` for a text `s`. -/
def isText (v : PyValue) (s : String) : Bool :=
  match v with
  | .str t => t = s
  | _ => false

/-- The members of a dict; nothing else has the methods of one. -/
def items : PyValue → Except Failure (List (String × PyValue))
  | .obj members => .ok members
  | _ => .error (.builtin .AttributeError)

/-- `v.get(k, default)`. -/
def getD (v : PyValue) (k : String) (default : PyValue) : Except Failure PyValue := do
  return ((← items v).lookup k).getD default

/-- `v.get(k)`. -/
def get (v : PyValue) (k : String) : Except Failure PyValue :=
  getD v k .null

/-- `v[k]`. -/
def item (v : PyValue) (k : String) : Except Failure PyValue :=
  match v with
  | .obj members =>
    match members.lookup k with
    | some w => .ok w
    | none => .error (.builtin .KeyError)
  | _ => .error (.builtin .TypeError)

/-- `v[0]`. -/
def first : PyValue → Except Failure PyValue
  | .arr (v :: _) => .ok v
  | .arr [] => .error (.builtin .IndexError)
  | .str s =>
    match s.toList with
    | c :: _ => .ok (.str (String.ofList [c]))
    | [] => .error (.builtin .IndexError)
  | .obj _ => .error (.builtin .KeyError)
  | _ => .error (.builtin .TypeError)

/-- `len(v)`. -/
def len : PyValue → Except Failure ℕ
  | .arr items => .ok items.length
  | .obj members => .ok members.length
  | .str s => .ok s.toList.length
  | _ => .error (.builtin .TypeError)

/-- What a loop over `v` runs through. -/
def iterate : PyValue → Except Failure (List PyValue)
  | .arr items => .ok items
  | .obj members => .ok (members.map fun m => .str m.1)
  | .str s => .ok (s.toList.map fun c => .str (String.ofList [c]))
  | _ => .error (.builtin .TypeError)

/-- `k in v`. -/
def contains (k : String) : PyValue → Except Failure Bool
  | .obj members => .ok (members.lookup k).isSome
  | .arr items => .ok (items.any fun v => isText v k)
  | .str s => .ok (s.toList.tails.any fun t => k.toList.isPrefixOf t)
  | _ => .error (.builtin .TypeError)

/-- A value whose methods are those of a text. -/
def asText : PyValue → Except Failure String
  | .str s => .ok s
  | _ => .error (.builtin .AttributeError)

/-- A value that is unpacked as a mapping. -/
def asMapping : PyValue → Except Failure (List (String × PyValue))
  | .obj members => .ok members
  | _ => .error (.builtin .TypeError)

/-- `{**v, k: w}`. -/
def withMember (v : PyValue) (k : String) (w : PyValue) : Except Failure PyValue := do
  return .obj (setMember k w (← asMapping v))

/-- `{k: v for k, v in v.items() if k not in ks}`. -/
def without (ks : List String) (v : PyValue) : Except Failure PyValue := do
  return .obj (dropMembers ks (← items v))

/-! ### Operations that succeed -/

/-- A check that raises is passed. -/
theorem check_eq_ok {α : Type} {c : Prop} [Decidable c] {message : String}
    {f : PUnit → Except Failure α} {x : Except Failure α} {a : α} :
    (if c then valueError message >>= f else x) = .ok a ↔ ¬c ∧ x = .ok a := by
  by_cases hc : c <;> simp [hc, valueError]

theorem items_eq_ok {v : PyValue} {ms : List (String × PyValue)} :
    items v = .ok ms ↔ v = .obj ms := by
  cases v <;> simp [items]

theorem getD_eq_ok {v w default : PyValue} {k : String} :
    getD v k default = .ok w ↔ ∃ ms, v = .obj ms ∧ (ms.lookup k).getD default = w := by
  unfold getD
  rw [bind_eq_ok]
  simp only [items_eq_ok, pure, Except.pure, Except.ok.injEq]

theorem get_eq_ok {v w : PyValue} {k : String} :
    get v k = .ok w ↔ ∃ ms, v = .obj ms ∧ (ms.lookup k).getD .null = w :=
  getD_eq_ok

theorem item_eq_ok {v w : PyValue} {k : String} :
    item v k = .ok w ↔ v.members.lookup k = some w := by
  cases v with
  | obj ms => cases h : ms.lookup k <;> simp [item, h]
  | _ => simp [item, Json.members]

theorem asText_eq_ok {v : PyValue} {s : String} : asText v = .ok s ↔ v = .str s := by
  cases v <;> simp [asText]

theorem isText_iff {v : PyValue} {s : String} : isText v s = true ↔ v = .str s := by
  cases v <;> simp [isText]

theorem without_eq_ok {ks : List String} {v w : PyValue} :
    without ks v = .ok w ↔ ∃ ms, v = .obj ms ∧ .obj (dropMembers ks ms) = w := by
  unfold without
  rw [bind_eq_ok]
  simp only [items_eq_ok, pure, Except.pure, Except.ok.injEq]

theorem withMember_eq_ok {v w x : PyValue} {k : String} :
    withMember v k w = .ok x ↔ ∃ ms, v = .obj ms ∧ .obj (setMember k w ms) = x := by
  cases v <;> simp [withMember, asMapping, pure, Except.pure]

/-- What the interpreter writes for a list or a dict. -/
class ContainerText where
  repr : PyValue → String

/-- Containers written as if they were empty. -/
@[reducible] def ContainerText.bare : ContainerText where
  repr
    | .arr _ => "[]"
    | _ => "{}"

/-- `str(v)`. -/
def strOf [FloatText] [ContainerText] : PyValue → String
  | .null => "None"
  | .bool b => if b then "True" else "False"
  | .num n => n.str
  | .str s => s
  | v => ContainerText.repr v

/-- `int(v)`. -/
def intOf [Interpreter] : PyValue → Except Failure ℤ
  | .bool b => .ok (if b then 1 else 0)
  | .num (.int n) => .ok n
  | .num (.float x) =>
    match Number.toRat? x with
    | some q => .ok (if q < 0 then -⌊-q⌋ else ⌊q⌋)
    | none => .error (.builtin (if x.isNaN then .ValueError else .OverflowError))
  | .str s => intOfText s
  | _ => .error (.builtin .TypeError)

/-! ## Equality -/

/-- Numbers are equal by value; what is no number equals nothing. -/
def PyNumber.eq (m n : PyNumber) : Bool :=
  match m.toRat?, n.toRat? with
  | some p, some q => p = q
  | none, none =>
    match m, n with
    | .float x, .float y => x == y
    | _, _ => false
  | _, _ => false

/-- A bool counts as a number. -/
def asNumber : PyValue → Option PyNumber
  | .bool b => some (.int (if b then 1 else 0))
  | .num n => some n
  | _ => none

mutual

/-- `v == w`. -/
def eqValue : PyValue → PyValue → Bool
  | .null, .null => true
  | .str s, .str t => s = t
  | .arr xs, .arr ys => eqItems xs ys
  | .obj ms, .obj ns => eqMembers ms ns && ns.all fun n => (ms.lookup n.1).isSome
  | .bool b, w =>
    match asNumber w with
    | some n => PyNumber.eq (.int (if b then 1 else 0)) n
    | none => false
  | .num m, w =>
    match asNumber w with
    | some n => PyNumber.eq m n
    | none => false
  | _, _ => false

def eqItems : List PyValue → List PyValue → Bool
  | [], [] => true
  | x :: xs, y :: ys => eqValue x y && eqItems xs ys
  | _, _ => false

def eqMembers : List (String × PyValue) → List (String × PyValue) → Bool
  | [], _ => true
  | (k, v) :: ms, ns =>
    (match ns.lookup k with
      | some w => eqValue v w
      | none => false) && eqMembers ms ns

end

/-! ## Dicts whose keys come from outside -/

/-- Whether a value can be the key of a dict. -/
def hashable : PyValue → Bool
  | .arr _ => false
  | .obj _ => false
  | _ => true

/-- `d.get(k)`, as the value under the key or `none`. -/
def lookupKey {α : Type} (d : List (PyValue × α)) (k : PyValue) : Except Failure (Option α) :=
  if hashable k then .ok ((d.find? fun e => eqValue e.1 k).map Prod.snd)
  else .error (.builtin .TypeError)

/-- `d[k] = v`. -/
def setKey {α : Type} (d : List (PyValue × α)) (k : PyValue) (v : α) :
    Except Failure (List (PyValue × α)) :=
  if hashable k then
    .ok (if d.any fun e => eqValue e.1 k then
      d.map fun e => if eqValue e.1 k then (e.1, v) else e
    else d ++ [(k, v)])
  else .error (.builtin .TypeError)

/-- `d.get(k)` where the keys of the dict are texts. -/
def lookupText {α : Type} (d : InsertionMap String α) (k : PyValue) : Except Failure (Option α) :=
  match k with
  | .str s => .ok (d.get? s)
  | k => if hashable k then .ok none else .error (.builtin .TypeError)

theorem lookupText_eq_some {α : Type} {d : InsertionMap String α} {k : PyValue} {a : α} :
    lookupText d k = .ok (some a) ↔ ∃ s, k = .str s ∧ d.get? s = some a := by
  cases k with
  | str s => simp [lookupText]
  | _ =>
      simp only [lookupText, reduceCtorEq, false_and, exists_false, iff_false]
      split <;> simp

end Python

end Coordination
