import Mathlib.Data.List.Lex
import Mathlib.Data.List.Sort
import Coordination.JavaScript.Number
import Coordination.Library.Fallible

/-!
# JavaScript values read from JSON

What the program reads from the wire is a JSON value or `undefined`; it is
`Option Value` here, with `none` for `undefined`. The definitions below are the
conversions the program applies to such values without having looked at their
type: property access, `String(x)`, `Number(x)`, `===` and `JSON.stringify`.

The members of an object stand in the order the language enumerates them, each
name once. Object and array identities are not modelled: no two values the
program compares with `===` are the same object.
-/

namespace Coordination

namespace JavaScript

open Library

/-- The classes of exception the program throws itself. -/
inductive ErrorClass where
  | Error
  | CanonicalError
  | DataError
  | SynthError
  | DeliveryError
  | EngineUnreachable
  deriving DecidableEq

/-- An exception: one of the language's own, one the program raises with a
message, or a domain rejection by the Runtime. -/
inductive Failure where
  | typeError
  | rangeError
  | syntaxError
  | raised (cls : ErrorClass) (message : String)
  | domainRejection (code message : String) (retriable : Bool)
  deriving DecidableEq

/-- `throw new Error(message)`. -/
def error {α : Type} (message : String) : Except Failure α :=
  .error (.raised .Error message)

/-- `if (c) throw new Error(message)`, where spelling the message may itself fail. -/
def throwIf (c : Prop) [Decidable c] (message : Except Failure String) : Except Failure Unit :=
  if c then do error (← message) else .ok ()

theorem throwIf_eq_ok {c : Prop} [Decidable c] {message : Except Failure String} {u : Unit} :
    throwIf c message = .ok u ↔ ¬ c := by
  unfold throwIf
  split_ifs with hc
  · cases message with
    | error e => simp [hc]
    | ok m => simp [hc, error]
  · simp [hc]

/-- A value read from JSON. -/
abbrev Value := Json Number

/-! ## Texts -/

/-- The UTF-16 code units of a text. -/
def utf16 (s : String) : List ℕ :=
  s.toList.flatMap fun c =>
    if c.toNat < 65536 then [c.toNat]
    else [55296 + (c.toNat - 65536) / 1024, 56320 + (c.toNat - 65536) % 1024]

theorem length_utf16 {s : String} (hs : ∀ c ∈ s.toList, c.toNat < 65536) :
    (utf16 s).length = s.toList.length := by
  unfold utf16
  generalize s.toList = cs at hs ⊢
  induction cs with
  | nil => rfl
  | cons c cs ih =>
      simp only [List.mem_cons, forall_eq_or_imp] at hs
      simp [hs.1, ih hs.2]

/-- The order of `<` on texts and of the default `sort`: by code units. -/
def codeUnitLe (a b : String) : Prop :=
  utf16 a ≤ utf16 b

instance : DecidableRel codeUnitLe := fun a b => inferInstanceAs (Decidable (utf16 a ≤ utf16 b))

/-- `[...xs].sort()` on texts. -/
def sortTexts (xs : List String) : List String :=
  xs.insertionSort codeUnitLe

/-- White space and line terminators, as `trim` and `Number(s)` skip them. -/
def isSpace (c : Char) : Bool :=
  c.toNat ∈ [9, 10, 11, 12, 13, 32, 160, 5760, 8192, 8193, 8194, 8195, 8196, 8197, 8198, 8199,
    8200, 8201, 8202, 8232, 8233, 8239, 8287, 12288, 65279]

/-- `trim`. -/
def trim (s : String) : String :=
  String.ofList ((s.toList.dropWhile isSpace).reverse.dropWhile isSpace).reverse

/-- What the host takes from its locale and Unicode tables. -/
class HostLocale where
  /-- `a.localeCompare(b)`. -/
  compare : String → String → Ordering
  /-- `s.toLowerCase()`. -/
  toLowerCase : String → String
  /-- `x.toLocaleString()`, in the host's own locale. -/
  toLocaleString : Number → String

/-- A host that orders texts by code units and knows the ASCII letters only. -/
@[reducible] def HostLocale.ascii : HostLocale where
  compare a b := if codeUnitLe a b then (if a = b then .eq else .lt) else .gt
  toLowerCase s := String.ofList (s.toList.map Char.toLower)
  toLocaleString x := x.toText

/-- `n.toLocaleString("en-US")` of an integer: groups of three digits. -/
def toLocaleStringEnUS (n : ℕ) : String :=
  String.ofList (group (Number.digits n).reverse).reverse
where
  group : List Char → List Char
    | a :: b :: c :: d :: cs => a :: b :: c :: ',' :: group (d :: cs)
    | cs => cs

/-- `[...new Set(xs)]`: the first occurrence of each. -/
def distinct {α : Type} [DecidableEq α] (xs : List α) : List α :=
  xs.foldl (fun ys x => if x ∈ ys then ys else ys ++ [x]) []

theorem mem_distinct {α : Type} [DecidableEq α] {x : α} {xs : List α} :
    x ∈ distinct xs ↔ x ∈ xs := by
  suffices h : ∀ (xs ys : List α),
      x ∈ xs.foldl (fun ys x => if x ∈ ys then ys else ys ++ [x]) ys ↔ x ∈ ys ∨ x ∈ xs by
    simpa [distinct] using h xs []
  intro xs
  induction xs with
  | nil => simp
  | cons y xs ih =>
      intro ys
      rw [List.foldl_cons, ih]
      by_cases hy : y ∈ ys
      · rw [if_pos hy, List.mem_cons]
        constructor
        · rintro (h | h)
          · exact Or.inl h
          · exact Or.inr (Or.inr h)
        · rintro (h | rfl | h)
          · exact Or.inl h
          · exact Or.inl hy
          · exact Or.inr h
      · rw [if_neg hy, List.mem_append, List.mem_singleton, List.mem_cons, or_assoc]

/-! ## `Number(s)` on a text -/

/-- The value of a digit in a base up to 36. -/
def digitValue (c : Char) : ℕ :=
  if c.isDigit then c.toNat - 48
  else if c.isLower then c.toNat - 87
  else if c.isUpper then c.toNat - 55
  else 36

def natOfDigits (base : ℕ) (cs : List Char) : ℕ :=
  cs.foldl (fun n c => base * n + digitValue c) 0

/-- The exponent part of a decimal literal. -/
def exponentOf : List Char → Option ℤ
  | [] => some 0
  | c :: cs =>
    if c = 'e' ∨ c = 'E' then
      match cs with
      | '-' :: ds => if ds ≠ [] ∧ ds.all Char.isDigit then some (-natOfDigits 10 ds) else none
      | '+' :: ds => if ds ≠ [] ∧ ds.all Char.isDigit then some (natOfDigits 10 ds) else none
      | ds => if ds ≠ [] ∧ ds.all Char.isDigit then some (natOfDigits 10 ds) else none
    else none

/-- A decimal literal without sign. -/
def decimalOf (cs : List Char) : Option Number :=
  if cs = "Infinity".toList then some (1 / 0)
  else
    let (whole, rest) := cs.span Char.isDigit
    let (fraction, rest) :=
      match rest with
      | '.' :: rest => rest.span Char.isDigit
      | _ => ([], rest)
    if whole = [] ∧ fraction = [] then none
    else (exponentOf rest).map fun e =>
      Number.ofDecimal (natOfDigits 10 (whole ++ fraction)) (e - fraction.length)

/-- A literal in one of the other bases. -/
def radixOf (base : ℕ) (cs : List Char) : Option Number :=
  if cs ≠ [] ∧ cs.all fun c => digitValue c < base then some (Float.ofNat (natOfDigits base cs))
  else none

/-- `Number(s)`: `NaN` where the text is no numeric literal. -/
def numberOfText (s : String) : Number :=
  let literal :=
    match (trim s).toList with
    | [] => some 0
    | '0' :: 'x' :: cs | '0' :: 'X' :: cs => radixOf 16 cs
    | '0' :: 'o' :: cs | '0' :: 'O' :: cs => radixOf 8 cs
    | '0' :: 'b' :: cs | '0' :: 'B' :: cs => radixOf 2 cs
    | '-' :: cs => (decimalOf cs).map Neg.neg
    | '+' :: cs => decimalOf cs
    | cs => decimalOf cs
  literal.getD (0 / 0)

/-! ## Conversions -/

/-- `v[k]` for a member name no prototype has. -/
def prop (v : Option Value) (k : String) : Except Failure (Option Value) :=
  match v with
  | none | some .null => .error .typeError
  | some (.obj ms) => .ok (ms.lookup k)
  | some _ => .ok none

/-- `String(x)` of a JSON value. An object that shadows `toString` has no
primitive value. -/
def textOf : Value → Except Failure String
  | .null => .ok "null"
  | .bool b => .ok (if b then "true" else "false")
  | .num x => .ok x.toText
  | .str s => .ok s
  | .arr xs => do return String.intercalate "," (← itemTexts xs)
  | .obj ms => if (ms.lookup "toString").isSome then .error .typeError else .ok "[object Object]"
where
  /-- The items of an array as `join` spells them. -/
  itemTexts : List Value → Except Failure (List String)
    | [] => .ok []
    | .null :: xs => do return "" :: (← itemTexts xs)
    | x :: xs => do
      let s ← textOf x
      return s :: (← itemTexts xs)

/-- `String(x)`. -/
def toText : Option Value → Except Failure String
  | none => .ok "undefined"
  | some v => textOf v

/-- `Number(x)`. -/
def toNumber : Option Value → Except Failure Number
  | none => .ok (0 / 0)
  | some .null => .ok 0
  | some (.bool b) => .ok (if b then 1 else 0)
  | some (.num x) => .ok x
  | some v => do return numberOfText (← textOf v)

/-- Whether `String(v)` is defined: no object in it shadows `toString`. -/
def hasText : Value → Bool
  | .arr xs => all xs
  | .obj ms => (ms.lookup "toString").isNone
  | _ => true
where
  all : List Value → Bool
    | [] => true
    | x :: xs => hasText x && all xs

theorem isOk_itemTexts {xs : List Value} (h : ∀ x ∈ xs, (textOf x).isOk = hasText x) :
    (textOf.itemTexts xs).isOk = hasText.all xs := by
  induction xs with
  | nil => rfl
  | cons x xs ih =>
      have hx := h x List.mem_cons_self
      have hxs := ih fun y hy => h y (List.mem_cons_of_mem _ hy)
      have hitem : (textOf.itemTexts (x :: xs)).isOk =
          ((textOf x).isOk && (textOf.itemTexts xs).isOk) := by
        cases x with
        | null =>
            rw [textOf.itemTexts, isOk_bind_pure]
            rfl
        | _ =>
            rw [textOf.itemTexts]
            · cases textOf _ with
              | error e => rfl
              | ok s => rw [ok_bind, isOk_bind_pure]; rfl
            · rintro ⟨⟩
      rw [hitem, hx, hxs]
      rfl

theorem isOk_textOf (v : Value) : (textOf v).isOk = hasText v := by
  induction v using Json.nestedInduction with
  | null => rfl
  | bool b => rfl
  | num x => rfl
  | str s => rfl
  | arr xs ih =>
      rw [textOf, isOk_bind_pure, isOk_itemTexts ih]
      rfl
  | obj ms ih =>
      rw [textOf, hasText]
      cases ms.lookup "toString" <;> rfl

theorem isOk_toNumber (v : Value) : (toNumber (some v)).isOk = hasText v := by
  cases v with
  | null | bool | num | str => rfl
  | arr xs | obj ms => rw [toNumber, isOk_bind_pure, isOk_textOf] <;> nofun

/-- Whether `v` counts as true in a condition. -/
def truthy : Option Value → Bool
  | none | some .null => false
  | some (.bool b) => b
  | some (.num x) => !(x.isNaN || x == 0)
  | some (.str s) => s ≠ ""
  | some _ => true

/-- `a ?? b`. -/
def orElse (a b : Option Value) : Option Value :=
  match a with
  | none | some .null => b
  | some v => some v

/-- `a === b` for values of different origin: objects and arrays are never the
same object. -/
def strictEq : Option Value → Option Value → Bool
  | none, none => true
  | some .null, some .null => true
  | some (.bool a), some (.bool b) => a == b
  | some (.num a), some (.num b) => a.beq b
  | some (.str a), some (.str b) => a == b
  | _, _ => false

/-- `v.length === n` for an array or a text; an object may have such a member. -/
def hasLength (v : Value) (n : ℕ) : Bool :=
  match v with
  | .arr xs => xs.length = n
  | .str s => (utf16 s).length = n
  | .obj ms => strictEq (ms.lookup "length") (some (.num (Float.ofNat n)))
  | _ => false

/-- `v[i]` for an index. -/
def itemAt (v : Value) (i : ℕ) : Option Value :=
  match v with
  | .arr xs => xs[i]?
  | .str s => s.toList[i]?.map fun c => .str (String.singleton c)
  | .obj ms => ms.lookup (toString i)
  | _ => none

/-! ## `JSON.stringify` -/

/-- Made of number characters only. -/
def Numeric (cs : List Char) : Prop :=
  ∀ c ∈ cs, isNumberChar c = true

theorem numeric_append {cs ds : List Char} : Numeric (cs ++ ds) ↔ Numeric cs ∧ Numeric ds := by
  simp [Numeric, or_imp, forall_and]

theorem numeric_cons {c : Char} {cs : List Char} :
    Numeric (c :: cs) ↔ isNumberChar c = true ∧ Numeric cs := by
  simp [Numeric]

theorem numeric_digits (n : ℕ) : Numeric (Number.digits n) := by
  intro c hc
  have hdigit := Nat.isDigit_of_mem_toDigits (by decide) (by decide) hc
  simp [isNumberChar, hdigit]

theorem numeric_take {cs : List Char} (hcs : Numeric cs) (n : ℕ) : Numeric (cs.take n) :=
  fun c hc => hcs c (List.mem_of_mem_take hc)

theorem numeric_drop {cs : List Char} (hcs : Numeric cs) (n : ℕ) : Numeric (cs.drop n) :=
  fun c hc => hcs c (List.mem_of_mem_drop hc)

theorem numeric_zeros (n : ℕ) : Numeric (List.replicate n '0') := by
  intro c hc
  rw [List.eq_of_mem_replicate hc]
  rfl

theorem numeric_layout (s k : ℕ) (n : ℤ) : Numeric (Number.layout s k n) := by
  have hds := numeric_digits s
  have hpoint (m : ℕ) : Numeric ((Number.digits s).take m ++ '.' :: (Number.digits s).drop m) :=
    numeric_append.2 ⟨numeric_take hds m, numeric_cons.2 ⟨rfl, numeric_drop hds m⟩⟩
  have hexponent {c : Char} (hc : isNumberChar c = true) :
      Numeric ('e' :: c :: Number.digits (n - 1).natAbs) :=
    numeric_cons.2 ⟨rfl, numeric_cons.2 ⟨hc, numeric_digits _⟩⟩
  unfold Number.layout
  simp only
  split_ifs
  · exact numeric_append.2 ⟨hds, numeric_zeros _⟩
  · exact hpoint _
  · exact numeric_cons.2 ⟨rfl, numeric_cons.2 ⟨rfl, numeric_append.2 ⟨numeric_zeros _, hds⟩⟩⟩
  · exact numeric_append.2 ⟨hds, hexponent rfl⟩
  · exact numeric_append.2 ⟨hds, hexponent rfl⟩
  · exact numeric_append.2 ⟨hpoint 1, hexponent rfl⟩
  · exact numeric_append.2 ⟨hpoint 1, hexponent rfl⟩

theorem layout_ne_nil (s k : ℕ) (n : ℤ) : Number.layout s k n ≠ [] := by
  have hds : Number.digits s ≠ [] := Nat.toDigits_ne_nil
  unfold Number.layout
  simp only
  split_ifs <;> simp [hds]

/-- The spelling of numbers in JSON texts. A number that is not finite never
gets there: `jsonOf` has made it `null`. -/
def numberText : NumberText Number where
  text x :=
    match Number.toRat? x with
    | some q => Number.finiteText x q
    | none => ['0']
  ne_nil x := by
    cases Number.toRat? x with
    | none => simp
    | some q =>
        simp only [Number.finiteText]
        split_ifs <;> simp [layout_ne_nil]
  chars x := by
    cases Number.toRat? x with
    | none => exact numeric_cons.2 ⟨rfl, by simp [Numeric]⟩
    | some q =>
        simp only [Number.finiteText]
        split_ifs
        · exact numeric_cons.2 ⟨rfl, by simp [Numeric]⟩
        · exact numeric_cons.2 ⟨rfl, numeric_layout _ _ _⟩
        · exact numeric_layout _ _ _

/-- The value `JSON.stringify` prints, which is also what `JSON.parse` makes of the
text: numbers that are not finite are `null`, and zero has no sign. -/
def jsonOf : Value → Value
  | .num x => if x.isFinite then .num (if x == 0 then 0 else x) else .null
  | .arr xs => .arr (items xs)
  | .obj ms => .obj (members ms)
  | v => v
where
  items : List Value → List Value
    | [] => []
    | x :: xs => jsonOf x :: items xs
  members : List (String × Value) → List (String × Value)
    | [] => []
    | (k, v) :: ms => (k, jsonOf v) :: members ms

/-- `JSON.stringify`. -/
def stringify (v : Value) : String :=
  String.ofList (Json.text numberText (jsonOf v))

end JavaScript

end Coordination
