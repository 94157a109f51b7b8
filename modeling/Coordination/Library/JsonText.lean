import Mathlib.Tactic.IntervalCases
import Coordination.Library.Json

/-!
# The text of a JSON value

`Json.text nt v` is the compact serialisation of `v`: no white space, members
in the order they are stored, texts quoted and escaped the way `JSON.stringify`
does. How a number is spelled is a parameter `nt : NumberText ν`, constrained only
in the characters it may use.

The main result is unique readability, `Json.text_cancel`: a value followed by
anything that does not continue a number can be read back in one way only. It
holds for every spelling of numbers; with an injective spelling the
serialisation itself is injective (`Json.text_injective`).
-/

namespace Coordination

namespace Library

/-! ## Quoted texts -/

/-- A lower-case hexadecimal digit. -/
def hexDigit (n : ℕ) : Char :=
  Char.ofNat (if n < 10 then 48 + n else 87 + n)

/-- One character inside a quoted text: the quote, the backslash and the
control characters are escaped, everything else stands for itself. -/
def escapeChar (c : Char) : List Char :=
  if c.toNat = 34 then "\\\"".toList
  else if c.toNat = 92 then "\\\\".toList
  else if c.toNat = 8 then "\\b".toList
  else if c.toNat = 9 then "\\t".toList
  else if c.toNat = 10 then "\\n".toList
  else if c.toNat = 12 then "\\f".toList
  else if c.toNat = 13 then "\\r".toList
  else if c.toNat < 32 then
    "\\u00".toList ++ [hexDigit (c.toNat / 16), hexDigit (c.toNat % 16)]
  else [c]

/-- The value of a hexadecimal digit written by `hexDigit`. -/
def hexValue (c : Char) : ℕ :=
  if c.toNat < 58 then c.toNat - 48 else c.toNat - 87

/-- Read one escaped character back. -/
def unescapeChar : List Char → Option (Char × List Char)
  | [] => none
  | c :: s =>
    if c.toNat = 92 then
      match s with
      | [] => none
      | d :: s =>
        if d.toNat = 98 then some (Char.ofNat 8, s)
        else if d.toNat = 116 then some (Char.ofNat 9, s)
        else if d.toNat = 110 then some (Char.ofNat 10, s)
        else if d.toNat = 102 then some (Char.ofNat 12, s)
        else if d.toNat = 114 then some (Char.ofNat 13, s)
        else if d.toNat = 117 then
          match s with
          | _ :: _ :: x :: y :: s => some (Char.ofNat (16 * hexValue x + hexValue y), s)
          | _ => none
        else some (d, s)
    else some (c, s)

/-- The control characters, the quote and the backslash read back. -/
theorem unescapeChar_special {n : ℕ} (hn : n < 32 ∨ n = 34 ∨ n = 92) (s : List Char) :
    unescapeChar (escapeChar (Char.ofNat n) ++ s) = some (Char.ofNat n, s) := by
  rcases hn with hn | rfl | rfl
  · interval_cases n <;> rfl
  · rfl
  · rfl

theorem escapeChar_plain {c : Char} (hc : ¬ (c.toNat < 32 ∨ c.toNat = 34 ∨ c.toNat = 92)) :
    escapeChar c = [c] := by
  simp only [not_or, not_lt] at hc
  obtain ⟨h32, h34, h92⟩ := hc
  have hne : ∀ k, k < 32 → c.toNat ≠ k := fun k hk h => absurd h32 (by omega)
  simp [escapeChar, h34, h92, hne 8 (by omega), hne 9 (by omega), hne 10 (by omega),
    hne 12 (by omega), hne 13 (by omega), h32]

theorem unescapeChar_escapeChar (c : Char) (s : List Char) :
    unescapeChar (escapeChar c ++ s) = some (c, s) := by
  by_cases hc : c.toNat < 32 ∨ c.toNat = 34 ∨ c.toNat = 92
  · have h := unescapeChar_special hc s
    rwa [Char.ofNat_toNat] at h
  · rw [escapeChar_plain hc]
    simp only [not_or] at hc
    simp [unescapeChar, hc.2.2]

theorem escapeChar_cancel {c d : Char} {s t : List Char}
    (h : escapeChar c ++ s = escapeChar d ++ t) : c = d ∧ s = t := by
  have hread := congrArg unescapeChar h
  rw [unescapeChar_escapeChar, unescapeChar_escapeChar] at hread
  simpa using hread

/-- An escaped character never looks like the closing quote. -/
theorem escapeChar_ne_quote (c : Char) (s t : List Char) :
    escapeChar c ++ s ≠ Char.ofNat 34 :: t := by
  intro h
  have hread := congrArg unescapeChar h
  rw [unescapeChar_escapeChar] at hread
  have hc : c = Char.ofNat 34 := by
    have : unescapeChar (Char.ofNat 34 :: t) = some (Char.ofNat 34, t) := rfl
    rw [this] at hread
    exact (Prod.mk.inj (Option.some.inj hread)).1
  subst hc
  have hhead : Char.ofNat 92 = Char.ofNat 34 := (List.cons.inj h).1
  exact absurd hhead (by decide)

/-- The inside of a quoted text, closing quote included. -/
def quoteTail (cs : List Char) : List Char :=
  cs.flatMap escapeChar ++ [Char.ofNat 34]

/-- A quoted text. -/
def quote (s : String) : List Char :=
  Char.ofNat 34 :: quoteTail s.toList

theorem quoteTail_cons (c : Char) (cs : List Char) :
    quoteTail (c :: cs) = escapeChar c ++ quoteTail cs := by
  simp [quoteTail]

theorem quoteTail_cancel :
    ∀ {cs ds s t : List Char}, quoteTail cs ++ s = quoteTail ds ++ t → cs = ds ∧ s = t
  | [], [], s, t, h => by
      simpa [quoteTail] using h
  | [], d :: ds, s, t, h => by
      rw [quoteTail_cons, List.append_assoc] at h
      exact absurd h.symm (escapeChar_ne_quote d _ _)
  | c :: cs, [], s, t, h => by
      rw [quoteTail_cons, List.append_assoc] at h
      exact absurd h (escapeChar_ne_quote c _ _)
  | c :: cs, d :: ds, s, t, h => by
      rw [quoteTail_cons, quoteTail_cons, List.append_assoc, List.append_assoc] at h
      obtain ⟨rfl, hrest⟩ := escapeChar_cancel h
      obtain ⟨rfl, rfl⟩ := quoteTail_cancel hrest
      exact ⟨rfl, rfl⟩

theorem quote_cancel {a b : String} {s t : List Char} (h : quote a ++ s = quote b ++ t) :
    a = b ∧ s = t := by
  obtain ⟨hab, rfl⟩ := quoteTail_cancel (List.cons.inj h).2
  exact ⟨String.toList_inj.1 hab, rfl⟩

/-! ## Values -/

/-- The characters a number may be spelled with. -/
def isNumberChar (c : Char) : Bool :=
  c.isDigit || c == '-' || c == '+' || c == '.' || c == 'e'

/-- A spelling of numbers: not empty, and over the number characters only. -/
structure NumberText (ν : Type) where
  text : ν → List Char
  ne_nil : ∀ q, text q ≠ []
  chars : ∀ q, ∀ c ∈ text q, isNumberChar c = true

/-- What may follow a value: it does not go on like a number. -/
def Delimited (s : List Char) : Prop :=
  ∀ c ∈ s.head?, isNumberChar c = false

theorem delimited_nil : Delimited [] := by
  simp [Delimited]

theorem delimited_cons {c : Char} (hc : isNumberChar c = false) (s : List Char) :
    Delimited (c :: s) := by
  simpa [Delimited] using hc

namespace NumberText

variable {ν : Type} (nt : NumberText ν)

theorem text_eq_cons (q : ν) : ∃ c cs, nt.text q = c :: cs ∧ isNumberChar c = true := by
  cases h : nt.text q with
  | nil => exact absurd h (nt.ne_nil q)
  | cons c cs => exact ⟨c, cs, rfl, nt.chars q c (by simp [h])⟩

/-- A number ends where its characters end. -/
theorem takeWhile_text (q : ν) {s : List Char} (hs : Delimited s) :
    (nt.text q ++ s).takeWhile isNumberChar = nt.text q := by
  rw [List.takeWhile_append_of_pos (nt.chars q)]
  cases s with
  | nil => simp
  | cons c s => simp [hs c rfl]

theorem text_cancel {p q : ν} {s t : List Char} (hs : Delimited s) (ht : Delimited t)
    (h : nt.text p ++ s = nt.text q ++ t) : nt.text p = nt.text q ∧ s = t := by
  have htext := congrArg (List.takeWhile isNumberChar) h
  rw [nt.takeWhile_text p hs, nt.takeWhile_text q ht] at htext
  rw [htext] at h
  exact ⟨htext, List.append_cancel_left h⟩

end NumberText

namespace Json

variable {ν : Type}

/-- The compact text of a value. -/
def text (nt : NumberText ν) : Json ν → List Char
  | null => "null".toList
  | bool true => "true".toList
  | bool false => "false".toList
  | num q => nt.text q
  | str s => quote s
  | arr xs => '[' :: itemsText true xs
  | obj ms => Char.ofNat 123 :: membersText true ms
where
  /-- The items of an array with the closing bracket; a comma stands before
  every item but the first. -/
  itemsText (first : Bool) : List (Json ν) → List Char
    | [] => [']']
    | x :: xs => (if first then [] else [',']) ++ (text nt x ++ itemsText false xs)
  /-- The members of an object with the closing brace. -/
  membersText (first : Bool) : List (String × Json ν) → List Char
    | [] => [Char.ofNat 125]
    | (k, v) :: ms =>
      (if first then [] else [',']) ++ (quote k ++ ':' :: (text nt v ++ membersText false ms))

/-! ## Unique readability -/

/-- The shapes a text can have, the two truth values apart. -/
def shape : Json ν → ℕ
  | null => 0
  | bool true => 1
  | bool false => 2
  | num _ => 3
  | str _ => 4
  | arr _ => 5
  | obj _ => 6

/-- The shape announced by the first character; `7` where no value begins. -/
def shapeOfChar (c : Char) : ℕ :=
  if c = 'n' then 0
  else if c = 't' then 1
  else if c = 'f' then 2
  else if c = Char.ofNat 34 then 4
  else if c = '[' then 5
  else if c = Char.ofNat 123 then 6
  else if isNumberChar c then 3
  else 7

theorem shapeOfChar_of_isNumberChar {c : Char} (hc : isNumberChar c = true) :
    shapeOfChar c = 3 := by
  have hne : ∀ d, isNumberChar d = false → c ≠ d := by
    rintro d hd rfl
    simp [hc] at hd
  simp [shapeOfChar, hne 'n' rfl, hne 't' rfl, hne 'f' rfl, hne (Char.ofNat 34) rfl,
    hne '[' rfl, hne (Char.ofNat 123) rfl, hc]

theorem text_eq_cons (nt : NumberText ν) (v : Json ν) :
    ∃ c cs, text nt v = c :: cs ∧ shapeOfChar c = shape v := by
  cases v with
  | null => exact ⟨_, _, rfl, rfl⟩
  | bool b => cases b <;> exact ⟨_, _, rfl, rfl⟩
  | num q =>
      obtain ⟨c, cs, hcs, hc⟩ := nt.text_eq_cons q
      exact ⟨c, cs, hcs, shapeOfChar_of_isNumberChar hc⟩
  | str s => exact ⟨_, _, rfl, rfl⟩
  | arr xs => exact ⟨_, _, rfl, rfl⟩
  | obj ms => exact ⟨_, _, rfl, rfl⟩

theorem shape_eq_of_text {nt : NumberText ν} {v w : Json ν} {s t : List Char}
    (h : text nt v ++ s = text nt w ++ t) : shape v = shape w := by
  obtain ⟨c, cs, hv, hc⟩ := text_eq_cons nt v
  obtain ⟨d, ds, hw, hd⟩ := text_eq_cons nt w
  rw [hv, hw] at h
  rw [← hc, ← hd, (List.cons.inj h).1]

open text in
theorem itemsText_delimited (nt : NumberText ν) (xs : List (Json ν)) (s : List Char) :
    Delimited (itemsText nt false xs ++ s) := by
  cases xs with
  | nil => exact delimited_cons rfl _
  | cons x xs => exact delimited_cons rfl _

open text in
theorem membersText_delimited (nt : NumberText ν) (ms : List (String × Json ν)) (s : List Char) :
    Delimited (membersText nt false ms ++ s) := by
  cases ms with
  | nil => exact delimited_cons rfl _
  | cons m ms => exact delimited_cons rfl _

/-- An array that goes on does not close: its next character is a comma or
begins a value. -/
theorem itemsText_cons_ne (nt : NumberText ν) (first : Bool) (x : Json ν) (xs : List (Json ν))
    (s t : List Char) : text.itemsText nt first (x :: xs) ++ s ≠ ']' :: t := by
  intro h
  cases first with
  | false =>
      have hhead : ',' = ']' := (List.cons.inj h).1
      exact absurd hhead (by decide)
  | true =>
      obtain ⟨c, cs, hx, hc⟩ := text_eq_cons nt x
      have hhead : c = ']' := by
        simp only [text.itemsText, if_true, List.nil_append, hx, List.cons_append] at h
        exact (List.cons.inj h).1
      subst hhead
      have hshape : shape x = 7 := hc.symm
      cases x with
      | bool b => cases b <;> simp [shape] at hshape
      | _ => simp [shape] at hshape

theorem membersText_cons_ne (nt : NumberText ν) (first : Bool) (m : String × Json ν)
    (ms : List (String × Json ν)) (s t : List Char) :
    text.membersText nt first (m :: ms) ++ s ≠ Char.ofNat 125 :: t := by
  intro h
  cases first with
  | false =>
      have hhead : ',' = Char.ofNat 125 := (List.cons.inj h).1
      exact absurd hhead (by decide)
  | true =>
      have hhead : Char.ofNat 34 = Char.ofNat 125 := (List.cons.inj h).1
      exact absurd hhead (by decide)

mutual

/-- Unique readability: the text of a value, followed by what does not go on
like a number, determines where the value ends. -/
theorem text_cancel (nt : NumberText ν) :
    ∀ (v w : Json ν) {s t : List Char}, Delimited s → Delimited t →
      text nt v ++ s = text nt w ++ t → text nt v = text nt w ∧ s = t
  | .null, w, s, t, _, _, h => by
      have hshape := shape_eq_of_text h
      cases w with
      | null => exact ⟨rfl, List.append_cancel_left h⟩
      | bool b => cases b <;> simp [shape] at hshape
      | _ => simp [shape] at hshape
  | .bool a, w, s, t, _, _, h => by
      have hshape := shape_eq_of_text h
      cases w with
      | bool b =>
          have hab : a = b := by
            cases a <;> cases b <;> simp [shape] at hshape ⊢
          subst hab
          exact ⟨rfl, List.append_cancel_left h⟩
      | _ => cases a <;> simp [shape] at hshape
  | .num p, w, s, t, hs, ht, h => by
      have hshape := shape_eq_of_text h
      cases w with
      | num q => exact nt.text_cancel hs ht h
      | bool b => cases b <;> simp [shape] at hshape
      | _ => simp [shape] at hshape
  | .str a, w, s, t, _, _, h => by
      have hshape := shape_eq_of_text h
      cases w with
      | str b =>
          obtain ⟨rfl, hst⟩ := quote_cancel h
          exact ⟨rfl, hst⟩
      | bool b => cases b <;> simp [shape] at hshape
      | _ => simp [shape] at hshape
  | .arr xs, w, s, t, _, _, h => by
      have hshape := shape_eq_of_text h
      cases w with
      | arr ys =>
          obtain ⟨hxy, hst⟩ := itemsText_cancel nt true xs ys (List.cons.inj h).2
          exact ⟨congrArg (List.cons '[') hxy, hst⟩
      | bool b => cases b <;> simp [shape] at hshape
      | _ => simp [shape] at hshape
  | .obj ms, w, s, t, _, _, h => by
      have hshape := shape_eq_of_text h
      cases w with
      | obj ns =>
          obtain ⟨hmn, hst⟩ := membersText_cancel nt true ms ns (List.cons.inj h).2
          exact ⟨congrArg (List.cons (Char.ofNat 123)) hmn, hst⟩
      | bool b => cases b <;> simp [shape] at hshape
      | _ => simp [shape] at hshape

theorem itemsText_cancel (nt : NumberText ν) (first : Bool) :
    ∀ (xs ys : List (Json ν)) {s t : List Char},
      text.itemsText nt first xs ++ s = text.itemsText nt first ys ++ t →
        text.itemsText nt first xs = text.itemsText nt first ys ∧ s = t
  | [], [], s, t, h => ⟨rfl, List.append_cancel_left h⟩
  | [], y :: ys, s, t, h => absurd h.symm (itemsText_cons_ne nt first y ys _ _)
  | x :: xs, [], s, t, h => absurd h (itemsText_cons_ne nt first x xs _ _)
  | x :: xs, y :: ys, s, t, h => by
      simp only [text.itemsText, List.append_assoc] at h ⊢
      obtain ⟨hxy, hrest⟩ := text_cancel nt x y (itemsText_delimited nt xs s)
        (itemsText_delimited nt ys t) (List.append_cancel_left h)
      obtain ⟨hxys, hst⟩ := itemsText_cancel nt false xs ys hrest
      exact ⟨by rw [hxy, hxys], hst⟩

theorem membersText_cancel (nt : NumberText ν) (first : Bool) :
    ∀ (ms ns : List (String × Json ν)) {s t : List Char},
      text.membersText nt first ms ++ s = text.membersText nt first ns ++ t →
        text.membersText nt first ms = text.membersText nt first ns ∧ s = t
  | [], [], s, t, h => ⟨rfl, List.append_cancel_left h⟩
  | [], n :: ns, s, t, h => absurd h.symm (membersText_cons_ne nt first n ns _ _)
  | m :: ms, [], s, t, h => absurd h (membersText_cons_ne nt first m ms _ _)
  | (k, v) :: ms, (k', w) :: ns, s, t, h => by
      simp only [text.membersText, List.append_assoc, List.cons_append] at h ⊢
      obtain ⟨rfl, hv⟩ := quote_cancel (List.append_cancel_left h)
      obtain ⟨hvw, hrest⟩ := text_cancel nt v w (membersText_delimited nt ms s)
        (membersText_delimited nt ns t) (List.cons.inj hv).2
      obtain ⟨hmn, hst⟩ := membersText_cancel nt false ms ns hrest
      exact ⟨by rw [hvw, hmn], hst⟩

end

/-! ## Injectivity -/

/-- Texts of members that agree, agree on the first name and value. -/
theorem membersText_cons_cancel (nt : NumberText ν) {first : Bool} {k k' : String} {v w : Json ν}
    {ms ns : List (String × Json ν)}
    (h : text.membersText nt first ((k, v) :: ms) = text.membersText nt first ((k', w) :: ns)) :
    k = k' ∧ text nt v = text nt w ∧
      text.membersText nt false ms = text.membersText nt false ns := by
  simp only [text.membersText] at h
  obtain ⟨hk, hv⟩ := quote_cancel (List.append_cancel_left h)
  have hms := membersText_delimited nt ms []
  have hns := membersText_delimited nt ns []
  rw [List.append_nil] at hms hns
  obtain ⟨hvw, hmn⟩ := text_cancel nt v w hms hns (List.cons.inj hv).2
  exact ⟨hk, hvw, hmn⟩

theorem itemsText_cons_cancel (nt : NumberText ν) {first : Bool} {x y : Json ν} {xs ys : List (Json ν)}
    (h : text.itemsText nt first (x :: xs) = text.itemsText nt first (y :: ys)) :
    text nt x = text nt y ∧ text.itemsText nt false xs = text.itemsText nt false ys := by
  simp only [text.itemsText] at h
  have hxs := itemsText_delimited nt xs []
  have hys := itemsText_delimited nt ys []
  rw [List.append_nil] at hxs hys
  exact text_cancel nt x y hxs hys (List.append_cancel_left h)

mutual

/-- With an injective spelling of numbers, a value is determined by its text. -/
theorem text_injective {nt : NumberText ν} (hnt : Function.Injective nt.text) :
    ∀ {v w : Json ν}, text nt v = text nt w → v = w
  | .null, w, h => by
      have hshape := shape_eq_of_text (congrArg (· ++ []) h)
      cases w with
      | null => rfl
      | bool b => cases b <;> simp [shape] at hshape
      | _ => simp [shape] at hshape
  | .bool a, w, h => by
      have hshape := shape_eq_of_text (congrArg (· ++ []) h)
      cases w with
      | bool b => cases a <;> cases b <;> simp [shape] at hshape ⊢
      | _ => cases a <;> simp [shape] at hshape
  | .num p, w, h => by
      have hshape := shape_eq_of_text (congrArg (· ++ []) h)
      cases w with
      | num q => exact congrArg num (hnt h)
      | bool b => cases b <;> simp [shape] at hshape
      | _ => simp [shape] at hshape
  | .str a, w, h => by
      have hshape := shape_eq_of_text (congrArg (· ++ []) h)
      cases w with
      | str b => exact congrArg str (quote_cancel (congrArg (· ++ []) h)).1
      | bool b => cases b <;> simp [shape] at hshape
      | _ => simp [shape] at hshape
  | .arr xs, w, h => by
      have hshape := shape_eq_of_text (congrArg (· ++ []) h)
      cases w with
      | arr ys => exact congrArg arr (itemsText_injective hnt (List.cons.inj h).2)
      | bool b => cases b <;> simp [shape] at hshape
      | _ => simp [shape] at hshape
  | .obj ms, w, h => by
      have hshape := shape_eq_of_text (congrArg (· ++ []) h)
      cases w with
      | obj ns => exact congrArg obj (membersText_injective hnt (List.cons.inj h).2)
      | bool b => cases b <;> simp [shape] at hshape
      | _ => simp [shape] at hshape

theorem itemsText_injective {nt : NumberText ν} (hnt : Function.Injective nt.text) {first : Bool} :
    ∀ {xs ys : List (Json ν)}, text.itemsText nt first xs = text.itemsText nt first ys → xs = ys
  | [], [], _ => rfl
  | [], y :: ys, h => by
      rw [← List.append_nil (text.itemsText nt first (y :: ys))] at h
      exact absurd h.symm (itemsText_cons_ne nt first y ys _ _)
  | x :: xs, [], h => by
      rw [← List.append_nil (text.itemsText nt first (x :: xs))] at h
      exact absurd h (itemsText_cons_ne nt first x xs _ _)
  | x :: xs, y :: ys, h => by
      obtain ⟨hx, hxs⟩ := itemsText_cons_cancel nt h
      rw [text_injective hnt hx, itemsText_injective hnt hxs]

theorem membersText_injective {nt : NumberText ν} (hnt : Function.Injective nt.text)
    {first : Bool} : ∀ {ms ns : List (String × Json ν)},
      text.membersText nt first ms = text.membersText nt first ns → ms = ns
  | [], [], _ => rfl
  | [], n :: ns, h => by
      rw [← List.append_nil (text.membersText nt first (n :: ns))] at h
      exact absurd h.symm (membersText_cons_ne nt first n ns _ _)
  | m :: ms, [], h => by
      rw [← List.append_nil (text.membersText nt first (m :: ms))] at h
      exact absurd h (membersText_cons_ne nt first m ms _ _)
  | (k, v) :: ms, (k', w) :: ns, h => by
      obtain ⟨rfl, hv, hms⟩ := membersText_cons_cancel nt h
      rw [text_injective hnt hv, membersText_injective hnt hms]

end

end Json

end Library

end Coordination
