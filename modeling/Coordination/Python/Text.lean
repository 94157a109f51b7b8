import Coordination.Library.Bytes
import Coordination.Library.Decimal
import Coordination.Library.Fallible

/-!
# Python texts

The conversions of texts that the Python programs rely on, with the leniency the
language gives them: `bytes.fromhex` skips white space between bytes, `int` and
`Decimal` take underscores and the decimal digits of every script.
-/

namespace Coordination

namespace Python

open Library

/-- The classes of exception the programs raise or run into. -/
inductive ErrorKind where
  | ValueError
  | TypeError
  | KeyError
  | IndexError
  | AttributeError
  | OverflowError
  | DecimalOverflow
  | RuntimeError
  | Exception
  deriving DecidableEq

/-- An exception: one raised with a message, one of the language's own, whose text is left
out, or a domain rejection by the Runtime. -/
inductive Failure where
  | raised (kind : ErrorKind) (message : String)
  | builtin (kind : ErrorKind)
  | domainRejection (code message : String) (retriable : Bool)
  deriving DecidableEq

/-- `raise RuntimeError(message)`. -/
def runtimeError {α : Type} (message : String) : Except Failure α :=
  .error (.raised .RuntimeError message)

/-- `str(exc)`. -/
def Failure.message : Failure → String
  | raised _ message => message
  | builtin _ => ""
  | domainRejection code message _ => code ++ ": " ++ message

/-- `except (KeyError, ValueError)`. -/
def Failure.isKeyOrValue : Failure → Bool
  | raised kind _ | builtin kind => kind = .KeyError ∨ kind = .ValueError
  | domainRejection .. => false

/-- `raise ValueError(message)`. -/
def valueError {α : Type} (message : String) : Except Failure α :=
  .error (.raised .ValueError message)

/-- The separators of Unicode beyond ASCII, and the byte order mark. -/
def wideSpaces : List ℕ :=
  [160, 5760, 8192, 8193, 8194, 8195, 8196, 8197, 8198, 8199, 8200, 8201, 8202, 8232, 8233, 8239,
    8287, 12288, 65279]

/-- What the interpreter takes from its Unicode tables beyond ASCII, where no separator
is a digit, and its limit on the digits `int` reads. -/
class Interpreter where
  /-- Whether a character is white space. -/
  isWideSpace : Char → Bool
  /-- The value of a decimal digit. -/
  decimal : Char → Option (Fin 10)
  decimal_wideSpace : ∀ c : Char, c.toNat ∈ wideSpaces → decimal c = none
  maxStrDigits : ℕ

/-- An interpreter that knows ASCII only. -/
@[reducible] def Interpreter.ascii : Interpreter where
  isWideSpace _ := false
  decimal _ := none
  decimal_wideSpace _ _ := rfl
  maxStrDigits := 4300

/-- `s.lower()`, by the interpreter's Unicode tables. -/
class CaseTables where
  lower : String → String
  lower_ascii : ∀ {s : String}, (∀ c ∈ s.toList, c.toNat < 128) →
    lower s = String.ofList (s.toList.map Char.toLower)

/-- Tables that know the ASCII letters only. -/
@[reducible] def CaseTables.ascii : CaseTables where
  lower s := String.ofList (s.toList.map Char.toLower)
  lower_ascii _ := rfl

/-- `s.isdigit()`, by the interpreter's Unicode tables. -/
class DigitTables where
  isDigits : String → Bool
  isDigits_ascii : ∀ {s : String}, (∀ c ∈ s.toList, c.toNat < 128) →
    isDigits s = (!s.toList.isEmpty && s.toList.all Char.isDigit)

/-- Tables that know the ASCII digits only. -/
@[reducible] def DigitTables.ascii : DigitTables where
  isDigits s := !s.toList.isEmpty && s.toList.all Char.isDigit
  isDigits_ascii _ := rfl

/-! ## Prefixes and hexadecimal texts -/

/-- `s.removeprefix(start)`. -/
def removeStart (start s : String) : String :=
  if start.toList.isPrefixOf s.toList then String.ofList (s.toList.drop start.toList.length) else s

/-- The white space `bytes.fromhex` and `int` skip. -/
def isAsciiSpace (c : Char) : Bool :=
  c.toNat ∈ [9, 10, 11, 12, 13, 32]

/-- `bytes.fromhex`: pairs of digits, with white space between the pairs. -/
def fromhex : List Char → Option Bytes
  | [] => some []
  | [c] => if isAsciiSpace c then some [] else none
  | c :: d :: cs =>
    if isAsciiSpace c then fromhex (d :: cs)
    else do
      let high ← nibbleOf c
      let low ← nibbleOf d
      return UInt8.ofNat (16 * high + low) :: (← fromhex cs)

/-- `bytes.fromhex(s)`. -/
def bytesFromhex (s : String) : Except Failure Bytes :=
  match fromhex s.toList with
  | some bs => .ok bs
  | none => .error (.builtin .ValueError)

/-! ## Numbers -/

section Numbers

variable [Interpreter]

/-- Whether a character is white space to `strip`. -/
def isSpace (c : Char) : Bool :=
  if c.toNat < 128 then c.toNat ∈ [9, 10, 11, 12, 13, 28, 29, 30, 31, 32]
  else Interpreter.isWideSpace c

/-- A text without the characters at both ends that a test accepts. -/
def stripWith (p : Char → Bool) (cs : List Char) : List Char :=
  ((cs.dropWhile p).reverse.dropWhile p).reverse

/-- `s.strip()`. -/
def strip (s : String) : String :=
  String.ofList (stripWith isSpace s.toList)

/-- The ASCII character a numeric conversion reads a character as. -/
def asciiOf (c : Char) : Char :=
  if c.toNat < 128 then c
  else if Interpreter.isWideSpace c then ' '
  else
    match Interpreter.decimal c with
    | some d => Nat.digitChar d
    | none => '?'

omit [Interpreter] in
/-- Digits, with single underscores between them. -/
def digitRun : List Char → Option (List Char)
  | [] => none
  | [c] => if c.isDigit then some [c] else none
  | c :: d :: cs =>
    if c.isDigit then
      if d = '_' then (digitRun cs).map (c :: ·) else (digitRun (d :: cs)).map (c :: ·)
    else none

/-- `int(s)`. -/
def intOfText (s : String) : Except Failure ℤ :=
  let natural (cs : List Char) : Except Failure ℤ :=
    match digitRun cs with
    | some ds =>
      if ds.length ≤ Interpreter.maxStrDigits then .ok (Nat.ofDigitChars 10 ds 0)
      else .error (.builtin .ValueError)
    | none => .error (.builtin .ValueError)
  match stripWith isAsciiSpace (s.toList.map asciiOf) with
  | '-' :: cs => (natural cs).map Neg.neg
  | '+' :: cs => natural cs
  | cs => natural cs

/-- A value of `Decimal`. -/
inductive DecimalValue where
  | finite (d : Decimal)
  | infinite (negative : Bool)
  | nan (signaling : Bool)
  deriving DecidableEq

omit [Interpreter] in
/-- The exponent part of a decimal literal. -/
def exponentOf : List Char → Option ℤ
  | [] => some 0
  | c :: cs =>
    if c = 'e' ∨ c = 'E' then
      match cs with
      | '-' :: ds => if ds ≠ [] ∧ ds.all Char.isDigit then some (-Nat.ofDigitChars 10 ds 0) else none
      | '+' :: ds => if ds ≠ [] ∧ ds.all Char.isDigit then some (Nat.ofDigitChars 10 ds 0) else none
      | ds => if ds ≠ [] ∧ ds.all Char.isDigit then some (Nat.ofDigitChars 10 ds 0) else none
    else none

omit [Interpreter] in
/-- A decimal literal without sign. -/
def unsignedDecimal (negative : Bool) (cs : List Char) : Option DecimalValue :=
  let name := cs.map Char.toLower
  if name = "inf".toList ∨ name = "infinity".toList then some (.infinite negative)
  else if "nan".toList.isPrefixOf name ∧ (name.drop 3).all Char.isDigit then some (.nan false)
  else if "snan".toList.isPrefixOf name ∧ (name.drop 4).all Char.isDigit then some (.nan true)
  else
    let (whole, rest) := cs.span Char.isDigit
    let (fraction, rest) :=
      match rest with
      | '.' :: rest => rest.span Char.isDigit
      | _ => ([], rest)
    if whole = [] ∧ fraction = [] then none
    else (exponentOf rest).map fun e =>
      .finite ⟨negative, Nat.ofDigitChars 10 (whole ++ fraction) 0, e - fraction.length⟩

/-- `Decimal(s)`; `none` for `InvalidOperation`. -/
def decimalOfText (s : String) : Option DecimalValue :=
  match ((stripWith isSpace s.toList).filter (· ≠ '_')).map asciiOf with
  | '-' :: cs => unsignedDecimal true cs
  | '+' :: cs => unsignedDecimal false cs
  | cs => unsignedDecimal false cs

end Numbers

/-- The default context of `decimal`. -/
def defaultContext : DecimalContext where
  precision := 28
  emin := -999999
  emax := 999999

/-- What stands around a stripped text. -/
theorem exists_stripWith (p : Char → Bool) (cs : List Char) : ∃ front back,
    cs = front ++ stripWith p cs ++ back ∧ (∀ c ∈ front, p c = true) ∧ ∀ c ∈ back, p c = true := by
  have hfront := List.takeWhile_append_dropWhile (p := p) (l := cs)
  have hback := List.takeWhile_append_dropWhile (p := p) (l := (cs.dropWhile p).reverse)
  have hback := congrArg List.reverse hback
  rw [List.reverse_append, List.reverse_reverse] at hback
  refine ⟨cs.takeWhile p, ((cs.dropWhile p).reverse.takeWhile p).reverse, ?_,
    fun c hc => List.mem_takeWhile_imp hc,
    fun c hc => List.mem_takeWhile_imp (List.mem_reverse.1 hc)⟩
  rw [List.append_assoc, stripWith, hback, hfront]

/-! ## Hexadecimal texts and white space -/

theorem not_hexDigit_of_space {c : Char} (hc : isAsciiSpace c = true) : isHexDigit c = false := by
  have hlow : c.toNat ∈ [9, 10, 11, 12, 13, 32] := of_decide_eq_true hc
  refine Bool.eq_false_iff.2 fun hdigit => ?_
  have hbounds := hexDigit_ascii hdigit
  simp only [List.mem_cons, List.not_mem_nil, or_false] at hlow
  omega

/-- A text without white space is read as by a strict reader. -/
theorem fromhex_eq_ofHex : ∀ {cs : List Char}, (∀ c ∈ cs, isAsciiSpace c = false) →
    fromhex cs = ofHex cs
  | [], _ => rfl
  | [c], h => by simp [fromhex, ofHex, h c List.mem_cons_self]
  | c :: d :: cs, h => by
      have hc := h c List.mem_cons_self
      have htail := fromhex_eq_ofHex fun x hx =>
        h x (List.mem_cons_of_mem _ (List.mem_cons_of_mem _ hx))
      simp [fromhex, ofHex, hc, htail]

/-- What the strict reader takes has no white space. -/
theorem not_space_of_ofHex {cs : List Char} {bs : Bytes} (h : ofHex cs = some bs) :
    ∀ c ∈ cs, isAsciiSpace c = false := by
  intro c hc
  refine Bool.eq_false_iff.2 fun hspace => ?_
  have hdigit := (digits_of_ofHex h).2 c hc
  rw [not_hexDigit_of_space hspace] at hdigit
  cases hdigit

theorem fromhex_of_ofHex {cs : List Char} {bs : Bytes} (h : ofHex cs = some bs) :
    fromhex cs = some bs := by
  rw [fromhex_eq_ofHex (not_space_of_ofHex h), h]

/-- Hex digits that were written for bytes are read back as them. -/
theorem fromhex_toHex (bs : Bytes) : fromhex (toHex bs).toList = some bs :=
  fromhex_of_ofHex (ofHex_toHex bs)

theorem removeStart_append (start s : String) : removeStart start (start ++ s) = s := by
  unfold removeStart
  rw [String.toList_append, if_pos (List.isPrefixOf_iff_prefix.2 (List.prefix_append _ _)),
    List.drop_left, String.ofList_toList]

/-- Digits have no mark before them. -/
theorem removeStart_toHex {start : String} (hmark : ∃ c ∈ start.toList, isHexDigit c = false)
    (bs : Bytes) : removeStart start (toHex bs) = toHex bs := by
  unfold removeStart
  rw [if_neg]
  intro h
  obtain ⟨c, hc, hdigit⟩ := hmark
  have hmem := (List.isPrefixOf_iff_prefix.1 h).subset hc
  rw [(digits_of_ofHex (ofHex_toHex bs)).2 c hmem] at hdigit
  cases hdigit

/-- Two characters that are no white space for every byte. -/
theorem length_of_fromhex : ∀ {cs : List Char} {bs : Bytes}, fromhex cs = some bs →
    (cs.filter fun c => !isAsciiSpace c).length = 2 * bs.length
  | [], bs, h => by
      cases h
      rfl
  | [c], bs, h => by
      unfold fromhex at h
      split at h
      · rename_i hc
        cases h
        simp [hc]
      · cases h
  | c :: d :: cs, bs, h => by
      unfold fromhex at h
      split at h
      · rename_i hc
        rw [List.filter_cons_of_neg (by simp [hc])]
        exact length_of_fromhex h
      · rename_i hc
        obtain ⟨high, hhigh, h⟩ := Option.bind_eq_some_iff.1 h
        obtain ⟨low, hlow, h⟩ := Option.bind_eq_some_iff.1 h
        obtain ⟨tail, htail, h⟩ := Option.bind_eq_some_iff.1 h
        cases h
        have hd : isAsciiSpace d = false := by
          refine Bool.eq_false_iff.2 fun hspace => ?_
          have hnone := not_hexDigit_of_space hspace
          rw [isHexDigit, hlow] at hnone
          cases hnone
        rw [List.filter_cons_of_pos (by simp [hc]), List.filter_cons_of_pos (by simp [hd]),
          List.length_cons, List.length_cons, length_of_fromhex htail, List.length_cons]
        omega

end Python

end Coordination
