import Mathlib.Data.List.Basic
import Coordination.Library.JsonText

/-!
# Bytes and their texts

Byte strings, their lower-case hexadecimal text and the UTF-8 encoding, with the
two facts a program that compares digests rests on: both are injective.
-/

namespace Coordination

namespace Library

/-- A byte string. -/
abbrev Bytes := List UInt8

/-- Two hexadecimal digits for one byte. -/
def hexByte (b : UInt8) : List Char :=
  [hexDigit (b.toNat / 16), hexDigit (b.toNat % 16)]

/-- The lower-case hexadecimal text of a byte string. -/
def toHex (bs : Bytes) : String :=
  String.ofList (bs.flatMap hexByte)

theorem hexValue_hexDigit {n : ℕ} (hn : n < 16) : hexValue (hexDigit n) = n := by
  interval_cases n <;> rfl

theorem hexDigit_inj {m n : ℕ} (hm : m < 16) (hn : n < 16) (h : hexDigit m = hexDigit n) :
    m = n := by
  rw [← hexValue_hexDigit hm, ← hexValue_hexDigit hn, h]

theorem hexByte_inj {a b : UInt8} (h : hexByte a = hexByte b) : a = b := by
  have ha := a.toNat_lt
  have hb := b.toNat_lt
  obtain ⟨hhigh, hlow⟩ : hexDigit (a.toNat / 16) = hexDigit (b.toNat / 16) ∧
      hexDigit (a.toNat % 16) = hexDigit (b.toNat % 16) := by
    simpa [hexByte] using h
  have hquot := hexDigit_inj (by omega) (by omega) hhigh
  have hrem := hexDigit_inj (by omega) (by omega) hlow
  exact UInt8.toNat_inj.1 (by omega)

theorem flatMap_hexByte_inj : ∀ {as bs : Bytes},
    as.flatMap hexByte = bs.flatMap hexByte → as = bs
  | [], [], _ => rfl
  | [], b :: bs, h => by simp [hexByte] at h
  | a :: as, [], h => by simp [hexByte] at h
  | a :: as, b :: bs, h => by
      rw [List.flatMap_cons, List.flatMap_cons] at h
      obtain ⟨hhead, htail⟩ := List.append_inj h rfl
      rw [hexByte_inj hhead, flatMap_hexByte_inj htail]

theorem toHex_injective : Function.Injective toHex := by
  intro as bs h
  exact flatMap_hexByte_inj (String.ofList_injective h)

theorem toHex_append (as bs : Bytes) : toHex (as ++ bs) = toHex as ++ toHex bs := by
  simp [toHex]

theorem length_toHex (bs : Bytes) : (toHex bs).toList.length = 2 * bs.length := by
  induction bs with
  | nil => rfl
  | cons b bs ih =>
      simp only [toHex, String.toList_ofList, List.flatMap_cons, List.length_append,
        List.length_cons] at ih ⊢
      simp only [hexByte, List.length_cons, List.length_nil, ih]
      omega

theorem hexDigit_lt {n : ℕ} (hn : n < 16) : (hexDigit n).toNat < 128 := by
  interval_cases n <;> decide

/-- A hexadecimal text is made of digits. -/
theorem exists_hexDigit {bs : Bytes} {c : Char} (hc : c ∈ (toHex bs).toList) :
    ∃ n < 16, c = hexDigit n := by
  simp only [toHex, String.toList_ofList, List.mem_flatMap] at hc
  obtain ⟨b, _, hc⟩ := hc
  have hb := b.toNat_lt
  simp only [hexByte, List.mem_cons, List.not_mem_nil, or_false] at hc
  rcases hc with rfl | rfl
  · exact ⟨_, by omega, rfl⟩
  · exact ⟨_, by omega, rfl⟩

theorem toHex_ascii {bs : Bytes} {c : Char} (hc : c ∈ (toHex bs).toList) : c.toNat < 128 := by
  obtain ⟨n, hn, rfl⟩ := exists_hexDigit hc
  exact hexDigit_lt hn

/-- The value of a hexadecimal digit of either case. -/
def nibbleOf (c : Char) : Option ℕ :=
  if c.isDigit then some (c.toNat - 48)
  else if 97 ≤ c.toNat ∧ c.toNat < 103 then some (c.toNat - 87)
  else if 65 ≤ c.toNat ∧ c.toNat < 71 then some (c.toNat - 55)
  else none

/-- Read a hexadecimal text. -/
def ofHex : List Char → Option Bytes
  | [] => some []
  | [_] => none
  | a :: b :: cs => do
    let high ← nibbleOf a
    let low ← nibbleOf b
    return UInt8.ofNat (16 * high + low) :: (← ofHex cs)

theorem nibbleOf_hexDigit {n : ℕ} (hn : n < 16) : nibbleOf (hexDigit n) = some n := by
  interval_cases n <;> rfl

theorem ofHex_flatMap_hexByte (bs : Bytes) : ofHex (bs.flatMap hexByte) = some bs := by
  induction bs with
  | nil => rfl
  | cons b bs ih =>
      have hb := b.toNat_lt
      have hbyte : UInt8.ofNat (16 * (b.toNat / 16) + b.toNat % 16) = b := by
        rw [Nat.div_add_mod, UInt8.ofNat_toNat]
      have hhigh : nibbleOf (hexDigit (b.toNat / 16)) = some (b.toNat / 16) :=
        nibbleOf_hexDigit (by omega)
      have hlow : nibbleOf (hexDigit (b.toNat % 16)) = some (b.toNat % 16) :=
        nibbleOf_hexDigit (by omega)
      simpa [hexByte, ofHex, hhigh, hlow, ih] using hbyte

theorem ofHex_toHex (bs : Bytes) : ofHex (toHex bs).toList = some bs := by
  rw [toHex, String.toList_ofList, ofHex_flatMap_hexByte]

/-- A hexadecimal digit of either case. -/
def isHexDigit (c : Char) : Bool :=
  (nibbleOf c).isSome

/-- A text that reads as bytes is digits only, two for a byte. -/
theorem digits_of_ofHex : ∀ {cs : List Char} {bs : Bytes}, ofHex cs = some bs →
    cs.length = 2 * bs.length ∧ ∀ c ∈ cs, isHexDigit c = true
  | [], bs, h => by
      cases h
      exact ⟨rfl, by simp⟩
  | [_], _, h => by cases h
  | a :: b :: cs, bs, h => by
      obtain ⟨high, hhigh, h⟩ := Option.bind_eq_some_iff.1 h
      obtain ⟨low, hlow, h⟩ := Option.bind_eq_some_iff.1 h
      obtain ⟨tail, htail, h⟩ := Option.bind_eq_some_iff.1 h
      cases h
      obtain ⟨hlength, hdigits⟩ := digits_of_ofHex htail
      refine ⟨by simp only [List.length_cons, hlength]; omega, ?_⟩
      rintro c (_ | ⟨_, _ | ⟨_, hc⟩⟩)
      · exact Option.isSome_iff_exists.2 ⟨high, hhigh⟩
      · exact Option.isSome_iff_exists.2 ⟨low, hlow⟩
      · exact hdigits c hc

/-- Digits in pairs read as bytes. -/
theorem exists_ofHex : ∀ {n : ℕ} {cs : List Char}, cs.length = 2 * n →
    (∀ c ∈ cs, isHexDigit c = true) → ∃ bs, ofHex cs = some bs
  | 0, cs, hlength, _ => by
      rw [List.length_eq_zero_iff.1 hlength]
      exact ⟨[], rfl⟩
  | n + 1, [], hlength, _ => by simp at hlength
  | n + 1, [_], hlength, _ => by
      simp only [List.length_singleton] at hlength
      omega
  | n + 1, a :: b :: cs, hlength, hdigits => by
      obtain ⟨high, hhigh⟩ := Option.isSome_iff_exists.1 (hdigits a (by simp))
      obtain ⟨low, hlow⟩ := Option.isSome_iff_exists.1 (hdigits b (by simp))
      have hrest : cs.length = 2 * n := by
        simp only [List.length_cons] at hlength
        omega
      obtain ⟨bs, hbs⟩ := exists_ofHex hrest fun c hc => hdigits c (by simp [hc])
      exact ⟨_, by rw [ofHex, hhigh, hlow, hbs]; rfl⟩

theorem hexDigit_ascii {c : Char} (hc : isHexDigit c = true) : 48 ≤ c.toNat ∧ c.toNat < 103 := by
  unfold isHexDigit nibbleOf at hc
  split_ifs at hc with hdigit hlower hupper
  · have h := Char.isDigit_iff_toNat.1 hdigit
    have hzero : '0'.toNat = 48 := rfl
    have hnine : '9'.toNat = 57 := rfl
    omega
  · omega
  · omega
  · cases hc

theorem nibbleOf_lt {c : Char} {n : ℕ} (h : nibbleOf c = some n) : n < 16 := by
  have hbounds := hexDigit_ascii (Option.isSome_iff_exists.2 ⟨n, h⟩)
  unfold nibbleOf at h
  split_ifs at h with hdigit hlower hupper
  · have hbound := Char.isDigit_iff_toNat.1 hdigit
    have hnine : '9'.toNat = 57 := rfl
    cases h
    omega
  · cases h
    omega
  · cases h
    omega

/-- A digit in lower case is the one that is written for its value. -/
theorem toLower_of_nibbleOf {c : Char} {n : ℕ} (h : nibbleOf c = some n) :
    c.toLower = hexDigit n := by
  have hbounds := hexDigit_ascii (Option.isSome_iff_exists.2 ⟨n, h⟩)
  have hc : c = Char.ofNat c.toNat := (Char.ofNat_toNat c).symm
  generalize c.toNat = k at hbounds hc
  subst hc
  obtain ⟨hlow, hhigh⟩ := hbounds
  interval_cases k <;> cases h <;> decide

/-- A hexadecimal text in lower case is the one that is written for its bytes. -/
theorem map_toLower_of_ofHex : ∀ {cs : List Char} {bs : Bytes}, ofHex cs = some bs →
    cs.map Char.toLower = (toHex bs).toList
  | [], bs, h => by
      cases h
      rfl
  | [_], _, h => by cases h
  | a :: b :: cs, bs, h => by
      obtain ⟨high, hhigh, h⟩ := Option.bind_eq_some_iff.1 h
      obtain ⟨low, hlow, h⟩ := Option.bind_eq_some_iff.1 h
      obtain ⟨tail, htail, h⟩ := Option.bind_eq_some_iff.1 h
      cases h
      have hrest := map_toLower_of_ofHex htail
      have hhalf := nibbleOf_lt hhigh
      have hhalf' := nibbleOf_lt hlow
      have hbyte : (UInt8.ofNat (16 * high + low)).toNat = 16 * high + low := by
        rw [UInt8.toNat_ofNat']
        omega
      rw [toHex, String.toList_ofList] at hrest ⊢
      rw [List.flatMap_cons, ← hrest, List.map_cons, List.map_cons, toLower_of_nibbleOf hhigh,
        toLower_of_nibbleOf hlow, hexByte, hbyte]
      have hquot : (16 * high + low) / 16 = high := by omega
      have hrem : (16 * high + low) % 16 = low := by omega
      rw [hquot, hrem]
      rfl

/-- The last bytes are spelled by the last digits. -/
theorem drop_flatMap_hexByte (n : ℕ) (bs : Bytes) :
    (bs.flatMap hexByte).drop (2 * n) = (bs.drop n).flatMap hexByte := by
  induction n generalizing bs with
  | zero => rfl
  | succ n ih =>
      cases bs with
      | nil => simp
      | cons b bs =>
          rw [List.drop_succ_cons, ← ih, List.flatMap_cons]
          exact List.drop_succ_cons

/-- The UTF-8 bytes of a text. -/
def utf8 (s : String) : Bytes :=
  s.toList.flatMap String.utf8EncodeChar

theorem utf8_injective : Function.Injective utf8 := by
  intro s t h
  have hencode : s.toList.utf8Encode = t.toList.utf8Encode := congrArg List.toByteArray h
  rw [String.utf8Encode_toList, String.utf8Encode_toList] at hencode
  exact String.toByteArray_inj.1 hencode

/-! ## Big-endian numbers -/

/-- The big-endian bytes of a natural number, `width` of them. -/
def bytesBE (width : ℕ) (n : ℕ) : Bytes :=
  (List.range width).reverse.map fun i => UInt8.ofNat (n / 256 ^ i % 256)

theorem length_bytesBE (width n : ℕ) : (bytesBE width n).length = width := by
  simp [bytesBE]

theorem mod_pow_eq {m n : ℕ} : ∀ {width : ℕ},
    (∀ i < width, m / 256 ^ i % 256 = n / 256 ^ i % 256) → m % 256 ^ width = n % 256 ^ width
  | 0, _ => by simp [Nat.mod_one]
  | width + 1, h => by
      rw [Nat.mod_pow_succ, Nat.mod_pow_succ, h width (by omega),
        mod_pow_eq fun i hi => h i (by omega)]

/-- The bytes of a number that fits determine it. -/
theorem bytesBE_inj {width m n : ℕ} (hm : m < 256 ^ width) (hn : n < 256 ^ width)
    (h : bytesBE width m = bytesBE width n) : m = n := by
  rw [← Nat.mod_eq_of_lt hm, ← Nat.mod_eq_of_lt hn]
  refine mod_pow_eq fun i hi => ?_
  have hbyte := List.map_inj_left.1 h i (by simpa using hi)
  have hnat := congrArg UInt8.toNat hbyte
  simpa [UInt8.toNat_ofNat'] using hnat

end Library

end Coordination
