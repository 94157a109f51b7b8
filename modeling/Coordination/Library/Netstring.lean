import Coordination.Library.Bytes
import Coordination.Library.Decimal
import Coordination.Library.Separated

/-!
# Length-prefixed fields

A field is written as its length in decimal, a colon and its bytes. Fields written one
after the other are read back uniquely, however many there are and whatever they hold.
-/

namespace Coordination

namespace Library

/-- The decimal digits of a number, in ASCII. -/
def decimalBytes (n : ℕ) : Bytes :=
  (Nat.toDigits 10 n).map fun c => UInt8.ofNat c.toNat

/-- One field. -/
def frame (bs : Bytes) : Bytes :=
  decimalBytes bs.length ++ 58 :: bs

/-- Several fields, one after the other. -/
def frames (fields : List Bytes) : Bytes :=
  fields.flatMap frame

theorem toNat_of_digit {c : Char} (hc : c.isDigit = true) :
    (UInt8.ofNat c.toNat).toNat = c.toNat := by
  have hbounds := digit_bounds hc
  rw [UInt8.toNat_ofNat']
  omega

theorem isDigit_of_mem {n : ℕ} {c : Char} (hc : c ∈ Nat.toDigits 10 n) : c.isDigit = true :=
  Nat.isDigit_of_mem_toDigits (by decide) (by decide) hc

theorem chars_decimalBytes (n : ℕ) :
    (decimalBytes n).map (fun b => Char.ofNat b.toNat) = Nat.toDigits 10 n := by
  rw [decimalBytes, List.map_map]
  conv_rhs => rw [← List.map_id (Nat.toDigits 10 n)]
  refine List.map_congr_left fun c hc => ?_
  rw [Function.comp_apply, toNat_of_digit (isDigit_of_mem hc), Char.ofNat_toNat, id]

theorem decimalBytes_injective : Function.Injective decimalBytes := by
  intro m n h
  have hdigits : Nat.toDigits 10 m = Nat.toDigits 10 n := by
    rw [← chars_decimalBytes, h, chars_decimalBytes]
  rw [← Nat.ofDigitChars_ten_toDigits (n := m), hdigits, Nat.ofDigitChars_ten_toDigits]

theorem colon_notMem_decimalBytes (n : ℕ) : (58 : UInt8) ∉ decimalBytes n := by
  intro h
  obtain ⟨c, hc, heq⟩ := List.mem_map.1 h
  have hbounds := digit_bounds (isDigit_of_mem hc)
  have hnat := congrArg UInt8.toNat heq
  rw [toNat_of_digit (isDigit_of_mem hc)] at hnat
  have hcolon : (58 : UInt8).toNat = 58 := rfl
  omega

/-- A field ends where its length says. -/
theorem frame_append_cancel {as bs s t : Bytes} (h : frame as ++ s = frame bs ++ t) :
    as = bs ∧ s = t := by
  unfold frame at h
  rw [List.append_assoc, List.append_assoc, List.cons_append, List.cons_append] at h
  obtain ⟨hlength, htail⟩ := append_separator_cancel (colon_notMem_decimalBytes _)
    (colon_notMem_decimalBytes _) h
  exact List.append_inj htail (decimalBytes_injective hlength)

theorem frame_ne_nil (bs : Bytes) : frame bs ≠ [] := by
  simp [frame]

/-- The bytes determine the fields. -/
theorem frames_injective : Function.Injective frames
  | [], [], _ => rfl
  | [], b :: bs, h => by
      rw [frames, frames, List.flatMap_nil, List.flatMap_cons] at h
      exact absurd (List.append_eq_nil_iff.1 h.symm).1 (frame_ne_nil b)
  | a :: as, [], h => by
      rw [frames, frames, List.flatMap_nil, List.flatMap_cons] at h
      exact absurd (List.append_eq_nil_iff.1 h).1 (frame_ne_nil a)
  | a :: as, b :: bs, h => by
      rw [frames, frames, List.flatMap_cons, List.flatMap_cons] at h
      obtain ⟨rfl, htail⟩ := frame_append_cancel h
      rw [frames_injective htail]

end Library

end Coordination
