import Coordination.Library.Bytes

/-!
# Digests

The two hash functions the programs use, as parameters. Nothing is assumed
about them here; a result that rests on collision resistance says so with an
injectivity hypothesis.
-/

namespace Coordination

namespace Library

/-- The hash functions. -/
class Digests where
  sha256 : Bytes → Bytes
  keccak256 : Bytes → Bytes

namespace Digests

variable [Digests]

/-- The content reference `sha256:<hex>` over raw bytes. -/
def sha256Ref (bs : Bytes) : String :=
  "sha256:" ++ toHex (sha256 bs)

theorem sha256Ref_inj (hsha : Function.Injective (sha256 : Bytes → Bytes)) {as bs : Bytes} :
    sha256Ref as = sha256Ref bs ↔ as = bs := by
  constructor
  · intro h
    have hhex : toHex (sha256 as) = toHex (sha256 bs) := by
      have hlist := congrArg String.toList h
      rw [sha256Ref, sha256Ref, String.toList_append, String.toList_append] at hlist
      exact String.toList_inj.1 (List.append_cancel_left hlist)
    exact hsha (toHex_injective hhex)
  · rintro rfl
    rfl

/-- Hash functions that keep their input: without collisions, and computable. -/
@[reducible] def ideal : Digests where
  sha256 := id
  keccak256 := id

/-- Hash functions of 32 bytes, for runs that read a digest back from a text. -/
@[reducible] def checksum : Digests where
  sha256 := digest
  keccak256 := digest
where
  digest (bs : Bytes) : Bytes :=
    let n := bs.foldl (fun n b => (65599 * n + b.toNat + 1) % 2 ^ 256) 0
    (List.range 32).map fun i => UInt8.ofNat (n / 256 ^ i % 256)

end Digests

end Library

end Coordination
