import Coordination.Library.Digest

/-!
# Recoverable signatures

The signature scheme the programs use, as a parameter: keys, signatures over a
hash with a recovery id, and recovery of the public key. What a program relies on
is that recovery inverts signing, `RecoverableEcdsa.Inverts`; an identity is the
address of a public key.
-/

namespace Coordination

namespace Library

/-- A recoverable signature scheme over hashes. -/
class RecoverableEcdsa where
  /-- The uncompressed public key of a private key. -/
  publicKey : Bytes → Bytes
  /-- The compressed public key of a private key. -/
  compressedKey : Bytes → Bytes
  /-- Sign a hash with a private key: `r ‖ s` and the recovery id. -/
  signHash : Bytes → Bytes → Bytes × ℕ
  /-- The public key a signature over a hash recovers to. -/
  recoverKey : Bytes → ℕ → Bytes → Option Bytes

namespace RecoverableEcdsa

section Scheme

variable [RecoverableEcdsa]

/-- Recovery inverts signing with this key. -/
structure Inverts (key : Bytes) : Prop where
  length : ∀ hash, (signHash hash key).1.length = 64
  recoveryId : ∀ hash, (signHash hash key).2 < 2
  recover : ∀ hash,
    recoverKey (signHash hash key).1 (signHash hash key).2 hash = some (publicKey key)

/-- The first 32 bytes, filled up with zeros. -/
def word (bs : Bytes) : Bytes :=
  (bs ++ List.replicate 32 0).take 32

omit [RecoverableEcdsa] in
theorem length_word (bs : Bytes) : (word bs).length = 32 := by
  simp [word]

/-- A scheme whose signatures carry the key and the hash openly: computable, and
recovery inverts signing. -/
@[reducible] def transparent : RecoverableEcdsa where
  publicKey key := 4 :: word key
  compressedKey key := 2 :: word key
  signHash hash key := (word key ++ word hash, 0)
  recoverKey sig _ hash := if sig.drop 32 = word hash then some (4 :: sig.take 32) else none

/-- The last `n` bytes. -/
def lastBytes (n : ℕ) (bs : Bytes) : Bytes :=
  bs.drop (bs.length - n)

/-- The address of an uncompressed public key. -/
def addressOf [Digests] (pub : Bytes) : String :=
  "0x" ++ toHex (lastBytes 20 (Digests.keccak256 (pub.drop 1)))

end Scheme

section Transparent

attribute [local instance] transparent

theorem transparent_inverts (key : Bytes) : Inverts key where
  length hash := by
    show (word key ++ word hash).length = 64
    rw [List.length_append, length_word, length_word]
  recoveryId hash := Nat.zero_lt_two
  recover hash := by
    show (if (word key ++ word hash).drop 32 = word hash
      then some (4 :: (word key ++ word hash).take 32) else none) = some (4 :: word key)
    rw [List.drop_left' (length_word key), if_pos rfl, List.take_left' (length_word key)]

end Transparent

end RecoverableEcdsa

end Library

end Coordination
