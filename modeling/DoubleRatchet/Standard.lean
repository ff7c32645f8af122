import DoubleRatchet.Cipher.Gcm
import DoubleRatchet.Curve.X25519
import DoubleRatchet.Hash.Hmac
import DoubleRatchet.Suite

namespace DoubleRatchet

/-!
# The standard suite

Agreement on the Montgomery curve, digests and derivation over SHA-256,
AES-256 in Galois counter mode, and signatures on the Edwards curve.
-/

/-- The suite that sessions use outside of proofs. -/
instance standardSuite : Suite where
  publicValue := X25519.publicValue
  agree := X25519.agree
  mac := Hmac.sha256
  derive := Hkdf.derive
  seal? := Gcm.seal?
  unseal? := Gcm.unseal?
  verifyingKey := Ed25519.verifyingKey
  sign := Ed25519.sign
  verify := Ed25519.verify

theorem standardSuite_sealingFaithful : standardSuite.SealingFaithful :=
  fun _ _ _ _ done => Gcm.unseal?_of_seal? done

theorem standardSuite_sealingBounded : standardSuite.SealingBounded :=
  fun _ _ _ _ done => Nat.lt_of_le_of_lt (Gcm.length_of_seal?_le done) (by decide)

theorem standardSuite_sealsWithin : standardSuite.SealsWithin Gcm.maximumLength :=
  fun _ _ _ fits => Gcm.isSome_seal? fits

end DoubleRatchet
