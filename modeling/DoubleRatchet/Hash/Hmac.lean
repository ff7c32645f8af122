import DoubleRatchet.Hash.Sha2

namespace DoubleRatchet

/-!
# Keyed digests and key derivation

`Hmac.sha256` is HMAC over SHA-256.  `Hkdf` derives key material of any length
from it in two steps: extraction concentrates the input into one digest, and
expansion chains digests over a label and a running octet.

The running octet bounds the material of one derivation at 255 digests.
`Hkdf.derive` is total and lets the octet wrap past that bound; the callers of
this library ask for at most 80 octets.  `Hkdf.derive?` is the same function
with the bound checked, for lengths that a caller chooses freely.
-/

namespace Hmac

/-- The octets of one block of the digest. -/
def blockLength : Nat :=
  Sha2.blockLength 4

/-- A key as one block: digested first where it is longer than a block, then
filled with zero octets. -/
def blockKey (key : Bytes) : Octets blockLength :=
  Octets.fill blockLength (if key.length ≤ blockLength then key else (sha256 key).toList)

/-- The keyed digest of a message. -/
def sha256 (key message : Bytes) : Octets 32 :=
  let block := (blockKey key).toList
  let inner := DoubleRatchet.sha256 (block.map (· ^^^ 0x36) ++ message)
  DoubleRatchet.sha256 (block.map (· ^^^ 0x5c) ++ inner.toList)

end Hmac

namespace Hkdf

/-- Concentrates the input into one digest under the salt. -/
def extract (salt input : Bytes) : Octets 32 :=
  Hmac.sha256 salt input

/-- `count` digests, each over the one before it, the label and a running octet. -/
def expand (key : Octets 32) (label : Bytes) : (count : Nat) -> (previous : Bytes) -> UInt8 -> Bytes
  | 0, _, _ => []
  | count + 1, previous, octet =>
    let block := Hmac.sha256 key.toList (previous ++ label ++ [octet])
    block.toList ++ expand key label count block.toList (octet + 1)

@[simp] theorem length_expand (key : Octets 32) (label : Bytes) (count : Nat) (previous : Bytes)
    (octet : UInt8) : (expand key label count previous octet).length = 32 * count := by
  induction count generalizing previous octet with
  | zero => rfl
  | succ count ih => simp [expand, ih]; omega

/-- Key material of the wanted length from an input, under a salt and a label. -/
def derive (length : Nat) (salt input label : Bytes) : Octets length :=
  ⟨(expand (extract salt input) label ((length + 31) / 32) [] 1).take length, by simp; omega⟩

/-- The longest key material that one derivation gives. -/
def maximumLength : Nat :=
  255 * 32

/-- `derive` where the running octet suffices. -/
def derive? (length : Nat) (salt input label : Bytes) : Option (Octets length) :=
  if length ≤ maximumLength then some (derive length salt input label) else none

end Hkdf
end DoubleRatchet
