import DoubleRatchet.Curve.Edwards
import DoubleRatchet.Hash.Sha2

namespace DoubleRatchet

/-!
# Signatures on the Edwards curve

A signing key is a seed of 32 octets.  A verifying key is a string of 32 octets
that compresses a point, and the proof that it does is part of the type: a
verifying key that was read once is never found to be no point later.

Verification recomputes the commitment and compares octets.  It does not clear
the cofactor, and it admits verifying keys and commitments of low order.
-/

open Curve25519 (Point)

/-- A verifying key: octets that compress a point of the curve. -/
structure VerifyingKey where
  octets : Octets 32
  isPoint : (Point.decompress? octets).isSome = true
  deriving DecidableEq

namespace VerifyingKey

@[ext] theorem ext {a b : VerifyingKey} (same : a.octets = b.octets) : a = b := by
  cases a
  cases b
  cases same
  rfl

/-- Reads octets as a verifying key, and refuses those that compress no point. -/
def ofOctets? (octets : Octets 32) : Option VerifyingKey :=
  if isPoint : (Point.decompress? octets).isSome = true then some ⟨octets, isPoint⟩ else none

@[simp] theorem ofOctets?_octets (key : VerifyingKey) : ofOctets? key.octets = some key := by
  simp [ofOctets?, key.isPoint]

/-- The compressed base point. -/
def base : VerifyingKey where
  octets := ⟨0x58 :: List.replicate 31 0x66, by decide⟩
  isPoint := by decide +kernel

/-- The point of the key. -/
def point (key : VerifyingKey) : Point :=
  (Point.decompress? key.octets).get key.isPoint

end VerifyingKey

namespace Ed25519

/-- The order of the base point. -/
def order : Nat :=
  1 <<< 252 + 27742317777372353535851937790883648493

/-- The secret scalar of a seed: the first half of its digest, as a multiple of
eight with bit 254 set and nothing above it. -/
def scalar (seed : Octets 32) : Nat :=
  1 <<< 254 + 8 * (((sha512 seed.toList).first 32).toLittleEndian % (1 <<< 254) / 8)

/-- The second half of the digest of a seed, from which the nonces come. -/
def nonceKey (seed : Octets 32) : Octets 32 :=
  (sha512 seed.toList).slice 32 32

/-- The multiple of the base point by a number below `2 ^ 256`. -/
def multiplyBase (multiplier : Nat) : Point :=
  Point.base.multiply 256 multiplier

/-- The verifying key of a seed.  A multiple of the base point always compresses
to octets that decompress; the base point stands in only to make this total. -/
def verifyingKey (seed : Octets 32) : VerifyingKey :=
  (VerifyingKey.ofOctets? (multiplyBase (scalar seed)).compress).getD VerifyingKey.base

/-- The challenge that binds commitment, verifying key and message. -/
def challenge (commitment key : Octets 32) (message : Bytes) : Nat :=
  (sha512 (commitment.toList ++ key.toList ++ message)).toLittleEndian % order

/-- The signature of a message: a commitment and the response to its challenge. -/
def sign (seed : Octets 32) (message : Bytes) : Octets 64 :=
  let nonce := (sha512 ((nonceKey seed).toList ++ message)).toLittleEndian % order
  let commitment := (multiplyBase nonce).compress
  let challenged := challenge commitment (verifyingKey seed).octets message
  commitment.append (Octets.ofLittleEndian 32 ((nonce + challenged * scalar seed) % order))

/-- Whether `signature` has 64 octets, a response below the order, and the
commitment that this response gives. -/
def verify (key : VerifyingKey) (message signature : Bytes) : Bool :=
  match Octets.ofList? 64 signature with
  | none => false
  | some signature =>
    let commitment := signature.first 32
    let response := (signature.slice 32 32).toLittleEndian
    let challenged := challenge commitment key.octets message
    let recomputed :=
      (multiplyBase response).add (key.point.negate.multiply 256 challenged)
    response < order && recomputed.compress = commitment

end Ed25519
end DoubleRatchet
