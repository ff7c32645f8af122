import DoubleRatchet.Hash.Sha2
import DoubleRatchet.Key.Pair

namespace DoubleRatchet

/-!
# Identities

The identity of a party has two public halves: a key that enters agreements
and a key that verifies signatures over pre-keys and base keys.  Both are
written into one string of 65 octets.  Reading checks the whole length first,
then the agreement half, then the verifying half, and the first check that
fails names the fault.
-/

/-- The public identity of a party. -/
structure IdentityKey where
  agreementKey : PublicKey
  verifyingKey : VerifyingKey
  deriving DecidableEq

namespace IdentityKey

/-- The octets of an encoded identity. -/
def encodedLength : Nat :=
  65

/-- The encoding: the encoded agreement key, then the verifying key. -/
def toBytes (identity : IdentityKey) : Bytes :=
  identity.agreementKey.toBytes ++ identity.verifyingKey.octets.toList

@[simp] theorem length_toBytes (identity : IdentityKey) : identity.toBytes.length = 65 := by
  simp [toBytes]

/-- Reads an encoding. -/
def ofBytes (bytes : Bytes) : Except KeyFault IdentityKey :=
  if bytes.length = encodedLength then do
    let agreementKey ← PublicKey.ofBytes (bytes.take 33)
    match VerifyingKey.ofOctets? (Octets.fill 32 (bytes.drop 33)) with
    | some verifyingKey => return ⟨agreementKey, verifyingKey⟩
    | none => throw .notAPoint
  else .error (.identityLength bytes.length)

@[simp] theorem ofBytes_toBytes (identity : IdentityKey) :
    ofBytes identity.toBytes = .ok identity := by
  have left : identity.toBytes.take 33 = identity.agreementKey.toBytes := by
    simp [toBytes]
  have right : identity.toBytes.drop 33 = identity.verifyingKey.octets.toList := by
    simp [toBytes]
  simp only [ofBytes, length_toBytes, encodedLength, if_true, left, right,
    PublicKey.ofBytes_toBytes, Octets.fill_toList, VerifyingKey.ofOctets?_octets]
  rfl

/-- Whether `signature` is a signature of `message` by this identity. -/
def verifies [Suite] (identity : IdentityKey) (message signature : Bytes) : Bool :=
  Suite.verify identity.verifyingKey message signature

/-- The first eight octets of the digest of the encoding, in groups of four upper
case digits. -/
def fingerprint (identity : IdentityKey) : String :=
  let digits := (Hex.encode ((sha256 identity.toBytes).toList.take 8)).map Char.toUpper
  "-".intercalate
    ((List.range 4).map fun group => String.ofList ((digits.drop (4 * group)).take 4))

/-- The identity as it is shown in diagnostics. -/
def description (identity : IdentityKey) : String :=
  s!"IdentityKey({identity.fingerprint})"

end IdentityKey

/-- The secrets of an identity: the seed of its signing key and its agreement secret. -/
structure IdentityKeyPair where
  signingSeed : Octets 32
  agreementSecret : PrivateKey
  deriving DecidableEq, Inhabited

namespace IdentityKeyPair

/-- The encoding: the seed, then the agreement secret. -/
def toBytes (pair : IdentityKeyPair) : Bytes :=
  pair.signingSeed.toList ++ pair.agreementSecret.octets.toList

/-- Reads an encoding. -/
def ofBytes (bytes : Bytes) : Except KeyFault IdentityKeyPair :=
  match Octets.ofList? 64 bytes with
  | some octets =>
    let halves := Octets.halves (n := 32) octets
    .ok ⟨halves.1, ⟨halves.2⟩⟩
  | none => .error (.identityPairLength bytes.length)

variable [Suite]

/-- The public identity. -/
def identity (pair : IdentityKeyPair) : IdentityKey :=
  ⟨pair.agreementSecret.publicKey, Suite.verifyingKey pair.signingSeed⟩

/-- The signature of a message. -/
def sign (pair : IdentityKeyPair) (message : Bytes) : Bytes :=
  (Suite.sign pair.signingSeed message).toList

/-- The pair as it is shown in diagnostics, without its secrets. -/
def description (pair : IdentityKeyPair) : String :=
  "IdentityKeyPair \x7b identity_key: " ++ pair.identity.description ++ ", .. \x7d"

end IdentityKeyPair
end DoubleRatchet
