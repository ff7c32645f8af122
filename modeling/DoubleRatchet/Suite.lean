import DoubleRatchet.Curve.Ed25519

namespace DoubleRatchet

/-!
# Cryptographic suites

Sessions are built from a handful of primitives.  The engine receives them as
a class, so that each of its definitions says which primitive it applies to
which octets and nothing about how the primitive works.  A statement about the
engine therefore holds for every suite that has the properties it names, and
never for a particular curve by accident.

The properties themselves are stated as predicates on a suite.  No instance is
declared to have them: a theorem that needs one takes it as a hypothesis.
-/

/-- The primitives of a session. -/
class Suite where
  /-- The public value of a secret. -/
  publicValue : Octets 32 -> Octets 32
  /-- The agreement of a secret with the public value of another. -/
  agree : Octets 32 -> Octets 32 -> Octets 32
  /-- The keyed digest of a message. -/
  mac : (key message : Bytes) -> Octets 32
  /-- Key material of any length from an input, under a salt and a label. -/
  derive : (length : Nat) -> (salt input label : Bytes) -> Octets length
  /-- A text sealed under a key and a nonce, unless it is too long. -/
  seal? : Octets 32 -> Octets 12 -> Bytes -> Option Bytes
  /-- The text of a sealed string, unless the string is not genuine. -/
  unseal? : Octets 32 -> Octets 12 -> Bytes -> Option Bytes
  /-- The verifying key of a signing seed. -/
  verifyingKey : Octets 32 -> VerifyingKey
  /-- The signature of a message under a signing seed. -/
  sign : Octets 32 -> Bytes -> Octets 64
  /-- Whether a string is a signature of a message. -/
  verify : VerifyingKey -> (message signature : Bytes) -> Bool

namespace Suite

/-- Two parties agree on the same octets from each other's public values. -/
def AgreementSymmetric (suite : Suite) : Prop :=
  ∀ first second : Octets 32,
    suite.agree first (suite.publicValue second) = suite.agree second (suite.publicValue first)

/-- What was signed is a signature. -/
def SigningFaithful (suite : Suite) : Prop :=
  ∀ (seed : Octets 32) (message : Bytes),
    suite.verify (suite.verifyingKey seed) message (suite.sign seed message).toList = true

/-- What was sealed opens to its text. -/
def SealingFaithful (suite : Suite) : Prop :=
  ∀ (key : Octets 32) (nonce : Octets 12) (text sealedText : Bytes),
    suite.seal? key nonce text = some sealedText → suite.unseal? key nonce sealedText = some text

/-- What was sealed has a length that a field of a message has room for, with the rest
of the message around it. -/
def SealingBounded (suite : Suite) : Prop :=
  ∀ (key : Octets 32) (nonce : Octets 12) (text sealedText : Bytes),
    suite.seal? key nonce text = some sealedText → sealedText.length < 1 <<< 63

/-- Every text up to a length can be sealed. -/
def SealsWithin (suite : Suite) (length : Nat) : Prop :=
  ∀ (key : Octets 32) (nonce : Octets 12) (text : Bytes),
    text.length ≤ length → (suite.seal? key nonce text).isSome = true

end Suite
end DoubleRatchet
