import DoubleRatchet.Key.Fault
import DoubleRatchet.Suite

namespace DoubleRatchet

/-!
# Agreement keys

A public key is written with a leading type octet, so that its encoding says
what it is.  Reading looks at the type before the length: a string that starts
with another type is refused for its type, whatever its length.  The order of
public keys is the order of their encodings, which decides the roles of two
parties that open a session at the same time.

The two halves of a pair are kept as they are given.  A pair that was
generated is matched; a pair that was read from a document need not be.
-/

/-- The octet that marks a public key. -/
def publicKeyType : UInt8 :=
  0x05

/-- A public agreement key. -/
structure PublicKey where
  octets : Octets 32
  deriving DecidableEq, Inhabited

namespace PublicKey

/-- The encoding: the type octet, then the key. -/
def toBytes (key : PublicKey) : Bytes :=
  publicKeyType :: key.octets.toList

@[simp] theorem length_toBytes (key : PublicKey) : key.toBytes.length = 33 := by
  simp [toBytes]

/-- Reads an encoding. -/
def ofBytes : Bytes -> Except KeyFault PublicKey
  | [] => .error .empty
  | type :: rest =>
    if type = publicKeyType then
      match Octets.ofList? 32 rest with
      | some octets => .ok ⟨octets⟩
      | none => .error (.wrongLength (rest.length + 1))
    else .error (.unknownType type)

@[simp] theorem ofBytes_toBytes (key : PublicKey) : ofBytes key.toBytes = .ok key := by
  simp [ofBytes, toBytes]

theorem ofBytes_eq_ok_iff {bytes : Bytes} {key : PublicKey} :
    ofBytes bytes = .ok key ↔ bytes = key.toBytes := by
  constructor
  · intro read
    match bytes with
    | [] => cases read
    | type :: rest =>
      by_cases known : type = publicKeyType
      · cases exact : Octets.ofList? 32 rest with
        | none => simp [ofBytes, known, exact] at read
        | some octets =>
          simp only [ofBytes, known, if_true, exact, Except.ok.injEq] at read
          subst read
          rw [Octets.ofList?_eq_some_iff] at exact
          simp [toBytes, known, exact]
      · simp [ofBytes, known] at read
  · rintro rfl
    exact ofBytes_toBytes key

/-- The order of the encodings. -/
instance : Ord PublicKey :=
  ⟨fun first second => compare first.toBytes second.toBytes⟩

/-- The digits of the first six octets, for log lines. -/
def short (key : PublicKey) : String :=
  Hex.text (key.octets.toList.take 6)

/-- The key as it is shown in diagnostics. -/
def description (key : PublicKey) : String :=
  s!"PublicKey({Hex.text key.octets.toList})"

end PublicKey

/-- A secret agreement key, as it was drawn or read; the primitive of the suite
applies its own fixing of bits. -/
structure PrivateKey where
  octets : Octets 32
  deriving DecidableEq, Inhabited

namespace PrivateKey

variable [Suite]

/-- The public key of a secret. -/
def publicKey (key : PrivateKey) : PublicKey :=
  ⟨Suite.publicValue key.octets⟩

/-- The agreement with the public key of another. -/
def agree (key : PrivateKey) (other : PublicKey) : Octets 32 :=
  Suite.agree key.octets other.octets

end PrivateKey

/-- A public key and a secret. -/
structure KeyPair where
  publicKey : PublicKey
  privateKey : PrivateKey
  deriving DecidableEq, Inhabited

namespace KeyPair

/-- The matched pair of a secret. -/
def ofPrivate [Suite] (key : PrivateKey) : KeyPair :=
  ⟨key.publicKey, key⟩

/-- Whether the public half belongs to the secret. -/
def Matched [Suite] (pair : KeyPair) : Prop :=
  pair.publicKey = pair.privateKey.publicKey

theorem matched_ofPrivate [Suite] (key : PrivateKey) : (ofPrivate key).Matched :=
  rfl

/-- The agreement of the secret half with the public key of another. -/
def agree [Suite] (pair : KeyPair) (other : PublicKey) : Octets 32 :=
  pair.privateKey.agree other

/-- The pair as it is shown in diagnostics, without its secret. -/
def description (pair : KeyPair) : String :=
  "KeyPair \x7b public_key: " ++ pair.publicKey.description ++
    ", private_key: PrivateKey(..) \x7d"

end KeyPair
end DoubleRatchet
