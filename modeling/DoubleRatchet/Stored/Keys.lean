import DoubleRatchet.Address
import DoubleRatchet.Json.Shape
import DoubleRatchet.Key.PreKey

namespace DoubleRatchet

/-!
# Stored keys

How keys, pre-keys and addresses are written as documents.  The two halves of a
pair are stored side by side and are read independently of each other.  A
verifying key is read only if it is a point, so a stored identity is always a
usable one.
-/

open Json (Document Value)

namespace PublicKey

/-- A public key as a document. -/
def toValue (key : PublicKey) : Value :=
  .ofBytes key.octets.toList

/-- The public key of a document. -/
def ofValue? (value : Value) : Option PublicKey :=
  (value.toOctets? 32).map PublicKey.mk

end PublicKey

instance : Document PublicKey :=
  ⟨PublicKey.toValue, PublicKey.ofValue?⟩

namespace PrivateKey

/-- A secret as a document. -/
def toValue (key : PrivateKey) : Value :=
  .ofBytes key.octets.toList

/-- The secret of a document. -/
def ofValue? (value : Value) : Option PrivateKey :=
  (value.toOctets? 32).map PrivateKey.mk

end PrivateKey

namespace KeyPair

/-- A pair as a document. -/
def toValue (pair : KeyPair) : Value :=
  .ofFields [("public_key", pair.publicKey.toValue), ("private_key", pair.privateKey.toValue)]

/-- The pair of a document. -/
def ofValue? (value : Value) : Option KeyPair := do
  let [publicKey, privateKey] ← value.fields? ["public_key", "private_key"] 0 | none
  return ⟨← Value.required PublicKey.ofValue? publicKey,
    ← Value.required PrivateKey.ofValue? privateKey⟩

end KeyPair

instance : Document KeyPair :=
  ⟨KeyPair.toValue, KeyPair.ofValue?⟩

namespace IdentityKey

/-- The verifying key of a document. -/
def verifyingKeyOf? (value : Value) : Option VerifyingKey := do
  let octets ← value.toOctets? 32
  VerifyingKey.ofOctets? octets

/-- An identity as a document. -/
def toValue (identity : IdentityKey) : Value :=
  .ofFields
    [("agreement_key", identity.agreementKey.toValue),
      ("verifying_key", .ofBytes identity.verifyingKey.octets.toList)]

/-- The identity of a document. -/
def ofValue? (value : Value) : Option IdentityKey := do
  let [agreementKey, verifyingKey] ← value.fields? ["agreement_key", "verifying_key"] 0 | none
  return ⟨← Value.required PublicKey.ofValue? agreementKey,
    ← Value.required verifyingKeyOf? verifyingKey⟩

end IdentityKey

instance : Document IdentityKey :=
  ⟨IdentityKey.toValue, IdentityKey.ofValue?⟩

namespace PreKey

/-- A pre-key as a document. -/
def toValue (key : PreKey) : Value :=
  .ofFields [("id", .ofNat key.id.toNat), ("key_pair", key.pair.toValue)]

/-- The pre-key of a document. -/
def ofValue? (value : Value) : Option PreKey := do
  let [id, pair] ← value.fields? ["id", "key_pair"] 0 | none
  return ⟨← Value.required Value.toUInt32? id, ← Value.required KeyPair.ofValue? pair⟩

end PreKey

instance : Document PreKey :=
  ⟨PreKey.toValue, PreKey.ofValue?⟩

namespace SignedPreKey

/-- A signed pre-key as a document. -/
def toValue (key : SignedPreKey) : Value :=
  .ofFields
    [("id", .ofNat key.id.toNat), ("timestamp", .ofNat key.timestamp.toNat),
      ("key_pair", key.pair.toValue), ("signature", .ofBytes key.signature)]

/-- The signed pre-key of a document. -/
def ofValue? (value : Value) : Option SignedPreKey := do
  let [id, timestamp, pair, signature] ←
    value.fields? ["id", "timestamp", "key_pair", "signature"] 0 | none
  return ⟨← Value.required Value.toUInt32? id, ← Value.required Value.toUInt64? timestamp,
    ← Value.required KeyPair.ofValue? pair, ← Value.required Value.toBytes? signature⟩

end SignedPreKey

instance : Document SignedPreKey :=
  ⟨SignedPreKey.toValue, SignedPreKey.ofValue?⟩

namespace Address

/-- An address as a document. -/
def toValue (address : Address) : Value :=
  .ofFields [("name", .ofText address.name), ("device_id", .ofNat address.device.toNat)]

/-- The address of a document. -/
def ofValue? (value : Value) : Option Address := do
  let [name, device] ← value.fields? ["name", "device_id"] 0 | none
  return ⟨← Value.required Value.toText? name, ← Value.required Value.toUInt32? device⟩

end Address

instance : Document Address :=
  ⟨Address.toValue, Address.ofValue?⟩

end DoubleRatchet
