import DoubleRatchet.Proofs.Json.Shape
import DoubleRatchet.Stored.Keys

namespace DoubleRatchet

/-!
# Stored keys read back

Keys, pairs, identities and pre-keys are read from their documents as they were
written.  An identity needs no condition, because its verifying key carries the
proof that it is a point.
-/

open Json (Faithful Value)

theorem PublicKey.faithful : Faithful PublicKey.toValue PublicKey.ofValue? where
  isPlain _ := Value.isPlain_ofBytes _
  ne_null _ := nofun
  read_write key := by
    rw [PublicKey.ofValue?, PublicKey.toValue, Value.toOctets?_ofBytes, Option.map_some]

theorem PrivateKey.faithful : Faithful PrivateKey.toValue PrivateKey.ofValue? where
  isPlain _ := Value.isPlain_ofBytes _
  ne_null _ := nofun
  read_write key := by
    rw [PrivateKey.ofValue?, PrivateKey.toValue, Value.toOctets?_ofBytes, Option.map_some]

theorem KeyPair.faithful : Faithful KeyPair.toValue KeyPair.ofValue? :=
  .ofFields ["public_key", "private_key"]
    (fun pair => [pair.publicKey.toValue, pair.privateKey.toValue]) 0
    (fun _ => rfl) (by decide) (by decide) (fun _ => rfl)
    (fun pair => by simp [PublicKey.faithful.isPlain, PrivateKey.faithful.isPlain])
    fun pair fields => by
      rw [KeyPair.ofValue?, fields]
      simp [Value.required, PublicKey.faithful.read_write, PrivateKey.faithful.read_write]

theorem IdentityKey.verifyingKeyOf?_ofBytes (key : VerifyingKey) :
    verifyingKeyOf? (.ofBytes key.octets.toList) = some key := by
  simp [verifyingKeyOf?, Value.toOctets?_ofBytes]

theorem IdentityKey.faithful : Faithful IdentityKey.toValue IdentityKey.ofValue? :=
  .ofFields ["agreement_key", "verifying_key"]
    (fun identity => [identity.agreementKey.toValue,
      .ofBytes identity.verifyingKey.octets.toList]) 0
    (fun _ => rfl) (by decide) (by decide) (fun _ => rfl)
    (fun identity => by simp [PublicKey.faithful.isPlain, Value.isPlain_ofBytes])
    fun identity fields => by
      rw [IdentityKey.ofValue?, fields]
      simp [Value.required, PublicKey.faithful.read_write, verifyingKeyOf?_ofBytes]

theorem PreKey.faithful : Faithful PreKey.toValue PreKey.ofValue? :=
  .ofFields ["id", "key_pair"] (fun key => [.ofNat key.id.toNat, key.pair.toValue]) 0
    (fun _ => rfl) (by decide) (by decide) (fun _ => rfl)
    (fun key => by simp [KeyPair.faithful.isPlain, Value.isPlain_ofNat])
    fun key fields => by
      rw [PreKey.ofValue?, fields]
      simp [Value.required, Value.toUInt32?_ofNat, KeyPair.faithful.read_write]

theorem SignedPreKey.faithful : Faithful SignedPreKey.toValue SignedPreKey.ofValue? :=
  .ofFields ["id", "timestamp", "key_pair", "signature"]
    (fun key => [.ofNat key.id.toNat, .ofNat key.timestamp.toNat, key.pair.toValue,
      .ofBytes key.signature]) 0
    (fun _ => rfl) (by decide) (by decide) (fun _ => rfl)
    (fun key => by
      simp [KeyPair.faithful.isPlain, Value.isPlain_ofNat, Value.isPlain_ofBytes])
    fun key fields => by
      rw [SignedPreKey.ofValue?, fields]
      simp [Value.required, Value.toUInt32?_ofNat, Value.toUInt64?_ofNat,
        KeyPair.faithful.read_write, Value.toBytes?_ofBytes]

end DoubleRatchet
