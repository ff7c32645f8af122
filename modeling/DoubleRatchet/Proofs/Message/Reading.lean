import DoubleRatchet.Message.KeyExchange
import DoubleRatchet.Message.PreKeyWhisper
import DoubleRatchet.Proofs.Wire.Field

namespace DoubleRatchet

/-!
# Messages read back

A message that was made here is read as it was made.  The octets that the tag covers
come back with it, so the tag is found right whenever it is checked under the key and
for the identities that it was made with.

Two conditions remain.  The version must be one that is spoken, since it is cut to
four bits and others are refused, and the sealed text must be short enough for the
length of its field.
-/

namespace Wire

theorem length_encodeWithin_le (room value : Nat) :
    (Varint.encodeWithin room value).length ≤ room := by
  induction room generalizing value with
  | zero => exact Nat.le_refl 0
  | succ room ih =>
    unfold Varint.encodeWithin
    split
    · exact Nat.succ_le_succ (Nat.zero_le room)
    · exact Nat.succ_le_succ (ih _)

theorem length_encode_le (value : Nat) : (Varint.encode value).length ≤ 10 :=
  length_encodeWithin_le 10 value

theorem length_octetsField_le (number : Nat) (bytes : Bytes) :
    (write (octetsField number (some bytes))).length ≤ bytes.length + 20 := by
  have key := length_encode_le (8 * number + 2)
  have prefixed := length_encode_le bytes.length
  change (Varint.encode (8 * number + 2) ++ Varint.encode bytes.length ++ bytes ++ []).length ≤ _
  rw [List.append_nil, List.length_append, List.length_append]
  omega

theorem length_numberField_le (number : Nat) (value : UInt32) :
    (write (numberField number (some value))).length ≤ 20 := by
  have key := length_encode_le (8 * number)
  have content := length_encode_le value.toNat
  change (Varint.encode (8 * number) ++ Varint.encode value.toNat ++ []).length ≤ 20
  rw [List.append_nil, List.length_append]
  omega

theorem write_append (first second : List Field) :
    write (first ++ second) = write first ++ write second :=
  List.flatMap_append

/-- Fields that can be read back. -/
def AllWritable (fields : List Field) : Prop :=
  ∀ field ∈ fields, field.Writable

theorem AllWritable.append {first second : List Field} (firstWritable : AllWritable first)
    (secondWritable : AllWritable second) : AllWritable (first ++ second) := by
  intro field member
  rcases List.mem_append.mp member with early | late
  · exact firstWritable field early
  · exact secondWritable field late

theorem allWritable_octets {number : Nat} (positive : 0 < number) (bounded : number < 2 ^ 28)
    {bytes : Bytes} (short : bytes.length < 2 ^ 64) :
    AllWritable (octetsField number (some bytes)) := by
  apply writable_octetsField positive bounded
  intro other same
  cases same
  exact short

/-- There is room for a public key. -/
theorem allWritable_key {number : Nat} (positive : 0 < number) (bounded : number < 2 ^ 28)
    (key : PublicKey) : AllWritable (octetsField number (some key.toBytes)) := by
  apply allWritable_octets positive bounded
  rw [PublicKey.length_toBytes]
  decide

/-- There is room for an identity. -/
theorem allWritable_identity {number : Nat} (positive : 0 < number) (bounded : number < 2 ^ 28)
    (identity : IdentityKey) : AllWritable (octetsField number (some identity.toBytes)) := by
  apply allWritable_octets positive bounded
  rw [IdentityKey.length_toBytes]
  decide

end Wire

namespace Message

/-- The versions that are spoken. -/
def Spoken (version : UInt8) : Prop :=
  version = oldestVersion ∨ version = currentVersion

/-- A version that is spoken is found again in front of a message. -/
theorem splitVersion_versionOctet {version : UInt8} (spoken : Spoken version) (body : Bytes) :
    splitVersion (versionOctet version :: body) = .ok (version, body) := by
  rcases spoken with rfl | rfl
  · rfl
  · rfl

/-- No other version is read. -/
theorem spoken_of_splitVersion {bytes rest : Bytes} {version : UInt8}
    (splits : splitVersion bytes = .ok (version, rest)) : Spoken version := by
  cases bytes with
  | nil => cases splits
  | cons octet body =>
    simp only [splitVersion] at splits
    split at splits
    · cases splits
    · next notOlder =>
      split at splits
      · cases splits
      · next notNewer =>
        cases splits
        rw [UInt8.not_lt, UInt8.le_iff_toNat_le] at notOlder notNewer
        have least : 2 ≤ (octet >>> 4).toNat := notOlder
        have most : (octet >>> 4).toNat ≤ 3 := notNewer
        rcases (by omega : (octet >>> 4).toNat = 2 ∨ (octet >>> 4).toNat = 3) with two | three
        · exact .inl (UInt8.toNat_inj.mp two)
        · exact .inr (UInt8.toNat_inj.mp three)

/-- A message is read part by part. -/
theorem bind_eq_ok {α β : Type} {reader : Except Fault α} {next : α -> Except Fault β}
    {result : β} : reader >>= next = .ok result ↔
      ∃ value, reader = .ok value ∧ next value = .ok result := by
  constructor
  · intro reads
    cases reader with
    | error fault => cases reads
    | ok value => exact ⟨value, rfl, reads⟩
  · rintro ⟨_, rfl, reads⟩
    exact reads

theorem readKey_toBytes (key : PublicKey) : readKey key.toBytes = .ok key := by
  unfold readKey
  rw [PublicKey.ofBytes_toBytes]
  rfl

theorem readIdentity_toBytes (identity : IdentityKey) :
    readIdentity identity.toBytes = .ok identity := by
  unfold readIdentity
  rw [IdentityKey.ofBytes_toBytes]
  rfl

end Message

namespace WhisperMessage

variable [Suite] {version : UInt8} {macKey : Octets 32} {ratchetKey : PublicKey}
  {counter previousCounter : UInt32} {body : Bytes} {sender receiver : IdentityKey}

theorem length_tag (macKey : Octets 32) (sender receiver : IdentityKey) (content : Bytes) :
    (tag macKey sender receiver content).length = tagLength := by
  unfold tag
  rw [List.length_take, Octets.length_toList]
  rfl

/-- The octets before the tag are the content. -/
theorem authenticated_create : (create version macKey ratchetKey counter previousCounter body sender
    receiver).authenticated = content version ratchetKey counter previousCounter body := by
  unfold authenticated create
  dsimp only
  rw [List.length_append, length_tag, Nat.add_sub_cancel, List.take_left']
  rfl

/-- A message carries the tag that it was made with. -/
theorem verifies_create : (create version macKey ratchetKey counter previousCounter body sender
    receiver).verifies macKey sender receiver = true := by
  have tagged : (create version macKey ratchetKey counter previousCounter body sender
      receiver).carriedTag = tag macKey sender receiver
        (content version ratchetKey counter previousCounter body) := by
    unfold carriedTag create
    dsimp only
    rw [List.length_append, length_tag, Nat.add_sub_cancel, List.drop_left']
    rfl
  unfold verifies
  rw [tagged, authenticated_create]
  exact decide_eq_true rfl

/-- The handshake around a message has room for it. -/
theorem length_create_le : (create version macKey ratchetKey counter previousCounter body sender
    receiver).toBytes.length ≤ body.length + 142 := by
  have key := Wire.length_octetsField_le 1 ratchetKey.toBytes
  have text := Wire.length_octetsField_le 4 body
  have number := Wire.length_numberField_le 2 counter
  have previous := Wire.length_numberField_le 3 previousCounter
  rw [PublicKey.length_toBytes] at key
  unfold create content
  dsimp only
  rw [List.length_append, length_tag, List.length_cons, Wire.write_append, Wire.write_append,
    Wire.write_append, List.length_append, List.length_append, List.length_append]
  unfold tagLength
  omega

/-- A message of a spoken version is read as it was made. -/
theorem ofBytes_create (spoken : Message.Spoken version) (short : body.length < 2 ^ 63) :
    ofBytes (create version macKey ratchetKey counter previousCounter body sender
      receiver).toBytes =
      .ok (create version macKey ratchetKey counter previousCounter body sender receiver) := by
  let fields := Wire.octetsField 1 ratchetKey.toBytes ++ Wire.numberField 2 counter ++
    Wire.numberField 3 previousCounter ++ Wire.octetsField 4 body
  have content_eq : content version ratchetKey counter previousCounter body =
      Message.versionOctet version :: Wire.write fields := rfl
  have long : ¬ (create version macKey ratchetKey counter previousCounter body sender
      receiver).toBytes.length ≤ tagLength := by
    unfold create
    dsimp only
    rw [List.length_append, length_tag, content_eq, List.length_cons]
    omega
  have writable : Wire.AllWritable fields := by
    have key : Wire.AllWritable (Wire.octetsField 1 ratchetKey.toBytes) :=
      Wire.allWritable_key (by decide) (by decide) ratchetKey
    have number : Wire.AllWritable (Wire.numberField 2 counter) :=
      Wire.writable_numberField (by decide) (by decide) counter
    have previous : Wire.AllWritable (Wire.numberField 3 previousCounter) :=
      Wire.writable_numberField (by decide) (by decide) previousCounter
    have text : Wire.AllWritable (Wire.octetsField 4 body) :=
      Wire.allWritable_octets (by decide) (by decide) (by omega)
    exact ((key.append number).append previous).append text
  have covered : (create version macKey ratchetKey counter previousCounter body sender
      receiver).toBytes.take ((create version macKey ratchetKey counter previousCounter body sender
        receiver).toBytes.length - tagLength) =
      Message.versionOctet version :: Wire.write fields := authenticated_create
  have counterRead : UInt32.ofNat counter.toNat = counter := UInt32.ofNat_toNat
  have previousRead : UInt32.ofNat previousCounter.toNat = previousCounter := UInt32.ofNat_toNat
  have first : Wire.octets? fields 1 = some (some ratchetKey.toBytes) := rfl
  have second : Wire.number? fields 2 = some (some counter) := by
    rw [← counterRead]
    rfl
  have third : Wire.number? fields 3 = some (some previousCounter) := by
    rw [← previousRead]
    rfl
  have fourth : Wire.octets? fields 4 = some (some body) := rfl
  unfold ofBytes
  rw [if_neg long, covered, Message.splitVersion_versionOctet spoken]
  simp only [Except.bind, bind, Wire.read?_write writable, Message.orMalformed, first,
    second, third, fourth, Message.readKey_toBytes]
  rfl

end WhisperMessage

namespace PreKeyWhisperMessage

/-- A message names the pre-key of its version. -/
def Complete (message : PreKeyWhisperMessage) : Prop :=
  namesPreKey message.version message.preKeyId message.signedPreKeyId = true

/-- A first message of a spoken version is read as it was made, if the message inside is
and its handshake names the pre-key of its version. -/
theorem ofBytes_toBytes {message : PreKeyWhisperMessage} (spoken : Message.Spoken message.version)
    (complete : message.Complete) (short : message.message.toBytes.length < 2 ^ 64)
    (inner : WhisperMessage.ofBytes message.message.toBytes = .ok message.message) :
    ofBytes message.toBytes = .ok message := by
  obtain ⟨version, registrationId, preKeyId, signedPreKeyId, baseKey, identity, embedded⟩ := message
  let fields := Wire.numberField 1 preKeyId ++ Wire.octetsField 2 baseKey.toBytes ++
    Wire.octetsField 3 identity.toBytes ++ Wire.octetsField 4 embedded.toBytes ++
    Wire.numberField 5 registrationId ++ Wire.numberField 6 signedPreKeyId
  have writable : Wire.AllWritable fields := by
    have oneTime : Wire.AllWritable (Wire.numberField 1 preKeyId) :=
      Wire.writable_numberField (by decide) (by decide) preKeyId
    have base : Wire.AllWritable (Wire.octetsField 2 baseKey.toBytes) :=
      Wire.allWritable_key (by decide) (by decide) baseKey
    have sender : Wire.AllWritable (Wire.octetsField 3 identity.toBytes) :=
      Wire.allWritable_identity (by decide) (by decide) identity
    have inside : Wire.AllWritable (Wire.octetsField 4 embedded.toBytes) :=
      Wire.allWritable_octets (by decide) (by decide) short
    have registered : Wire.AllWritable (Wire.numberField 5 registrationId) :=
      Wire.writable_numberField (by decide) (by decide) registrationId
    have signed : Wire.AllWritable (Wire.numberField 6 signedPreKeyId) :=
      Wire.writable_numberField (by decide) (by decide) signedPreKeyId
    exact ((((oneTime.append base).append sender).append inside).append registered).append signed
  have toBytes_eq : toBytes ⟨version, registrationId, preKeyId, signedPreKeyId, baseKey, identity,
      embedded⟩ = Message.versionOctet version :: Wire.write fields := rfl
  have first : Wire.number? fields 1 = some preKeyId := by
    cases preKeyId <;> cases signedPreKeyId <;>
      simp [fields, Wire.number?, Wire.numberField, Wire.octetsField]
  have second : Wire.octets? fields 2 = some (some baseKey.toBytes) := by
    cases preKeyId <;> cases signedPreKeyId <;> rfl
  have third : Wire.octets? fields 3 = some (some identity.toBytes) := by
    cases preKeyId <;> cases signedPreKeyId <;> rfl
  have fourth : Wire.octets? fields 4 = some (some embedded.toBytes) := by
    cases preKeyId <;> cases signedPreKeyId <;> rfl
  have fifth : Wire.number? fields 5 = some (some registrationId) := by
    cases preKeyId <;> cases signedPreKeyId <;>
      simp [fields, Wire.number?, Wire.numberField, Wire.octetsField]
  have sixth : Wire.number? fields 6 = some signedPreKeyId := by
    cases preKeyId <;> cases signedPreKeyId <;>
      simp [fields, Wire.number?, Wire.numberField, Wire.octetsField]
  have named : namesPreKey version preKeyId signedPreKeyId = true := complete
  unfold ofBytes
  rw [toBytes_eq, Message.splitVersion_versionOctet spoken]
  simp only [Except.bind, bind, Wire.read?_write writable, Message.orMalformed, first, second,
    third, fourth, fifth, sixth, named, Message.readKey_toBytes, Message.readIdentity_toBytes]
  rw [inner]
  rfl

end PreKeyWhisperMessage

end DoubleRatchet
