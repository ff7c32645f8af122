import DoubleRatchet.Message.Whisper

namespace DoubleRatchet

/-!
# First messages

Until the other party has answered, a sealed message travels inside one that
repeats the handshake: which pre-keys were used, the base key and the identity
of the sender.  The older version of the handshake names a one-time pre-key,
the newer one a signed pre-key, and a message that does not name the key of
its version is incomplete.

The embedded message keeps its octets.
-/

/-- A sealed message with the handshake that its session was opened by. -/
structure PreKeyWhisperMessage where
  version : UInt8
  registrationId : UInt32
  preKeyId : Option UInt32
  signedPreKeyId : Option UInt32
  baseKey : PublicKey
  identity : IdentityKey
  message : WhisperMessage
  deriving DecidableEq

namespace PreKeyWhisperMessage

/-- The octets of a message. -/
def toBytes (message : PreKeyWhisperMessage) : Bytes :=
  Message.versionOctet message.version ::
    Wire.write
      (Wire.numberField 1 message.preKeyId ++ Wire.octetsField 2 message.baseKey.toBytes ++
        Wire.octetsField 3 message.identity.toBytes ++
        Wire.octetsField 4 message.message.toBytes ++
        Wire.numberField 5 message.registrationId ++ Wire.numberField 6 message.signedPreKeyId)

/-- Whether the pre-key that a version needs is named. -/
def namesPreKey (version : UInt8) (preKeyId signedPreKeyId : Option UInt32) : Bool :=
  if version < currentVersion then preKeyId.isSome else signedPreKeyId.isSome

/-- Reads a message.  Required fields are looked for before any of them is read. -/
def ofBytes (bytes : Bytes) : Except Fault PreKeyWhisperMessage := do
  let (version, rest) ← Message.splitVersion bytes
  let fields ← Message.orMalformed (Wire.read? rest)
  let preKeyId ← Message.orMalformed (Wire.number? fields 1)
  let baseKey? ← Message.orMalformed (Wire.octets? fields 2)
  let identity? ← Message.orMalformed (Wire.octets? fields 3)
  let message? ← Message.orMalformed (Wire.octets? fields 4)
  let registrationId? ← Message.orMalformed (Wire.number? fields 5)
  let signedPreKeyId ← Message.orMalformed (Wire.number? fields 6)
  if !namesPreKey version preKeyId signedPreKeyId then throw (.invalid .incomplete)
  match baseKey?, identity?, message? with
  | some baseKey, some identity, some message =>
    let baseKey ← Message.readKey baseKey
    let identity ← Message.readIdentity identity
    let message ← WhisperMessage.ofBytes message
    return { version
             registrationId := registrationId?.getD 0
             preKeyId, signedPreKeyId, baseKey, identity, message }
  | _, _, _ => throw (.invalid .incomplete)

end PreKeyWhisperMessage
end DoubleRatchet
