import DoubleRatchet.Message.Version
import DoubleRatchet.Wire.Field

namespace DoubleRatchet

/-!
# Sealed messages

A sealed message is a version octet, a body of fields and a tag.  The tag is
cut from a keyed digest over the identity of the sender, that of the receiver
and everything before the tag, so that a message cannot be passed off as one
between other parties.

The octets of a message are kept as they came.  Two spellings of one body are
different messages to the tag, and only the spelling that was authenticated may
be checked against it.
-/

/-- A sealed message. -/
structure WhisperMessage where
  version : UInt8
  ratchetKey : PublicKey
  counter : UInt32
  previousCounter : UInt32
  /-- The sealed text. -/
  body : Bytes
  /-- The octets of the whole message, tag included. -/
  toBytes : Bytes
  deriving DecidableEq

namespace WhisperMessage

/-- The octets of a tag. -/
def tagLength : Nat :=
  8

/-- The version octet and the body of a message. -/
def content (version : UInt8) (ratchetKey : PublicKey) (counter previousCounter : UInt32)
    (body : Bytes) : Bytes :=
  Message.versionOctet version ::
    Wire.write
      (Wire.octetsField 1 ratchetKey.toBytes ++ Wire.numberField 2 counter ++
        Wire.numberField 3 previousCounter ++ Wire.octetsField 4 body)

/-- The tag over a content. -/
def tag [Suite] (macKey : Octets 32) (sender receiver : IdentityKey) (content : Bytes) : Bytes :=
  (Suite.mac macKey.toList (sender.toBytes ++ receiver.toBytes ++ content)).toList.take tagLength

/-- A message with its tag. -/
def create [Suite] (version : UInt8) (macKey : Octets 32) (ratchetKey : PublicKey)
    (counter previousCounter : UInt32) (body : Bytes) (sender receiver : IdentityKey) :
    WhisperMessage :=
  let content := content version ratchetKey counter previousCounter body
  { version, ratchetKey, counter, previousCounter, body
    toBytes := content ++ tag macKey sender receiver content }

/-- Reads a message.  Its tag is not checked, for lack of the key. -/
def ofBytes (bytes : Bytes) : Except Fault WhisperMessage := do
  if bytes.length ≤ tagLength then throw (.invalid .tooShort)
  let (version, rest) ← Message.splitVersion (bytes.take (bytes.length - tagLength))
  let fields ← Message.orMalformed (Wire.read? rest)
  let ratchetKey? ← Message.orMalformed (Wire.octets? fields 1)
  let counter? ← Message.orMalformed (Wire.number? fields 2)
  let previousCounter? ← Message.orMalformed (Wire.number? fields 3)
  let body? ← Message.orMalformed (Wire.octets? fields 4)
  match ratchetKey?, counter?, body? with
  | some ratchetKey, some counter, some body =>
    let ratchetKey ← Message.readKey ratchetKey
    return { version, ratchetKey, counter
             previousCounter := previousCounter?.getD 0
             body
             toBytes := bytes }
  | _, _, _ => throw (.invalid .incomplete)

/-- Everything before the tag. -/
def authenticated (message : WhisperMessage) : Bytes :=
  message.toBytes.take (message.toBytes.length - tagLength)

/-- The tag that the message carries. -/
def carriedTag (message : WhisperMessage) : Bytes :=
  message.toBytes.drop (message.toBytes.length - tagLength)

/-- Whether the message carries the tag of its content. -/
def verifies [Suite] (message : WhisperMessage) (macKey : Octets 32)
    (sender receiver : IdentityKey) : Bool :=
  message.carriedTag = tag macKey sender receiver message.authenticated

/-- Checks the tag. -/
def checkTag [Suite] (message : WhisperMessage) (macKey : Octets 32)
    (sender receiver : IdentityKey) : Except Fault Unit :=
  if message.verifies macKey sender receiver then .ok () else .error (.invalid .badMac)

end WhisperMessage
end DoubleRatchet
