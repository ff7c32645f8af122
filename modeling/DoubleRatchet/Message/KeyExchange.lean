import DoubleRatchet.Message.Version
import DoubleRatchet.Wire.Field

namespace DoubleRatchet

/-!
# Key exchanges

A session can be opened interactively: one party sends its keys, the other
answers with its own.  The sequence number ties the answer to the opening, and
shares a field with the flags, which take its five lowest bits.  In the newer
version the base key is signed by the identity.
-/

/-- One leg of an interactive handshake. -/
structure KeyExchangeMessage where
  version : UInt8
  sequence : UInt32
  flags : UInt32
  baseKey : PublicKey
  baseKeySignature : Option Bytes
  ratchetKey : PublicKey
  identity : IdentityKey
  /-- A payload that is carried to the other party untouched. -/
  identityUpdate : Option Bytes
  deriving DecidableEq

namespace KeyExchangeMessage

/-- The message opens a handshake. -/
def initiateFlag : UInt32 :=
  0x01

/-- The message answers one. -/
def responseFlag : UInt32 :=
  0x02

/-- The message answers one, and its sender had opened one as well. -/
def simultaneousFlag : UInt32 :=
  0x04

/-- The bits that the flags take. -/
def flagBits : UInt32 :=
  5

/-- Whether the message opens a handshake. -/
def isInitiate (message : KeyExchangeMessage) : Bool :=
  message.flags &&& initiateFlag ≠ 0

/-- Whether the message answers a handshake. -/
def isResponse (message : KeyExchangeMessage) : Bool :=
  message.flags &&& responseFlag ≠ 0

/-- Whether the message answers a handshake that crossed with one of its sender. -/
def isSimultaneous (message : KeyExchangeMessage) : Bool :=
  message.flags &&& simultaneousFlag ≠ 0

/-- The octets of a message.  High bits of the sequence that the flags leave no
room for are lost. -/
def toBytes (message : KeyExchangeMessage) : Bytes :=
  Message.versionOctet message.version ::
    Wire.write
      (Wire.numberField 1 (message.sequence <<< flagBits ||| message.flags) ++
        Wire.octetsField 2 message.baseKey.toBytes ++
        Wire.octetsField 3 message.ratchetKey.toBytes ++
        Wire.octetsField 4 message.identity.toBytes ++
        Wire.octetsField 5 message.baseKeySignature ++
        Wire.octetsField 6 message.identityUpdate)

/-- Reads a message.  Required fields are looked for before any of them is read. -/
def ofBytes (bytes : Bytes) : Except Fault KeyExchangeMessage := do
  let (version, rest) ← Message.splitVersion bytes
  let fields ← Message.orMalformed (Wire.read? rest)
  let id? ← Message.orMalformed (Wire.number? fields 1)
  let baseKey? ← Message.orMalformed (Wire.octets? fields 2)
  let ratchetKey? ← Message.orMalformed (Wire.octets? fields 3)
  let identity? ← Message.orMalformed (Wire.octets? fields 4)
  let baseKeySignature ← Message.orMalformed (Wire.octets? fields 5)
  let identityUpdate ← Message.orMalformed (Wire.octets? fields 6)
  if currentVersion ≤ version ∧ baseKeySignature.isNone then throw (.invalid .incompleteExchange)
  match id?, baseKey?, ratchetKey?, identity? with
  | some id, some baseKey, some ratchetKey, some identity =>
    let baseKey ← Message.readKey baseKey
    let ratchetKey ← Message.readKey ratchetKey
    let identity ← Message.readIdentity identity
    return { version
             sequence := id >>> flagBits
             flags := id &&& 31
             baseKey, baseKeySignature, ratchetKey, identity, identityUpdate }
  | _, _, _, _ => throw (.invalid .incompleteExchange)

/-- Whether the base key carries a signature of the identity.  A missing signature
counts as an empty one. -/
def verifies [Suite] (message : KeyExchangeMessage) : Bool :=
  message.identity.verifies message.baseKey.toBytes (message.baseKeySignature.getD [])

end KeyExchangeMessage
end DoubleRatchet
