import DoubleRatchet.Address
import DoubleRatchet.Key.Identity

namespace DoubleRatchet

/-!
# Faults

Every operation that can fail says why.  A fault names its cause and the data
that the cause concerns; the wording is in one place, `Fault.message`, and no
decision of the library depends on it.

One distinction matters to the engine: a message that one session state
refuses may still belong to another.  Exactly the faults of the constructor
`Fault.invalid` are of that kind; every other fault is final.
-/

/-- A reason to refuse a message. -/
inductive MessageFault where
  /-- Too few octets to hold a version, a body and a tag. -/
  | tooShort
  /-- No octets at all. -/
  | empty
  /-- A body that is no sequence of fields. -/
  | malformed
  /-- A body without a required field. -/
  | incomplete
  /-- A key exchange without a required field. -/
  | incompleteExchange
  /-- A public key inside a message that cannot be read. -/
  | badKey (fault : KeyFault)
  /-- An identity inside a message that cannot be read. -/
  | badIdentity (fault : KeyFault)
  /-- A tag that is not the one of the content. -/
  | badMac
  /-- A sealed body that does not open. -/
  | notAuthentic
  /-- A session state that never sent or received. -/
  | uninitialized
  /-- A message of another version than the session's. -/
  | otherVersion (message session : UInt8)
  /-- A counter too far ahead of its chain. -/
  | tooFarAhead (counter : UInt32) (jump : Nat)
  /-- No state of the record takes the message. -/
  | noValidSession
  /-- A number that marks no kind of message. -/
  | unknownType (type : UInt8)
  /-- A key exchange where a sealed message is expected. -/
  | noCiphertext (sequence : UInt32)
  /-- A key exchange that neither opens nor answers. -/
  | undirected
  /-- A first message that names no signed pre-key. -/
  | missingSignedPreKey
  /-- A first message of the older version that names no pre-key. -/
  | missingPreKey
  deriving DecidableEq

/-- A part of a session state that an operation needs. -/
inductive StatePart where
  | localIdentity
  | remoteIdentity
  | rootKey
  | senderChain
  | receiverChain
  deriving DecidableEq

/-- A reason why the state of a session, or the host, does not admit an operation. -/
inductive StateFault where
  /-- More key material than one derivation gives. -/
  | derivationLength
  /-- A text that is too long to be sealed. -/
  | sealing
  /-- A part of the session state that is not there. -/
  | missing (part : StatePart)
  /-- A refusal by the host, in its own words. -/
  | host (reason : String)
  deriving DecidableEq

/-- A failure of an operation. -/
inductive Fault where
  /-- Key material that is malformed or carries no valid signature. -/
  | invalidKey (fault : KeyFault)
  /-- A pre-key that is unknown or used up. -/
  | unknownPreKey (id : UInt32)
  /-- An identity that differs from the one pinned for a name. -/
  | untrusted (name : String) (identity : IdentityKey)
  /-- No session with an address. -/
  | noSession (address : Address)
  /-- A counter below the index of its chain, whose keys are gone. -/
  | duplicate (index counter : UInt32)
  /-- A message that this state, or this reader, refuses. -/
  | invalid (fault : MessageFault)
  /-- A message of a version that is no longer read. -/
  | legacyVersion (version : UInt8)
  /-- A message of a version that is not read yet. -/
  | unknownVersion (version : UInt8)
  /-- An answer to a key exchange that is not pending. -/
  | staleExchange (sequence : UInt32)
  /-- A state that does not admit the operation. -/
  | invalidState (fault : StateFault)
  /-- A document that cannot be read. -/
  | document
  deriving DecidableEq

namespace MessageFault

/-- The wording of a reason. -/
def message : MessageFault -> String
  | tooShort => "message too short"
  | empty => "empty message"
  | malformed => "malformed protobuf"
  | incomplete => "incomplete message"
  | incompleteExchange => "key exchange is missing required fields"
  | badKey fault => "bad key in message: Invalid key: " ++ fault.message
  | badIdentity fault => "bad identity in message: Invalid key: " ++ fault.message
  | badMac => "bad MAC"
  | notAuthentic => "ciphertext failed authentication"
  | uninitialized => "uninitialized session"
  | otherVersion message session => s!"message version {message}, session version {session}"
  | tooFarAhead counter jump => s!"counter {counter} is {jump} messages ahead of the chain"
  | noValidSession => "no valid sessions"
  | unknownType type => s!"unknown message type {type}"
  | noCiphertext sequence =>
    s!"key exchange {sequence} carries no ciphertext; process it with SessionBuilder"
  | undirected => "key exchange is neither initiate nor response"
  | missingSignedPreKey => "missing signed pre-key id"
  | missingPreKey => "v2 message without pre-key id"

end MessageFault

namespace StatePart

/-- The name of a part. -/
def name : StatePart -> String
  | localIdentity => "local identity key"
  | remoteIdentity => "remote identity key"
  | rootKey => "root key"
  | senderChain => "sender chain"
  | receiverChain => "receiver chain"

end StatePart

namespace StateFault

/-- The wording of a reason. -/
def message : StateFault -> String
  | derivationLength => "hkdf output length"
  | sealing => "encryption failed"
  | missing part => "missing " ++ part.name
  | host reason => reason

end StateFault

namespace Fault

/-- The wording of a failure. -/
def message : Fault -> String
  | invalidKey fault => "Invalid key: " ++ fault.message
  | unknownPreKey id => s!"No such pre-key id: {id}"
  | untrusted name identity => "Untrusted identity for " ++ name ++ ": " ++ identity.fingerprint
  | noSession address => "No session for " ++ address.description
  | duplicate index counter => s!"Duplicate message: chain index {index}, counter {counter}"
  | invalid fault => "Invalid message: " ++ fault.message
  | legacyVersion version => s!"Legacy message version {version}"
  | unknownVersion version => s!"Unsupported message version {version}"
  | staleExchange sequence => s!"Stale key exchange, sequence {sequence}"
  | invalidState fault => "Invalid session state: " ++ fault.message
  | document => "Serialization failed"

end Fault
end DoubleRatchet
