import DoubleRatchet.Session.Chains

namespace DoubleRatchet

/-!
# Session states

A state is what one party knows of one session with one device: the identities
of both, the root key, the sender chain, the receiver chains and what is left
of the handshake.  Everything but the counters may be absent, because a state
exists before its session does.

The state that was never negotiated stores version zero and reports the
oldest version.
-/

/-- The newest version of the protocol. -/
def currentVersion : UInt8 :=
  3

/-- The oldest version of the protocol that is still spoken. -/
def oldestVersion : UInt8 :=
  2

/-- This side's half of a key exchange that has not been answered. -/
structure PendingExchange where
  sequence : UInt32
  baseKey : KeyPair
  ratchetKey : KeyPair
  deriving DecidableEq, Inhabited

/-- The marker that outgoing messages still carry the handshake. -/
structure PendingPreKey where
  preKeyId : Option UInt32
  signedPreKeyId : Option UInt32
  baseKey : PublicKey
  deriving DecidableEq, Inhabited

/-- One session with one device. -/
structure SessionState where
  storedVersion : UInt8
  localIdentity : Option IdentityKey
  remoteIdentity : Option IdentityKey
  rootKey : Option RootKey
  previousCounter : UInt32
  sender : Option SenderChain
  /-- The receiver chains, oldest first. -/
  receivers : List ReceiverChain
  pendingExchange : Option PendingExchange
  pendingPreKey : Option PendingPreKey
  remoteRegistrationId : UInt32
  localRegistrationId : UInt32
  /-- The base key of the party that opened the session by a bundle. -/
  initiatorBaseKey : Option PublicKey
  deriving DecidableEq

namespace SessionState

/-- The state before any handshake. -/
def empty : SessionState where
  storedVersion := 0
  localIdentity := none
  remoteIdentity := none
  rootKey := none
  previousCounter := 0
  sender := none
  receivers := []
  pendingExchange := none
  pendingPreKey := none
  remoteRegistrationId := 0
  localRegistrationId := 0
  initiatorBaseKey := none

instance : Inhabited SessionState := ⟨empty⟩

/-- The version that the state reports. -/
def version (state : SessionState) : UInt8 :=
  if state.storedVersion = 0 then oldestVersion else state.storedVersion

/-- Whether the state can send, which is when its session is established. -/
def established (state : SessionState) : Bool :=
  state.sender.isSome

/-- The value of a part that an operation needs. -/
def require {α : Type} (part : StatePart) : Option α -> Except Fault α
  | some value => .ok value
  | none => .error (.invalidState (.missing part))

/-- The local identity, which must be there. -/
def requireLocalIdentity (state : SessionState) : Except Fault IdentityKey :=
  require .localIdentity state.localIdentity

/-- The remote identity, which must be there. -/
def requireRemoteIdentity (state : SessionState) : Except Fault IdentityKey :=
  require .remoteIdentity state.remoteIdentity

/-- The root key, which must be there. -/
def requireRootKey (state : SessionState) : Except Fault RootKey :=
  require .rootKey state.rootKey

/-- The sender chain, which must be there. -/
def requireSender (state : SessionState) : Except Fault SenderChain :=
  require .senderChain state.sender

/-- The oldest receiver chain for a ratchet key. -/
def receiver? (state : SessionState) (ratchetKey : PublicKey) : Option ReceiverChain :=
  state.receivers.find? fun chain => chain.ratchetKey = ratchetKey

/-- The oldest receiver chain for a ratchet key, which must be there. -/
def requireReceiver (state : SessionState) (ratchetKey : PublicKey) : Except Fault ReceiverChain :=
  require .receiverChain (state.receiver? ratchetKey)

/-- Puts a receiver chain in the place of the oldest one for the same ratchet key. -/
def putReceiver (state : SessionState) (chain : ReceiverChain) : SessionState :=
  { state with receivers := chain.replaceIn state.receivers }

/-- The state with a new receiver chain, without the oldest beyond the bound. -/
def addReceiver (state : SessionState) (ratchetKey : PublicKey) (chainKey : ChainKey)
    (bound : Nat) : SessionState :=
  let chains := state.receivers ++ [⟨ratchetKey, chainKey, .empty⟩]
  { state with receivers := chains.drop (chains.length - bound) }

/-- What is reported when a receiver chain is added: the chains that this drops. -/
def droppedByAdding (state : SessionState) (ratchetKey : PublicKey) (chainKey : ChainKey)
    (bound : Nat) : List Event :=
  let chains := state.receivers ++ [⟨ratchetKey, chainKey, .empty⟩]
  (chains.take (chains.length - bound)).map fun chain =>
    .receiverChainDropped chain.ratchetKey chain.skipped.size

/-- Whether keys of a skipped message are filed. -/
def hasSkipped (state : SessionState) (ratchetKey : PublicKey) (counter : UInt32) : Bool :=
  (state.receiver? ratchetKey).any fun chain => chain.skipped.contains counter

/-- Takes the keys of a skipped message out of the state. -/
def takeSkipped (state : SessionState) (ratchetKey : PublicKey) (counter : UInt32) :
    Option MessageKeys × SessionState :=
  match state.receiver? ratchetKey with
  | none => (none, state)
  | some chain =>
    match chain.skipped.take? counter with
    | none => (none, state)
    | some (keys, skipped) => (some keys, state.putReceiver { chain with skipped })

/-- Files the keys of a skipped message. -/
def fileSkipped (state : SessionState) (ratchetKey : PublicKey) (keys : MessageKeys)
    (capacity : Nat) : Except Fault SessionState := do
  let chain ← state.requireReceiver ratchetKey
  return state.putReceiver { chain with skipped := chain.skipped.insert keys capacity }

/-- Replaces the chain key of a receiver chain. -/
def setReceiverChainKey (state : SessionState) (ratchetKey : PublicKey) (chainKey : ChainKey) :
    Except Fault SessionState := do
  let chain ← state.requireReceiver ratchetKey
  return state.putReceiver { chain with chainKey }

/-- Replaces the chain key of the sender chain. -/
def setSenderChainKey (state : SessionState) (chainKey : ChainKey) :
    Except Fault SessionState := do
  let chain ← state.requireSender
  return { state with sender := some { chain with chainKey } }

end SessionState
end DoubleRatchet
