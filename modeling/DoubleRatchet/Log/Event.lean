import DoubleRatchet.Fault
import DoubleRatchet.Log.Level

namespace DoubleRatchet

/-!
# Events

What the engine reports while it works.  An event names what happened and to
whom; its level, the part of the engine it comes from and its wording are
functions of it.  Events are kept when the operation that reported them fails.
-/

/-- The part of the engine that reports an event. -/
inductive Origin where
  | ratchet
  | state
  | record
  | negotiation
  | establishment
  | transport
  | pins
  deriving DecidableEq

/-- Something worth reporting. -/
inductive Event where
  /-- The keys of a skipped message were given up. -/
  | skippedKeyEvicted (counter : UInt32)
  /-- A receiver chain was given up, with the keys it still held. -/
  | receiverChainDropped (ratchetKey : PublicKey) (skipped : Nat)
  /-- The oldest archived state was given up. -/
  | archivedStateEvicted
  /-- This side opens the session of a key exchange. -/
  | initiatorRole
  /-- This side answers the session of a key exchange. -/
  | responderRole
  | untrustedIdentity (identity : IdentityKey) (address : Address)
  | sessionStarted (version : UInt8) (address : Address) (baseKey : PublicKey)
  | handshakeKnown (baseKey : PublicKey)
  | preKeyGone (id : UInt32)
  | sessionAccepted (version : UInt8) (address : Address) (baseKey : PublicKey)
  | exchangeInitiated (sequence : UInt32) (address : Address)
  | exchangeSimultaneous (address : Address)
  | responseIgnored (sequence : UInt32)
  | responseStale (sequence : UInt32) (address : Address)
  | exchangeCompleted (sequence : UInt32) (address : Address)
  | encrypted (index : UInt32) (address : Address)
  | preKeyConsumed (id : UInt32) (address : Address)
  | sessionUntrusted (address : Address) (identity : IdentityKey)
  | currentRefused (fault : MessageFault)
  | archivedPromoted (place : Nat) (address : Address)
  | ratchetStepped (ratchetKey : PublicKey) (address : Address)
  | keysSkipped (count : Nat)
  | sessionsEnded (name : String)
  | identityChanged (name : String) (old new : IdentityKey)
  deriving DecidableEq

namespace Event

/-- Where an event comes from. -/
def origin : Event -> Origin
  | skippedKeyEvicted _ => .ratchet
  | receiverChainDropped .. => .state
  | archivedStateEvicted => .record
  | initiatorRole | responderRole => .negotiation
  | untrustedIdentity .. | sessionStarted .. | handshakeKnown _ | preKeyGone _
  | sessionAccepted .. | exchangeInitiated .. | exchangeSimultaneous _ | responseIgnored _
  | responseStale .. | exchangeCompleted .. => .establishment
  | encrypted .. | preKeyConsumed .. | sessionUntrusted .. | currentRefused _
  | archivedPromoted .. | ratchetStepped .. | keysSkipped _ | sessionsEnded _ => .transport
  | identityChanged .. => .pins

/-- How much an event matters. -/
def level : Event -> Level
  | untrustedIdentity .. | responseStale .. | sessionUntrusted .. => .warn
  | sessionStarted .. | sessionAccepted .. | exchangeCompleted .. | preKeyConsumed ..
  | archivedPromoted .. | sessionsEnded _ | identityChanged .. => .info
  | encrypted .. => .trace
  | skippedKeyEvicted _ | receiverChainDropped .. | archivedStateEvicted | initiatorRole
  | responderRole | handshakeKnown _ | preKeyGone _ | exchangeInitiated ..
  | exchangeSimultaneous _ | responseIgnored _ | currentRefused _ | ratchetStepped ..
  | keysSkipped _ => .debug

/-- The wording of an event. -/
def text : Event -> String
  | skippedKeyEvicted counter => s!"Evicting skipped message key {counter}"
  | receiverChainDropped key skipped =>
    "Dropping receiver chain " ++ key.short ++ s!" ({skipped} skipped keys)"
  | archivedStateEvicted => "Evicted oldest archived session state"
  | initiatorRole => "Key exchange: taking initiator role"
  | responderRole => "Key exchange: taking responder role"
  | untrustedIdentity identity address =>
    "Rejecting untrusted identity " ++ identity.fingerprint ++ " for " ++ address.description
  | sessionStarted version address baseKey =>
    s!"Started v{version} session with " ++ address.description ++ " from bundle (base key " ++
      baseKey.short ++ ")"
  | handshakeKnown baseKey =>
    "Base key " ++ baseKey.short ++ " already negotiated, skipping handshake"
  | preKeyGone id => s!"Pre-key {id} already consumed, using existing session"
  | sessionAccepted version address baseKey =>
    s!"Accepted v{version} session from " ++ address.description ++ " (base key " ++
      baseKey.short ++ ")"
  | exchangeInitiated sequence address =>
    s!"Initiated key exchange {sequence} with " ++ address.description
  | exchangeSimultaneous address =>
    "Simultaneous key exchange with " ++ address.description ++ ": reusing pending keys"
  | responseIgnored sequence => s!"Ignoring response {sequence} to a simultaneous initiate"
  | responseStale sequence address =>
    s!"Stale key exchange response {sequence} from " ++ address.description
  | exchangeCompleted sequence address =>
    s!"Completed key exchange {sequence} with " ++ address.description
  | encrypted index address => s!"Encrypted message {index} for " ++ address.description
  | preKeyConsumed id address => s!"Consumed pre-key {id} for " ++ address.description
  | sessionUntrusted address identity =>
    "Rejected message from " ++ address.description ++ ": session identity " ++
      identity.fingerprint ++ " is no longer trusted"
  | currentRefused fault => "Current session rejected message: " ++ fault.message
  | archivedPromoted place address =>
    s!"Promoted archived session {place} for " ++ address.description
  | ratchetStepped key address =>
    "DH ratchet step on " ++ key.short ++ " for " ++ address.description
  | keysSkipped count => s!"Cached {count} skipped message keys"
  | sessionsEnded name => "Ended sessions with " ++ name
  | identityChanged name old new =>
    "Identity for " ++ name ++ " changed: " ++ old.fingerprint ++ " -> " ++ new.fingerprint

end Event
end DoubleRatchet
