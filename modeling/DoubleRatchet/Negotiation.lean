import DoubleRatchet.Key.Generation
import DoubleRatchet.Session.State

namespace DoubleRatchet

/-!
# Negotiation of a session

Two parties derive the same root from each other's public keys.  One of them
initiates: it has seen keys of the other and makes a first ratchet step on
them at once.  The other responds, and its first sender chain is the one the
initiator receives on.  In a key exchange each side has sent a base key, and
the side with the higher one takes the role of the initiator.

The results here are functions of the keys.  The one fresh key of the
initiator is an argument, so that the two roles can be compared for any key;
drawing it is left to `symmetric` and to the callers.
-/

namespace Negotiation

/-- The newest versions put these octets before the agreements, which sets their
key material apart from that of older ones. -/
def discontinuity : Bytes :=
  List.replicate 32 0xFF

/-- What the initiating party knows. -/
structure InitiatorKeys where
  identity : IdentityKeyPair
  baseKey : KeyPair
  theirIdentity : IdentityKey
  theirSignedPreKey : PublicKey
  theirOneTimePreKey : Option PublicKey
  theirRatchetKey : PublicKey

/-- What the responding party knows. -/
structure ResponderKeys where
  identity : IdentityKeyPair
  signedPreKey : KeyPair
  oneTimePreKey : Option KeyPair
  ratchetKey : KeyPair
  theirIdentity : IdentityKey
  theirBaseKey : PublicKey

/-- What either party of a key exchange knows. -/
structure ExchangeKeys where
  identity : IdentityKeyPair
  baseKey : KeyPair
  ratchetKey : KeyPair
  theirIdentity : IdentityKey
  theirBaseKey : PublicKey
  theirRatchetKey : PublicKey

/-- In a key exchange the party with the higher base key initiates. -/
def isInitiator (ours theirs : PublicKey) : Bool :=
  compare ours theirs = .gt

variable [Suite]

/-- The input of the first derivation: the agreements in the order of the roles,
behind the discontinuity in the versions that have it. -/
def secrets (version : UInt8) (agreements : List (Octets 32)) (oneTime : Option (Octets 32)) :
    Bytes :=
  if currentVersion ≤ version then
    discontinuity ++ agreements.flatMap Octets.toList ++ oneTime.toList.flatMap Octets.toList
  else agreements.flatMap Octets.toList

/-- The input of the first derivation as the initiator computes it. -/
def InitiatorKeys.secrets (version : UInt8) (keys : InitiatorKeys) : Bytes :=
  Negotiation.secrets version
    [keys.identity.agreementSecret.agree keys.theirSignedPreKey,
      keys.baseKey.agree keys.theirIdentity.agreementKey,
      keys.baseKey.agree keys.theirSignedPreKey]
    (keys.theirOneTimePreKey.map keys.baseKey.agree)

/-- The input of the first derivation as the responder computes it. -/
def ResponderKeys.secrets (version : UInt8) (keys : ResponderKeys) : Bytes :=
  Negotiation.secrets version
    [keys.signedPreKey.agree keys.theirIdentity.agreementKey,
      keys.identity.agreementSecret.agree keys.theirBaseKey,
      keys.signedPreKey.agree keys.theirBaseKey]
    (keys.oneTimePreKey.map fun pair => pair.agree keys.theirBaseKey)

/-- The state of the initiator, which sends from the given fresh pair. -/
def initiator (version : UInt8) (keys : InitiatorKeys) (ratchetKey : KeyPair) : SessionState :=
  let (root, chain) := RootKey.initial (keys.secrets version)
  let (sendingRoot, sendingChain) := root.createChain keys.theirRatchetKey ratchetKey
  { SessionState.empty with
    storedVersion := version
    localIdentity := some keys.identity.identity
    remoteIdentity := some keys.theirIdentity
    rootKey := some sendingRoot
    sender := some ⟨ratchetKey, sendingChain⟩
    receivers := [⟨keys.theirRatchetKey, chain, .empty⟩] }

/-- The state of the responder. -/
def responder (version : UInt8) (keys : ResponderKeys) : SessionState :=
  let (root, chain) := RootKey.initial (keys.secrets version)
  { SessionState.empty with
    storedVersion := version
    localIdentity := some keys.identity.identity
    remoteIdentity := some keys.theirIdentity
    rootKey := some root
    sender := some ⟨keys.ratchetKey, chain⟩ }

/-- What a party of a key exchange knows, in the role of the initiator. -/
def ExchangeKeys.asInitiator (keys : ExchangeKeys) : InitiatorKeys where
  identity := keys.identity
  baseKey := keys.baseKey
  theirIdentity := keys.theirIdentity
  theirSignedPreKey := keys.theirBaseKey
  theirOneTimePreKey := none
  theirRatchetKey := keys.theirRatchetKey

/-- What a party of a key exchange knows, in the role of the responder. -/
def ExchangeKeys.asResponder (keys : ExchangeKeys) : ResponderKeys where
  identity := keys.identity
  signedPreKey := keys.baseKey
  oneTimePreKey := none
  ratchetKey := keys.ratchetKey
  theirIdentity := keys.theirIdentity
  theirBaseKey := keys.theirBaseKey

/-- The state of a party of a key exchange.  Only the initiator draws. -/
def symmetric (version : UInt8) (keys : ExchangeKeys) : Drawing SessionState := do
  if isInitiator keys.baseKey.publicKey keys.theirBaseKey then
    Trace.report .initiatorRole
    let ratchetKey ← KeyPair.generate
    return initiator version keys.asInitiator ratchetKey
  else
    Trace.report .responderRole
    return responder version keys.asResponder

end Negotiation
end DoubleRatchet
