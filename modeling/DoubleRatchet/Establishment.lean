import DoubleRatchet.Host
import DoubleRatchet.Limits
import DoubleRatchet.Message.Envelope
import DoubleRatchet.Negotiation

namespace DoubleRatchet
namespace Establishment

/-!
# Opening sessions

A session with a device is opened in one of three ways: from a bundle that the
other party has published, from the handshake inside a first message, or by an
exchange of keys.  Every way starts from the question whether the offered
identity is trusted for the name, and ends with the new state in front of the
record and the old one in its archive.

Nothing is written before everything that can fail on the data has succeeded.
The handshake of a first message writes nothing here at all: the record that
it gives is stored only after the embedded message has been opened.
-/

/-- Refuses an identity that is not trusted for the name of an address. -/
def checkTrusted (address : Address) (identity : IdentityKey) : Engine Unit := do
  if ← Host.isTrustedIdentity address.name identity then return ()
  Trace.report (.untrustedIdentity identity address)
  throw (.untrusted address.name identity)

/-- Makes a state the current one of a record. -/
def promote (record : SessionRecord) (state : SessionState) (limits : Limits) :
    Drawing SessionRecord := do
  Trace.reportAll (record.evictedByPromoting limits.archivedStates)
  return record.promote state limits.archivedStates

/-- The keys of a bundle that a session starts from. -/
structure Offer where
  version : UInt8
  signedPreKey : PublicKey
  oneTimePreKey : Option PublicKey

/-- What a bundle offers.  Without a signed pre-key the session is one of the older
version, and the one-time pre-key stands in its place. -/
def Offer.ofBundle [Suite] (bundle : Bundle) : Except Fault Offer :=
  match bundle.signedPreKey, bundle.preKey with
  | some signed, oneTime =>
    if bundle.verifies then
      .ok ⟨currentVersion, signed.publicKey, oneTime.map (·.publicKey)⟩
    else .error (.invalidKey .unsignedBundle)
  | none, some oneTime => .ok ⟨oldestVersion, oneTime.publicKey, none⟩
  | none, none => .error (.invalidKey .emptyBundle)

variable [Suite]

/-- Opens a session from a bundle.  Messages carry the handshake until the other
party answers. -/
def processBundle (address : Address) (limits : Limits) (bundle : Bundle) : Engine Unit := do
  checkTrusted address bundle.identity
  let offer ← Offer.ofBundle bundle
  let identity ← Host.identityKeyPair
  let baseKey ← KeyPair.generate
  let record ← Host.loadSession address
  let ratchetKey ← KeyPair.generate
  let negotiated := Negotiation.initiator offer.version
    { identity, baseKey
      theirIdentity := bundle.identity
      theirSignedPreKey := offer.signedPreKey
      theirOneTimePreKey := offer.oneTimePreKey
      theirRatchetKey := offer.signedPreKey }
    ratchetKey
  let registrationId ← Host.localRegistrationId
  let state := { negotiated with
    pendingPreKey := some
      ⟨bundle.preKey.map (·.id), bundle.signedPreKey.map (·.id), baseKey.publicKey⟩
    localRegistrationId := registrationId
    remoteRegistrationId := bundle.registrationId
    initiatorBaseKey := some baseKey.publicKey }
  let record ← promote record state limits
  discard <| Host.saveIdentity address.name bundle.identity
  Host.storeSession address record
  Trace.report (.sessionStarted offer.version address baseKey.publicKey)

/-- Puts the state of a responder in front of a record. -/
def acceptHandshake (address : Address) (limits : Limits) (record : SessionRecord)
    (negotiated : SessionState) (message : PreKeyWhisperMessage) : Engine SessionRecord := do
  let registrationId ← Host.localRegistrationId
  let state := { negotiated with
    localRegistrationId := registrationId
    remoteRegistrationId := message.registrationId
    initiatorBaseKey := some message.baseKey }
  let record ← promote record state limits
  Trace.report (.sessionAccepted message.version address message.baseKey)
  return record

/-- The handshake of the newer version.  A base key that some state of the record
was negotiated from is not negotiated again. -/
def processSignedHandshake (address : Address) (limits : Limits) (record : SessionRecord)
    (message : PreKeyWhisperMessage) : Engine (SessionRecord × Option UInt32) := do
  if record.hasSession message.version message.baseKey then
    Trace.report (.handshakeKnown message.baseKey)
    return (record, none)
  match message.signedPreKeyId with
  | none => throw (.invalid .missingSignedPreKey)
  | some signedPreKeyId =>
    let signedPreKey ← Host.loadSignedPreKey signedPreKeyId
    let oneTimePreKey ← message.preKeyId.mapM Host.loadPreKey
    let identity ← Host.identityKeyPair
    let negotiated := Negotiation.responder message.version
      { identity
        signedPreKey := signedPreKey.pair
        oneTimePreKey := oneTimePreKey.map (·.pair)
        ratchetKey := signedPreKey.pair
        theirIdentity := message.identity
        theirBaseKey := message.baseKey }
    let record ← acceptHandshake address limits record negotiated message
    return (record, message.preKeyId)

/-- The handshake of the older version.  Where the pre-key is gone and a session
exists, the handshake is taken as the one that opened it. -/
def processUnsignedHandshake (address : Address) (limits : Limits) (record : SessionRecord)
    (message : PreKeyWhisperMessage) : Engine (SessionRecord × Option UInt32) := do
  match message.preKeyId with
  | none => throw (.invalid .missingPreKey)
  | some preKeyId =>
    let known ←
      if ← Host.containsPreKey preKeyId then pure false else Host.containsSession address
    if known then
      Trace.report (.preKeyGone preKeyId)
      return (record, none)
    let preKey ← Host.loadPreKey preKeyId
    let identity ← Host.identityKeyPair
    let negotiated := Negotiation.responder message.version
      { identity
        signedPreKey := preKey.pair
        oneTimePreKey := none
        ratchetKey := preKey.pair
        theirIdentity := message.identity
        theirBaseKey := message.baseKey }
    let record ← acceptHandshake address limits record negotiated message
    return (record, some preKeyId)

/-- The handshake of a first message, applied to a record, with the id of the
pre-key that it uses up.  The pre-key of last resort is never used up. -/
def processHandshake (address : Address) (limits : Limits) (record : SessionRecord)
    (message : PreKeyWhisperMessage) : Engine (SessionRecord × Option UInt32) := do
  checkTrusted address message.identity
  let (record, used) ←
    if message.version = currentVersion then
      processSignedHandshake address limits record message
    else if message.version = oldestVersion then
      processUnsignedHandshake address limits record message
    else throw (.unknownVersion message.version)
  return (record, used.filter fun id => id ≠ lastResortId)

/-- A leg of a key exchange, signed in the newer version. -/
def exchangeMessage (version : UInt8) (sequence flags : UInt32) (identity : IdentityKeyPair)
    (baseKey ratchetKey : PublicKey) : KeyExchangeMessage where
  version := version
  sequence := sequence
  flags := flags
  baseKey := baseKey
  baseKeySignature :=
    if currentVersion ≤ version then some (identity.sign baseKey.toBytes) else none
  ratchetKey := ratchetKey
  identity := identity.identity
  identityUpdate := none

/-- Opens a key exchange, and gives the message for the other party. -/
def initiate (address : Address) : Engine KeyExchangeMessage := do
  let identity ← Host.identityKeyPair
  let sequence ← generateSequence
  let baseKey ← KeyPair.generate
  let ratchetKey ← KeyPair.generate
  let record ← Host.loadSession address
  let state := { record.current with
    pendingExchange := some ⟨sequence, baseKey, ratchetKey⟩ }
  Host.storeSession address { record with current := state }
  Trace.report (.exchangeInitiated sequence address)
  return exchangeMessage currentVersion sequence KeyExchangeMessage.initiateFlag identity
    baseKey.publicKey ratchetKey.publicKey

/-- Refuses a base key without a valid signature, in the version that signs it. -/
def checkSigned (message : KeyExchangeMessage) : Except Fault Unit :=
  if currentVersion ≤ message.version ∧ !message.verifies then
    .error (.invalidKey .unsignedExchange)
  else .ok ()

/-- Stores the state of a key exchange in front of a record. -/
def concludeExchange (address : Address) (limits : Limits) (record : SessionRecord)
    (negotiated : SessionState) (identity : IdentityKey) : Engine Unit := do
  let registrationId ← Host.localRegistrationId
  let record ← promote record { negotiated with localRegistrationId := registrationId } limits
  discard <| Host.saveIdentity address.name identity
  Host.storeSession address record

/-- What this side brings into a key exchange with the sender of a message. -/
def exchangeKeys (identity : IdentityKeyPair) (baseKey ratchetKey : KeyPair)
    (message : KeyExchangeMessage) : Negotiation.ExchangeKeys where
  identity := identity
  baseKey := baseKey
  ratchetKey := ratchetKey
  theirIdentity := message.identity
  theirBaseKey := message.baseKey
  theirRatchetKey := message.ratchetKey

/-- The keys and flags of an answer: those of the own exchange, if one is pending,
and fresh ones otherwise. -/
def answerKeys (address : Address) (record : SessionRecord) :
    Engine (KeyPair × KeyPair × UInt32) := do
  match record.current.pendingExchange with
  | some pending =>
    Trace.report (.exchangeSimultaneous address)
    return (pending.baseKey, pending.ratchetKey,
      KeyExchangeMessage.responseFlag ||| KeyExchangeMessage.simultaneousFlag)
  | none =>
    let baseKey ← KeyPair.generate
    let ratchetKey ← KeyPair.generate
    return (baseKey, ratchetKey, KeyExchangeMessage.responseFlag)

/-- Answers a key exchange that the other party has opened. -/
def processInitiate (address : Address) (limits : Limits) (message : KeyExchangeMessage) :
    Engine KeyExchangeMessage := do
  checkSigned message
  let identity ← Host.identityKeyPair
  let record ← Host.loadSession address
  let (baseKey, ratchetKey, flags) ← answerKeys address record
  let negotiated ← Negotiation.symmetric message.version
    (exchangeKeys identity baseKey ratchetKey message)
  concludeExchange address limits record negotiated message.identity
  return exchangeMessage message.version message.sequence flags identity baseKey.publicKey
    ratchetKey.publicKey

/-- Completes the own key exchange by an answer.  An answer to another exchange is
stale, unless its sender had opened one as well: then both sides have already
answered each other. -/
def processResponse (address : Address) (limits : Limits) (message : KeyExchangeMessage) :
    Engine Unit := do
  let record ← Host.loadSession address
  match record.current.pendingExchange.filter fun pending =>
      pending.sequence = message.sequence with
  | some pending =>
    let identity ← Host.identityKeyPair
    let negotiated ← Negotiation.symmetric message.version
      (exchangeKeys identity pending.baseKey pending.ratchetKey message)
    checkSigned message
    concludeExchange address limits record negotiated message.identity
    Trace.report (.exchangeCompleted message.sequence address)
  | none =>
    if message.isSimultaneous then
      Trace.report (.responseIgnored message.sequence)
    else
      Trace.report (.responseStale message.sequence address)
      throw (.staleExchange message.sequence)

/-- Takes a leg of a key exchange, and gives the answer to an opening one. -/
def processExchange (address : Address) (limits : Limits) (message : KeyExchangeMessage) :
    Engine (Option KeyExchangeMessage) := do
  checkTrusted address message.identity
  if message.isInitiate then
    let answer ← processInitiate address limits message
    return some answer
  else if message.isResponse then
    processResponse address limits message
    return none
  else throw (.invalid .undirected)

end Establishment
end DoubleRatchet
