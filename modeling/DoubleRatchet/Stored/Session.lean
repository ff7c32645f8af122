import DoubleRatchet.Session.Record
import DoubleRatchet.Stored.Chains

namespace DoubleRatchet

/-!
# Stored sessions

How session states and records are written as documents.  What a state does
not have is written as nothing, and is read as absent whether it is written so
or left out.  Whether a record is fresh is not stored: a record that was read
is not.
-/

open Json (Document Value)

namespace PendingExchange

/-- A pending exchange as a document. -/
def toValue (pending : PendingExchange) : Value :=
  .ofFields
    [("sequence", .ofNat pending.sequence.toNat), ("base_key", pending.baseKey.toValue),
      ("ratchet_key", pending.ratchetKey.toValue)]

/-- The pending exchange of a document. -/
def ofValue? (value : Value) : Option PendingExchange := do
  let [sequence, baseKey, ratchetKey] ←
    value.fields? ["sequence", "base_key", "ratchet_key"] 0 | none
  return ⟨← Value.required Value.toUInt32? sequence, ← Value.required KeyPair.ofValue? baseKey,
    ← Value.required KeyPair.ofValue? ratchetKey⟩

end PendingExchange

instance : Document PendingExchange :=
  ⟨PendingExchange.toValue, PendingExchange.ofValue?⟩

namespace PendingPreKey

/-- A marker as a document. -/
def toValue (pending : PendingPreKey) : Value :=
  .ofFields
    [("pre_key_id", .ofOption (fun id => .ofNat id.toNat) pending.preKeyId),
      ("signed_pre_key_id", .ofOption (fun id => .ofNat id.toNat) pending.signedPreKeyId),
      ("base_key", pending.baseKey.toValue)]

/-- The marker of a document. -/
def ofValue? (value : Value) : Option PendingPreKey := do
  let [preKeyId, signedPreKeyId, baseKey] ←
    value.fields? ["pre_key_id", "signed_pre_key_id", "base_key"] 0 | none
  return ⟨← Value.optional Value.toUInt32? preKeyId,
    ← Value.optional Value.toUInt32? signedPreKeyId,
    ← Value.required PublicKey.ofValue? baseKey⟩

end PendingPreKey

instance : Document PendingPreKey :=
  ⟨PendingPreKey.toValue, PendingPreKey.ofValue?⟩

namespace SessionState

/-- The names of the fields in order. -/
def fieldNames : List String :=
  ["session_version", "local_identity_key", "remote_identity_key", "root_key", "previous_counter",
    "sender_chain", "receiver_chains", "pending_key_exchange", "pending_pre_key",
    "remote_registration_id", "local_registration_id", "alice_base_key"]

/-- A state as a document. -/
def toValue (state : SessionState) : Value :=
  .ofFields (fieldNames.zip
    [.ofNat state.storedVersion.toNat,
      .ofOption IdentityKey.toValue state.localIdentity,
      .ofOption IdentityKey.toValue state.remoteIdentity,
      .ofOption RootKey.toValue state.rootKey,
      .ofNat state.previousCounter.toNat,
      .ofOption SenderChain.toValue state.sender,
      .ofList ReceiverChain.toValue state.receivers,
      .ofOption PendingExchange.toValue state.pendingExchange,
      .ofOption PendingPreKey.toValue state.pendingPreKey,
      .ofNat state.remoteRegistrationId.toNat,
      .ofNat state.localRegistrationId.toNat,
      .ofOption PublicKey.toValue state.initiatorBaseKey])

/-- The state of a document. -/
def ofValue? (value : Value) : Option SessionState := do
  let [storedVersion, localIdentity, remoteIdentity, rootKey, previousCounter, sender, receivers,
    pendingExchange, pendingPreKey, remoteRegistrationId, localRegistrationId,
    initiatorBaseKey] ← value.fields? fieldNames 0 | none
  return {
    storedVersion := ← Value.required Value.toUInt8? storedVersion
    localIdentity := ← Value.optional IdentityKey.ofValue? localIdentity
    remoteIdentity := ← Value.optional IdentityKey.ofValue? remoteIdentity
    rootKey := ← Value.optional RootKey.ofValue? rootKey
    previousCounter := ← Value.required Value.toUInt32? previousCounter
    sender := ← Value.optional SenderChain.ofValue? sender
    receivers := ← Value.required (Value.toList? ReceiverChain.ofValue?) receivers
    pendingExchange := ← Value.optional PendingExchange.ofValue? pendingExchange
    pendingPreKey := ← Value.optional PendingPreKey.ofValue? pendingPreKey
    remoteRegistrationId := ← Value.required Value.toUInt32? remoteRegistrationId
    localRegistrationId := ← Value.required Value.toUInt32? localRegistrationId
    initiatorBaseKey := ← Value.optional PublicKey.ofValue? initiatorBaseKey }

end SessionState

instance : Document SessionState :=
  ⟨SessionState.toValue, SessionState.ofValue?⟩

namespace SessionRecord

/-- A record as a document. -/
def toValue (record : SessionRecord) : Value :=
  .ofFields
    [("current", record.current.toValue),
      ("previous", .ofList SessionState.toValue record.previous)]

/-- The record of a document. -/
def ofValue? (value : Value) : Option SessionRecord := do
  let [current, previous] ← value.fields? ["current", "previous"] 0 | none
  return ⟨← Value.required SessionState.ofValue? current,
    ← Value.required (Value.toList? SessionState.ofValue?) previous, false⟩

end SessionRecord

instance : Document SessionRecord :=
  ⟨SessionRecord.toValue, SessionRecord.ofValue?⟩

end DoubleRatchet
