import DoubleRatchet.Session.Chains
import DoubleRatchet.Stored.Keys

namespace DoubleRatchet

/-!
# Stored chains

How the ratchets of a session are written as documents.  Skipped keys stand in
an object under their counters, in ascending order; the counters are numerals
between quotes, and a counter that is written twice keeps its last keys.
-/

open Json (Document Value)

namespace ChainKey

/-- A chain key as a document. -/
def toValue (chain : ChainKey) : Value :=
  .ofFields [("key", .ofBytes chain.key.toList), ("index", .ofNat chain.index.toNat)]

/-- The chain key of a document. -/
def ofValue? (value : Value) : Option ChainKey := do
  let [key, index] ← value.fields? ["key", "index"] 0 | none
  return ⟨← Value.required (Value.toOctets? 32) key, ← Value.required Value.toUInt32? index⟩

end ChainKey

instance : Document ChainKey :=
  ⟨ChainKey.toValue, ChainKey.ofValue?⟩

namespace RootKey

/-- A root key as a document. -/
def toValue (root : RootKey) : Value :=
  .ofFields [("key", .ofBytes root.key.toList)]

/-- The root key of a document. -/
def ofValue? (value : Value) : Option RootKey := do
  let [key] ← value.fields? ["key"] 0 | none
  return ⟨← Value.required (Value.toOctets? 32) key⟩

end RootKey

instance : Document RootKey :=
  ⟨RootKey.toValue, RootKey.ofValue?⟩

namespace MessageKeys

/-- Message keys as a document. -/
def toValue (keys : MessageKeys) : Value :=
  .ofFields
    [("cipher_key", .ofBytes keys.cipherKey.toList), ("mac_key", .ofBytes keys.macKey.toList),
      ("iv", .ofBytes keys.iv.toList), ("counter", .ofNat keys.counter.toNat)]

/-- The message keys of a document. -/
def ofValue? (value : Value) : Option MessageKeys := do
  let [cipherKey, macKey, iv, counter] ←
    value.fields? ["cipher_key", "mac_key", "iv", "counter"] 0 | none
  return ⟨← Value.required (Value.toOctets? 32) cipherKey,
    ← Value.required (Value.toOctets? 32) macKey, ← Value.required (Value.toOctets? 16) iv,
    ← Value.required Value.toUInt32? counter⟩

end MessageKeys

instance : Document MessageKeys :=
  ⟨MessageKeys.toValue, MessageKeys.ofValue?⟩

namespace SkippedKeys

/-- A cache as a document. -/
def toValue (cache : SkippedKeys) : Value :=
  .object (cache.table.entries.map fun entry =>
    ((Nat.toDigits 10 entry.1.toNat).map Json.ascii, entry.2.toValue))

/-- The keys of a document, with the counter they stand under. -/
def entryOf? (member : Bytes × Value) : Option (UInt32 × MessageKeys) := do
  let counter ← Value.plainNumber? UInt32.size member.1
  let keys ← MessageKeys.ofValue? member.2
  return (UInt32.ofNat counter, keys)

/-- The cache of a document. -/
def ofValue? : Value -> Option SkippedKeys
  | .object members => do
    let entries ← members.mapM entryOf?
    return ⟨.ofEntries entries⟩
  | _ => none

end SkippedKeys

instance : Document SkippedKeys :=
  ⟨SkippedKeys.toValue, SkippedKeys.ofValue?⟩

namespace SenderChain

/-- A sender chain as a document. -/
def toValue (chain : SenderChain) : Value :=
  .ofFields [("ratchet_key", chain.ratchetKey.toValue), ("chain_key", chain.chainKey.toValue)]

/-- The sender chain of a document. -/
def ofValue? (value : Value) : Option SenderChain := do
  let [ratchetKey, chainKey] ← value.fields? ["ratchet_key", "chain_key"] 0 | none
  return ⟨← Value.required KeyPair.ofValue? ratchetKey,
    ← Value.required ChainKey.ofValue? chainKey⟩

end SenderChain

instance : Document SenderChain :=
  ⟨SenderChain.toValue, SenderChain.ofValue?⟩

namespace ReceiverChain

/-- A receiver chain as a document. -/
def toValue (chain : ReceiverChain) : Value :=
  .ofFields
    [("ratchet_key", chain.ratchetKey.toValue), ("chain_key", chain.chainKey.toValue),
      ("message_keys", chain.skipped.toValue)]

/-- The receiver chain of a document.  Absent message keys are none at all. -/
def ofValue? (value : Value) : Option ReceiverChain := do
  let [ratchetKey, chainKey, skipped] ←
    value.fields? ["ratchet_key", "chain_key", "message_keys"] 1 | none
  return ⟨← Value.required PublicKey.ofValue? ratchetKey,
    ← Value.required ChainKey.ofValue? chainKey,
    ← Value.defaulted .empty SkippedKeys.ofValue? skipped⟩

end ReceiverChain

instance : Document ReceiverChain :=
  ⟨ReceiverChain.toValue, ReceiverChain.ofValue?⟩

end DoubleRatchet
