import DoubleRatchet.Proofs.Stored.Keys
import DoubleRatchet.Stored.Session

namespace DoubleRatchet

/-!
# Stored sessions read back

A session record is read from its document as it was written, with its states,
receiver chains and skipped keys in their order.  Only whether it is fresh is
not kept.
-/

open Json (Faithful Value)

theorem ChainKey.faithful : Faithful ChainKey.toValue ChainKey.ofValue? :=
  .ofFields ["key", "index"]
    (fun chain => [.ofBytes chain.key.toList, .ofNat chain.index.toNat]) 0
    (fun _ => rfl) (by decide) (by decide) (fun _ => rfl)
    (fun chain => by simp [Value.isPlain_ofNat, Value.isPlain_ofBytes])
    fun chain fields => by
      rw [ChainKey.ofValue?, fields]
      simp [Value.required, Value.toUInt32?_ofNat, Value.toOctets?_ofBytes]

theorem RootKey.faithful : Faithful RootKey.toValue RootKey.ofValue? :=
  .ofFields ["key"] (fun root => [.ofBytes root.key.toList]) 0
    (fun _ => rfl) (by decide) (by decide) (fun _ => rfl)
    (fun root => by simp [Value.isPlain_ofBytes])
    fun root fields => by
      rw [RootKey.ofValue?, fields]
      simp [Value.required, Value.toOctets?_ofBytes]

theorem MessageKeys.faithful : Faithful MessageKeys.toValue MessageKeys.ofValue? :=
  .ofFields ["cipher_key", "mac_key", "iv", "counter"]
    (fun keys => [.ofBytes keys.cipherKey.toList, .ofBytes keys.macKey.toList,
      .ofBytes keys.iv.toList, .ofNat keys.counter.toNat]) 0
    (fun _ => rfl) (by decide) (by decide) (fun _ => rfl)
    (fun keys => by simp [Value.isPlain_ofNat, Value.isPlain_ofBytes])
    fun keys fields => by
      rw [MessageKeys.ofValue?, fields]
      simp [Value.required, Value.toUInt32?_ofNat, Value.toOctets?_ofBytes]

theorem SkippedKeys.entryOf?_toValue (entry : UInt32 × MessageKeys) :
    entryOf? ((Nat.toDigits 10 entry.1.toNat).map Json.ascii, entry.2.toValue) = some entry := by
  have counter := Json.plainNumber?_toDigits entry.1.toNat_lt
  simp [entryOf?, counter, MessageKeys.faithful.read_write]

theorem SkippedKeys.faithful : Faithful SkippedKeys.toValue SkippedKeys.ofValue? where
  isPlain cache := by
    refine Value.isPlain_object (fun member inside => ?_) fun member inside => ?_
    · obtain ⟨entry, -, rfl⟩ := List.mem_map.mp inside
      intro octet digit
      obtain ⟨c, inDigits, rfl⟩ := List.mem_map.mp digit
      exact Json.isPlain_ascii
        (Json.isPlainChar_of_isDigit c (Json.isDigit_of_mem_toDigits c inDigits))
    · obtain ⟨entry, -, rfl⟩ := List.mem_map.mp inside
      exact MessageKeys.faithful.isPlain entry.2
  ne_null _ := nofun
  read_write cache := by
    have read : cache.table.entries.mapM _ = some (cache.table.entries.map id) :=
      Json.mapM_eq_some_map _ fun entry _ => SkippedKeys.entryOf?_toValue entry
    have whole : Table.ofEntries cache.table.entries = cache.table := by
      have same := Table.entries_ofEntries cache.table.ascending
      cases made : Table.ofEntries cache.table.entries
      cases cache with
      | mk table =>
        cases table
        simp_all
    rw [SkippedKeys.toValue, SkippedKeys.ofValue?, List.mapM_map]
    simp only [Function.comp_def, read, List.map_id, Option.bind_eq_bind, Option.bind_some,
      Option.pure_def, whole]

theorem SenderChain.faithful : Faithful SenderChain.toValue SenderChain.ofValue? :=
  .ofFields ["ratchet_key", "chain_key"]
    (fun chain => [chain.ratchetKey.toValue, chain.chainKey.toValue]) 0
    (fun _ => rfl) (by decide) (by decide) (fun _ => rfl)
    (fun chain => by simp [KeyPair.faithful.isPlain, ChainKey.faithful.isPlain])
    fun chain fields => by
      rw [SenderChain.ofValue?, fields]
      simp [Value.required, KeyPair.faithful.read_write, ChainKey.faithful.read_write]

theorem ReceiverChain.faithful : Faithful ReceiverChain.toValue ReceiverChain.ofValue? :=
  .ofFields ["ratchet_key", "chain_key", "message_keys"]
    (fun chain => [chain.ratchetKey.toValue, chain.chainKey.toValue, chain.skipped.toValue]) 1
    (fun _ => rfl) (by decide) (by decide) (fun _ => rfl)
    (fun chain => by
      simp [PublicKey.faithful.isPlain, ChainKey.faithful.isPlain, SkippedKeys.faithful.isPlain])
    fun chain fields => by
      rw [ReceiverChain.ofValue?, fields]
      simp [Value.required, Value.defaulted, PublicKey.faithful.read_write,
        ChainKey.faithful.read_write, SkippedKeys.faithful.read_write]

theorem PendingExchange.faithful : Faithful PendingExchange.toValue PendingExchange.ofValue? :=
  .ofFields ["sequence", "base_key", "ratchet_key"]
    (fun pending => [.ofNat pending.sequence.toNat, pending.baseKey.toValue,
      pending.ratchetKey.toValue]) 0
    (fun _ => rfl) (by decide) (by decide) (fun _ => rfl)
    (fun pending => by simp [KeyPair.faithful.isPlain, Value.isPlain_ofNat])
    fun pending fields => by
      rw [PendingExchange.ofValue?, fields]
      simp [Value.required, Value.toUInt32?_ofNat, KeyPair.faithful.read_write]

theorem Json.Value.faithful_ofNat : Faithful (fun id : UInt32 => .ofNat id.toNat) toUInt32? where
  isPlain id := isPlain_ofNat id.toNat
  ne_null _ := nofun
  read_write := toUInt32?_ofNat

theorem PendingPreKey.faithful : Faithful PendingPreKey.toValue PendingPreKey.ofValue? :=
  .ofFields ["pre_key_id", "signed_pre_key_id", "base_key"]
    (fun pending => [.ofOption (fun id => .ofNat id.toNat) pending.preKeyId,
      .ofOption (fun id => .ofNat id.toNat) pending.signedPreKeyId, pending.baseKey.toValue]) 0
    (fun _ => rfl) (by decide) (by decide) (fun _ => rfl)
    (fun pending => by
      simp [PublicKey.faithful.isPlain, Value.isPlain_ofOption Value.faithful_ofNat])
    fun pending fields => by
      rw [PendingPreKey.ofValue?, fields]
      simp [Value.required, Value.optional_ofOption Value.faithful_ofNat,
        PublicKey.faithful.read_write]

/-- The values of the fields of a state, in their order. -/
def SessionState.fieldValues (state : SessionState) : List Value :=
  [.ofNat state.storedVersion.toNat,
    .ofOption IdentityKey.toValue state.localIdentity,
    .ofOption IdentityKey.toValue state.remoteIdentity,
    .ofOption RootKey.toValue state.rootKey,
    .ofNat state.previousCounter.toNat,
    .ofOption SenderChain.toValue state.sender,
    .ofList ReceiverChain.toValue state.receivers,
    .ofOption PendingExchange.toValue state.pendingExchange,
    .ofOption PendingPreKey.toValue state.pendingPreKey,
    .ofNat state.remoteRegistrationId.toNat,
    .ofNat state.localRegistrationId.toNat,
    .ofOption PublicKey.toValue state.initiatorBaseKey]

theorem SessionState.faithful : Faithful SessionState.toValue SessionState.ofValue? :=
  .ofFields SessionState.fieldNames SessionState.fieldValues 0
    (fun _ => rfl) (by decide) (by decide) (fun _ => rfl)
    (fun state => by
      simp [SessionState.fieldValues, Value.isPlain_ofNat,
        Value.isPlain_ofOption IdentityKey.faithful, Value.isPlain_ofOption RootKey.faithful,
        Value.isPlain_ofOption SenderChain.faithful,
        (Value.faithful_ofList ReceiverChain.faithful).isPlain,
        Value.isPlain_ofOption PendingExchange.faithful,
        Value.isPlain_ofOption PendingPreKey.faithful,
        Value.isPlain_ofOption PublicKey.faithful])
    fun state fields => by
      rw [SessionState.ofValue?, fields]
      simp [SessionState.fieldValues, Value.required, Value.toUInt8?_ofNat,
        Value.toUInt32?_ofNat, Value.optional_ofOption IdentityKey.faithful,
        Value.optional_ofOption RootKey.faithful, Value.optional_ofOption SenderChain.faithful,
        (Value.faithful_ofList ReceiverChain.faithful).read_write,
        Value.optional_ofOption PendingExchange.faithful,
        Value.optional_ofOption PendingPreKey.faithful,
        Value.optional_ofOption PublicKey.faithful]

namespace SessionRecord

/-- The record as a store gives it back: no longer fresh. -/
def settled (record : SessionRecord) : SessionRecord :=
  { record with fresh := false }

theorem isPlain_toValue (record : SessionRecord) : record.toValue.IsPlain :=
  Value.isPlain_zip ["current", "previous"]
    [record.current.toValue, .ofList SessionState.toValue record.previous]
    (by decide) (by
      simp [SessionState.faithful.isPlain, (Value.faithful_ofList SessionState.faithful).isPlain])

theorem ofValue?_toValue (record : SessionRecord) :
    SessionRecord.ofValue? record.toValue = some record.settled := by
  have fields := Value.fields?_zip ["current", "previous"]
    [record.current.toValue, .ofList SessionState.toValue record.previous] (by decide) (by decide)
    rfl 0
  have shape : record.toValue = .ofFields (["current", "previous"].zip
    [record.current.toValue, .ofList SessionState.toValue record.previous]) := rfl
  rw [SessionRecord.ofValue?, shape, fields]
  simp [Value.required, SessionState.faithful.read_write,
    (Value.faithful_ofList SessionState.faithful).read_write, settled]

/-- A stored record is read back with all its states. -/
theorem read?_write (record : SessionRecord) :
    Json.Document.read? (Json.Document.write record) = some record.settled := by
  have tree : Value.read? (Json.Document.write record) = some record.toValue :=
    Value.read?_write record.isPlain_toValue
  simp only [Json.Document.read?, tree, Option.bind_eq_bind, Option.bind_some,
    Json.Document.ofValue?, ofValue?_toValue]

end SessionRecord
end DoubleRatchet
