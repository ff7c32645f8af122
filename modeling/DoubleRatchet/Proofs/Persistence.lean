import DoubleRatchet.Proofs.Engine.Seeding

namespace DoubleRatchet

/-!
# What is stored is loaded

A store keeps documents, and every operation goes through them: it loads a record, works
on the copy, and stores the copy back.  Whatever a document did not say would be lost
between two operations.  Nothing is, for any record, pre-key or signed pre-key, however
it came about: the identities in it carry the proof that their verifying keys are
points, which is all that reading checks beyond the shape.

The one exception is meant.  A record that has been stored is no longer fresh, so what
comes back is the settled record.
-/

open Json (Document)

/-- Two records have one document exactly if they differ in their freshness at most. -/
theorem SessionRecord.write_eq_write_iff (first second : SessionRecord) :
    Document.write first = Document.write second ↔ first.settled = second.settled := by
  constructor
  · intro same
    have read : (Document.read? (Document.write first) : Option SessionRecord) =
        Document.read? (Document.write second) := by
      rw [same]
    rw [read?_write, read?_write] at read
    exact Option.some.inj read
  · intro same
    have unread (record : SessionRecord) : Document.write record = Document.write record.settled :=
      rfl
    rw [unread first, unread second, same]

/-- Records, pre-keys and signed pre-keys are read from their documents as they were
written, and a store gives back what was stored in it last.  Only a record does not come
back fresh. -/
theorem stored_values_read_back :
    (∀ record : SessionRecord,
      Document.read? (Document.write record) = some { record with fresh := false }) ∧
    (∀ key : PreKey, Document.read? (Document.write key) = some key) ∧
    (∀ key : SignedPreKey, Document.read? (Document.write key) = some key) ∧
    (∀ (store : Store) (address : Address) (record : SessionRecord),
      (store.storeSession address record).loadSession address =
        .ok { record with fresh := false }) ∧
    (∀ (store : Store) (id : UInt32) (key : PreKey),
      (store.storePreKey id key).loadPreKey id = .ok key) ∧
    ∀ (store : Store) (id : UInt32) (key : SignedPreKey),
      (store.storeSignedPreKey id key).loadSignedPreKey id = .ok key := by
  refine ⟨SessionRecord.read?_write, ?_, ?_, Store.loadSession_storeSession_self,
    Store.loadPreKey_storePreKey_self, Store.loadSignedPreKey_storeSignedPreKey_self⟩
  · exact Document.read?_write PreKey.faithful
  · exact Document.read?_write SignedPreKey.faithful

end DoubleRatchet
