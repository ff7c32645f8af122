import DoubleRatchet.Proofs.Stored.Session
import DoubleRatchet.Store

namespace DoubleRatchet
namespace Store

/-!
# Loading what was stored

A record comes back from the store as it was put there, except that it no longer
counts as fresh.  Everything else that an operation writes leaves the records of
all other addresses alone, and pins and pre-keys leave every record alone.
-/

variable {store : Store} {address other : Address}

theorem loadSession_storeSession_self (store : Store) (address : Address)
    (record : SessionRecord) :
    (store.storeSession address record).loadSession address = .ok record.settled := by
  unfold loadSession storeSession
  rw [Table.get?_insert_self]
  change readDocument (Json.Document.write record) = _
  unfold readDocument
  rw [SessionRecord.read?_write]

theorem loadSession_storeSession_of_ne (different : other ≠ address) (record : SessionRecord) :
    (store.storeSession address record).loadSession other = store.loadSession other := by
  unfold loadSession storeSession
  rw [Table.get?_insert_of_ne _ different]

/-- Records depend on nothing but the table of sessions. -/
theorem loadSession_of_sessions_eq {after : Store} (same : after.sessions = store.sessions)
    (address : Address) : after.loadSession address = store.loadSession address := by
  unfold loadSession
  rw [same]

/-- Storing a record changes the record of its address alone. -/
theorem loadSession_of_stored {after : Store} {place : Address} {result found : SessionRecord}
    (stored : after.sessions = (store.storeSession address result).sessions)
    (load : after.loadSession place = .ok found) :
    (place = address ∧ found = result.settled) ∨
      (place ≠ address ∧ store.loadSession place = .ok found) := by
  rw [loadSession_of_sessions_eq stored] at load
  by_cases same : place = address
  · subst same
    rw [loadSession_storeSession_self] at load
    exact .inl ⟨rfl, (Except.ok.inj load).symm⟩
  · rw [loadSession_storeSession_of_ne same] at load
    exact .inr ⟨same, load⟩

theorem loadSession_eq_new (absent : store.sessions.get? address = none) :
    store.loadSession address = .ok .new := by
  unfold loadSession
  rw [absent]

theorem loadSession_of_empty (empty : store.sessions = .empty) (address : Address) :
    store.loadSession address = .ok .new := by
  apply loadSession_eq_new
  rw [empty, Table.get?_empty]

/-- The established sessions are those with an established current state. -/
theorem containsSession_eq {record : SessionRecord}
    (load : store.loadSession address = .ok record) :
    store.containsSession address = .ok record.current.established := by
  simp only [loadSession] at load
  simp only [containsSession]
  cases found : store.sessions.get? address with
  | none =>
    rw [found] at load
    cases load
    rfl
  | some document =>
    rw [found] at load
    simp only at load ⊢
    rw [load]
    rfl

/-- After the records of a name are forgotten, a record is new or as it was. -/
theorem loadSession_deleteSessions (store : Store) (name : String) (address : Address) :
    (store.deleteSessions name).loadSession address =
      if address.name = name then .ok .new else store.loadSession address := by
  unfold loadSession deleteSessions
  rw [Table.get?_filterKeys]
  by_cases same : address.name = name
  · rw [if_pos same]
    simp [same]
  · rw [if_neg same]
    simp [same]

theorem loadSession_deleteSession_self (store : Store) (address : Address) :
    (store.deleteSession address).loadSession address = .ok .new := by
  apply loadSession_eq_new
  exact Table.get?_erase_self ..

theorem loadSession_deleteSession_of_ne (different : other ≠ address) :
    (store.deleteSession address).loadSession other = store.loadSession other := by
  unfold loadSession deleteSession
  rw [Table.get?_erase_of_ne _ different]

/-- A pinned identity is trusted. -/
theorem trusts_pin (store : Store) (name : String) (identity : IdentityKey) :
    (store.pin name identity).trusts name identity = true := by
  unfold trusts pin
  rw [Table.get?_insert_self]
  simp

/-- A name without a pin trusts every identity. -/
theorem trusts_of_unpinned {name : String} (absent : store.pins.get? name = none)
    (identity : IdentityKey) : store.trusts name identity = true := by
  unfold trusts
  rw [absent]
  rfl

end Store
end DoubleRatchet
