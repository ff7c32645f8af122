import DoubleRatchet.Stored.Session
import DoubleRatchet.Table

namespace DoubleRatchet

/-!
# Stores

What a party keeps between operations: its own identity, the identities it has
pinned to names, its pre-keys and its sessions.  Keys and sessions are kept as
documents.  A load therefore always reads, can fail on a document that is no
longer readable, and hands out a copy: nothing changes in the store until a
record is stored back.

Trust is given on first use.  A name without a pin trusts every identity, and a
name with a pin trusts that identity alone.
-/

/-- What a party keeps between operations. -/
structure Store where
  identity : IdentityKeyPair
  registrationId : UInt32
  pins : Table String IdentityKey
  preKeys : Table UInt32 Bytes
  signedPreKeys : Table UInt32 Bytes
  sessions : Table Address Bytes
  deriving DecidableEq

namespace Store

/-- The store of a party that has met nobody. -/
def ofIdentity (identity : IdentityKeyPair) (registrationId : UInt32) : Store where
  identity := identity
  registrationId := registrationId
  pins := .empty
  preKeys := .empty
  signedPreKeys := .empty
  sessions := .empty

/-- Reads a document that the store holds. -/
def readDocument {α : Type} [Json.Document α] (document : Bytes) : Except Fault α :=
  match Json.Document.read? document with
  | some value => .ok value
  | none => .error .document

/-- Whether an identity is trusted for a name. -/
def trusts (store : Store) (name : String) (identity : IdentityKey) : Bool :=
  (store.pins.get? name).all fun pinned => pinned = identity

/-- Pins an identity to a name. -/
def pin (store : Store) (name : String) (identity : IdentityKey) : Store :=
  { store with pins := store.pins.insert name identity }

/-- The other identity that pinning would replace, if there is one. -/
def replacedByPin (store : Store) (name : String) (identity : IdentityKey) : Option IdentityKey :=
  (store.pins.get? name).filter fun pinned => pinned ≠ identity

/-- The pre-key with an id. -/
def loadPreKey (store : Store) (id : UInt32) : Except Fault PreKey :=
  match store.preKeys.get? id with
  | some document => readDocument document
  | none => .error (.unknownPreKey id)

/-- Stores a pre-key under an id. -/
def storePreKey (store : Store) (id : UInt32) (key : PreKey) : Store :=
  { store with preKeys := store.preKeys.insert id (Json.Document.write key) }

/-- Forgets the pre-key with an id. -/
def removePreKey (store : Store) (id : UInt32) : Store :=
  { store with preKeys := store.preKeys.erase id }

/-- The signed pre-key with an id. -/
def loadSignedPreKey (store : Store) (id : UInt32) : Except Fault SignedPreKey :=
  match store.signedPreKeys.get? id with
  | some document => readDocument document
  | none => .error (.unknownPreKey id)

/-- All signed pre-keys by ascending id. -/
def loadSignedPreKeys (store : Store) : Except Fault (List SignedPreKey) :=
  store.signedPreKeys.values.mapM readDocument

/-- Stores a signed pre-key under an id. -/
def storeSignedPreKey (store : Store) (id : UInt32) (key : SignedPreKey) : Store :=
  { store with signedPreKeys := store.signedPreKeys.insert id (Json.Document.write key) }

/-- Forgets the signed pre-key with an id. -/
def removeSignedPreKey (store : Store) (id : UInt32) : Store :=
  { store with signedPreKeys := store.signedPreKeys.erase id }

/-- The record of an address, or a new one where none is stored. -/
def loadSession (store : Store) (address : Address) : Except Fault SessionRecord :=
  match store.sessions.get? address with
  | some document => readDocument document
  | none => .ok .new

/-- Stores the record of an address. -/
def storeSession (store : Store) (address : Address) (record : SessionRecord) : Store :=
  { store with sessions := store.sessions.insert address (Json.Document.write record) }

/-- Whether an established session with an address is stored. -/
def containsSession (store : Store) (address : Address) : Except Fault Bool :=
  match store.sessions.get? address with
  | some document => (readDocument document).map fun record : SessionRecord =>
    record.current.established
  | none => .ok false

/-- The devices of a name with a stored record, in ascending order. -/
def devices (store : Store) (name : String) : List UInt32 :=
  (store.sessions.keys.filter fun address => address.name = name).map (·.device)

/-- Forgets the record of an address. -/
def deleteSession (store : Store) (address : Address) : Store :=
  { store with sessions := store.sessions.erase address }

/-- Forgets the records of all devices of a name. -/
def deleteSessions (store : Store) (name : String) : Store :=
  { store with sessions := store.sessions.filterKeys fun address => address.name != name }

end Store
end DoubleRatchet
