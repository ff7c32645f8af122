import DoubleRatchet.Store
import DoubleRatchet.Trace

namespace DoubleRatchet

/-!
# Hosts

An operation of the engine runs on a host, which keeps the store, supplies the
draws and takes the reports.  A host may refuse calls of its store, each with a
fault of its own; a refused call has no effect.

An operation fails with the host as the operation has left it.  That a failing
operation leaves the store alone is therefore a property of each operation and
no effect of the monad: without refusals all checks come before all writes.
-/

/-- The calls that operations make to a store. -/
inductive StoreCall where
  | identityKeyPair
  | localRegistrationId
  | saveIdentity
  | isTrustedIdentity
  | pinnedIdentity
  | loadPreKey
  | storePreKey
  | containsPreKey
  | removePreKey
  | loadSignedPreKey
  | loadSignedPreKeys
  | storeSignedPreKey
  | containsSignedPreKey
  | removeSignedPreKey
  | loadSession
  | devices
  | storeSession
  | containsSession
  | deleteSession
  | deleteSessions
  deriving DecidableEq

/-- What an operation runs on. -/
structure Host where
  store : Store
  /-- The fault with which a call is refused, if it is. -/
  refusal : StoreCall -> Option Fault
  /-- The plaintext that was last offered to a callback. -/
  offered : Option Bytes
  trace : Trace

/-- An operation on a host. -/
abbrev Engine := ExceptT Fault (StateM Host)

namespace Host

/-- A host that refuses nothing, before its first draw. -/
def start (store : Store) (entropy : Nat -> Octets 32) : Host :=
  ⟨store, fun _ => none, none, .start entropy⟩

/-- Runs an operation. -/
def perform {α : Type} (host : Host) (operation : Engine α) : Except Fault α × Host :=
  operation.run host

instance : MonadLift Drawing Engine where
  monadLift operation := fun host =>
    let (value, trace) := operation host.trace
    (.ok value, { host with trace })

instance : MonadLift Traced Engine where
  monadLift operation := fun host =>
    let (result, trace) := operation host.trace
    (result, { host with trace })

instance : MonadLift (Except Fault) Engine where
  monadLift result := fun host => (result, host)

/-- The host as it is. -/
def present : Engine Host :=
  fun host => (.ok host, host)

/-- Changes the host. -/
def update (change : Host -> Host) : Engine Unit :=
  fun host => (.ok (), change host)

/-- Refuses a call where the host does. -/
def permit (call : StoreCall) : Engine Unit :=
  fun host =>
    match host.refusal call with
    | some fault => (.error fault, host)
    | none => (.ok (), host)

/-- A call that reads the store. -/
def ask {α : Type} (call : StoreCall) (answer : Store -> Except Fault α) : Engine α := do
  permit call
  answer (← present).store

/-- A call that changes the store. -/
def change (call : StoreCall) (changed : Store -> Store) : Engine Unit := do
  permit call
  update fun host => { host with store := changed host.store }

/-- The own identity. -/
def identityKeyPair : Engine IdentityKeyPair :=
  ask .identityKeyPair fun store => .ok store.identity

/-- The own registration id. -/
def localRegistrationId : Engine UInt32 :=
  ask .localRegistrationId fun store => .ok store.registrationId

/-- Pins an identity to a name, and says whether another one was replaced. -/
def saveIdentity (name : String) (identity : IdentityKey) : Engine Bool := do
  permit .saveIdentity
  let replaced := (← present).store.replacedByPin name identity
  update fun host => { host with store := host.store.pin name identity }
  match replaced with
  | some old =>
    Trace.report (.identityChanged name old identity)
    return true
  | none => return false

/-- Whether an identity is trusted for a name. -/
def isTrustedIdentity (name : String) (identity : IdentityKey) : Engine Bool :=
  ask .isTrustedIdentity fun store => .ok (store.trusts name identity)

/-- The identity that is pinned to a name. -/
def pinnedIdentity (name : String) : Engine (Option IdentityKey) :=
  ask .pinnedIdentity fun store => .ok (store.pins.get? name)

/-- The pre-key with an id. -/
def loadPreKey (id : UInt32) : Engine PreKey :=
  ask .loadPreKey fun store => store.loadPreKey id

/-- Stores a pre-key under an id. -/
def storePreKey (id : UInt32) (key : PreKey) : Engine Unit :=
  change .storePreKey fun store => store.storePreKey id key

/-- Whether a pre-key with an id is stored. -/
def containsPreKey (id : UInt32) : Engine Bool :=
  ask .containsPreKey fun store => .ok (store.preKeys.contains id)

/-- Forgets the pre-key with an id. -/
def removePreKey (id : UInt32) : Engine Unit :=
  change .removePreKey fun store => store.removePreKey id

/-- The signed pre-key with an id. -/
def loadSignedPreKey (id : UInt32) : Engine SignedPreKey :=
  ask .loadSignedPreKey fun store => store.loadSignedPreKey id

/-- All signed pre-keys by ascending id. -/
def loadSignedPreKeys : Engine (List SignedPreKey) :=
  ask .loadSignedPreKeys fun store => store.loadSignedPreKeys

/-- Stores a signed pre-key under an id. -/
def storeSignedPreKey (id : UInt32) (key : SignedPreKey) : Engine Unit :=
  change .storeSignedPreKey fun store => store.storeSignedPreKey id key

/-- Whether a signed pre-key with an id is stored. -/
def containsSignedPreKey (id : UInt32) : Engine Bool :=
  ask .containsSignedPreKey fun store => .ok (store.signedPreKeys.contains id)

/-- Forgets the signed pre-key with an id. -/
def removeSignedPreKey (id : UInt32) : Engine Unit :=
  change .removeSignedPreKey fun store => store.removeSignedPreKey id

/-- The record of an address, or a new one where none is stored. -/
def loadSession (address : Address) : Engine SessionRecord :=
  ask .loadSession fun store => store.loadSession address

/-- The devices of a name with a stored record. -/
def devices (name : String) : Engine (List UInt32) :=
  ask .devices fun store => .ok (store.devices name)

/-- Stores the record of an address. -/
def storeSession (address : Address) (record : SessionRecord) : Engine Unit :=
  change .storeSession fun store => store.storeSession address record

/-- Whether an established session with an address is stored. -/
def containsSession (address : Address) : Engine Bool :=
  ask .containsSession fun store => store.containsSession address

/-- Forgets the record of an address. -/
def deleteSession (address : Address) : Engine Unit :=
  change .deleteSession fun store => store.deleteSession address

/-- Forgets the records of all devices of a name. -/
def deleteSessions (name : String) : Engine Unit :=
  change .deleteSessions fun store => store.deleteSessions name

/-- Offers a plaintext to a callback, which may refuse it. -/
def offer (plaintext : Bytes) (callback : Bytes -> Except Fault Unit) : Engine Unit := do
  update fun host => { host with offered := some plaintext }
  callback plaintext

end Host
end DoubleRatchet
