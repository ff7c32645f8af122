import DoubleRatchet.Proofs.Engine.FailClosed
import DoubleRatchet.Proofs.Suite.Plain

namespace DoubleRatchet

/-!
# No session without a signature

In the newer version the keys that a session is opened with are signed by the identity
that offers them.  A bundle is checked when it comes in, the opening leg of a key
exchange as well, and the answer to one only after the new state was negotiated.  What
matters is the same in all three places: the key under the signature is the key that the
agreements are made with, and the identity that has signed it is the one of the new state
and the one that is pinned.

A signature that does not verify is found before anything is written.
-/

namespace SessionState

/-- The state is what a negotiation gave, apart from what is announced with a handshake. -/
def Continues (state negotiated : SessionState) : Prop :=
  state = { negotiated with
    pendingPreKey := state.pendingPreKey
    remoteRegistrationId := state.remoteRegistrationId
    localRegistrationId := state.localRegistrationId
    initiatorBaseKey := state.initiatorBaseKey }

/-- The state is a session of the newest version between two identities, negotiated by
agreements with a key of the other party. -/
inductive AgreedOver [Suite] (own : IdentityKeyPair) (theirs : IdentityKey) (key : PublicKey)
    (state : SessionState) : Prop where
  | initiated {keys : Negotiation.InitiatorKeys} {ratchetKey : KeyPair}
      (own_eq : keys.identity = own) (theirs_eq : keys.theirIdentity = theirs)
      (key_eq : keys.theirSignedPreKey = key)
      (negotiated : state.Continues (Negotiation.initiator currentVersion keys ratchetKey)) :
      AgreedOver own theirs key state
  | responded {keys : Negotiation.ResponderKeys} (own_eq : keys.identity = own)
      (theirs_eq : keys.theirIdentity = theirs) (key_eq : keys.theirBaseKey = key)
      (negotiated : state.Continues (Negotiation.responder currentVersion keys)) :
      AgreedOver own theirs key state

variable [Suite] {own : IdentityKeyPair} {theirs : IdentityKey} {key : PublicKey}
  {state : SessionState}

theorem AgreedOver.version_eq (agreed : state.AgreedOver own theirs key) :
    state.version = currentVersion := by
  have stored : state.storedVersion = currentVersion := by
    cases agreed with
    | initiated own_eq theirs_eq key_eq negotiated => exact congrArg storedVersion negotiated
    | responded own_eq theirs_eq key_eq negotiated => exact congrArg storedVersion negotiated
  unfold version
  rw [stored]
  rfl

theorem AgreedOver.remoteIdentity_eq (agreed : state.AgreedOver own theirs key) :
    state.remoteIdentity = some theirs := by
  cases agreed with
  | initiated own_eq theirs_eq key_eq negotiated =>
    rw [← theirs_eq]
    exact congrArg remoteIdentity negotiated
  | responded own_eq theirs_eq key_eq negotiated =>
    rw [← theirs_eq]
    exact congrArg remoteIdentity negotiated

end SessionState

namespace Establishment

variable [Suite]

/-- What an operation has left behind that has opened a session over a signed key: the
signature is one of the identity over the 33 octets of the key, the current state was agreed
over that key, and it and the pin are of that identity. -/
structure RestsOn (before after : Store) (address : Address) (identity : IdentityKey)
    (key : PublicKey) (signature : Bytes) : Prop where
  verifies : identity.verifies key.toBytes signature = true
  pinned : after.pins.get? address.name = some identity
  current : ∃ record, after.loadSession address = .ok record ∧
    record.current.AgreedOver before.identity identity key ∧
    record.current.version = currentVersion ∧ record.current.remoteIdentity = some identity

/-- The message passes the checks that come before the one of its signature: it comes from a
trusted identity, and opens an exchange or answers the one that is pending. -/
inductive Heeded (store : Store) (address : Address) (message : KeyExchangeMessage) : Prop where
  | opening (trusted : store.trusts address.name message.identity = true)
      (opening : message.isInitiate = true) : Heeded store address message
  | answering {record : SessionRecord} {pending : PendingExchange}
      (trusted : store.trusts address.name message.identity = true)
      (answering : message.isInitiate = false) (response : message.isResponse = true)
      (load : store.loadSession address = .ok record)
      (waiting : record.current.pendingExchange = some pending)
      (matching : pending.sequence = message.sequence) : Heeded store address message

variable {host after : Host} {address : Address} {limits : Limits} {bundle : Bundle}
  {signed : SignedPreKeyOffer} {message : KeyExchangeMessage}

/-- A state that was put in front of a record and stored with a pin. -/
theorem restsOn_stored {store : Store} {identity : IdentityKey} {key : PublicKey}
    {signature : Bytes} {state : SessionState}
    (verifies : identity.verifies key.toBytes signature = true)
    (agreed : state.AgreedOver store.identity identity key) (record : SessionRecord)
    (bound : Nat) :
    RestsOn store ((store.pin address.name identity).storeSession address
      (record.promote state bound)) address identity key signature where
  verifies := verifies
  pinned := Store.pins_pin_self ..
  current := ⟨_, Store.loadSession_storeSession_self .., agreed, agreed.version_eq,
    agreed.remoteIdentity_eq⟩

/-! ## Bundles -/

/-- A bundle with a signed pre-key offers that key, if its signature verifies, and nothing
otherwise. -/
theorem ofBundle_of_signed (carries : bundle.signedPreKey = some signed) :
    Offer.ofBundle bundle =
      if bundle.identity.verifies signed.publicKey.toBytes signed.signature then
        .ok ⟨currentVersion, signed.publicKey, bundle.preKey.map (·.publicKey)⟩
      else .error (.invalidKey .unsignedBundle) := by
  unfold Offer.ofBundle Bundle.verifies
  rw [carries]
  rfl

theorem agreedOver_bundleState (store : Store) (bundle : Bundle) (key : PublicKey)
    (oneTime : Option PublicKey) (baseKey ratchetKey : KeyPair) :
    (bundleState store bundle ⟨currentVersion, key, oneTime⟩ baseKey ratchetKey).AgreedOver
      store.identity bundle.identity key :=
  .initiated rfl rfl rfl rfl

theorem restsOn_of_processBundle (permissive : host.Permissive)
    (carries : bundle.signedPreKey = some signed)
    (gives : host.perform (processBundle address limits bundle) = (.ok (), after)) :
    RestsOn host.store after.store address bundle.identity signed.publicKey signed.signature := by
  obtain ⟨offer, record, _, offered, _, becomes⟩ := processBundle_eq_ok permissive gives
  rw [ofBundle_of_signed carries] at offered
  split at offered
  · next verifies =>
    cases offered
    rw [becomes.store_eq]
    exact restsOn_stored verifies (agreedOver_bundleState ..) _ _
  · cases offered

/-- A bundle whose signature does not verify is refused as soon as its identity is trusted. -/
theorem perform_forgedBundle (limits : Limits) (permissive : host.Permissive)
    (carries : bundle.signedPreKey = some signed)
    (trusted : host.store.trusts address.name bundle.identity = true)
    (forged : bundle.identity.verifies signed.publicKey.toBytes signed.signature = false) :
    host.perform (processBundle address limits bundle) =
      (.error (.invalidKey .unsignedBundle), host) := by
  unfold processBundle
  rw [Host.perform_bind_of_ok (perform_checkTrusted permissive trusted),
    ofBundle_of_signed carries, forged]
  exact Host.perform_bind_of_error (Host.perform_except _ _) _

/-! ## Key exchanges -/

theorem checkSigned_eq (version_eq : message.version = currentVersion) :
    checkSigned message =
      if message.verifies then .ok () else .error (.invalidKey .unsignedExchange) := by
  unfold checkSigned
  rw [version_eq]
  cases message.verifies with
  | true => rfl
  | false => rfl

theorem verifies_of_checkSigned (version_eq : message.version = currentVersion)
    (checked : checkSigned message = .ok ()) : message.verifies = true := by
  rw [checkSigned_eq version_eq] at checked
  split at checked
  · assumption
  · cases checked

theorem agreedOver_exchangeState (version_eq : message.version = currentVersion) (store : Store)
    (baseKey ratchetKey fresh : KeyPair) :
    (exchangeState store message baseKey ratchetKey fresh).AgreedOver store.identity
      message.identity message.baseKey := by
  cases role : Negotiation.isInitiator baseKey.publicKey message.baseKey with
  | true =>
    rw [exchangeState_of_initiator ratchetKey fresh role, version_eq]
    exact .initiated rfl rfl rfl rfl
  | false =>
    rw [exchangeState_of_responder ratchetKey fresh role, version_eq]
    exact .responded rfl rfl rfl rfl

theorem restsOn_of_processExchange {outcome : Except Fault (Option KeyExchangeMessage)}
    (permissive : host.Permissive) (version_eq : message.version = currentVersion)
    (gives : host.perform (processExchange address limits message) = (outcome, after))
    (changed : after.store ≠ host.store) :
    RestsOn host.store after.store address message.identity message.baseKey
      (message.baseKeySignature.getD []) := by
  cases outcome with
  | error fault =>
    exact absurd (failClosed_processExchange address limits message host after fault permissive
      gives).store_eq changed
  | ok answer =>
    obtain ⟨_, store, draws, exchanged, becomes⟩ := processExchange_eq_ok permissive gives
    rw [becomes.store_eq] at changed ⊢
    cases exchanged with
    | answered opening load brought signed =>
      exact restsOn_stored (verifies_of_checkSigned version_eq signed)
        (agreedOver_exchangeState version_eq ..) _ _
    | completed answering load waiting matching signed response =>
      exact restsOn_stored (verifies_of_checkSigned version_eq signed)
        (agreedOver_exchangeState version_eq ..) _ _
    | passed => exact absurd rfl changed

/-- A leg of a key exchange whose signature does not verify is refused, if it is heeded. -/
theorem perform_forgedExchange (limits : Limits) (permissive : host.Permissive)
    (version_eq : message.version = currentVersion) (heeded : Heeded host.store address message)
    (forged : message.verifies = false) :
    ∃ after, host.perform (processExchange address limits message) =
      (.error (.invalidKey .unsignedExchange), after) := by
  have unsigned : checkSigned message = .error (.invalidKey .unsignedExchange) := by
    rw [checkSigned_eq version_eq, forged]
    rfl
  unfold processExchange
  cases heeded with
  | opening trusted opening =>
    have refused : host.perform (processInitiate address limits message) =
        (.error (.invalidKey .unsignedExchange), host) := by
      unfold processInitiate
      rw [unsigned]
      exact Host.perform_bind_of_error (Host.perform_except _ _) _
    rw [Host.perform_bind_of_ok (perform_checkTrusted permissive trusted), if_pos opening,
      Host.perform_bind_of_error refused]
    exact ⟨_, rfl⟩
  | @answering record pending trusted answering response load waiting matching =>
    have loaded := Host.perform_loadSession permissive address
    rw [load] at loaded
    have found : (record.current.pendingExchange.filter fun pending =>
        pending.sequence = message.sequence) = some pending :=
      Option.filter_eq_some_iff.mpr ⟨waiting, by simpa using matching⟩
    obtain ⟨events, negotiated⟩ :=
      perform_symmetric host message pending.baseKey pending.ratchetKey
    have refused : ∃ after, host.perform (processResponse address limits message) =
        (.error (.invalidKey .unsignedExchange), after) := by
      unfold processResponse
      rw [Host.perform_bind_of_ok loaded, found]
      dsimp only
      rw [Host.perform_bind_of_ok (Host.perform_identityKeyPair permissive),
        Host.perform_bind_of_ok negotiated, unsigned]
      exact ⟨_, Host.perform_bind_of_error (Host.perform_except _ _) _⟩
    obtain ⟨after, fails⟩ := refused
    rw [Host.perform_bind_of_ok (perform_checkTrusted permissive trusted), answering, response]
    exact ⟨after, Host.perform_bind_of_error fails _⟩

end Establishment

open Establishment

/-- Sessions of the newest version rest on signatures.  Where a bundle with a signed pre-key
has opened a session, or a leg of a key exchange has changed the store, the identity that
offers the key has signed it, the agreements are with that key, and the identity is the one of
the new current state and the one that is pinned.  Where the signature does not verify and
nothing else is refused before, that is the fault, and the store is as it was. -/
theorem sessions_rest_on_signatures [Suite] {host : Host} (permissive : host.Permissive)
    (address : Address) (limits : Limits) :
    (∀ bundle signed after, bundle.signedPreKey = some signed →
      host.perform (processBundle address limits bundle) = (.ok (), after) →
        RestsOn host.store after.store address bundle.identity signed.publicKey
          signed.signature) ∧
    (∀ message outcome after, message.version = currentVersion →
      host.perform (processExchange address limits message) = (outcome, after) →
        after.store ≠ host.store →
          RestsOn host.store after.store address message.identity message.baseKey
            (message.baseKeySignature.getD [])) ∧
    (∀ bundle signed, bundle.signedPreKey = some signed →
      host.store.trusts address.name bundle.identity = true →
      bundle.identity.verifies signed.publicKey.toBytes signed.signature = false →
        ∃ after, host.perform (processBundle address limits bundle) =
          (.error (.invalidKey .unsignedBundle), after) ∧ after.store = host.store) ∧
    ∀ message, message.version = currentVersion → Heeded host.store address message →
      message.identity.verifies message.baseKey.toBytes (message.baseKeySignature.getD []) =
        false →
        ∃ after, host.perform (processExchange address limits message) =
          (.error (.invalidKey .unsignedExchange), after) ∧ after.store = host.store := by
  refine ⟨?_, ?_, ?_, ?_⟩
  · intro bundle signed after carries gives
    exact restsOn_of_processBundle permissive carries gives
  · intro message outcome after version_eq gives changed
    exact restsOn_of_processExchange permissive version_eq gives changed
  · intro bundle signed carries trusted forged
    exact ⟨host, perform_forgedBundle limits permissive carries trusted forged, rfl⟩
  · intro message version_eq heeded forged
    obtain ⟨after, fails⟩ := perform_forgedExchange limits permissive version_eq heeded forged
    exact ⟨after, fails, (failClosed_processExchange address limits message host after _
      permissive fails).store_eq⟩

/-- The plain suite with other signatures: what is signed is its own signature. -/
@[reducible] def echoingSuite : Suite :=
  { plainSuite with verify := fun _ message signature => signature = message }

section Scene

open Scene

attribute [local instance] echoingSuite

/-- Bob's signed pre-key with some signature. -/
def Scene.offerWith (signature : Bytes) : SignedPreKeyOffer :=
  ⟨1, signedPreKey.pair.publicKey, signature⟩

/-- Bob's bundle with it. -/
def Scene.bundleWith (signature : Bytes) : Bundle where
  registrationId := 8
  deviceId := 1
  preKey := none
  signedPreKey := some (offerWith signature)
  identity := bob.identity

/-- Bob's key exchange with some signature. -/
def Scene.crossingWith (signature : Option Bytes) : KeyExchangeMessage :=
  { crossing with baseKeySignature := signature }

/-- Alice opens sessions over the keys that Bob has signed, and refuses the others. -/
theorem signed_keys_found_sessions :
    let host := Host.start (.ofIdentity alice 7) aliceDraws
    let key := signedPreKey.pair.publicKey
    let exchange := host.perform (processExchange bobAddress .standard
      (crossingWith (some crossing.baseKey.toBytes)))
    (∃ after, host.perform (processBundle bobAddress .standard (bundleWith key.toBytes)) =
        (.ok (), after) ∧
      RestsOn host.store after.store bobAddress bob.identity key key.toBytes) ∧
    (exchange.2.store ≠ host.store ∧ RestsOn host.store exchange.2.store bobAddress bob.identity
      crossing.baseKey crossing.baseKey.toBytes) ∧
    (∃ after, host.perform (processBundle bobAddress .standard (bundleWith [])) =
      (.error (.invalidKey .unsignedBundle), after) ∧ after.store = host.store) ∧
    ∃ after, host.perform (processExchange bobAddress .standard (crossingWith none)) =
      (.error (.invalidKey .unsignedExchange), after) ∧ after.store = host.store := by
  intro host key exchange
  have permissive : host.Permissive := Host.permissive_start _ _
  have trusted : host.store.trusts bobAddress.name bob.identity = true :=
    Store.trusts_of_unpinned rfl _
  obtain ⟨bundles, exchanges, forgedBundles, forgedExchanges⟩ :=
    sessions_rest_on_signatures permissive bobAddress .standard
  have carries (signature : Bytes) :
      (bundleWith signature).signedPreKey = some (offerWith signature) := rfl
  have version_eq (signature : Option Bytes) :
      (crossingWith signature).version = currentVersion := rfl
  have genuine : bob.identity.verifies key.toBytes key.toBytes = true := by decide
  have offered : Offer.ofBundle (bundleWith key.toBytes) = .ok ⟨currentVersion, key, none⟩ := by
    rw [ofBundle_of_signed (carries _)]
    exact if_pos genuine
  obtain ⟨after, gives, _⟩ := perform_processBundle .standard permissive trusted offered
    (Store.loadSession_of_empty rfl bobAddress)
  have changed : exchange.2.store ≠ host.store := by decide +kernel
  have opening : Heeded host.store bobAddress (crossingWith none) :=
    .opening trusted (by decide)
  refine ⟨⟨after, gives, bundles _ _ _ (carries _) gives⟩, ⟨changed, ?_⟩, ?_, ?_⟩
  · exact exchanges _ exchange.1 exchange.2 (version_eq (some crossing.baseKey.toBytes)) rfl changed
  · exact forgedBundles _ _ (carries []) trusted (by decide)
  · exact forgedExchanges _ (version_eq none) opening (by decide)

end Scene
end DoubleRatchet
