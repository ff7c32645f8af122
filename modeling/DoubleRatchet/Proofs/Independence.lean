import DoubleRatchet.Proofs.Engine.Locality
import DoubleRatchet.Proofs.Engine.Outcome
import DoubleRatchet.Proofs.Engine.Seeding
import DoubleRatchet.Proofs.Suite.Plain

namespace DoubleRatchet

/-!
# Independence of peers

One store serves all peers, and requests that concern different peers do not meet in it.  Each
has cells of its own: the pin of a name, the session of an address, and the one-time pre-key
that a first message names.  A request looks up no other cells and writes to no others.  So of
two requests with no cell in common neither can tell whether the other was served before it.

Pre-keys are where peers could meet.  They belong to the owner of the store, and two first
messages from different peers may name the same one; then the earlier one decides.
-/

namespace Operation

/-- The address that a request is about. -/
def address : Operation -> Address
  | processBundle address _ _ => address
  | initiate address => address
  | processExchange address _ _ => address
  | encrypt address _ => address
  | decrypt address _ _ _ => address
  | endSession address => address

/-- The one-time pre-key that a request names, which is that of a first message. -/
def namedPreKey : Operation -> Option UInt32
  | decrypt _ _ _ (.preKeyWhisper message) => message.preKeyId
  | _ => none

/-- The cells of a store that belong to a request.  Ending a session concerns all devices of
the name, and every other request one device. -/
def Owns (operation : Operation) : Store.Cell -> Prop
  | .pin name => name = operation.address.name
  | .session address =>
    match operation with
    | endSession own => address.name = own.name
    | _ => address = operation.address
  | .preKey id => operation.namedPreKey = some id

/-- Every session of a request is one with the name of its address. -/
theorem name_of_owns {operation : Operation} {address : Address}
    (own : operation.Owns (.session address)) : address.name = operation.address.name := by
  cases operation with
  | endSession => exact own
  | _ => exact congrArg Address.name own

theorem owns_session (operation : Operation) : operation.Owns (.session operation.address) := by
  cases operation with
  | _ => rfl

/-- Requests with different names have no cell in common, unless both are about first messages
that name the same pre-key. -/
theorem apart_of_names {first second : Operation}
    (names : first.address.name ≠ second.address.name)
    (preKeys : ∀ id, first.namedPreKey = some id → second.namedPreKey ≠ some id) :
    ∀ cell, first.Owns cell → ¬ second.Owns cell := by
  intro cell own foreign
  cases cell with
  | pin name => exact names (Eq.trans (Eq.symm own) foreign)
  | session address => exact names ((name_of_owns own).symm.trans (name_of_owns foreign))
  | preKey id => exact preKeys id own foreign

variable [Suite]

/-- Serves a request on a store, with draws of its own: what it gives, and the store that it
leaves. -/
def serve (operation : Operation) (store : Store) (draws : Nat -> Octets 32) :
    Except Fault Reply × Store :=
  let served := (Host.start store draws).perform operation.run
  (served.1, served.2.store)

theorem serve_eq {operation : Operation} {store : Store} {draws : Nat -> Octets 32}
    {result : Except Fault Reply} {after : Host}
    (performed : (Host.start store draws).perform operation.run = (result, after)) :
    operation.serve store draws = (result, after.store) := by
  unfold serve
  rw [performed]

/-! ## A request looks at its own cells -/

theorem local_run (operation : Operation) : Host.Local operation.Owns operation.run := by
  have pinned : operation.Owns (.pin operation.address.name) := rfl
  have filed := operation.owns_session
  cases operation with
  | processBundle address limits bundle =>
    exact (Establishment.local_processBundle pinned filed limits bundle).bind
      fun _ => Host.local_pure _
  | initiate address => exact (Establishment.local_initiate filed).bind fun _ => Host.local_pure _
  | processExchange address limits message =>
    exact (Establishment.local_processExchange pinned filed limits message).bind
      fun _ => Host.local_pure _
  | encrypt address text =>
    exact (Transport.local_encrypt filed text).bind fun _ => Host.local_pure _
  | decrypt address limits callback message =>
    refine Host.Local.bind ?_ fun _ => Host.local_pure _
    cases message with
    | whisper message => exact Transport.local_decryptWhisper pinned filed limits callback message
    | preKeyWhisper message =>
      exact Transport.local_decryptPreKeyWhisper pinned filed limits callback fun _ named => named
    | keyExchange message => exact Host.local_throw _
  | endSession address => exact Transport.local_endSession.bind fun _ => Host.local_pure _

/-- On stores that agree in the cells of a request, the request gives the same, and leaves
stores that agree there. -/
theorem serve_agrees (operation : Operation) {first second : Store}
    (draws : Nat -> Octets 32) (agrees : first.Agrees operation.Owns second) :
    (operation.serve first draws).1 = (operation.serve second draws).1 ∧
      (operation.serve first draws).2.Agrees operation.Owns (operation.serve second draws).2 := by
  obtain ⟨gives, behind⟩ := operation.local_run (Host.start first draws) (Host.start second draws)
    ⟨agrees, rfl, rfl⟩
  exact ⟨gives, behind.store⟩

/-! ## A request changes its own cells -/

omit [Suite]

/-- What a request changes at most: the pin of its name, its sessions, and the one-time pre-key
of a first message that has opened, which is gone. -/
structure Confined (operation : Operation) (store : Store) (result : Except Fault Reply)
    (left : Store) : Prop where
  identity_eq : left.identity = store.identity
  registrationId_eq : left.registrationId = store.registrationId
  signedPreKeys_eq : left.signedPreKeys = store.signedPreKeys
  pins_eq : ∀ name, name ≠ operation.address.name → left.pins.get? name = store.pins.get? name
  sessions_eq : ∀ address, ¬ operation.Owns (.session address) →
    left.sessions.get? address = store.sessions.get? address
  preKeys_eq : left.preKeys = store.preKeys ∨
    ∃ id text, operation.namedPreKey = some id ∧ result = .ok (.plaintext text) ∧
      left.preKeys = store.preKeys.erase id

namespace Confined

variable {operation : Operation} {store left : Store} {result : Except Fault Reply}

/-- Nothing has changed. -/
protected theorem refl (operation : Operation) (store : Store) (result : Except Fault Reply) :
    operation.Confined store result store :=
  ⟨rfl, rfl, rfl, fun _ _ => rfl, fun _ _ => rfl, .inl rfl⟩

/-- An identity may be pinned to the name of the address. -/
theorem pin (confined : operation.Confined store result left) (identity : IdentityKey) :
    operation.Confined store result (left.pin operation.address.name identity) :=
  { confined with
    pins_eq := fun name foreign =>
      (Table.get?_insert_of_ne _ foreign _).trans (confined.pins_eq name foreign) }

/-- A session of the address may be stored. -/
theorem storeSession (confined : operation.Confined store result left) (record : SessionRecord) :
    operation.Confined store result (left.storeSession operation.address record) where
  __ := confined
  sessions_eq := by
    intro address foreign
    have apart : address ≠ operation.address := by
      rintro rfl
      exact foreign operation.owns_session
    exact (Table.get?_insert_of_ne _ apart _).trans (confined.sessions_eq address foreign)

/-- A store that a request leaves agrees with the one before in all foreign cells. -/
theorem agrees (confined : operation.Confined store result left) :
    left.Agrees (fun cell => ¬ operation.Owns cell) store where
  identity_eq := confined.identity_eq
  registrationId_eq := confined.registrationId_eq
  signedPreKeys_eq := confined.signedPreKeys_eq
  holds cell foreign := by
    cases cell with
    | pin name => exact confined.pins_eq name foreign
    | session address => exact confined.sessions_eq address foreign
    | preKey id =>
      rcases confined.preKeys_eq with same | ⟨spent, _, named, _, erased⟩
      · exact congrArg (Table.get? · id) same
      · have apart : id ≠ spent := by
          rintro rfl
          exact foreign named
        have kept := Table.get?_erase_of_ne store.preKeys apart
        rw [← erased] at kept
        exact kept

end Confined

variable [Suite]

/-- A first message uses up no pre-key but the one that it names. -/
theorem confined_settle {address : Address} {limits : Limits}
    {callback : Bytes -> Except Fault Unit} {message : PreKeyWhisperMessage} {store : Store}
    {record accepted : SessionRecord} {used : Option UInt32} (text : Bytes)
    (accepts : Establishment.Accepted store address limits record message accepted used) :
    (decrypt address limits callback (.preKeyWhisper message)).Confined store
      (.ok (.plaintext text)) (Transport.settle store address.name message.identity used) := by
  have same := Confined.refl (decrypt address limits callback (.preKeyWhisper message)) store
    (.ok (.plaintext text))
  refine Confined.pin ?_ message.identity
  cases used with
  | none => exact same
  | some id =>
    obtain ⟨_, _, seeded, _⟩ := accepts.seeded
    exact { same with preKeys_eq := .inr ⟨id, text, seeded.named, rfl, rfl⟩ }

theorem Done.confined {host after : Host} {operation : Operation} {reply : Reply}
    (done : operation.Done host after reply) :
    operation.Confined host.store (.ok reply) after.store := by
  have same := Confined.refl operation host.store (.ok reply)
  cases done with
  | processBundle trusted offered load becomes =>
    rw [becomes.store_eq]
    exact (same.pin _).storeSession _
  | initiate load becomes =>
    rw [becomes.store_eq]
    exact same.storeSession _
  | processExchange trusted exchanged becomes =>
    rw [becomes.store_eq]
    cases exchanged with
    | answered => exact (same.pin _).storeSession _
    | completed => exact (same.pin _).storeSession _
    | passed => exact same
  | encrypt load sending sealing becomes =>
    rw [becomes.store_eq]
    exact same.storeSession _
  | whisper load before opened known trusted becomes =>
    rw [becomes.store_eq]
    exact same.storeSession _
  | preKeyWhisper load sender accepts before opened known trusted becomes =>
    rw [becomes.store_eq]
    exact (confined_settle _ accepts).storeSession _
  | @endSession address becomes =>
    rw [becomes.store_eq]
    refine { same with sessions_eq := fun other foreign => ?_ }
    have kept : (other.name != address.name) = true := bne_iff_ne.mpr foreign
    exact (Table.get?_filterKeys ..).trans (if_pos kept)

theorem confined_serve (operation : Operation) (store : Store) (draws : Nat -> Octets 32) :
    operation.Confined store (operation.serve store draws).1 (operation.serve store draws).2 := by
  have permissive : (Host.start store draws).Permissive := Host.permissive_start _ _
  rcases performed : (Host.start store draws).perform operation.run with ⟨fault | reply, after⟩
  · have same : after.store = store := (untouched_of_failed permissive performed).store_eq
    rw [serve_eq performed, same]
    exact .refl ..
  · rw [serve_eq performed]
    exact (done_of_performed permissive performed).confined

/-! ## Two requests without a common cell -/

section Apart

variable {first second : Operation} (apart : ∀ cell, first.Owns cell → ¬ second.Owns cell)
include apart

/-- A request is served alike before and behind a request that owns none of its cells. -/
theorem serve_behind (store : Store) (firstDraws secondDraws : Nat -> Octets 32) :
    let behind := first.serve (second.serve store secondDraws).2 firstDraws
    behind.1 = (first.serve store firstDraws).1 ∧
      behind.2.Agrees first.Owns (first.serve store firstDraws).2 :=
  first.serve_agrees firstDraws ((second.confined_serve store secondDraws).agrees.mono apart)

/-- In the cells of one of the requests, the order of the two makes no difference. -/
theorem serve_order_agrees (store : Store) (firstDraws secondDraws : Nat -> Octets 32) :
    (second.serve (first.serve store firstDraws).2 secondDraws).2.Agrees first.Owns
      (first.serve (second.serve store secondDraws).2 firstDraws).2 := by
  have late := (second.confined_serve (first.serve store firstDraws).2 secondDraws).agrees
  exact (late.mono apart).trans (serve_behind apart store firstDraws secondDraws).2.symm

omit apart in
/-- In the cells of neither request, both of them leave what was there before. -/
theorem serve_aside (first second : Operation) (store : Store)
    (firstDraws secondDraws : Nat -> Octets 32) :
    (second.serve (first.serve store firstDraws).2 secondDraws).2.Agrees
      (fun cell => ¬ first.Owns cell ∧ ¬ second.Owns cell) store := by
  have early := (first.confined_serve store firstDraws).agrees
  have late := (second.confined_serve (first.serve store firstDraws).2 secondDraws).agrees
  exact (late.mono fun _ => And.right).trans (early.mono fun _ => And.left)

/-- Two requests without a common cell leave the same store in either order. -/
theorem serve_comm (store : Store) (firstDraws secondDraws : Nat -> Octets 32) :
    (second.serve (first.serve store firstDraws).2 secondDraws).2 =
      (first.serve (second.serve store secondDraws).2 firstDraws).2 := by
  have flipped : ∀ cell, second.Owns cell → ¬ first.Owns cell := fun cell own foreign =>
    apart cell foreign own
  have inFirst := serve_order_agrees apart store firstDraws secondDraws
  have inSecond := (serve_order_agrees flipped store secondDraws firstDraws).symm
  have oneWay := serve_aside first second store firstDraws secondDraws
  have otherWay := (serve_aside second first store secondDraws firstDraws).mono
    fun _ => And.symm
  have elsewhere := oneWay.trans otherWay.symm
  apply Store.Agrees.eq
  apply ((inFirst.union inSecond).union elsewhere).mono
  intro cell _
  by_cases own : first.Owns cell
  · exact .inl (.inl own)
  · by_cases foreign : second.Owns cell
    · exact .inl (.inr foreign)
    · exact .inr ⟨own, foreign⟩

end Apart

end Operation

/-- Requests that concern different peers are independent.

A request changes at most the pin of its name, the session of its address, or of all addresses
of the name where it ends the sessions, and, where a first message opens, the one-time pre-key
that the message names.  Two requests with different names, of which not both are first messages
with the same one-time pre-key, give the same in either order and leave the same store.  Each of
them has draws of its own. -/
theorem peers_independent [Suite] (operation : Operation) (store : Store)
    (draws : Nat -> Octets 32) :
    operation.Confined store (operation.serve store draws).1 (operation.serve store draws).2 ∧
      ∀ (other : Operation) (otherDraws : Nat -> Octets 32),
        operation.address.name ≠ other.address.name →
        (∀ id, operation.namedPreKey = some id → other.namedPreKey ≠ some id) →
          let first := operation.serve store draws
          let second := other.serve store otherDraws
          let secondBehind := other.serve first.2 otherDraws
          let firstBehind := operation.serve second.2 draws
          firstBehind.1 = first.1 ∧ secondBehind.1 = second.1 ∧
            secondBehind.2 = firstBehind.2 := by
  refine ⟨operation.confined_serve store draws, ?_⟩
  intro other otherDraws names preKeys
  have apart := Operation.apart_of_names names preKeys
  have flipped : ∀ cell, other.Owns cell → ¬ operation.Owns cell := fun cell own foreign =>
    apart cell foreign own
  exact ⟨(Operation.serve_behind apart store draws otherDraws).1,
    (Operation.serve_behind flipped store otherDraws draws).1,
    Operation.serve_comm apart store draws otherDraws⟩

namespace Scene

section Beside

attribute [local instance] plainSuite

/-- A third party, whom Bob invites. -/
def carol : IdentityKeyPair :=
  ⟨.replicate 32 7, ⟨.replicate 32 8⟩⟩

/-- Where Bob finds Carol. -/
def carolAddress : Address :=
  ⟨"carol", 1⟩

/-- Bob opens Alice's first message, which names his pre-key. -/
def openingOlder : Operation :=
  .decrypt aliceAddress .standard (fun _ => .ok ()) (.preKeyWhisper (olderMessage 1))

/-- Bob opens a session from a bundle of Carol's, whose pre-key has the same id as his own. -/
def inviting : Operation :=
  .processBundle carolAddress .standard (.ofKeys 9 1 carol none (some preKey))

theorem serve_opening :
    ∃ text, (openingOlder.serve (olderHost 1).store bobDraws).1 = .ok (.plaintext text) := by
  obtain ⟨text, _, after, _, gives, _⟩ := bob_meets 1
  have served : (Host.start (olderHost 1).store bobDraws).perform openingOlder.run =
      (.ok (.plaintext text), after) := Host.perform_bind_of_ok gives _
  rw [Operation.serve_eq served]
  exact ⟨text, rfl⟩

theorem serve_inviting :
    (inviting.serve (olderHost 1).store aliceDraws).1 = .ok .done := by
  have permissive : (Host.start (olderHost 1).store aliceDraws).Permissive :=
    Host.permissive_start _ _
  have offered : Establishment.Offer.ofBundle (.ofKeys 9 1 carol none (some preKey)) =
      .ok olderOffer := rfl
  have trusted : (olderHost 1).store.trusts carolAddress.name carol.identity = true :=
    Store.trusts_of_unpinned rfl _
  have load : (olderHost 1).store.loadSession carolAddress = .ok .new :=
    Store.loadSession_of_empty rfl _
  obtain ⟨after, gives, _⟩ :=
    Establishment.perform_processBundle .standard permissive trusted offered load
  have served : (Host.start (olderHost 1).store aliceDraws).perform inviting.run =
      (.ok .done, after) := Host.perform_bind_of_ok gives _
  rw [Operation.serve_eq served]

/-- Bob hears Alice and invites Carol, in either order. -/
theorem opening_beside_inviting :
    openingOlder.address.name ≠ inviting.address.name ∧
      (∀ id, openingOlder.namedPreKey = some id → inviting.namedPreKey ≠ some id) ∧
      ∃ text,
        let store := (olderHost 1).store
        let heard := (openingOlder.serve store bobDraws).2
        let invited := (inviting.serve store aliceDraws).2
        (openingOlder.serve store bobDraws).1 = .ok (.plaintext text) ∧
          (openingOlder.serve invited bobDraws).1 = .ok (.plaintext text) ∧
          (inviting.serve store aliceDraws).1 = .ok .done ∧
          (inviting.serve heard aliceDraws).1 = .ok .done ∧
          (inviting.serve heard aliceDraws).2 = (openingOlder.serve invited bobDraws).2 := by
  have names : openingOlder.address.name ≠ inviting.address.name := by decide
  have preKeys : ∀ id, openingOlder.namedPreKey = some id → inviting.namedPreKey ≠ some id :=
    fun id _ named => nomatch named
  obtain ⟨hears, invites, same⟩ := (peers_independent openingOlder (olderHost 1).store bobDraws).2
    inviting aliceDraws names preKeys
  obtain ⟨text, opened⟩ := serve_opening
  exact ⟨names, preKeys, text, opened, hears.trans opened, serve_inviting,
    invites.trans serve_inviting, same⟩

end Beside

end Scene
end DoubleRatchet
