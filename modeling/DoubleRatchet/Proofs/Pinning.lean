import DoubleRatchet.Proofs.Engine.Vouching
import DoubleRatchet.Proofs.Suite.Plain

namespace DoubleRatchet

/-!
# Pinned identities

The identity of a name is pinned when the first session with it is opened, and from then on
every plaintext comes from that identity.  Nothing that the tag of a message covers says so
by itself: the identity in a first message is outside of the sealed message, its handshake
may be passed over, and the state that opens the message may be an archived one.  What makes
it so is that no established state is without a pin for its name, so that the check of the
state against the pin is never made against a name that trusts everyone.
-/

namespace Transport

variable [Suite]

/-- The record that a message is tried on: the stored one, or the one that the handshake of
a first message makes of it. -/
inductive TriedOn (store : Store) (address : Address) (limits : Limits) :
    Envelope -> SessionRecord -> Prop where
  | whisper {message : WhisperMessage} {record : SessionRecord}
      (load : store.loadSession address = .ok record) :
      TriedOn store address limits (.whisper message) record
  | preKeyWhisper {message : PreKeyWhisperMessage} {record accepted : SessionRecord}
      {used : Option UInt32} (load : store.loadSession address = .ok record)
      (accepts : Establishment.Accepted store address limits record message accepted used) :
      TriedOn store address limits (.preKeyWhisper message) accepted

/-- The text of a message comes from an identity.  Some state of the record that the message
is tried on, between the own identity and that one, has opened it: the tag of the message is
right, over the octets as they came, with that identity as the sender and the own one as the
receiver. -/
def Authentic (store : Store) (address : Address) (limits : Limits) (envelope : Envelope)
    (text : Bytes) (sender : IdentityKey) : Prop :=
  ∃ message record state ours chained chain served, envelope.sealed? = some message ∧
    TriedOn store address limits envelope record ∧ state ∈ record.states ∧
    state.localIdentity = some store.identity.identity ∧ state.remoteIdentity = some sender ∧
    state.Opens limits ours message text chained chain served store.identity.identity sender ∧
    message.verifies served.keys.macKey sender store.identity.identity = true

variable {host after : Host} {address : Address} {limits : Limits} {envelope : Envelope}
  {text : Bytes}

theorem authentic_of_takes {store : Store} {record : SessionRecord} {state taken : SessionState}
    {message : WhisperMessage} {ours : KeyPair} {sender : IdentityKey}
    (holds : envelope.sealed? = some message) (tried : TriedOn store address limits envelope record)
    (member : state ∈ record.states)
    (local_eq : state.localIdentity = some store.identity.identity)
    (takes : state.Takes limits ours message text taken)
    (remote_eq : taken.remoteIdentity = some sender) :
    Authentic store address limits envelope text sender := by
  obtain ⟨_, localKept, remoteKept⟩ := takes.keeps_identities
  obtain ⟨chained, chain, served, localIdentity, remoteIdentity, opens, rfl⟩ := takes
  have ownership : (some localIdentity : Option IdentityKey) = some store.identity.identity :=
    opens.local_eq.symm.trans (localKept.trans local_eq)
  have origin : (some remoteIdentity : Option IdentityKey) = some sender :=
    opens.remote_eq.symm.trans remote_eq
  cases ownership
  cases origin
  exact ⟨message, record, state, ours, chained, chain, served, holds, tried, member, local_eq,
    remoteKept.symm.trans remote_eq, opens, opens.verifies⟩

/-- Where every record is vouched for, a plaintext comes from the identity that is pinned to
the name afterwards. -/
theorem authentic_of_decrypt {callback : Bytes -> Except Fault Unit}
    (permissive : host.Permissive) (vouched : host.store.Vouched)
    (gives : host.perform (decryptWith address limits callback envelope) = (.ok text, after)) :
    ∃ sender, after.store.pins.get? address.name = some sender ∧
      Authentic host.store address limits envelope text sender := by
  have performed : host.perform (Operation.decrypt address limits callback envelope).run =
      (.ok (.plaintext text), after) := Host.perform_bind_of_ok gives _
  cases Operation.done_of_performed permissive performed with
  | whisper load before opened known trusted becomes =>
    obtain ⟨state, member, takes⟩ := opened.taker
    obtain ⟨established, _, _⟩ := takes.keeps_identities
    obtain ⟨own, pins⟩ := vouched _ _ load state member established
    obtain ⟨pinned, held⟩ := Option.isSome_iff_exists.mp pins
    have same := Store.eq_of_trusts trusted held
    subst same
    refine ⟨pinned, ?_, authentic_of_takes rfl (.whisper load) member own takes known⟩
    rw [becomes.store_eq]
    exact held
  | @preKeyWhisper _ _ _ message _ record accepted result used _ _ _ remote load sender accepts
      before opened known trusted becomes =>
    obtain ⟨state, member, takes⟩ := opened.taker
    obtain ⟨established, _, remoteKept⟩ := takes.keeps_identities
    -- A state that was there before has found a pin, and a new one is of the sender.
    have own : state.localIdentity = some host.store.identity.identity ∧
        remote = message.identity := by
      rcases Operation.mem_states_accepted accepts member with earlier | ⟨_, _, rfl⟩
      · obtain ⟨own, pins⟩ := vouched _ _ load state earlier established
        obtain ⟨pinned, held⟩ := Option.isSome_iff_exists.mp pins
        exact ⟨own, (Store.eq_of_trusts trusted held).symm.trans (Store.eq_of_trusts sender held)⟩
      · have same : some message.identity = some remote := remoteKept.symm.trans known
        exact ⟨rfl, (Option.some.inj same).symm⟩
    obtain ⟨local_eq, rfl⟩ := own
    refine ⟨message.identity, ?_,
      authentic_of_takes rfl (.preKeyWhisper load accepts) member local_eq takes known⟩
    rw [becomes.store_eq]
    change (settle host.store address.name message.identity used).pins.get? address.name = _
    rw [(Operation.settle_eq ..).2]
    exact Store.pins_pin_self ..

end Transport

/-- Identities stay pinned through everything that a host without sessions goes through.

No request changes an existing pin, whatever it gives.  A record with an established state,
current or archived, belongs to a pinned name.  And every plaintext comes from the identity
that is pinned to its name once it was read. -/
theorem identities_stay_pinned [Suite] {host : Host} (permissive : host.Permissive)
    (sessionless : host.store.sessions = .empty) (deeds : List Deed) :
    (∀ (operation : Operation) (name : String) (pinned : IdentityKey),
      (host.through deeds).store.pins.get? name = some pinned →
        ((host.through deeds).act (.asks operation)).store.pins.get? name = some pinned) ∧
    (∀ (address : Address) (record : SessionRecord) (state : SessionState),
      (host.through deeds).store.loadSession address = .ok record → state ∈ record.states →
        state.established = true →
          ∃ pinned, (host.through deeds).store.pins.get? address.name = some pinned) ∧
    (∀ (address : Address) (limits : Limits) (callback : Bytes -> Except Fault Unit)
      (envelope : Envelope) (text : Bytes) (after : Host),
      (host.through deeds).perform (Transport.decryptWith address limits callback envelope) =
          (.ok text, after) →
        ∃ pinned, after.store.pins.get? address.name = some pinned ∧
          Transport.Authentic (host.through deeds).store address limits envelope text pinned) := by
  have still := Host.permissive_through permissive deeds
  have vouched := Host.vouched_through permissive (Store.vouched_of_empty sessionless) deeds
  refine ⟨?_, ?_, ?_⟩
  · intro operation name pinned held
    exact (Host.vouches_asks still operation).keeps held
  · intro address record state load member established
    exact Option.isSome_iff_exists.mp (vouched address record load state member established).2
  · intro address limits callback envelope text after gives
    exact Transport.authentic_of_decrypt still vouched gives

section Scene

open Scene

attribute [local instance] plainSuite

/-- Bob stores a signed pre-key and opens Alice's first message.  From then on her identity
is pinned, and the text that he has read is hers. -/
theorem first_message_pins_alice :
    (Host.start (Store.ofIdentity bob 8) bobDraws).Permissive ∧
      (Store.ofIdentity bob 8).sessions = .empty ∧
      ∃ text after sender,
        bobHost.perform (Transport.decrypt aliceAddress .standard (.preKeyWhisper firstMessage)) =
            (.ok text, after) ∧
          after.store.pins.get? "alice" = some sender ∧
          Transport.Authentic bobHost.store aliceAddress .standard (.preKeyWhisper firstMessage)
            text sender := by
  obtain ⟨text, after, gives⟩ := first_message_opens
  have permissive : (Host.start (Store.ofIdentity bob 8) bobDraws).Permissive :=
    Host.permissive_start _ _
  obtain ⟨sender, held, authentic⟩ := (identities_stay_pinned permissive rfl
    [.tends (.storeSignedPreKey 1 signedPreKey)]).2.2 aliceAddress .standard (fun _ => .ok ())
    (.preKeyWhisper firstMessage) text after gives
  exact ⟨permissive, rfl, text, after, sender, gives, held, authentic⟩

end Scene
end DoubleRatchet
