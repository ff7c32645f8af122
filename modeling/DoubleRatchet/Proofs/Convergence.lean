import DoubleRatchet.Proofs.Engine.Overtaking
import DoubleRatchet.Proofs.Engine.Transporting
import DoubleRatchet.Proofs.Session.Hearing
import DoubleRatchet.Proofs.Suite.Plain

namespace DoubleRatchet

/-!
# Crossing key exchanges converge, if no answer overtakes an opening

Two sides that have opened key exchanges with each other end up in one session, and hear
each other in it, for every order of the four legs in which the opening of a side comes before
its answer.  Both then negotiate from the pairs that both had pending, and the base keys give
them opposite roles.

An answer that overtakes the opening of its sender breaks this.  It completes the exchange of
its receiver, which no longer waits when the opening comes, and answers it from fresh pairs.
That second answer is stale when it arrives, since its receiver has given the first one long
ago, and the two sides are left with states of two negotiations.
-/

namespace Crossing

variable [Suite] {crossing : Crossing} {sequence : Side -> UInt32} {side : Side}

/-- What a side brings into a negotiation from what is pending on both. -/
def exchangeKeys (crossing : Crossing) (sequence : Side -> UInt32) (side : Side) :
    Negotiation.ExchangeKeys :=
  Establishment.exchangeKeys (crossing.host side).store.identity
    (crossing.pendingOf sequence side).baseKey (crossing.pendingOf sequence side).ratchetKey
    (crossing.openingOf sequence side.across)

theorem facing_exchangeKeys (crossing : Crossing) (sequence : Side -> UInt32) (side : Side) :
    Negotiation.Facing (crossing.exchangeKeys sequence side)
      (crossing.exchangeKeys sequence side.across) := by
  obtain ⟨base, ratchet⟩ := crossing.matched_pendingOf sequence side
  obtain ⟨otherBase, otherRatchet⟩ := crossing.matched_pendingOf sequence side.across
  unfold exchangeKeys
  rw [side.across_across]
  exact ⟨rfl, rfl, rfl, rfl, rfl, rfl, base, otherBase, ratchet, otherRatchet⟩

/-- The side with the higher base key is the initiator of the session that both have agreed
on. -/
theorem joined_agreedState (symmetric : Suite.AgreementSymmetric ‹Suite›)
    (different : (crossing.openingOf sequence side).baseKey ≠
      (crossing.openingOf sequence side.across).baseKey)
    (higher : Negotiation.isInitiator (crossing.openingOf sequence side).baseKey
      (crossing.openingOf sequence side.across).baseKey = true)
    {fresh : KeyPair} (drawn : fresh.Matched) (other : KeyPair) :
    SessionState.Joined ⟨currentVersion, crossing.identity side, crossing.identity side.across⟩
      (crossing.pendingOf sequence side.across).ratchetKey
      (crossing.agreedState sequence side fresh)
      (crossing.agreedState sequence side.across other) := by
  have facing := crossing.facing_exchangeKeys sequence side
  have lower := Negotiation.isInitiator_swap different
  rw [higher] at lower
  have initiates : crossing.agreedState sequence side fresh = _ :=
    Establishment.exchangeState_of_initiator (crossing.pendingOf sequence side).ratchetKey fresh
      higher
  have opposite : Negotiation.isInitiator (crossing.openingOf sequence side.across).baseKey
      (crossing.openingOf sequence side.across.across).baseKey = false := by
    rw [side.across_across]
    exact lower
  have responds : crossing.agreedState sequence side.across other = _ :=
    Establishment.exchangeState_of_responder (crossing.pendingOf sequence side.across).ratchetKey
      other opposite
  rw [initiates, responds]
  exact (facing.counterparts.joined symmetric currentVersion drawn).registered _ _

/-- Two sides that have agreed are joined, one way or the other. -/
theorem joined_of_agreed (crossing : Crossing) (symmetric : Suite.AgreementSymmetric ‹Suite›)
    (different : (crossing.openingOf sequence .near).baseKey ≠
      (crossing.openingOf sequence .far).baseKey)
    {fresh : Side -> KeyPair} (drawn : ∀ side, (fresh side).Matched) :
    ∃ side, SessionState.Joined
      ⟨currentVersion, crossing.identity side, crossing.identity side.across⟩
      (crossing.pendingOf sequence side.across).ratchetKey
      (crossing.agreedState sequence side (fresh side))
      (crossing.agreedState sequence side.across (fresh side.across)) := by
  cases role : Negotiation.isInitiator (crossing.openingOf sequence .near).baseKey
      (crossing.openingOf sequence .far).baseKey with
  | true =>
    exact ⟨.near, joined_agreedState symmetric different role (drawn .near) _⟩
  | false =>
    have swapped := Negotiation.isInitiator_swap different
    rw [role] at swapped
    exact ⟨.far, joined_agreedState symmetric different.symm swapped (drawn .far) _⟩

/-! ## Sides that hear each other -/

variable {host other after : Host} {record found : SessionRecord} {text : Bytes}
  {envelope : Envelope}

/-- A side with joined states seals whatever the suite can seal. -/
theorem Shows.speaks (shows : crossing.Shows side host record) {sender : SenderChain}
    {speaker hearer : IdentityKey} (sending : record.current.sender = some sender)
    (ours : record.current.localIdentity = some speaker)
    (theirs : record.current.remoteIdentity = some hearer)
    (sealable : ∀ key nonce, (Suite.seal? key nonce text).isSome = true) :
    ∃ envelope after, host.perform (Transport.encrypt (crossing.address side) text) =
      (.ok envelope, after) := by
  obtain ⟨body, closed⟩ := Option.isSome_iff_exists.mp (sealable
    sender.chainKey.messageKeys.cipherKey sender.chainKey.messageKeys.nonce)
  obtain ⟨after, gives, _⟩ := Transport.perform_encrypt shows.permissive shows.load sending
    (SessionState.sealText_of_sealed ours theirs closed)
  exact ⟨_, after, gives⟩

/-- A side hears what the state in front of its record takes. -/
theorem Shows.hears (speaker : crossing.Shows side host record)
    (hearer : crossing.Shows side.across other found)
    (takes : ∀ sender envelope next, record.current.sender = some sender →
      record.current.sealText sender text = .ok (envelope, next) →
        ∃ message taken, envelope = .whisper message ∧
          found.current.Takes (crossing.limits side.across) other.trace.nextPair message text
            taken ∧
          taken.remoteIdentity = some (crossing.identity side))
    (gives : host.perform (Transport.encrypt (crossing.address side) text) =
      (.ok envelope, after)) :
    ∃ final, other.perform (Transport.decrypt (crossing.address side.across)
      (crossing.limits side.across) envelope) = (.ok text, final) := by
  obtain ⟨_, sender, next, load, sending, sealing, _⟩ :=
    Transport.encrypt_eq_ok speaker.permissive gives
  cases speaker.load.symm.trans load
  obtain ⟨message, taken, rfl, opens, known⟩ := takes sender envelope next sending sealing
  have trusted := hearer.trusted
  rw [side.across_across] at trusted
  obtain ⟨final, opened, _⟩ :=
    Transport.perform_decryptWhisper hearer.permissive hearer.load opens known trusted
  exact ⟨final, opened⟩

end Crossing

/-- Two sides open key exchanges with each other, and the four legs arrive in an order in which
no answer overtakes the opening of its sender.  Then every leg was sent, the current states of
the two sides are joined by one negotiation, each side can seal every text that the suite can
seal, and whatever either seals the other opens to its text. -/
theorem crossing_converges [Suite] (symmetric : Suite.AgreementSymmetric ‹Suite›)
    (signing : Suite.SigningFaithful ‹Suite›) (faithful : Suite.SealingFaithful ‹Suite›)
    {crossing : Crossing} (ready : crossing.Ready)
    (different : ∀ near far, crossing.begun.opening .near = some near →
      crossing.begun.opening .far = some far → near.baseKey ≠ far.baseKey)
    {order : List Leg} (arrives : Crossing.Arrives order) (inOrder : Crossing.InOrder order) :
    (∀ leg, ((crossing.after order).carried leg).isSome = true) ∧
    (∃ side initiating responding ratchetKey,
      ((crossing.after order).host side).store.loadSession (crossing.address side) =
          .ok initiating ∧
        ((crossing.after order).host side.across).store.loadSession
          (crossing.address side.across) = .ok responding ∧
        SessionState.Joined
          ⟨currentVersion, crossing.identity side, crossing.identity side.across⟩ ratchetKey
          initiating.current responding.current) ∧
    (∀ side text, (∀ key nonce, (Suite.seal? key nonce text).isSome = true) →
      ∃ envelope after, ((crossing.after order).host side).perform
        (Transport.encrypt (crossing.address side) text) = (.ok envelope, after)) ∧
    ∀ side text envelope after, ((crossing.after order).host side).perform
        (Transport.encrypt (crossing.address side) text) = (.ok envelope, after) →
      ∃ final, ((crossing.after order).host side.across).perform
        (Transport.decrypt (crossing.address side.across) (crossing.limits side.across)
          envelope) = (.ok text, final) := by
  obtain ⟨sequence, opened, agreed⟩ := ready.agrees signing arrives inOrder
  choose opening answer fresh record drawn shows front using agreed
  obtain ⟨one, joined⟩ := crossing.joined_of_agreed symmetric
    (different _ _ (opened .near) (opened .far)) drawn
  have idle : ∀ side, (record side).current.pendingPreKey = none := by
    intro side
    rw [front]
    exact (Establishment.idle_exchangeState ..).2
  rw [← front, ← front] at joined
  obtain ⟨_, _, responding, _, _⟩ := joined.first_eq
  obtain ⟨_, _, _, _, _, initiating, _⟩ := joined.step_eq
  refine ⟨?_, ⟨one, record one, record one.across, _, (shows one).load, (shows one.across).load,
    joined⟩, ?_, ?_⟩
  · intro leg
    cases leg with
    | opening side => exact congrArg Option.isSome (opening side)
    | answer side => exact congrArg Option.isSome (answer side)
  · intro side text sealable
    rcases side.eq_or_across one with rfl | rfl
    · exact (shows side).speaks initiating joined.initiatorLocal_eq joined.initiatorRemote_eq
        sealable
    · exact (shows one.across).speaks responding joined.responderLocal_eq joined.responderRemote_eq
        sealable
  · intro side text envelope after gives
    apply (shows side).hears (shows side.across) _ gives
    intro sender sealed next sending sealing
    rcases side.eq_or_across one with rfl | rfl
    · exact joined.responder_takes faithful (ready.room side.across) (idle side) sending sealing
    · rw [one.across_across]
      exact joined.initiator_takes faithful (idle one.across) sending sealing

namespace Scene

/-- Alice and Bob have never met, and each is about to open a key exchange with the other. -/
def strangers : Crossing where
  host
    | .near => .start (.ofIdentity alice 7) aliceDraws
    | .far => .start (.ofIdentity bob 8) bobDraws
  address
    | .near => bobAddress
    | .far => aliceAddress
  limits _ := .standard

theorem load_strangers (side : Side) :
    (strangers.host side).store.loadSession (strangers.address side) = .ok .new := by
  cases side with
  | near => exact Store.loadSession_eq_new rfl
  | far => exact Store.loadSession_eq_new rfl

theorem ready_strangers [Suite] : strangers.Ready where
  permissive side := by
    cases side with
    | near => exact Host.permissive_start _ _
    | far => exact Host.permissive_start _ _
  readable side := ⟨_, load_strangers side⟩
  trusted side := by
    cases side with
    | near => exact Store.trusts_of_unpinned rfl _
    | far => exact Store.trusts_of_unpinned rfl _
  room _ := Nat.zero_lt_succ 4

/-- Whether the base keys differ can be seen from those that would go with other sequences. -/
theorem baseKeys_differ [Suite] (apart : (strangers.openingOf (fun _ => 0) .near).baseKey ≠
      (strangers.openingOf (fun _ => 0) .far).baseKey) (near far : KeyExchangeMessage)
    (one : strangers.begun.opening .near = some near)
    (other : strangers.begun.opening .far = some far) : near.baseKey ≠ far.baseKey := by
  obtain ⟨sequence, start⟩ := ready_strangers.begun load_strangers
  cases (start .near).1.symm.trans one
  cases (start .far).1.symm.trans other
  exact apart

section Converging

attribute [local instance] plainSuite

/-- Both openings arrive before any answer. -/
def crossed : List Leg :=
  [.opening .near, .opening .far, .answer .near, .answer .far]

/-- Alice and Bob hear each other after their key exchanges have crossed. -/
theorem strangers_converge :
    plainSuite.AgreementSymmetric ∧ plainSuite.SigningFaithful ∧ plainSuite.SealingFaithful ∧
      strangers.Ready ∧
      (∀ near far, strangers.begun.opening .near = some near →
        strangers.begun.opening .far = some far → near.baseKey ≠ far.baseKey) ∧
      Crossing.Arrives crossed ∧ Crossing.InOrder crossed ∧
      ∀ side, ∃ envelope after final,
        ((strangers.after crossed).host side).perform
            (Transport.encrypt (strangers.address side) [0x68, 0x69]) = (.ok envelope, after) ∧
          ((strangers.after crossed).host side.across).perform
            (Transport.decrypt (strangers.address side.across) (strangers.limits side.across)
              envelope) = (.ok [0x68, 0x69], final) := by
  have apart := baseKeys_differ (by decide)
  have arrives : Crossing.Arrives crossed := by
    refine ⟨by decide, fun side => ?_⟩
    cases side <;> decide
  have inOrder : Crossing.InOrder crossed := by
    intro side
    cases side <;> decide
  obtain ⟨_, _, speaks, hears⟩ := crossing_converges plainSuite_agreementSymmetric
    plainSuite_signingFaithful plainSuite_sealingFaithful ready_strangers apart arrives inOrder
  refine ⟨plainSuite_agreementSymmetric, plainSuite_signingFaithful, plainSuite_sealingFaithful,
    ready_strangers, apart, arrives, inOrder, fun side => ?_⟩
  obtain ⟨envelope, after, gives⟩ := speaks side [0x68, 0x69] fun _ _ => rfl
  obtain ⟨final, opened⟩ := hears side _ envelope after gives
  exact ⟨envelope, after, final, gives, opened⟩

end Converging

section Straying

attribute [local instance] tellingSuite

/-- Alice's state in front, once she has answered Bob's late opening. -/
def stray : SessionState :=
  strangers.strayState (fun _ => 0) .near

/-- What she then says first. -/
def strayMessage : WhisperMessage :=
  stray.sealedMessage (stray.sender.getD default) alice.identity bob.identity [0x68, 0x69]

/-- Bob's state, once he has answered her opening. -/
def agreed : SessionState :=
  strangers.agreedState (fun _ => 0) .far (.drawnAt bobDraws (strangers.place .far + 2))

/-- Bob does not hear it: a step of the agreement ratchet gives him another chain. -/
theorem not_takes_strayMessage (ours : KeyPair) (text : Bytes) (taken : SessionState) :
    ¬ agreed.Takes .standard ours strayMessage text taken := by
  intro takes
  have rooted : agreed.rootKey = some (agreed.rootKey.getD default) := rfl
  have sending : agreed.sender = some (agreed.sender.getD default) := rfl
  have absent : agreed.receiver? strayMessage.ratchetKey = none :=
    rfl
  obtain ⟨remote, own, remote_eq, local_eq, verifies⟩ :=
    takes.verifies_stepped absent rooted sending (by decide) rfl
  cases remote_eq
  cases local_eq
  have refuted : strayMessage.verifies ((agreed.rootKey.getD default).createChain
      strayMessage.ratchetKey (agreed.sender.getD default).ratchetKey).2.messageKeys.macKey
      alice.identity bob.identity = false := by
    decide +kernel
  exact Bool.false_ne_true (refuted.symm.trans verifies)

theorem stray_unheard {sequence : Side -> UInt32} {near far : Host}
    (nearShows : strangers.Shows .near near (strangers.strayRecord sequence .near .new))
    (farShows : strangers.Shows .far far (strangers.agreedRecord sequence .far .new)) :
    ∃ envelope after,
      near.perform (Transport.encrypt bobAddress [0x68, 0x69]) = (.ok envelope, after) ∧
      ∀ text final,
        far.perform (Transport.decrypt aliceAddress .standard envelope) ≠ (.ok text, final) := by
  have speaking : stray.sender = some (stray.sender.getD default) := rfl
  have sealing : stray.sealText (stray.sender.getD default) [0x68, 0x69] =
      .ok (.whisper strayMessage, stray.sent (stray.sender.getD default)) :=
    SessionState.sealText_of_sealed rfl rfl rfl
  obtain ⟨after, gives, _⟩ := Transport.perform_encrypt nearShows.permissive nearShows.load
    speaking sealing
  refine ⟨_, after, gives, ?_⟩
  intro text final opens
  obtain ⟨_, _, _, _, _, _, load, _, _, opened, _⟩ :=
    Transport.decryptWhisper_eq_ok farShows.permissive opens
  cases farShows.load.symm.trans load
  cases opened with
  | current takes => exact not_takes_strayMessage _ _ _ takes
  | archived found takes => cases found

/-- If Bob's answer overtakes his opening, Alice answers that one from fresh pairs, and he
cannot read what she says. -/
theorem strangers_diverge :
    tellingSuite.AgreementSymmetric ∧ tellingSuite.SigningFaithful ∧
      tellingSuite.SealingFaithful ∧ strangers.Ready ∧
      (∀ near far, strangers.begun.opening .near = some near →
        strangers.begun.opening .far = some far → near.baseKey ≠ far.baseKey) ∧
      Crossing.Arrives (Crossing.overtaking .near) ∧
      ∃ envelope after,
        ((strangers.after (Crossing.overtaking .near)).host .near).perform
            (Transport.encrypt bobAddress [0x68, 0x69]) = (.ok envelope, after) ∧
        ∀ text final, ((strangers.after (Crossing.overtaking .near)).host .far).perform
          (Transport.decrypt aliceAddress .standard envelope) ≠ (.ok text, final) := by
  have signing : tellingSuite.SigningFaithful := plainSuite_signingFaithful
  obtain ⟨sequence, _, _, farShows, nearShows⟩ :=
    ready_strangers.overtaken signing load_strangers .near
  have across : Side.near.across = .far := rfl
  rw [across] at farShows
  exact ⟨plainSuite_agreementSymmetric, signing, plainSuite_sealingFaithful, ready_strangers,
    baseKeys_differ (by decide), Crossing.arrives_overtaking .near,
    stray_unheard nearShows farShows⟩

end Straying

end Scene
end DoubleRatchet
