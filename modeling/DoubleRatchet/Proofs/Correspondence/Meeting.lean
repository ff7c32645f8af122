import DoubleRatchet.Proofs.Correspondence.Letters
import DoubleRatchet.Proofs.Engine.Sessions
import DoubleRatchet.Proofs.Session.Ladder

namespace DoubleRatchet

/-!
# How a correspondence begins

The responder has published a bundle of its stored pre-keys, and the initiator opens a
session from it.  From then on everything is determined but the order of events: the
secrets of the handshake, the pairs that each party will draw and in what order they come
to stand on the ladder of the session.

The ladder is defined from what the responder knows.  That the initiator derives the same
secrets is the one fact about the handshake that is needed, and it is where agreements
have to be symmetric.
-/

/-- Two hosts, the keys that the responder has published, and where the parties meet. -/
structure Meeting where
  setting : Setting
  host : Party -> Host
  signedPreKey : Option SignedPreKey
  preKey : Option PreKey
  registrationId : UInt32
  deviceId : UInt32

namespace Meeting

variable [Suite] (meeting : Meeting)

/-- The bundle of the responder. -/
def bundle : Bundle :=
  .ofKeys meeting.registrationId meeting.deviceId (meeting.host .responder).store.identity
    meeting.signedPreKey meeting.preKey

/-- The correspondence after the initiator has processed the bundle. -/
def first : Correspondence where
  run
    | .initiator => (Run.start (meeting.host .initiator)).next
        (.processBundle (meeting.setting.address .initiator) (meeting.setting.limits .initiator)
          meeting.bundle)
    | .responder => .start (meeting.host .responder)
  underway := []
  arrived := []

/-- What is taken for granted of a meeting.  The parties do not know each other, and the
responder has published keys that it has. -/
structure Prepared : Prop where
  permissive : ∀ party, (meeting.host party).Permissive
  unopened : ∀ party,
    (meeting.host party).store.sessions.get? (meeting.setting.address party) = none
  unpinned : ∀ party,
    (meeting.host party).store.pins.get? (meeting.setting.address party).name = none
  signed : ∀ key ∈ meeting.signedPreKey,
    (meeting.host .responder).store.loadSignedPreKey key.id = .ok key ∧ key.pair.Matched
  oneTime : ∀ key ∈ meeting.preKey,
    (meeting.host .responder).store.loadPreKey key.id = .ok key ∧ key.pair.Matched
  /-- A session of the older version is opened by a pre-key that can be used up. -/
  older : meeting.signedPreKey = none → ∀ key ∈ meeting.preKey, key.id ≠ lastResortId
  published : meeting.signedPreKey.isSome ∨ meeting.preKey.isSome
  verified : meeting.signedPreKey.isSome → meeting.bundle.verifies = true

/-! ## The ladder of the session -/

omit [Suite] in
/-- The version of the session. -/
def version : UInt8 :=
  if meeting.signedPreKey.isSome then currentVersion else oldestVersion

/-- The pre-key at the bottom of the ladder. -/
def bottom : KeyPair :=
  match meeting.signedPreKey, meeting.preKey with
  | some signed, _ => signed.pair
  | none, some oneTime => oneTime.pair
  | none, none => default

/-- The pre-key that is used beside the one at the bottom. -/
def besides : Option KeyPair :=
  if meeting.signedPreKey.isSome then meeting.preKey.map (·.pair) else none

/-- The base key of the initiator. -/
def baseKey : KeyPair :=
  (meeting.host .initiator).trace.nextPair

/-- The identity of a party. -/
def identity (party : Party) : IdentityKey :=
  (meeting.host party).store.identity.identity

/-- What the responder will know. -/
def responderKeys : Negotiation.ResponderKeys where
  identity := (meeting.host .responder).store.identity
  signedPreKey := meeting.bottom
  oneTimePreKey := meeting.besides
  ratchetKey := meeting.bottom
  theirIdentity := meeting.identity .initiator
  theirBaseKey := meeting.baseKey.publicKey

/-- What the initiator knows. -/
def initiatorKeys : Negotiation.InitiatorKeys where
  identity := (meeting.host .initiator).store.identity
  baseKey := meeting.baseKey
  theirIdentity := meeting.identity .responder
  theirSignedPreKey := meeting.bottom.publicKey
  theirOneTimePreKey := meeting.besides.map (·.publicKey)
  theirRatchetKey := meeting.bottom.publicKey

/-- The pairs on the ladder: the pre-key at the bottom, then the draws of both parties in
turn.  The first draw of the initiator is the base key. -/
def pair : Nat -> KeyPair
  | 0 => meeting.bottom
  | steps + 1 =>
    if steps % 2 = 0 then
      .drawnAt (meeting.host .initiator).trace.entropy
        ((meeting.host .initiator).trace.drawn + 1 + steps / 2)
    else
      .drawnAt (meeting.host .responder).trace.entropy
        ((meeting.host .responder).trace.drawn + steps / 2)

/-- The ladder of the session. -/
def ladder : Ladder :=
  ⟨meeting.pair, meeting.responderKeys.secrets meeting.version⟩

/-- What the session is under, as each party knows it. -/
def terms (party : Party) : Terms :=
  ⟨meeting.version, meeting.identity party, meeting.identity party.other⟩

/-- A message inside the handshake. -/
def cover (message : WhisperMessage) : PreKeyWhisperMessage where
  version := meeting.version
  registrationId := (meeting.host .initiator).store.registrationId
  preKeyId := meeting.preKey.map (·.id)
  signedPreKeyId := meeting.signedPreKey.map (·.id)
  baseKey := meeting.baseKey.publicKey
  identity := meeting.identity .initiator
  message := message

/-- The state of the initiator after the bundle. -/
def opening : SessionState :=
  Establishment.bundleState (meeting.host .initiator).store meeting.bundle
    ⟨meeting.version, meeting.bottom.publicKey, meeting.besides.map (·.publicKey)⟩
    meeting.baseKey (meeting.pair 1)

variable {meeting}

theorem swap_terms (party : Party) : (meeting.terms party).swap = meeting.terms party.other := by
  cases party <;> rfl

omit [Suite] in
theorem spoken_version : Message.Spoken meeting.version := by
  unfold version
  split
  · exact .inr rfl
  · exact .inl rfl

/-! ## What the parties make of the bundle -/

/-- Without a signed pre-key, a one-time pre-key is published. -/
theorem Prepared.exists_preKey (prepared : meeting.Prepared)
    (unsigned : meeting.signedPreKey = none) : ∃ key, meeting.preKey = some key := by
  rcases prepared.published with signed | oneTime
  · rw [unsigned] at signed
    cases signed
  · exact Option.isSome_iff_exists.mp oneTime

omit [Suite] in
theorem version_of_signed {signed : SignedPreKey} (published : meeting.signedPreKey = some signed) :
    meeting.version = currentVersion := by
  unfold version
  rw [published]
  rfl

omit [Suite] in
theorem version_of_unsigned (unsigned : meeting.signedPreKey = none) :
    meeting.version = oldestVersion := by
  unfold version
  rw [unsigned]
  rfl

/-- What the bundle offers is the bottom of the ladder and the pre-key beside it. -/
theorem Prepared.offered (prepared : meeting.Prepared) :
    Establishment.Offer.ofBundle meeting.bundle =
      .ok ⟨meeting.version, meeting.bottom.publicKey, meeting.besides.map (·.publicKey)⟩ := by
  have published := prepared.published
  have verified := prepared.verified
  clear prepared
  obtain ⟨setting, host, signedPreKey, preKey, registrationId, deviceId⟩ := meeting
  cases signedPreKey with
  | some signed =>
    have offers : Establishment.Offer.ofBundle (bundle ⟨setting, host, some signed, preKey,
        registrationId, deviceId⟩) = if _ then _ else _ := rfl
    rw [offers, if_pos (verified rfl)]
    cases preKey <;> rfl
  | none =>
    cases preKey with
    | some oneTime => rfl
    | none =>
      rcases published with absent | absent
      · cases absent
      · cases absent

/-- The bundle opens a session, which the initiator has stored. -/
theorem Prepared.processed (prepared : meeting.Prepared) :
    ∃ after : Host,
      (meeting.host .initiator).perform
        (Establishment.processBundle (meeting.setting.address .initiator)
          (meeting.setting.limits .initiator) meeting.bundle) = (.ok (), after) ∧
      (meeting.host .initiator).Becomes
        (((meeting.host .initiator).store.pin (meeting.setting.address .initiator).name
          (meeting.identity .responder)).storeSession (meeting.setting.address .initiator)
          (SessionRecord.new.promote meeting.opening
            (meeting.setting.limits .initiator).archivedStates)) 2 after :=
  Establishment.perform_processBundle _ (prepared.permissive .initiator)
    (Store.trusts_of_unpinned (prepared.unpinned .initiator) _) prepared.offered
    (Store.loadSession_eq_new (prepared.unopened .initiator))

theorem Prepared.matched_bottom (prepared : meeting.Prepared) : meeting.bottom.Matched := by
  unfold bottom
  cases signedCase : meeting.signedPreKey with
  | some signed => exact (prepared.signed signed signedCase).2
  | none =>
    obtain ⟨key, oneTimeCase⟩ := prepared.exists_preKey signedCase
    rw [oneTimeCase]
    exact (prepared.oneTime key oneTimeCase).2

theorem Prepared.matched_besides (prepared : meeting.Prepared) :
    ∀ pair ∈ meeting.besides, pair.Matched := by
  intro pair member
  unfold besides at member
  split at member
  · obtain ⟨oneTime, published, rfl⟩ := Option.map_eq_some_iff.mp member
    exact (prepared.oneTime oneTime published).2
  · cases member

theorem Prepared.matched_ladder (prepared : meeting.Prepared) : meeting.ladder.Matched := by
  intro rung
  cases rung with
  | zero => exact prepared.matched_bottom
  | succ steps =>
    change (if steps % 2 = 0 then _ else _ : KeyPair).Matched
    split
    · exact KeyPair.matched_drawnAt _ _
    · exact KeyPair.matched_drawnAt _ _

/-- The parties know each other's public keys. -/
theorem Prepared.counterparts (prepared : meeting.Prepared) :
    Negotiation.Counterparts meeting.initiatorKeys meeting.responderKeys where
  initiator_eq := rfl
  responder_eq := rfl
  baseKey_eq := rfl
  signedPreKey_eq := rfl
  oneTimePreKey_eq := rfl
  ratchetKey_eq := rfl
  baseKey_matched := KeyPair.matched_drawnAt _ _
  signedPreKey_matched := prepared.matched_bottom
  oneTimePreKey_matched := prepared.matched_besides
  ratchetKey_matched := prepared.matched_bottom

/-- The state of the responder after the handshake of a first message. -/
def answer (meeting : Meeting) : SessionState :=
  { Negotiation.responder meeting.version meeting.responderKeys with
    localRegistrationId := (meeting.host .responder).store.registrationId
    remoteRegistrationId := (meeting.host .initiator).store.registrationId
    initiatorBaseKey := some meeting.baseKey.publicKey }

omit [Suite] in
/-- The state reports the version of the session. -/
theorem version_of_stored {state : SessionState} (stored : state.storedVersion = meeting.version) :
    state.version = meeting.version := by
  have spoken : Message.Spoken meeting.version := spoken_version
  unfold SessionState.version
  rw [stored]
  rcases spoken with older | newer
  · rw [older]
    rfl
  · rw [newer]
    rfl

theorem under_opening : meeting.opening.Under (meeting.terms .initiator) :=
  ⟨version_of_stored rfl, rfl, rfl⟩

theorem under_answer : meeting.answer.Under (meeting.terms .responder) :=
  ⟨version_of_stored rfl, rfl, rfl⟩

/-- The initiator starts on the first rung. -/
theorem Prepared.stands_opening (symmetric : Suite.AgreementSymmetric ‹Suite›)
    (prepared : meeting.Prepared) (bound : Nat) {counters : Nat -> List Nat}
    (unheard : counters 0 = []) :
    meeting.opening.Stands meeting.ladder bound 1 0 counters := by
  have secrets := prepared.counterparts.secrets_eq symmetric meeting.version
  have start : RootKey.initial (meeting.initiatorKeys.secrets meeting.version) =
      meeting.ladder.link 0 := congrArg RootKey.initial secrets
  have root : meeting.opening.rootKey = some ((RootKey.initial
      (meeting.initiatorKeys.secrets meeting.version)).1.createChain meeting.bottom.publicKey
        (meeting.pair 1)).1 := rfl
  have sender : meeting.opening.sender = some ⟨meeting.pair 1, ((RootKey.initial
      (meeting.initiatorKeys.secrets meeting.version)).1.createChain meeting.bottom.publicKey
        (meeting.pair 1)).2⟩ := rfl
  have receivers : meeting.opening.receivers = [⟨meeting.bottom.publicKey, (RootKey.initial
      (meeting.initiatorKeys.secrets meeting.version)).2, .empty⟩] := rfl
  rw [start] at root sender receivers
  refine ⟨root, sender, ⟨1, ?_, Nat.le_refl 2, ?_⟩, ?_⟩
  · intro place _ below
    omega
  · rw [receivers]
    rfl
  · intro place chain below found
    have zero : place = 0 := by omega
    subst zero
    obtain ⟨member, _⟩ := SessionState.mem_of_receiver?_eq_some found
    rw [receivers] at member
    rw [List.mem_singleton.mp member, unheard]
    exact ReceiverChain.tracks_fresh _ _

/-- The responder starts at the bottom. -/
theorem stands_answer (bound : Nat) (counters : Nat -> List Nat) :
    meeting.answer.Stands meeting.ladder bound 0 0 counters := by
  refine ⟨rfl, rfl, ⟨0, ?_, Nat.zero_le 1, rfl⟩, ?_⟩
  · intro place _ below
    exact absurd below (Nat.not_lt_zero _)
  · intro place chain below
    exact absurd below (Nat.not_lt_zero _)

/-- The handshake of the newer version is taken with the signed pre-key, and with the
one-time pre-key if one was published. -/
theorem Prepared.accepted_signed (prepared : meeting.Prepared) (message : WhisperMessage)
    {signed : SignedPreKey} (published : meeting.signedPreKey = some signed) :
    Establishment.Accepted (meeting.host .responder).store (meeting.setting.address .responder)
      (meeting.setting.limits .responder) .new (meeting.cover message)
      (SessionRecord.new.promote meeting.answer
        (meeting.setting.limits .responder).archivedStates)
      ((meeting.preKey.map PreKey.id).filter fun id => id ≠ lastResortId) := by
  have bottom : meeting.bottom = signed.pair := by
    unfold bottom
    rw [published]
  have besides : meeting.besides = meeting.preKey.map (·.pair) := by
    unfold besides
    rw [published]
    rfl
  have oneTime : (meeting.cover message).preKeyId.mapM (meeting.host .responder).store.loadPreKey =
      .ok meeting.preKey := by
    change (meeting.preKey.map PreKey.id).mapM _ = _
    cases oneTimeCase : meeting.preKey with
    | none => rfl
    | some key =>
      have loaded := (prepared.oneTime key oneTimeCase).1
      change ((meeting.host .responder).store.loadPreKey key.id >>= fun found =>
        pure (some found)) = _
      rw [loaded]
      rfl
  have identified : (meeting.cover message).signedPreKeyId = some signed.id :=
    congrArg (Option.map SignedPreKey.id) published
  have unknown : SessionRecord.new.hasSession (meeting.cover message).version
      (meeting.cover message).baseKey = false := by
    change (_ && decide (none = some _) || false) = false
    simp
  have accepted : Establishment.Accepted (meeting.host .responder).store
      (meeting.setting.address .responder) (meeting.setting.limits .responder) .new
      (meeting.cover message) _ _ :=
    .signed (version_of_signed published) unknown identified (prepared.signed signed published).1
      oneTime
  rw [← bottom, ← besides] at accepted
  exact accepted

/-- The handshake of the older version is taken with the one-time pre-key. -/
theorem Prepared.accepted_unsigned (prepared : meeting.Prepared) (message : WhisperMessage)
    (unsigned : meeting.signedPreKey = none) {key : PreKey}
    (published : meeting.preKey = some key) :
    Establishment.Accepted (meeting.host .responder).store (meeting.setting.address .responder)
      (meeting.setting.limits .responder) .new (meeting.cover message)
      (SessionRecord.new.promote meeting.answer
        (meeting.setting.limits .responder).archivedStates) (some key.id) := by
  have bottom : meeting.bottom = key.pair := by
    unfold bottom
    rw [unsigned, published]
  have besides : meeting.besides = none := by
    unfold besides
    rw [unsigned]
    rfl
  have identified : (meeting.cover message).preKeyId = some key.id :=
    congrArg (Option.map PreKey.id) published
  have kept : (meeting.cover message).preKeyId.filter (fun id => id ≠ lastResortId) =
      some key.id := by
    rw [identified]
    exact Option.filter_some_pos (decide_eq_true (prepared.older unsigned key published))
  have accepted : Establishment.Accepted (meeting.host .responder).store
      (meeting.setting.address .responder) (meeting.setting.limits .responder) .new
      (meeting.cover message) _ _ :=
    .unsigned (version_of_unsigned unsigned) identified (prepared.oneTime key published).1
  rw [← bottom, ← besides, kept] at accepted
  exact accepted

/-- The responder can take the handshake while it is as it was.  In a session of the older
version, this uses the pre-key up. -/
theorem Prepared.accepted (prepared : meeting.Prepared) (message : WhisperMessage) :
    ∃ used, (meeting.signedPreKey = none → ∀ key ∈ meeting.preKey, used = some key.id) ∧
      Establishment.Accepted (meeting.host .responder).store (meeting.setting.address .responder)
        (meeting.setting.limits .responder) .new (meeting.cover message)
        (SessionRecord.new.promote meeting.answer
          (meeting.setting.limits .responder).archivedStates) used := by
  cases signedCase : meeting.signedPreKey with
  | some signed =>
    refine ⟨_, fun absent => ?_, prepared.accepted_signed message signedCase⟩
    cases absent
  | none =>
    obtain ⟨key, oneTimeCase⟩ := prepared.exists_preKey signedCase
    refine ⟨_, fun _ other same => ?_, prepared.accepted_unsigned message signedCase oneTimeCase⟩
    cases oneTimeCase.symm.trans same
    rfl

end Meeting
end DoubleRatchet
