import DoubleRatchet.Proofs.Correspondence.Meeting

namespace DoubleRatchet

/-!
# Where a party stands

Between two events a party is in one of two situations.  Either it is the responder and
has heard nothing yet, so that its store is as it was at the meeting, or it has a session
whose current state stands on a rung of the ladder.  In both there is a state that the
next letter will be tried on, and that state stands on the ladder: for a responder that
has heard nothing it is the one that the handshake of the letter will give.

A letter that such a state takes is opened by the host, whichever way it travels, and
leaves the party in a session.  This module is about one host; that the letters of the
one party are those that the other one takes is left to the next.
-/

namespace Party

/-- The party whose pair stands on a rung. -/
def holding (rung : Nat) : Party :=
  if rung % 2 = 1 then initiator else responder

theorem holding_eq_iff {first second : Nat} :
    holding first = holding second ↔ first % 2 = second % 2 := by
  have firstBit := Nat.mod_two_eq_zero_or_one first
  have secondBit := Nat.mod_two_eq_zero_or_one second
  unfold holding
  rcases firstBit with even | odd
  · rcases secondBit with also | differs
    · simp [even, also]
    · simp [even, differs]
  · rcases secondBit with differs | also
    · simp [odd, differs]
    · simp [odd, also]

theorem holding_succ (rung : Nat) : holding (rung + 1) = (holding rung).other := by
  rcases Nat.mod_two_eq_zero_or_one rung with even | odd
  · have next : (rung + 1) % 2 = 1 := by omega
    unfold holding
    rw [if_pos next, if_neg (by omega)]
    rfl
  · have next : ¬ (rung + 1) % 2 = 1 := by omega
    unfold holding
    rw [if_neg next, if_pos odd]
    rfl

end Party

namespace Meeting

variable [Suite]

/-- The marker with which the letters of the initiator carry the handshake. -/
def pending (meeting : Meeting) : PendingPreKey :=
  ⟨meeting.preKey.map (·.id), meeting.signedPreKey.map (·.id), meeting.baseKey.publicKey⟩

/-- The letter was written by the party on a rung. -/
structure Writes (meeting : Meeting) (letter : Letter) (rung : Nat) (message : WhisperMessage) :
    Prop where
  positive : 0 < rung
  sender_eq : letter.sender = .holding rung
  key_eq : letter.position.1 = meeting.ladder.key rung
  notLast : letter.position.2 < lastCounter
  seals : meeting.ladder.Seals (meeting.terms letter.sender) rung letter.position.2 letter.text
    message
  envelope_eq : letter.envelope =
    if rung = 1 then .preKeyWhisper (meeting.cover message) else .whisper message

/-- What is left of the handshake.  The initiator repeats it until it has heard from the
responder; the responder remembers that it has taken it. -/
def Settled (meeting : Meeting) (host : Host) (rung : Nat) (state : SessionState) : Party -> Prop
  | .initiator =>
    state.pendingPreKey = (if rung = 1 then some meeting.pending else none) ∧
      (rung = 1 → state.localRegistrationId = (meeting.host .initiator).store.registrationId)
  | .responder =>
    state.pendingPreKey = none ∧ state.initiatorBaseKey = some meeting.baseKey.publicKey ∧
      (meeting.signedPreKey = none →
        ∀ key ∈ meeting.preKey, host.store.preKeys.contains key.id = false)

/-- The situation of a party that stands on a rung, has written a number of letters on it,
and has heard the given counters on the rungs below. -/
inductive Status (meeting : Meeting) (host : Host) (rung count : Nat)
    (counters : Nat -> List Nat) : Party -> Prop where
  /-- The responder has heard nothing. -/
  | waiting (bottom : rung = 0) (silent : count = 0)
      (store_eq : host.store = (meeting.host .responder).store) :
      Status meeting host rung count counters .responder
  /-- The party has a session. -/
  | inSession {party : Party} {record : SessionRecord} (climbed : 0 < rung)
      (load : host.store.loadSession (meeting.setting.address party) = .ok record)
      (trusted : host.store.trusts (meeting.setting.address party).name
        (meeting.identity party.other) = true)
      (stands : record.current.Stands meeting.ladder
        (meeting.setting.limits party).receiverChains rung count counters)
      (under : record.current.Under (meeting.terms party))
      (settled : meeting.Settled host rung record.current party) :
      Status meeting host rung count counters party

variable {meeting : Meeting} {host after : Host} {party : Party} {rung count : Nat}
  {counters : Nat -> List Nat} {letter : Letter} {message : WhisperMessage}

/-! ## Letters are read as they were written -/

/-- A message inside the handshake names the pre-key of its version. -/
theorem Prepared.complete_cover (prepared : meeting.Prepared) (message : WhisperMessage) :
    (meeting.cover message).Complete := by
  unfold PreKeyWhisperMessage.Complete PreKeyWhisperMessage.namesPreKey cover version
  cases signedCase : meeting.signedPreKey with
  | some signed => rfl
  | none =>
    obtain ⟨key, oneTimeCase⟩ := prepared.exists_preKey signedCase
    rw [oneTimeCase]
    rfl

theorem Writes.read (bounded : Suite.SealingBounded ‹Suite›) (prepared : meeting.Prepared)
    (writes : meeting.Writes letter rung message) : letter.read = .ok letter.envelope := by
  obtain ⟨previousCounter, body, closed, created⟩ := writes.seals
  have short : body.length < 2 ^ 63 := bounded _ _ _ _ closed
  have spoken : Message.Spoken (meeting.terms letter.sender).version := spoken_version
  have inner : WhisperMessage.ofBytes message.toBytes = .ok message := by
    rw [created]
    exact WhisperMessage.ofBytes_create spoken short
  unfold Letter.read
  rw [writes.envelope_eq]
  by_cases first : rung = 1
  · rw [if_pos first]
    have length : message.toBytes.length ≤ body.length + 142 := by
      rw [created]
      exact WhisperMessage.length_create_le
    have outer : PreKeyWhisperMessage.ofBytes (meeting.cover message).toBytes = _ :=
      PreKeyWhisperMessage.ofBytes_toBytes spoken_version (prepared.complete_cover message)
      (by change message.toBytes.length < 2 ^ 64; omega) inner
    change (PreKeyWhisperMessage.ofBytes (meeting.cover message).toBytes).map _ = _
    rw [outer]
    rfl
  · rw [if_neg first]
    change (WhisperMessage.ofBytes message.toBytes).map _ = _
    rw [inner]
    rfl

/-! ## What is left of the handshake after a letter -/

/-- A party whose record was stored is in a session. -/
theorem status_of_stored {base : Store} {record : SessionRecord}
    (stored : host.store = base.storeSession (meeting.setting.address party) record)
    (climbed : 0 < rung)
    (trusted : base.trusts (meeting.setting.address party).name
      (meeting.identity party.other) = true)
    (stands : record.current.Stands meeting.ladder (meeting.setting.limits party).receiverChains
      rung count counters)
    (under : record.current.Under (meeting.terms party))
    (settled : meeting.Settled host rung record.current party) :
    meeting.Status host rung count counters party := by
  have load : host.store.loadSession (meeting.setting.address party) = .ok record.settled := by
    rw [stored]
    exact Store.loadSession_storeSession_self ..
  refine .inSession climbed load ?_ stands under settled
  rw [stored]
  exact trusted

/-- Once a letter was taken, nothing of the handshake is left. -/
theorem settled_of_follows {state taken : SessionState} (follows : state.Follows taken)
    (climbed : 1 < rung)
    (known : party = .responder → state.initiatorBaseKey = some meeting.baseKey.publicKey ∧
      (meeting.signedPreKey = none →
        ∀ key ∈ meeting.preKey, host.store.preKeys.contains key.id = false)) :
    meeting.Settled host rung taken party := by
  cases party with
  | initiator =>
    have higher : rung ≠ 1 := Nat.ne_of_gt climbed
    refine ⟨?_, fun first => absurd first higher⟩
    rw [follows.settled, if_neg higher]
  | responder => exact ⟨follows.settled, follows.base_eq.trans (known rfl).1, (known rfl).2⟩

/-- A handshake that comes again is known by its base key or by the pre-key that is gone. -/
theorem Prepared.accepted_again (prepared : meeting.Prepared) {record : SessionRecord}
    (load : host.store.loadSession (meeting.setting.address .responder) = .ok record)
    (established : record.current.established = true)
    (under : record.current.Under (meeting.terms .responder))
    (settled : meeting.Settled host rung record.current .responder) (message : WhisperMessage) :
    Establishment.Accepted host.store (meeting.setting.address .responder)
      (meeting.setting.limits .responder) record (meeting.cover message) record none := by
  obtain ⟨_, base_eq, gone⟩ := settled
  cases signedCase : meeting.signedPreKey with
  | some signed =>
    apply Establishment.Accepted.negotiated (version_of_signed signedCase)
    unfold SessionRecord.hasSession
    rw [List.any_eq_true]
    refine ⟨record.current, List.mem_cons_self, ?_⟩
    rw [Bool.and_eq_true, decide_eq_true_iff, decide_eq_true_iff]
    exact ⟨under.version_eq, base_eq⟩
  | none =>
    obtain ⟨key, oneTimeCase⟩ := prepared.exists_preKey signedCase
    have identified : (meeting.cover message).preKeyId = some key.id :=
      congrArg (Option.map PreKey.id) oneTimeCase
    exact .gone (version_of_unsigned signedCase) identified (gone signedCase key oneTimeCase)
      ((Store.containsSession_eq load).trans (congrArg Except.ok established))

/-! ## Receiving a letter -/

/-- What follows for a party if a state, on which its next letter is tried, takes a message:
the host opens the letter, and the party is where that state is then. -/
def Receives (meeting : Meeting) (host : Host) (letter : Letter) (message : WhisperMessage)
    (state : SessionState) (party : Party) : Prop :=
  ∀ taken, state.Takes (meeting.setting.limits party) host.trace.nextPair message letter.text
      taken →
    ∃ after, host.perform (Transport.decrypt (meeting.setting.address party)
        (meeting.setting.limits party) letter.envelope) = (.ok letter.text, after) ∧
      after.refusal = host.refusal ∧
      host.trace.Continues (state.drawsFor message.ratchetKey) after.trace ∧
      ∀ rung count counters, 1 < rung →
        taken.Stands meeting.ladder (meeting.setting.limits party).receiverChains rung count
          counters →
        meeting.Status after rung count counters party

/-- A bare message is tried on the state of the session. -/
theorem receives_whisper (permissive : host.Permissive) {record : SessionRecord}
    (load : host.store.loadSession (meeting.setting.address party) = .ok record)
    (trusted : host.store.trusts (meeting.setting.address party).name
      (meeting.identity party.other) = true)
    (under : record.current.Under (meeting.terms party))
    (settled : meeting.Settled host rung record.current party)
    (bare : letter.envelope = .whisper message) :
    meeting.Receives host letter message record.current party := by
  intro taken takes
  have follows := takes.follows
  obtain ⟨after, gives, becomes⟩ := Transport.perform_decryptWhisper permissive load takes
    (under.follows follows).remote_eq trusted
  refine ⟨after, ?_, becomes.refusal_eq, becomes.continues, ?_⟩
  · rw [bare]
    exact gives
  · intro rung count counters climbed stands
    apply status_of_stored becomes.store_eq (Nat.lt_of_succ_lt climbed) trusted stands
      (under.follows follows)
    apply settled_of_follows follows climbed
    rintro rfl
    obtain ⟨_, base_eq, gone⟩ := settled
    rw [becomes.store_eq]
    exact ⟨base_eq, gone⟩

/-- A message inside its handshake is tried on the state that the handshake gives. -/
theorem receives_preKeyWhisper (permissive : host.Permissive) {record accepted : SessionRecord}
    {used : Option UInt32}
    (load : host.store.loadSession (meeting.setting.address .responder) = .ok record)
    (trusted : host.store.trusts (meeting.setting.address .responder).name
      (meeting.identity .initiator) = true)
    (accepts : Establishment.Accepted host.store (meeting.setting.address .responder)
      (meeting.setting.limits .responder) record (meeting.cover message) accepted used)
    (under : accepted.current.Under (meeting.terms .responder))
    (base_eq : accepted.current.initiatorBaseKey = some meeting.baseKey.publicKey)
    (gone : meeting.signedPreKey = none → ∀ key ∈ meeting.preKey,
      used = some key.id ∨ (used = none ∧ host.store.preKeys.contains key.id = false))
    (covered : letter.envelope = .preKeyWhisper (meeting.cover message)) :
    meeting.Receives host letter message accepted.current .responder := by
  intro taken takes
  have follows := takes.follows
  obtain ⟨after, gives, becomes⟩ := Transport.perform_decryptPreKeyWhisper permissive load trusted
    accepts takes (under.follows follows).remote_eq trusted
  refine ⟨after, ?_, becomes.refusal_eq, becomes.continues, ?_⟩
  · rw [covered]
    exact gives
  · intro rung count counters climbed stands
    apply status_of_stored becomes.store_eq (Nat.lt_of_succ_lt climbed) (Store.trusts_pin _ _ _)
      stands (under.follows follows)
    apply settled_of_follows follows climbed
    intro _
    refine ⟨base_eq, ?_⟩
    intro older key published
    rw [becomes.store_eq]
    rcases gone older key published with rfl | ⟨rfl, absent⟩
    · change (Option.isSome ((host.store.preKeys.erase key.id).get? key.id)) = false
      rw [Table.get?_erase_self]
      rfl
    · exact absent

/-- In either situation there is a state on which the next letter is tried. -/
theorem Status.receives (prepared : meeting.Prepared) (permissive : host.Permissive)
    (status : meeting.Status host rung count counters party) {place : Nat}
    (writes : meeting.Writes letter place message) (foreign : letter.sender = party.other)
    (near : place ≤ rung + 1) :
    ∃ state : SessionState, state.Stands meeting.ladder
        (meeting.setting.limits party).receiverChains rung count counters ∧
      state.Under (meeting.terms party) ∧ meeting.Receives host letter message state party := by
  cases status with
  | waiting bottom silent store_eq =>
    subst bottom silent
    have first : place = 1 := by
      have positive := writes.positive
      omega
    obtain ⟨used, spent, accepts⟩ := prepared.accepted message
    rw [← store_eq] at accepts
    have load : host.store.loadSession (meeting.setting.address .responder) = .ok .new := by
      rw [store_eq]
      exact Store.loadSession_eq_new (prepared.unopened .responder)
    have trusted : host.store.trusts (meeting.setting.address .responder).name
        (meeting.identity .initiator) = true := by
      rw [store_eq]
      exact Store.trusts_of_unpinned (prepared.unpinned .responder) _
    have covered := writes.envelope_eq
    rw [if_pos first] at covered
    exact ⟨meeting.answer, stands_answer _ _, under_answer,
      receives_preKeyWhisper permissive load trusted accepts under_answer rfl
        (fun older key published => .inl (spent older key published)) covered⟩
  | @inSession _ record climbed load trusted stands under settled =>
    refine ⟨record.current, stands, under, ?_⟩
    have travels := writes.envelope_eq
    by_cases first : place = 1
    · rw [if_pos first] at travels
      have responder : party = .responder := by
        have sender := writes.sender_eq
        rw [first, foreign] at sender
        cases party with
        | initiator => cases sender
        | responder => rfl
      subst responder
      exact receives_preKeyWhisper permissive load trusted
        (prepared.accepted_again load stands.established under settled message) under settled.2.1
        (fun older key published => .inr ⟨rfl, settled.2.2 older key published⟩) travels
    · rw [if_neg first] at travels
      exact receives_whisper permissive load trusted under settled travels

/-! ## Writing a letter -/

/-- The message that is sealed on a rung names the rung and its place there, and travels as
what is left of the handshake has it. -/
theorem Settled.wrap {state : SessionState} (held : .holding rung = party)
    (under : state.Under (meeting.terms party)) (settled : meeting.Settled host rung state party)
    (message : WhisperMessage) :
    state.wrap (meeting.identity party) message =
      if rung = 1 then .preKeyWhisper (meeting.cover message) else .whisper message := by
  cases party with
  | initiator =>
    obtain ⟨pending_eq, registered⟩ := settled
    by_cases first : rung = 1
    · rw [if_pos first] at pending_eq ⊢
      unfold SessionState.wrap
      rw [pending_eq, registered first, under.version_eq]
      rfl
    · rw [if_neg first] at pending_eq ⊢
      unfold SessionState.wrap
      rw [pending_eq]
  | responder =>
    have higher : rung ≠ 1 := by
      rintro rfl
      cases held
    unfold SessionState.wrap
    rw [settled.1, if_neg higher]

/-- A text that a party has sealed is a letter of its rung, and the next of its counters. -/
theorem Status.writes (prepared : meeting.Prepared) (permissive : host.Permissive)
    (status : meeting.Status host rung count counters party) (held : .holding rung = party)
    (fits : count < 2 ^ 32) {text : Bytes} {envelope : Envelope}
    (gives : host.perform (Transport.encrypt (meeting.setting.address party) text) =
      (.ok envelope, after)) :
    ∃ message : WhisperMessage,
      host.trace.Continues 0 after.trace ∧ after.refusal = host.refusal ∧
      envelope.sealed? = some message ∧ message.ratchetKey = meeting.ladder.key rung ∧
      message.counter.toNat = count ∧ 0 < rung ∧
      meeting.ladder.Seals (meeting.terms party) rung message.counter text message ∧
      envelope = (if rung = 1 then .preKeyWhisper (meeting.cover message) else .whisper message) ∧
      meeting.Status after rung (count + 1) counters party := by
  obtain ⟨found, sender, next, loaded, sending, sealing, becomes⟩ :=
    Transport.encrypt_eq_ok permissive gives
  cases status with
  | waiting bottom silent store_eq =>
    have unopened : host.store.loadSession (meeting.setting.address .responder) = .ok .new := by
      rw [store_eq]
      exact Store.loadSession_eq_new (prepared.unopened .responder)
    cases unopened.symm.trans loaded
    cases sending
  | @inSession _ record climbed load trusted stands under settled =>
    have same : record = found := Except.ok.inj (load.symm.trans loaded)
    subst same
    obtain ⟨localIdentity, remoteIdentity, body, ours, theirs, closed, rfl, rfl⟩ :=
      SessionState.sealText_eq_ok sealing
    cases ours.symm.trans under.local_eq
    cases theirs.symm.trans under.remote_eq
    have standing := stands.sent sending
    cases sending.symm.trans stands.sender_eq
    let message := record.current.sealedMessage
      ⟨meeting.ladder.pair rung, (meeting.ladder.chain rung).advance count⟩
      (meeting.terms party).ours (meeting.terms party).theirs body
    have zero : (meeting.ladder.chain rung).index.toNat = 0 := by
      rw [Ladder.index_chain]
      rfl
    have counter : message.counter.toNat = count := by
      change ((meeting.ladder.chain rung).advance count).index.toNat = count
      rw [ChainKey.toNat_index_advance (by omega), zero, Nat.zero_add]
    have wrapped : record.current.wrap (meeting.terms party).ours message =
        if rung = 1 then .preKeyWhisper (meeting.cover message) else .whisper message :=
      settled.wrap held under message
    refine ⟨message, becomes.continues, becomes.refusal_eq, ?_, rfl, counter, climbed, ?_, wrapped,
      ?_⟩
    · change (record.current.wrap (meeting.terms party).ours message).sealed? = _
      rw [wrapped]
      split
      · rfl
      · rfl
    · refine ⟨record.current.previousCounter, body, ?_, ?_⟩
      · rw [counter]
        exact closed
      · rw [counter]
        change WhisperMessage.create record.current.version _ _ _ _ _ _ _ = _
        rw [under.version_eq]
        rfl
    · apply status_of_stored becomes.store_eq climbed trusted standing
        ⟨under.version_eq, under.local_eq, under.remote_eq⟩
      cases party with
      | initiator => exact settled
      | responder =>
        refine ⟨settled.1, settled.2.1, ?_⟩
        rw [becomes.store_eq]
        exact settled.2.2

/-- A party with a session writes every text that the suite can seal. -/
theorem Status.perform_encrypt (permissive : host.Permissive)
    (status : meeting.Status host rung count counters party) (climbed : 0 < rung)
    {text body : Bytes} (closed :
      ((meeting.ladder.chain rung).advance count).messageKeys.seal? text = some body) :
    ∃ envelope after, host.perform (Transport.encrypt (meeting.setting.address party) text) =
      (.ok envelope, after) := by
  cases status with
  | waiting bottom silent store_eq =>
    subst bottom
    exact absurd climbed (Nat.lt_irrefl 0)
  | inSession _ load trusted stands under settled =>
    let sender : SenderChain :=
      ⟨meeting.ladder.pair rung, (meeting.ladder.chain rung).advance count⟩
    have sealable : sender.chainKey.messageKeys.seal? text = some body := closed
    have sealing := SessionState.sealText_of_sealed under.local_eq under.remote_eq sealable
    obtain ⟨after, gives, _⟩ := Transport.perform_encrypt permissive load stands.sender_eq sealing
    exact ⟨_, after, gives⟩

end Meeting
end DoubleRatchet
