import DoubleRatchet.Proofs.Engine.Seeding
import DoubleRatchet.Proofs.Engine.Vouching
import DoubleRatchet.Proofs.Suite.Plain

namespace DoubleRatchet

/-!
# One-time pre-keys

A one-time pre-key is good for one session.  The request that makes a session of it forgets
it, and from then on a first message that names it finds nothing: it is refused, or it is
taken to belong to a session that is already there.

What the outer fields of a first message say is not covered by the tag of the embedded
message.  They count as genuine if the state that is made of them opens that message, and
for this state the request looks first.  It is not the only one that is looked for.  Where the
new state refuses the message and an older one takes it, the request succeeds all the same,
and the pre-key is forgotten for a session that nobody has spoken in.
-/

/-- A pre-key is gone, and no first message makes a session of it any more. -/
structure Host.Exhausted [Suite] (host : Host) (id : UInt32) : Prop where
  gone : host.store.preKeys.contains id = false
  /-- In the newer version, a new handshake that names it is refused. -/
  refused : ∀ (address : Address) (limits : Limits) (callback : Bytes -> Except Fault Unit)
    (message : PreKeyWhisperMessage) (record : SessionRecord) (signedId : UInt32)
    (signedPreKey : SignedPreKey),
    message.version = currentVersion → message.preKeyId = some id →
      message.signedPreKeyId = some signedId →
      host.store.loadSignedPreKey signedId = .ok signedPreKey →
      host.store.trusts address.name message.identity = true →
      host.store.loadSession address = .ok record →
      record.hasSession message.version message.baseKey = false →
        host.perform (Transport.decryptWith address limits callback (.preKeyWhisper message)) =
          (.error (.unknownPreKey id), host)
  /-- In the older version every handshake that names it is, or nothing is negotiated. -/
  passed : ∀ (address : Address) (limits : Limits) (callback : Bytes -> Except Fault Unit)
    (message : PreKeyWhisperMessage) (record : SessionRecord),
    message.version = oldestVersion → message.preKeyId = some id →
      host.store.trusts address.name message.identity = true →
      host.store.loadSession address = .ok record →
        if record.current.established then
          ∃ handed, host.perform (Establishment.processHandshake address limits record message) =
            (.ok (record, none), handed)
        else host.perform (Transport.decryptWith address limits callback
          (.preKeyWhisper message)) = (.error (.unknownPreKey id), host)

theorem Host.exhausted_of_gone [Suite] {host : Host} {id : UInt32} (permissive : host.Permissive)
    (gone : host.store.preKeys.contains id = false) : host.Exhausted id where
  gone := gone
  refused := by
    intro address limits callback message record signedId signedPreKey newer named signedNamed
      signed_eq trusted load unknown
    apply Transport.perform_decryptWith_of_refused callback permissive load
    exact Establishment.perform_processHandshake_of_gone permissive trusted newer unknown
      signedNamed signed_eq named gone
  passed := by
    intro address limits callback message record older named trusted load
    cases established : record.current.established with
    | true =>
      have present := Store.containsSession_eq load
      rw [established] at present
      have accepts : Establishment.Accepted host.store address limits record message record none :=
        .gone older named gone present
      obtain ⟨events, processed⟩ :=
        Establishment.perform_processHandshake permissive trusted accepts
      exact ⟨_, processed⟩
    | false =>
      apply Transport.perform_decryptWith_of_refused callback permissive load
      exact Establishment.perform_processHandshake_of_lone permissive trusted older load
        established named gone

/-- A one-time pre-key that a host has once is good for one session.

Of the requests in a run at most one makes a session of it, and behind that one the pre-key is
gone and first messages that name it are refused, or are not negotiated.  And no request of a
run removes a pre-key but such a one, which removes the pre-key that it has made a session of;
the pre-key of last resort is never removed. -/
theorem preKey_seeds_one_session [Suite] {host : Host} (permissive : host.Permissive)
    {id : UInt32} (oneTime : id ≠ lastResortId) {deeds : List Deed}
    (once : host.supply id deeds ≤ 1) :
    (∀ before first between again later,
      deeds = before ++ .asks first :: between ++ .asks again :: later →
      first.Seeds (host.through before) id →
        ¬ again.Seeds (host.through (before ++ .asks first :: between)) id) ∧
    (∀ before first between later, deeds = before ++ .asks first :: between ++ later →
      first.Seeds (host.through before) id →
        (host.through (before ++ .asks first :: between)).Exhausted id) ∧
    (∀ before operation later, deeds = before ++ .asks operation :: later →
      ((host.through before).act (.asks operation)).store.preKeys =
          (host.through before).store.preKeys ∨
        ∃ spent, spent ≠ lastResortId ∧ operation.Seeds (host.through before) spent ∧
          ((host.through before).act (.asks operation)).store.preKeys =
            ((host.through before).store.removePreKey spent).preKeys) := by
  have gone : ∀ before first between later, deeds = before ++ .asks first :: between ++ later →
      first.Seeds (host.through before) id →
        (host.through (before ++ .asks first :: between)).store.preKeys.contains id = false := by
    intro before first between later shape seeds
    rw [shape, Host.supply_append] at once
    exact Host.gone_behind_seeds permissive oneTime (Nat.le_of_add_right_le once) seeds
  refine ⟨?_, ?_, ?_⟩
  · intro before first between again later shape seeds anew
    have held := Host.held_of_seeds anew
    rw [gone before first between (.asks again :: later) shape seeds] at held
    cases held
  · intro before first between later shape seeds
    exact Host.exhausted_of_gone (Host.permissive_through permissive _)
      (gone before first between later shape seeds)
  · intro before operation later _
    exact Host.preKeys_act_asks (Host.permissive_through permissive before) operation

namespace Scene

section Exhausting

attribute [local instance] plainSuite

/-- Alice's first message opens with the pre-key that Bob has stored. -/
theorem older_opens (id : UInt32) :
    ∃ text after, (olderHost id).perform (Transport.decrypt aliceAddress .standard
      (.preKeyWhisper (olderMessage id))) = (.ok text, after) := by
  obtain ⟨text, _, after, _, gives, _⟩ := bob_meets id
  exact ⟨text, after, gives⟩

theorem seeded_older (id : UInt32) (record : SessionRecord) :
    Establishment.Seeded (olderHost id).store record (olderMessage id) id
      (Establishment.responderState (olderHost id).store (olderMessage id) preKey.pair none) :=
  .unsigned rfl rfl (Store.loadPreKey_storePreKey_self ..)

/-- Alice's first message makes a session of Bob's pre-key.  The same message from someone
else, whom Bob does not know, is refused then. -/
theorem alice_exhausts_preKey :
    (Host.start (.ofIdentity bob 8) bobDraws).Permissive ∧ (1 : UInt32) ≠ lastResortId ∧
      (Host.start (.ofIdentity bob 8) bobDraws).supply 1 meeting ≤ 1 ∧
      (Operation.decrypt aliceAddress .standard (fun _ => .ok ())
        (.preKeyWhisper (olderMessage 1))).Seeds (olderHost 1) 1 ∧
      ((Host.start (.ofIdentity bob 8) bobDraws).through meeting).Exhausted 1 ∧
      ((Host.start (.ofIdentity bob 8) bobDraws).through meeting).perform
          (Transport.decrypt ⟨"carol", 1⟩ .standard (.preKeyWhisper (olderMessage 1))) =
        (.error (.unknownPreKey 1),
          (Host.start (.ofIdentity bob 8) bobDraws).through meeting) := by
  have permissive : (Host.start (.ofIdentity bob 8) bobDraws).Permissive :=
    Host.permissive_start _ _
  have oneTime : (1 : UInt32) ≠ lastResortId := by decide
  have once : (Host.start (.ofIdentity bob 8) bobDraws).supply 1 meeting ≤ 1 := by decide
  obtain ⟨text, after, gives⟩ := older_opens 1
  have seeds : (Operation.decrypt aliceAddress .standard (fun _ => .ok ())
      (.preKeyWhisper (olderMessage 1))).Seeds (olderHost 1) 1 :=
    .decrypt (Store.loadSession_of_empty rfl _) (seeded_older 1 .new) gives
  have exhausted : ((Host.start (.ofIdentity bob 8) bobDraws).through meeting).Exhausted 1 :=
    (preKey_seeds_one_session permissive oneTime once).2.1 [.tends (.storePreKey 1 preKey)] _ [] []
      rfl seeds
  -- Bob's store has changed in what belongs to Alice, so that Carol is still unknown.
  have reached : (Host.start (.ofIdentity bob 8) bobDraws).through meeting = after :=
    Host.act_asks (Host.perform_bind_of_ok gives _)
  obtain ⟨_, _, used, result, _, _, _, _, _, _, _, _, _, _, _, _, becomes⟩ :=
    Transport.decryptPreKeyWhisper_eq_ok (Host.permissive_start _ _) gives
  have apart : (⟨"carol", 1⟩ : Address) ≠ aliceAddress := by decide
  have load : after.store.loadSession ⟨"carol", 1⟩ = .ok .new := by
    rw [becomes.store_eq, Store.loadSession_storeSession_of_ne apart,
      Store.loadSession_of_sessions_eq (Store.sessions_settle ..)]
    exact Store.loadSession_of_empty rfl _
  have trusted : after.store.trusts "carol" alice.identity = true := by
    apply Store.trusts_of_unpinned
    rw [becomes.store_eq]
    change (Transport.settle _ _ _ used).pins.get? "carol" = none
    rw [(Operation.settle_eq ..).2]
    exact Table.get?_insert_of_ne _ (by decide) _
  refine ⟨permissive, oneTime, once, seeds, exhausted, ?_⟩
  rw [reached] at exhausted ⊢
  exact exhausted.passed ⟨"carol", 1⟩ .standard (fun _ => .ok ()) (olderMessage 1) .new rfl rfl
    trusted load

end Exhausting

end Scene

/-! ## The session that a pre-key is forgotten for -/

section Openers

variable [Suite] {limits : Limits} {address : Address} {message : WhisperMessage} {text : Bytes}

/-- The current state opens what it takes, and an archived state only what the current one
does not. -/
theorem SessionRecord.opener_of_openMessage {record result : SessionRecord} {trace later : Trace}
    (gives : record.openMessage limits address message trace = (.ok (text, result), later)) :
    (∃ ours, record.current.Takes limits ours message text result.current) ∨
      (∀ ours other taken, ¬ record.current.Takes limits ours message other taken) ∧
        ∃ state ∈ record.previous, ∃ ours, state.Takes limits ours message text result.current := by
  by_cases heard : ∃ ours other taken, record.current.Takes limits ours message other taken
  · obtain ⟨ours, other, taken, takes⟩ := heard
    obtain ⟨found, again⟩ := takes.redrawn trace.nextPair
    obtain ⟨_, opening, _⟩ := openMessage_of_takes address again
    cases opening.symm.trans gives
    exact .inl ⟨trace.nextPair, again⟩
  · have unheard : ∀ ours other taken, ¬ record.current.Takes limits ours message other taken :=
      fun ours other taken takes => heard ⟨ours, other, taken, takes⟩
    obtain ⟨_, _, middle, _, opened, _⟩ := opened_of_openMessage gives
    cases opened with
    | current takes => exact absurd takes (unheard _ _ _)
    | archived found takes =>
      exact .inr ⟨unheard, _, List.mem_of_getElem? found, middle.nextPair, takes⟩

variable (address) in
/-- A message whose tag is not made with the keys of the state is refused as invalid. -/
theorem SessionState.openMessage_of_unverified {state chained : SessionState}
    {chain : ReceiverChain} {served : Served} {own remote : IdentityKey} {trace : Trace}
    (established : state.established = true) (version_eq : message.version = state.version)
    (reached : state.Chained limits trace.nextPair message.ratchetKey chained)
    (chain_eq : chained.receiver? message.ratchetKey = some chain)
    (served_eq : chain.serve limits.forwardJumps limits.messageKeys message.counter = .ok served)
    (remote_eq : chained.remoteIdentity = some remote) (local_eq : chained.localIdentity = some own)
    (refuted : message.verifies served.keys.macKey remote own = false) :
    ∃ later, state.openMessage limits address message trace =
        (.error (.invalid .badMac), later) ∧
      trace.Continues (state.drawsFor message.ratchetKey) later := by
  obtain ⟨middle, gives, continues⟩ := openChain_of_chained address reached
  rw [openMessage_eq established version_eq, sequence_of_ok gives]
  refine ⟨{ middle with events := middle.events ++ served.events }, ?_,
    continues.entropy_eq, continues.drawn_eq⟩
  have remoteFound : (chained.putReceiver served.chain).requireRemoteIdentity = .ok remote :=
    require_eq_ok.mpr remote_eq
  have localFound : (chained.putReceiver served.chain).requireLocalIdentity = .ok own :=
    require_eq_ok.mpr local_eq
  have checked : message.checkTag served.keys.macKey remote own = .error (.invalid .badMac) := by
    simp only [WhisperMessage.checkTag, refuted, Bool.false_eq_true, if_false]
  simp only [openFrom]
  rw [sequence_of_ok (serve_of_chain chain_eq served_eq)]
  dsimp only
  rw [sequence_of_ok (lift_eq_ok.mpr ⟨remoteFound, rfl⟩),
    sequence_of_ok (lift_eq_ok.mpr ⟨localFound, rfl⟩), checked]
  rfl

omit [Suite] in
theorem SessionRecord.mem_previous_promote {record : SessionRecord} {state other : SessionState}
    {bound : Nat} (member : other ∈ (record.promote state bound).previous) :
    other ∈ record.states := by
  simp only [promote] at member
  split at member
  · exact List.mem_of_mem_take member
  · exact List.mem_cons_of_mem _ member

end Openers

/-- A pre-key that a request forgets is one that it has just made a state of.

That state is in front and has opened the embedded message, if it takes the message at all.
Where it refuses, some state that the record held before has opened the message and is in
front.  So the pre-key is forgotten for the session that was made of it whenever no state of
the record takes the message. -/
theorem preKey_forgotten_for_new_state [Suite] {host after : Host} (permissive : host.Permissive)
    {address : Address} {limits : Limits} {callback : Bytes -> Except Fault Unit}
    {message : PreKeyWhisperMessage} {text : Bytes} {id : UInt32}
    (gives : host.perform (Transport.decryptWith address limits callback (.preKeyWhisper message)) =
      (.ok text, after))
    (held : host.store.preKeys.contains id = true)
    (gone : after.store.preKeys.contains id = false) :
    ∃ record state stored, host.store.loadSession address = .ok record ∧
      Establishment.Seeded host.store record message id state ∧ id ≠ lastResortId ∧
      after.store.loadSession address = .ok stored ∧
      ((∃ ours, state.Takes limits ours message.message text stored.current) ∨
        (∀ ours other taken, ¬ state.Takes limits ours message.message other taken) ∧
          ∃ older ∈ record.states, ∃ ours,
            older.Takes limits ours message.message text stored.current) ∧
      ((∀ older ∈ record.states, ∀ ours other taken,
          ¬ older.Takes limits ours message.message other taken) →
        ∃ ours, state.Takes limits ours message.message text stored.current) := by
  obtain ⟨record, accepted, used, result, handed, last, remote, load, sender, accepts, _, opening,
    _, _, _, stored, _, _⟩ := Transport.decryptPreKeyWhisper_tries permissive gives
  have preKeys_eq : after.store.preKeys =
      (used.elim host.store host.store.removePreKey).preKeys := by
    rw [stored]
    exact Store.preKeys_settle host.store address.name message.identity used
  have loaded : after.store.loadSession address = .ok result.settled := by
    rw [stored]
    exact Store.loadSession_storeSession_self ..
  rw [preKeys_eq] at gone
  cases used with
  | none =>
    have absent : host.store.preKeys.contains id = false := gone
    rw [held] at absent
    cases absent
  | some spent =>
    have same : id = spent := by
      by_contra different
      have kept : host.store.preKeys.contains id = false :=
        (Store.contains_removePreKey_of_ne different).symm.trans gone
      rw [held] at kept
      cases kept
    subst same
    obtain ⟨oneTime, state, seeded, rfl⟩ := accepts.seeded
    have opener := SessionRecord.opener_of_openMessage opening
    refine ⟨record, state, result.settled, load, seeded, oneTime, loaded, ?_, ?_⟩
    · rcases opener with heard | ⟨unheard, older, member, heard⟩
      · exact .inl heard
      · exact .inr ⟨unheard, older, SessionRecord.mem_previous_promote member, heard⟩
    · intro strangers
      rcases opener with heard | ⟨_, older, member, ours, takes⟩
      · exact heard
      · exact absurd takes (strangers older (SessionRecord.mem_previous_promote member) _ _ _)

namespace Scene

section Consuming

attribute [local instance] plainSuite

/-- Bob forgets the pre-key of the session that Alice's first message opens. -/
theorem preKey_forgotten_for_alice :
    (olderHost 1).Permissive ∧ ∃ text after, (olderHost 1).perform (Transport.decrypt aliceAddress
        .standard (.preKeyWhisper (olderMessage 1))) = (.ok text, after) ∧
      (olderHost 1).store.preKeys.contains 1 = true ∧
      after.store.preKeys.contains 1 = false ∧
      ∃ state stored, Establishment.Seeded (olderHost 1).store .new (olderMessage 1) 1 state ∧
        after.store.loadSession aliceAddress = .ok stored ∧
        ∃ ours, state.Takes .standard ours (olderMessage 1).message text stored.current := by
  have permissive : (olderHost 1).Permissive := Host.permissive_start _ _
  obtain ⟨text, after, gives⟩ := older_opens 1
  have load : (olderHost 1).store.loadSession aliceAddress = .ok .new :=
    Store.loadSession_of_empty rfl _
  have held : (olderHost 1).store.preKeys.contains 1 = true := (seeded_older 1 .new).held
  have gone : after.store.preKeys.contains 1 = false := by
    have seeds : (Operation.decrypt aliceAddress .standard (fun _ => .ok ())
        (.preKeyWhisper (olderMessage 1))).Seeds (olderHost 1) 1 :=
      .decrypt load (seeded_older 1 .new) gives
    have reached : (olderHost 1).act (.asks (.decrypt aliceAddress .standard (fun _ => .ok ())
        (.preKeyWhisper (olderMessage 1)))) = after :=
      Host.act_asks (Host.perform_bind_of_ok gives _)
    rw [← reached]
    exact Host.gone_of_seeds permissive (by decide) seeds
  obtain ⟨record, state, stored, also, seeded, _, loaded, _, heard⟩ :=
    preKey_forgotten_for_new_state permissive gives held gone
  cases load.symm.trans also
  refine ⟨permissive, text, after, gives, held, gone, state, stored, seeded, loaded, heard ?_⟩
  intro older member ours other taken takes
  rw [List.mem_singleton.mp member] at takes
  obtain ⟨established, _⟩ := takes.keeps_identities
  cases established

end Consuming

section Forging

attribute [local instance] tellingSuite

/-- Bob's other signed pre-key. -/
def otherSigned : SignedPreKey :=
  ⟨2, 0, .ofPrivate ⟨.replicate 32 7⟩, []⟩

/-- Alice's state after she has opened a session from a bundle with the first one. -/
def telling : SessionState :=
  Establishment.bundleState (Store.ofIdentity alice 7)
    (Bundle.ofKeys 8 1 bob (some signedPreKey) none)
    ⟨currentVersion, signedPreKey.pair.publicKey, none⟩
    (.drawnAt aliceDraws 0) (.drawnAt aliceDraws 1)

/-- Her sender chain as it is at first. -/
def tellingChain : SenderChain :=
  telling.sender.getD default

/-- What she says first. -/
def opening : PreKeyWhisperMessage where
  version := currentVersion
  registrationId := 7
  preKeyId := none
  signedPreKeyId := some 1
  baseKey := (KeyPair.drawnAt aliceDraws 0).publicKey
  identity := alice.identity
  message := telling.sealedMessage tellingChain alice.identity bob.identity [0x68, 0x69]

/-- What she says next, wrapped anew: into a handshake of another base key, and for other
pre-keys of Bob. -/
def forged : PreKeyWhisperMessage where
  version := currentVersion
  registrationId := 7
  preKeyId := some 1
  signedPreKeyId := some 2
  baseKey := (KeyPair.drawnAt aliceDraws 9).publicKey
  identity := alice.identity
  message := telling.sealedMessage { tellingChain with chainKey := tellingChain.chainKey.next }
    alice.identity bob.identity [0x68, 0x69]

/-- Bob with the signed pre-key that he has published first. -/
def signing : Store :=
  (Store.ofIdentity bob 8).storeSignedPreKey 1 signedPreKey

/-- Bob with all that he has given out. -/
def giving : Store :=
  (signing.storeSignedPreKey 2 otherSigned).storePreKey 1 preKey

/-- Bob's state for Alice's opening. -/
def hearing : SessionState :=
  Establishment.responderState giving opening signedPreKey.pair none

/-- The same state once it has opened her message. -/
def heard : SessionState :=
  ((hearing.openMessage .standard aliceAddress opening.message (.start bobDraws)).1.toOption.getD
    default).2

/-- The state that Bob makes of the forged handshake. -/
def lured : SessionState :=
  Establishment.responderState giving forged otherSigned.pair (some preKey.pair)

theorem hearing_takes :
    ∃ text, hearing.Takes .standard (Trace.start bobDraws).nextPair opening.message text heard := by
  have opened : (hearing.openMessage .standard aliceAddress opening.message
      (.start bobDraws)).1.toOption.isSome = true := by
    decide +kernel
  obtain ⟨⟨text, taken⟩, later, gives⟩ := exists_eq_ok opened
  have same : heard = taken := by
    simp only [heard, gives]
    rfl
  rw [same]
  exact ⟨text, (SessionState.takes_of_openMessage gives).1⟩

theorem heard_identity : heard.remoteIdentity = some alice.identity := by
  obtain ⟨_, takes⟩ := hearing_takes
  exact takes.keeps_identities.2.2

/-- The old state takes the message that Alice has sealed in it, however it is wrapped. -/
theorem heard_takes (ours : KeyPair) :
    ∃ text taken, heard.Takes .standard ours forged.message text taken := by
  have opened : (heard.openMessage .standard aliceAddress forged.message
      (.start bobDraws)).1.toOption.isSome = true := by
    decide +kernel
  obtain ⟨⟨text, taken⟩, later, gives⟩ := exists_eq_ok opened
  obtain ⟨other, takes⟩ := (SessionState.takes_of_openMessage gives).1.redrawn ours
  exact ⟨text, other, takes⟩

/-- The chain that a step of the agreement ratchet opens for that message in the new state. -/
def luredChain : ReceiverChain :=
  ⟨forged.message.ratchetKey, ((lured.rootKey.getD default).createChain forged.message.ratchetKey
    (lured.sender.getD default).ratchetKey).2, .empty⟩

/-- The new state has other keys for it. -/
theorem lured_refuses (trace : Trace) :
    ∃ later, lured.openMessage .standard aliceAddress forged.message trace =
        (.error (.invalid .badMac), later) ∧
      trace.Continues (lured.drawsFor forged.message.ratchetKey) later := by
  have rooted : lured.rootKey = some (lured.rootKey.getD default) := rfl
  have sending : lured.sender = some (lured.sender.getD default) := rfl
  have absent : lured.receiver? forged.message.ratchetKey = none := rfl
  have refuted : (luredChain.serve 2000 2000 forged.message.counter).toOption.any (fun served =>
      !forged.message.verifies served.keys.macKey alice.identity bob.identity) = true := by
    decide +kernel
  cases serves : luredChain.serve 2000 2000 forged.message.counter with
  | error fault =>
    rw [serves] at refuted
    cases refuted
  | ok served =>
    rw [serves] at refuted
    exact SessionState.openMessage_of_unverified aliceAddress rfl rfl
      (.stepped _ _ absent rooted sending) (SessionState.receiver?_ratchet _ absent (by decide))
      serves rfl rfl
      (Bool.not_eq_true' _ ▸ refuted)

theorem not_takes_forged (ours : KeyPair) (text : Bytes) (taken : SessionState) :
    ¬ lured.Takes .standard ours forged.message text taken := by
  intro takes
  obtain ⟨other, again⟩ := takes.redrawn (Trace.start bobDraws).nextPair
  obtain ⟨_, opening, _⟩ := (SessionState.openMessage_eq_ok aliceAddress).mpr again
  obtain ⟨_, refused, _⟩ := lured_refuses (.start bobDraws)
  cases opening.symm.trans refused

/-- Bob gives his keys out and opens what Alice says first. -/
def receiving : List Deed :=
  [.tends (.storeSignedPreKey 1 signedPreKey), .tends (.storeSignedPreKey 2 otherSigned),
    .tends (.storePreKey 1 preKey),
    .asks (.decrypt aliceAddress .standard (fun _ => .ok ()) (.preKeyWhisper opening))]

/-- Bob before he has given anything out. -/
def bareHost : Host :=
  .start (.ofIdentity bob 8) bobDraws

/-- What Bob's store is after he has opened what Alice says first. -/
def received : Store :=
  (giving.pin "alice" alice.identity).storeSession aliceAddress ⟨heard, [], true⟩

theorem bob_receives :
    (bareHost.through receiving).Permissive ∧
      (bareHost.through receiving).store = received := by
  have permissive : (Host.start giving bobDraws).Permissive := Host.permissive_start _ _
  have load : giving.loadSession aliceAddress = .ok .new := Store.loadSession_of_empty rfl _
  have signed_eq : giving.loadSignedPreKey 1 = .ok signedPreKey := by
    have same : giving.signedPreKeys = (signing.storeSignedPreKey 2 otherSigned).signedPreKeys :=
      rfl
    rw [Store.loadSignedPreKey_of_signedPreKeys_eq same,
      Store.loadSignedPreKey_storeSignedPreKey_of_ne _ (by decide)]
    exact Store.loadSignedPreKey_storeSignedPreKey_self ..
  have oneTime_eq : opening.preKeyId.mapM giving.loadPreKey = .ok none := rfl
  have accepts : Establishment.Accepted giving aliceAddress .standard .new opening _ _ :=
    .signed rfl rfl rfl signed_eq oneTime_eq
  obtain ⟨text, takes⟩ := hearing_takes
  obtain ⟨after, gives, becomes⟩ := Transport.perform_decryptPreKeyWhisper permissive load
    (Store.trusts_of_unpinned rfl _) accepts takes heard_identity (Store.trusts_of_unpinned rfl _)
  have reached : bareHost.through receiving = after :=
    Host.act_asks (Host.perform_bind_of_ok gives _)
  rw [reached]
  exact ⟨becomes.permissive permissive, becomes.store_eq⟩

theorem load_received : received.loadSession aliceAddress = .ok ⟨heard, [], false⟩ :=
  Store.loadSession_storeSession_self ..

theorem loadPreKey_received : received.loadPreKey 1 = .ok preKey := by
  have same : received.preKeys =
      ((signing.storeSignedPreKey 2 otherSigned).storePreKey 1 preKey).preKeys := rfl
  rw [Store.loadPreKey_of_preKeys_eq same]
  exact Store.loadPreKey_storePreKey_self ..

theorem loadSignedPreKey_received : received.loadSignedPreKey 2 = .ok otherSigned := by
  have same : received.signedPreKeys = (signing.storeSignedPreKey 2 otherSigned).signedPreKeys :=
    rfl
  rw [Store.loadSignedPreKey_of_signedPreKeys_eq same]
  exact Store.loadSignedPreKey_storeSignedPreKey_self ..

theorem seeded_received :
    Establishment.Seeded received ⟨heard, [], false⟩ forged 1 lured := by
  obtain ⟨_, takes⟩ := hearing_takes
  have base : heard.initiatorBaseKey = some opening.baseKey := (SessionRecord.takes_keeps takes).2
  have apart : opening.baseKey ≠ forged.baseKey := by decide
  have unknown : (⟨heard, [], false⟩ : SessionRecord).hasSession forged.version forged.baseKey =
      false := by
    simp [SessionRecord.hasSession, SessionRecord.states, base, apart]
  exact .signed rfl unknown rfl loadSignedPreKey_received rfl loadPreKey_received

/-- The new state is the only one that can be made of the handshake. -/
theorem eq_lured {record : SessionRecord} {state : SessionState}
    (seeded : Establishment.Seeded received record forged 1 state) : state = lured := by
  cases seeded with
  | signed _ _ signedNamed signed_eq _ loaded =>
    cases signedNamed
    cases loadSignedPreKey_received.symm.trans signed_eq
    cases loadPreKey_received.symm.trans loaded
    rfl
  | unsigned version_eq => exact absurd version_eq (by decide)

/-- Bob opens what Alice says next in her old session, and forgets the pre-key that the
wrapping names.  The state that he has made of it does not take the message. -/
theorem preKey_forgotten_for_older_state :
    bareHost.Permissive ∧ bareHost.store.sessions = .empty ∧
      ∃ text after, (bareHost.through receiving).perform (Transport.decrypt aliceAddress .standard
          (.preKeyWhisper forged)) = (.ok text, after) ∧
        (bareHost.through receiving).store.preKeys.contains 1 = true ∧
        after.store.preKeys.contains 1 = false ∧
        ∀ record state, Establishment.Seeded (bareHost.through receiving).store record forged 1
            state →
          ∀ ours other taken, ¬ state.Takes .standard ours forged.message other taken := by
  obtain ⟨permissive, same⟩ := bob_receives
  generalize bareHost.through receiving = host at permissive same
  obtain ⟨text, taken, takes⟩ :=
    heard_takes (.drawnAt host.trace.entropy (host.trace.drawn + 1))
  have known : taken.remoteIdentity = some alice.identity := by
    rw [takes.keeps_identities.2.2]
    exact heard_identity
  have load : host.store.loadSession aliceAddress = .ok ⟨heard, [], false⟩ := by
    rw [same]
    exact load_received
  have trusted : host.store.trusts aliceAddress.name forged.identity = true := by
    rw [same]
    exact Store.trusts_pin ..
  have spent : ((some (1 : UInt32)).filter fun id => id ≠ lastResortId) = some 1 := by decide
  have accepts := seeded_received.accepts aliceAddress .standard
  rw [← same, spent] at accepts
  -- The handshake puts the new state in front, which draws a pair and refuses the message.
  let accepted : SessionRecord :=
    (⟨heard, [], false⟩ : SessionRecord).promote lured Limits.standard.archivedStates
  have archive : accepted.previous = [heard] := by
    obtain ⟨_, earlier⟩ := hearing_takes
    change (if heard.established then [heard].take 40 else []) = [heard]
    rw [if_pos earlier.established]
    rfl
  have opens : ∀ events, ∃ last, accepted.openMessage .standard aliceAddress forged.message
      { host.trace with events } = (.ok (text, (accepted.removePrevious 0).promote taken
        Limits.standard.archivedStates), last) ∧
      host.trace.Continues (1 + heard.drawsFor forged.message.ratchetKey) last := by
    intro events
    obtain ⟨middle, refused, drawn⟩ := lured_refuses { host.trace with events }
    have pair : middle.nextPair = .drawnAt host.trace.entropy (host.trace.drawn + 1) := by
      rw [Trace.nextPair, drawn.entropy_eq, drawn.drawn_eq]
      rfl
    rw [← pair] at takes
    obtain ⟨last, opening, continues⟩ :=
      SessionRecord.openMessage_of_archived_takes refused archive takes
    have started : host.trace.Continues 1 middle := ⟨drawn.entropy_eq, drawn.drawn_eq⟩
    exact ⟨last, opening, started.trans continues⟩
  obtain ⟨after, gives, becomes⟩ := Transport.perform_decryptPreKeyWhisper_of_openMessage
    permissive load trusted accepts opens known trusted
  refine ⟨Host.permissive_start _ _, rfl, text, after, gives, ?_, ?_, ?_⟩
  · rw [same]
    exact seeded_received.held
  · have preKeys_eq : after.store.preKeys = (host.store.removePreKey 1).preKeys := by
      rw [becomes.store_eq]
      exact Store.preKeys_settle host.store aliceAddress.name forged.identity (some 1)
    rw [preKeys_eq]
    exact Store.contains_removePreKey_self ..
  · intro record state seeded ours other found
    rw [same] at seeded
    rw [eq_lured seeded]
    exact not_takes_forged ours other found

end Forging

end Scene
end DoubleRatchet
