import DoubleRatchet.Proofs.Engine.Handshake

namespace DoubleRatchet
namespace Establishment

/-!
# When a session is opened

The two ways of opening a session that write on their own, and the request that
only leaves a pending exchange behind.  Each way ends in the same three things: a
pin for the identity, the new state in front of the record, and the record stored.
What differs is the new state and where its keys come from, so a state is named
here as a function of the store, the message and the pairs that go into it.

A key exchange is described as an outcome of its own.  Answering takes the pending
pairs of the record or draws new ones; completing takes the pending ones; and an
answer to a crossed exchange is passed over without a write.
-/

variable [Suite] {host after : Host} {address : Address} {limits : Limits}

/-! ## Bundles -/

/-- The state that the initiator makes of a bundle. -/
def bundleState (store : Store) (bundle : Bundle) (offer : Offer) (baseKey ratchetKey : KeyPair) :
    SessionState :=
  { Negotiation.initiator offer.version
      { identity := store.identity
        baseKey
        theirIdentity := bundle.identity
        theirSignedPreKey := offer.signedPreKey
        theirOneTimePreKey := offer.oneTimePreKey
        theirRatchetKey := offer.signedPreKey }
      ratchetKey with
    pendingPreKey := some
      ⟨bundle.preKey.map (·.id), bundle.signedPreKey.map (·.id), baseKey.publicKey⟩
    localRegistrationId := store.registrationId
    remoteRegistrationId := bundle.registrationId
    initiatorBaseKey := some baseKey.publicKey }

variable (limits) in
/-- A bundle from a trusted identity that offers keys opens a session. -/
theorem perform_processBundle (permissive : host.Permissive) {bundle : Bundle} {offer : Offer}
    {record : SessionRecord} (trusted : host.store.trusts address.name bundle.identity = true)
    (offered : Offer.ofBundle bundle = .ok offer)
    (load : host.store.loadSession address = .ok record) :
    ∃ after, host.perform (processBundle address limits bundle) = (.ok (), after) ∧
      host.Becomes ((host.store.pin address.name bundle.identity).storeSession address
        (record.promote (bundleState host.store bundle offer host.trace.nextPair
          (.drawnAt host.trace.entropy (host.trace.drawn + 1))) limits.archivedStates)) 2
        after := by
  unfold processBundle
  have loaded : ∀ trace : Trace, ({ host with trace } : Host).perform (Host.loadSession address) =
      (.ok record, { host with trace }) := by
    intro trace
    have still : ({ host with trace } : Host).Permissive := permissive
    have found := Host.perform_loadSession still address
    exact found.trans (by rw [load])
  have registered : ∀ trace : Trace, ({ host with trace } : Host).perform
      Host.localRegistrationId = (.ok host.store.registrationId, { host with trace }) := by
    intro trace
    have still : ({ host with trace } : Host).Permissive := permissive
    exact Host.perform_localRegistrationId still
  rw [Host.perform_bind_of_ok (perform_checkTrusted permissive trusted), offered,
    Host.perform_bind_of_ok (Host.perform_except _ _),
    Host.perform_bind_of_ok (Host.perform_identityKeyPair permissive),
    Host.perform_bind_of_ok (Host.perform_drawing _ _),
    Host.perform_bind_of_ok (loaded _), Host.perform_bind_of_ok (Host.perform_drawing _ _)]
  dsimp only
  rw [Host.perform_bind_of_ok (registered _)]
  change ∃ after, ({ host with trace := { host.trace with drawn := host.trace.drawn + 2 } } :
      Host).perform
    ((monadLift (promote record (bundleState host.store bundle offer host.trace.nextPair
      (.drawnAt host.trace.entropy (host.trace.drawn + 1))) limits) : Engine SessionRecord) >>= _) =
    _ ∧ _
  obtain ⟨events, promoted⟩ := perform_promote limits
    { host with trace := { host.trace with drawn := host.trace.drawn + 2 } } record
    (bundleState host.store bundle offer host.trace.nextPair
      (.drawnAt host.trace.entropy (host.trace.drawn + 1)))
  rw [Host.perform_bind_of_ok promoted]
  have still : ({ host with trace :=
    { host.trace with drawn := host.trace.drawn + 2, events } } : Host).Permissive := permissive
  obtain ⟨later, pinned⟩ := Host.perform_pinning still address.name bundle.identity
  rw [Host.perform_bind_of_ok pinned]
  have kept : ({ host with
    store := host.store.pin address.name bundle.identity
    trace := { host.trace with drawn := host.trace.drawn + 2, events := later } } :
      Host).Permissive := permissive
  rw [Host.perform_bind_of_ok (Host.perform_storeSession kept _ _)]
  exact ⟨_, rfl, rfl, rfl, rfl, rfl⟩

/-- A bundle that has opened a session came from a trusted identity and offered keys. -/
theorem processBundle_eq_ok (permissive : host.Permissive) {bundle : Bundle}
    (gives : host.perform (processBundle address limits bundle) = (.ok (), after)) :
    ∃ offer record, host.store.trusts address.name bundle.identity = true ∧
      Offer.ofBundle bundle = .ok offer ∧ host.store.loadSession address = .ok record ∧
      host.Becomes ((host.store.pin address.name bundle.identity).storeSession address
        (record.promote (bundleState host.store bundle offer host.trace.nextPair
          (.drawnAt host.trace.entropy (host.trace.drawn + 1))) limits.archivedStates)) 2
        after := by
  have conditions : ∃ offer record, host.store.trusts address.name bundle.identity = true ∧
      Offer.ofBundle bundle = .ok offer ∧ host.store.loadSession address = .ok record := by
    unfold processBundle at gives
    obtain ⟨_, _, checked, rest⟩ := Host.perform_bind_eq_ok.mp gives
    obtain ⟨trusted, same⟩ := checkTrusted_eq_ok permissive checked
    rw [same] at rest
    obtain ⟨offer, _, offering, rest⟩ := Host.perform_bind_eq_ok.mp rest
    obtain ⟨offered, rfl⟩ := Host.perform_except_eq_ok.mp offering
    rw [Host.perform_bind_of_ok (Host.perform_identityKeyPair permissive),
      Host.perform_bind_of_ok (Host.perform_drawing _ _)] at rest
    obtain ⟨record, _, loaded, _⟩ := Host.perform_bind_eq_ok.mp rest
    have still : ({ host with trace := (KeyPair.generate host.trace).2 } : Host).Permissive :=
      permissive
    rw [Host.perform_loadSession still] at loaded
    exact ⟨offer, record, trusted, offered, (Prod.mk.inj loaded).1⟩
  obtain ⟨offer, record, trusted, offered, load⟩ := conditions
  obtain ⟨other, same, becomes⟩ :=
    perform_processBundle limits permissive trusted offered load
  rw [gives] at same
  cases same
  exact ⟨offer, record, trusted, offered, load, becomes⟩

/-! ## Key exchanges -/

/-- Opening a key exchange leaves the two fresh pairs pending in the current state.
The number of draws for the sequence is not fixed. -/
theorem initiate_eq_ok (permissive : host.Permissive) {message : KeyExchangeMessage}
    (gives : host.perform (initiate address) = (.ok message, after)) :
    ∃ record sequence skipped, host.store.loadSession address = .ok record ∧
      message = exchangeMessage currentVersion sequence KeyExchangeMessage.initiateFlag
        host.store.identity
        (KeyPair.drawnAt host.trace.entropy (host.trace.drawn + skipped)).publicKey
        (KeyPair.drawnAt host.trace.entropy (host.trace.drawn + skipped + 1)).publicKey ∧
      (generateSequence host.trace).2.drawn = host.trace.drawn + skipped ∧
      host.Becomes (host.store.storeSession address { record with
        current := { record.current with
          pendingExchange := some ⟨sequence,
            .drawnAt host.trace.entropy (host.trace.drawn + skipped),
            .drawnAt host.trace.entropy (host.trace.drawn + skipped + 1)⟩ } })
        (skipped + 2) after := by
  unfold initiate at gives
  rw [Host.perform_bind_of_ok (Host.perform_identityKeyPair permissive),
    Host.perform_bind_of_ok (Host.perform_drawing _ _),
    Host.perform_bind_of_ok (Host.perform_drawing _ _),
    Host.perform_bind_of_ok (Host.perform_drawing _ _)] at gives
  obtain ⟨record, _, loaded, rest⟩ := Host.perform_bind_eq_ok.mp gives
  obtain ⟨skipped, continues⟩ := Drawing.advancing_generateSequence host.trace
  generalize generateSequence host.trace = sequence at loaded rest continues
  obtain ⟨number, middle⟩ := sequence
  have still : ∀ trace : Trace, ({ host with trace } : Host).Permissive := fun _ => permissive
  rw [Host.perform_loadSession (still _)] at loaded
  obtain ⟨load, rfl⟩ := Prod.mk.inj loaded
  rw [Host.perform_bind_of_ok (Host.perform_storeSession (still _) _ _)] at rest
  have first : (KeyPair.generate middle).1 =
      .drawnAt host.trace.entropy (host.trace.drawn + skipped) := by
    rw [← continues.entropy_eq, ← continues.drawn_eq]
    rfl
  have second : (KeyPair.generate (KeyPair.generate middle).2).1 =
      .drawnAt host.trace.entropy (host.trace.drawn + skipped + 1) := by
    rw [← continues.entropy_eq, ← continues.drawn_eq]
    rfl
  cases rest
  refine ⟨record, number, skipped, load, ?_, continues.drawn_eq, ?_, rfl, continues.entropy_eq, ?_⟩
  · rw [← first, ← second]
  · rw [← first, ← second]
  · change middle.drawn + 1 + 1 = _
    rw [continues.drawn_eq]
    omega

/-- A key exchange can be opened with everyone whose record is readable. -/
theorem perform_initiate (permissive : host.Permissive) {record : SessionRecord}
    (load : host.store.loadSession address = .ok record) :
    ∃ message after, host.perform (initiate address) = (.ok message, after) := by
  unfold initiate
  rw [Host.perform_bind_of_ok (Host.perform_identityKeyPair permissive),
    Host.perform_bind_of_ok (Host.perform_drawing _ _),
    Host.perform_bind_of_ok (Host.perform_drawing _ _),
    Host.perform_bind_of_ok (Host.perform_drawing _ _)]
  have still : ∀ trace : Trace, ({ host with trace } : Host).Permissive := fun _ => permissive
  have loaded : ∀ trace : Trace, ({ host with trace } : Host).perform (Host.loadSession address) =
      (.ok record, { host with trace }) := by
    intro trace
    rw [Host.perform_loadSession (still trace)]
    exact congrArg (·, _) load
  rw [Host.perform_bind_of_ok (loaded _), Host.perform_bind_of_ok
    (Host.perform_storeSession (still _) _ _)]
  exact ⟨_, _, rfl⟩

/-- The pairs that this side brings into a key exchange: the pending ones, or fresh
ones where none are pending. -/
def broughtPairs (record : SessionRecord) (trace : Trace) : KeyPair × KeyPair × Nat :=
  match record.current.pendingExchange with
  | some pending => (pending.baseKey, pending.ratchetKey, 0)
  | none => (trace.nextPair, .drawnAt trace.entropy (trace.drawn + 1), 2)

/-- The state that a key exchange gives, with the pair that an initiator draws. -/
def exchangeState (store : Store) (message : KeyExchangeMessage)
    (baseKey ratchetKey fresh : KeyPair) : SessionState :=
  let keys := exchangeKeys store.identity baseKey ratchetKey message
  let negotiated :=
    if Negotiation.isInitiator baseKey.publicKey message.baseKey then
      Negotiation.initiator message.version keys.asInitiator fresh
    else Negotiation.responder message.version keys.asResponder
  { negotiated with localRegistrationId := store.registrationId }

theorem exchangeState_of_initiator {store : Store} {message : KeyExchangeMessage}
    {baseKey : KeyPair} (ratchetKey fresh : KeyPair)
    (role : Negotiation.isInitiator baseKey.publicKey message.baseKey = true) :
    exchangeState store message baseKey ratchetKey fresh =
      { Negotiation.initiator message.version
          (exchangeKeys store.identity baseKey ratchetKey message).asInitiator fresh with
        localRegistrationId := store.registrationId } := by
  unfold exchangeState
  rw [role]
  rfl

theorem exchangeState_of_responder {store : Store} {message : KeyExchangeMessage}
    {baseKey : KeyPair} (ratchetKey fresh : KeyPair)
    (role : Negotiation.isInitiator baseKey.publicKey message.baseKey = false) :
    exchangeState store message baseKey ratchetKey fresh =
      { Negotiation.responder message.version
          (exchangeKeys store.identity baseKey ratchetKey message).asResponder with
        localRegistrationId := store.registrationId } := by
  unfold exchangeState
  rw [role]
  rfl

/-- The state of a key exchange waits for no answer, and sends no handshake along. -/
theorem idle_exchangeState (store : Store) (message : KeyExchangeMessage)
    (baseKey ratchetKey fresh : KeyPair) :
    (exchangeState store message baseKey ratchetKey fresh).pendingExchange = none ∧
      (exchangeState store message baseKey ratchetKey fresh).pendingPreKey = none := by
  unfold exchangeState
  dsimp only
  split
  · exact ⟨rfl, rfl⟩
  · exact ⟨rfl, rfl⟩

/-- The pairs that the negotiation itself draws. -/
def exchangeDraws (baseKey : KeyPair) (message : KeyExchangeMessage) : Nat :=
  if Negotiation.isInitiator baseKey.publicKey message.baseKey then 1 else 0

/-- The flags of an answer, which say whether it was given from a pending exchange. -/
def answerFlags (record : SessionRecord) : UInt32 :=
  if record.current.pendingExchange.isSome then
    KeyExchangeMessage.responseFlag ||| KeyExchangeMessage.simultaneousFlag
  else KeyExchangeMessage.responseFlag

/-- How a key exchange that succeeds is answered, and how it has changed the store. -/
inductive Exchanged (host : Host) (address : Address) (limits : Limits)
    (message : KeyExchangeMessage) : Option KeyExchangeMessage -> Store -> Nat -> Prop where
  /-- An opening leg is answered. -/
  | answered {record : SessionRecord} {baseKey ratchetKey : KeyPair} {drawn : Nat}
      (opening : message.isInitiate = true)
      (load : host.store.loadSession address = .ok record)
      (brought : broughtPairs record host.trace = (baseKey, ratchetKey, drawn))
      (signed : checkSigned message = .ok ()) :
      Exchanged host address limits message
        (some (exchangeMessage message.version message.sequence (answerFlags record)
          host.store.identity baseKey.publicKey ratchetKey.publicKey))
        ((host.store.pin address.name message.identity).storeSession address
          (record.promote (exchangeState host.store message baseKey ratchetKey
            (.drawnAt host.trace.entropy (host.trace.drawn + drawn))) limits.archivedStates))
        (drawn + exchangeDraws baseKey message)
  /-- The pending exchange is completed. -/
  | completed {record : SessionRecord} {pending : PendingExchange}
      (answering : message.isInitiate = false)
      (load : host.store.loadSession address = .ok record)
      (waiting : record.current.pendingExchange = some pending)
      (matching : pending.sequence = message.sequence)
      (signed : checkSigned message = .ok ()) (response : message.isResponse = true) :
      Exchanged host address limits message none
        ((host.store.pin address.name message.identity).storeSession address
          (record.promote (exchangeState host.store message pending.baseKey pending.ratchetKey
            host.trace.nextPair) limits.archivedStates))
        (exchangeDraws pending.baseKey message)
  /-- An answer to a crossed exchange is passed over. -/
  | passed {record : SessionRecord} (answering : message.isInitiate = false)
      (load : host.store.loadSession address = .ok record)
      (unmatched : ∀ pending, record.current.pendingExchange = some pending →
        pending.sequence ≠ message.sequence)
      (crossed : message.isSimultaneous = true) :
      Exchanged host address limits message none host.store 0

omit [Suite] in
variable (address limits) in
theorem perform_concludeExchange (permissive : host.Permissive) (record : SessionRecord)
    (negotiated : SessionState) (identity : IdentityKey) :
    ∃ events, host.perform (concludeExchange address limits record negotiated identity) =
      (.ok (), { host with
        store := (host.store.pin address.name identity).storeSession address
          (record.promote { negotiated with localRegistrationId := host.store.registrationId }
            limits.archivedStates)
        trace := { host.trace with events } }) := by
  unfold concludeExchange
  rw [Host.perform_bind_of_ok (Host.perform_localRegistrationId permissive)]
  obtain ⟨events, promoted⟩ := perform_promote limits host record
    { negotiated with localRegistrationId := host.store.registrationId }
  rw [Host.perform_bind_of_ok promoted]
  have still : ({ host with trace := { host.trace with events } } : Host).Permissive := permissive
  obtain ⟨later, pinned⟩ := Host.perform_pinning still address.name identity
  rw [Host.perform_bind_of_ok pinned]
  have kept : ({ host with
    store := host.store.pin address.name identity
    trace := { host.trace with events := later } } : Host).Permissive := permissive
  rw [Host.perform_storeSession kept]
  exact ⟨later, rfl⟩

/-- The negotiation gives the state of the role that the base keys decide. -/
theorem perform_symmetric (host : Host) (message : KeyExchangeMessage)
    (baseKey ratchetKey : KeyPair) :
    ∃ events, host.perform (monadLift (Negotiation.symmetric message.version
        (exchangeKeys host.store.identity baseKey ratchetKey message)) : Engine SessionState) =
      (.ok (if Negotiation.isInitiator baseKey.publicKey message.baseKey then
          Negotiation.initiator message.version
            (exchangeKeys host.store.identity baseKey ratchetKey message).asInitiator
            host.trace.nextPair
        else Negotiation.responder message.version
          (exchangeKeys host.store.identity baseKey ratchetKey message).asResponder),
        { host with trace := { host.trace with
          drawn := host.trace.drawn + exchangeDraws baseKey message
          events } }) := by
  let keys := exchangeKeys host.store.identity baseKey ratchetKey message
  rw [Host.perform_drawing]
  unfold Negotiation.symmetric exchangeDraws
  by_cases role : Negotiation.isInitiator baseKey.publicKey message.baseKey = true
  · have ours : Negotiation.isInitiator keys.baseKey.publicKey keys.theirBaseKey = true := role
    rw [if_pos role, if_pos role, if_pos ours]
    exact ⟨_, rfl⟩
  · have ours : ¬ Negotiation.isInitiator keys.baseKey.publicKey keys.theirBaseKey = true := role
    rw [if_neg role, if_neg role, if_neg ours]
    exact ⟨_, rfl⟩

theorem answerKeys_eq_ok {record : SessionRecord} {baseKey ratchetKey : KeyPair} {flags : UInt32}
    (gives : host.perform (answerKeys address record) = (.ok (baseKey, ratchetKey, flags), after)) :
    ∃ drawn events, broughtPairs record host.trace = (baseKey, ratchetKey, drawn) ∧
      flags = answerFlags record ∧
      after = { host with trace := { host.trace with
        drawn := host.trace.drawn + drawn
        events } } := by
  unfold answerKeys at gives
  unfold broughtPairs answerFlags
  cases waiting : record.current.pendingExchange with
  | some pending =>
    rw [waiting] at gives
    cases gives
    exact ⟨0, _, rfl, rfl, rfl⟩
  | none =>
    rw [waiting] at gives
    cases gives
    exact ⟨2, _, rfl, rfl, rfl⟩

theorem processInitiate_eq_ok (permissive : host.Permissive)
    {message answer : KeyExchangeMessage} (opening : message.isInitiate = true)
    (gives : host.perform (processInitiate address limits message) = (.ok answer, after)) :
    ∃ store draws, Exchanged host address limits message (some answer) store draws ∧
      host.Becomes store draws after := by
  unfold processInitiate at gives
  obtain ⟨_, _, checked, rest⟩ := Host.perform_bind_eq_ok.mp gives
  obtain ⟨signed, rfl⟩ := Host.perform_except_eq_ok.mp checked
  rw [Host.perform_bind_of_ok (Host.perform_identityKeyPair permissive)] at rest
  obtain ⟨record, _, loaded, rest⟩ := Host.perform_bind_eq_ok.mp rest
  rw [Host.perform_loadSession permissive] at loaded
  obtain ⟨load, rfl⟩ := Prod.mk.inj loaded
  obtain ⟨⟨baseKey, ratchetKey, flags⟩, _, answered, rest⟩ := Host.perform_bind_eq_ok.mp rest
  obtain ⟨drawn, events, brought, rfl, rfl⟩ := answerKeys_eq_ok answered
  obtain ⟨later, negotiated⟩ := perform_symmetric
    { host with trace := { host.trace with drawn := host.trace.drawn + drawn, events } } message
    baseKey ratchetKey
  have rest := (Host.perform_bind_of_ok negotiated _).symm.trans rest
  have still : ({ host with trace := { host.trace with
    drawn := host.trace.drawn + drawn + exchangeDraws baseKey message
    events := later } } : Host).Permissive := permissive
  obtain ⟨last, concluded⟩ := perform_concludeExchange address limits
    still record (if Negotiation.isInitiator baseKey.publicKey message.baseKey then
          Negotiation.initiator message.version
            (exchangeKeys host.store.identity baseKey ratchetKey message).asInitiator
            (.drawnAt host.trace.entropy (host.trace.drawn + drawn))
        else Negotiation.responder message.version
          (exchangeKeys host.store.identity baseKey ratchetKey message).asResponder)
    message.identity
  cases (Host.perform_bind_of_ok concluded _).symm.trans rest
  refine ⟨_, _, .answered opening load brought signed, rfl, rfl, rfl, ?_⟩
  exact Nat.add_assoc ..

theorem processResponse_eq_ok (permissive : host.Permissive) {message : KeyExchangeMessage}
    (answering : message.isInitiate = false) (response : message.isResponse = true)
    (gives : host.perform (processResponse address limits message) = (.ok (), after)) :
    ∃ store draws, Exchanged host address limits message none store draws ∧
      host.Becomes store draws after := by
  unfold processResponse at gives
  obtain ⟨record, _, loaded, rest⟩ := Host.perform_bind_eq_ok.mp gives
  rw [Host.perform_loadSession permissive] at loaded
  obtain ⟨load, rfl⟩ := Prod.mk.inj loaded
  cases found : record.current.pendingExchange.filter fun pending =>
      pending.sequence = message.sequence with
  | none =>
    rw [found] at rest
    cases crossed : message.isSimultaneous with
    | true =>
      rw [crossed] at rest
      cases rest
      refine ⟨_, _, .passed answering load ?_ crossed, rfl, rfl, rfl, rfl⟩
      intro pending waiting same
      rw [waiting, Option.filter_some, if_pos (by simpa using same)] at found
      cases found
    | false =>
      rw [crossed] at rest
      cases rest
  | some pending =>
    rw [found] at rest
    obtain ⟨waiting, matching⟩ := Option.filter_eq_some_iff.mp found
    change host.perform (Host.identityKeyPair >>= _) = _ at rest
    rw [Host.perform_bind_of_ok (Host.perform_identityKeyPair permissive)] at rest
    obtain ⟨later, negotiated⟩ := perform_symmetric host message pending.baseKey
      pending.ratchetKey
    have rest := (Host.perform_bind_of_ok negotiated _).symm.trans rest
    obtain ⟨_, _, checked, rest⟩ := Host.perform_bind_eq_ok.mp rest
    obtain ⟨signed, rfl⟩ := Host.perform_except_eq_ok.mp checked
    have still : ({ host with trace := { host.trace with
      drawn := host.trace.drawn + exchangeDraws pending.baseKey message
      events := later } } : Host).Permissive := permissive
    obtain ⟨last, concluded⟩ := perform_concludeExchange address limits
      still record (if Negotiation.isInitiator pending.baseKey.publicKey message.baseKey then
          Negotiation.initiator message.version
            (exchangeKeys host.store.identity pending.baseKey pending.ratchetKey
              message).asInitiator host.trace.nextPair
        else Negotiation.responder message.version
          (exchangeKeys host.store.identity pending.baseKey pending.ratchetKey
            message).asResponder)
      message.identity
    cases (Host.perform_bind_of_ok concluded _).symm.trans rest
    have same : pending.sequence = message.sequence := by simpa using matching
    exact ⟨_, _, .completed answering load waiting same signed response, rfl, rfl, rfl, rfl⟩

/-- A leg of a key exchange that is taken comes from a trusted identity. -/
theorem processExchange_eq_ok (permissive : host.Permissive) {message : KeyExchangeMessage}
    {answer : Option KeyExchangeMessage}
    (gives : host.perform (processExchange address limits message) = (.ok answer, after)) :
    host.store.trusts address.name message.identity = true ∧
      ∃ store draws, Exchanged host address limits message answer store draws ∧
        host.Becomes store draws after := by
  unfold processExchange at gives
  obtain ⟨_, _, checked, rest⟩ := Host.perform_bind_eq_ok.mp gives
  obtain ⟨trusted, rfl⟩ := checkTrusted_eq_ok permissive checked
  refine ⟨trusted, ?_⟩
  split at rest
  · next opening =>
    obtain ⟨_, _, processed, returned⟩ := Host.perform_bind_eq_ok.mp rest
    cases returned
    exact processInitiate_eq_ok permissive opening processed
  · next answering =>
    split at rest
    · next response =>
      obtain ⟨_, _, processed, returned⟩ := Host.perform_bind_eq_ok.mp rest
      cases returned
      exact processResponse_eq_ok permissive (Bool.eq_false_iff.mpr answering) response processed
    · cases rest

/-- A signed opening leg from a trusted identity is answered. -/
theorem perform_processExchange (permissive : host.Permissive) {message : KeyExchangeMessage}
    {record : SessionRecord} (trusted : host.store.trusts address.name message.identity = true)
    (opening : message.isInitiate = true) (signed : checkSigned message = .ok ())
    (load : host.store.loadSession address = .ok record) :
    ∃ answer after, host.perform (processExchange address limits message) =
      (.ok answer, after) := by
  have loaded := Host.perform_loadSession permissive address
  rw [load] at loaded
  have answered : ∃ answer after,
      host.perform (processInitiate address limits message) = (.ok answer, after) := by
    unfold processInitiate
    rw [signed, Host.perform_bind_of_ok (Host.perform_except _ _),
      Host.perform_bind_of_ok (Host.perform_identityKeyPair permissive),
      Host.perform_bind_of_ok loaded]
    apply Host.Sure.gives _ permissive
    apply (sure_answerKeys _ _).bind
    intro keys
    apply (Host.sure_drawing _).bind
    intro negotiated
    exact (sure_concludeExchange _ _ _ _ _).bind fun _ => Host.sure_pure _
  obtain ⟨answer, after, gives⟩ := answered
  refine ⟨some answer, after, ?_⟩
  unfold processExchange
  rw [Host.perform_bind_of_ok (perform_checkTrusted permissive trusted), if_pos opening,
    Host.perform_bind_of_ok gives]
  rfl

variable (limits) in
/-- A signed answer to the pending exchange, from a trusted identity, completes it. -/
theorem perform_completing (permissive : host.Permissive) {message : KeyExchangeMessage}
    {record : SessionRecord} {pending : PendingExchange}
    (trusted : host.store.trusts address.name message.identity = true)
    (answering : message.isInitiate = false) (response : message.isResponse = true)
    (signed : checkSigned message = .ok ()) (load : host.store.loadSession address = .ok record)
    (waiting : record.current.pendingExchange = some pending)
    (matching : pending.sequence = message.sequence) :
    ∃ after, host.perform (processExchange address limits message) = (.ok none, after) := by
  have loaded := Host.perform_loadSession permissive address
  rw [load] at loaded
  have found : (record.current.pendingExchange.filter fun pending =>
      pending.sequence = message.sequence) = some pending :=
    Option.filter_eq_some_iff.mpr ⟨waiting, by simpa using matching⟩
  have completed : ∃ after,
      host.perform (processResponse address limits message) = (.ok (), after) := by
    unfold processResponse
    rw [Host.perform_bind_of_ok loaded, found]
    dsimp only
    rw [Host.perform_bind_of_ok (Host.perform_identityKeyPair permissive)]
    obtain ⟨value, after, gives⟩ := Host.Sure.gives ((Host.sure_drawing
      (Negotiation.symmetric message.version (exchangeKeys host.store.identity pending.baseKey
        pending.ratchetKey message))).bind fun negotiated =>
      (sure_concludeExchange address limits record negotiated message.identity).bind fun _ =>
        Host.sure_drawing (Trace.report (.exchangeCompleted message.sequence address))) permissive
    refine ⟨after, ?_⟩
    rw [signed]
    exact gives
  obtain ⟨after, gives⟩ := completed
  refine ⟨after, ?_⟩
  unfold processExchange
  rw [Host.perform_bind_of_ok (perform_checkTrusted permissive trusted), answering, response]
  change host.perform (processResponse address limits message >>= fun _ => pure none) = _
  rw [Host.perform_bind_of_ok gives]
  rfl

/-- What an answer gives that answers no pending exchange. -/
def refusal (store : Store) (address : Address) (message : KeyExchangeMessage) :
    Except Fault (Option KeyExchangeMessage) :=
  if store.trusts address.name message.identity then
    if message.isSimultaneous then .ok none else .error (.staleExchange message.sequence)
  else .error (.untrusted address.name message.identity)

variable (limits) in
/-- An answer that answers no pending exchange leaves the store alone. -/
theorem perform_unmatched (permissive : host.Permissive) {message : KeyExchangeMessage}
    {record : SessionRecord} (answering : message.isInitiate = false)
    (response : message.isResponse = true) (load : host.store.loadSession address = .ok record)
    (unmatched : ∀ pending, record.current.pendingExchange = some pending →
      pending.sequence ≠ message.sequence) :
    ∃ after, host.perform (processExchange address limits message) =
        (refusal host.store address message, after) ∧ host.Becomes host.store 0 after := by
  have loaded := Host.perform_loadSession permissive address
  rw [load] at loaded
  have missing : (record.current.pendingExchange.filter fun pending =>
      pending.sequence = message.sequence) = none := by
    rw [Option.filter_eq_none_iff]
    intro pending waiting
    simpa using unmatched pending waiting
  unfold refusal
  cases trusted : host.store.trusts address.name message.identity with
  | false =>
    have refused : host.perform (checkTrusted address message.identity) =
        (.error (.untrusted address.name message.identity), { host with trace := { host.trace with
          events := host.trace.events ++ [.untrustedIdentity message.identity address] } }) := by
      unfold checkTrusted
      rw [Host.perform_bind_of_ok (Host.perform_isTrustedIdentity permissive _ _), trusted]
      rfl
    unfold processExchange
    rw [Host.perform_bind_of_error refused]
    exact ⟨_, rfl, rfl, rfl, rfl, rfl⟩
  | true =>
    unfold processExchange
    rw [Host.perform_bind_of_ok (perform_checkTrusted permissive trusted), answering, response]
    change ∃ after, host.perform (processResponse address limits message >>= fun _ => pure none) =
      _ ∧ _
    cases crossed : message.isSimultaneous with
    | true =>
      have passed : host.perform (processResponse address limits message) =
          (.ok (), { host with trace := { host.trace with
            events := host.trace.events ++ [.responseIgnored message.sequence] } }) := by
        unfold processResponse
        rw [Host.perform_bind_of_ok loaded, missing]
        dsimp only
        rw [crossed]
        rfl
      rw [Host.perform_bind_of_ok passed]
      exact ⟨_, rfl, rfl, rfl, rfl, rfl⟩
    | false =>
      have stale : host.perform (processResponse address limits message) =
          (.error (.staleExchange message.sequence), { host with trace := { host.trace with
            events := host.trace.events ++ [.responseStale message.sequence address] } }) := by
        unfold processResponse
        rw [Host.perform_bind_of_ok loaded, missing]
        dsimp only
        rw [crossed]
        rfl
      rw [Host.perform_bind_of_error stale]
      exact ⟨_, rfl, rfl, rfl, rfl, rfl⟩

end Establishment

/-- Ending a session forgets the records of the name. -/
theorem Transport.endSession_eq_ok {host after : Host} {address : Address}
    (permissive : host.Permissive)
    (gives : host.perform (endSession address) = (.ok (), after)) :
    host.Becomes (host.store.deleteSessions address.name) 0 after := by
  unfold endSession Host.deleteSessions at gives
  rw [Host.perform_bind_of_ok (Host.perform_change permissive _ _)] at gives
  cases gives
  exact ⟨rfl, rfl, rfl, rfl⟩

end DoubleRatchet
