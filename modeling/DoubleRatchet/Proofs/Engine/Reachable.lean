import DoubleRatchet.Proofs.Engine.Outcome
import DoubleRatchet.Proofs.Engine.Sessions
import DoubleRatchet.Proofs.Session.Replay

namespace DoubleRatchet

/-!
# Stores that the library can lead to

A store is reachable under some limits if it comes from one without sessions by
operations under these limits, by what a host does to its store on its own, and by
putting back a record that some reachable store gave out.  The host of an operation
is arbitrary apart from its store, and an operation that fails counts as well.

Two things hold of every record in such a store.  Its states are states of the
library, so their receiver chains are in order.  And the archive is within its
bound and an unestablished current state was made by no handshake, so that no
message makes a record forget a base key that it knows.
-/

/-- What a host does to its store without the engine. -/
inductive Chore where
  | saveIdentity (name : String) (identity : IdentityKey)
  | storePreKey (id : UInt32) (key : PreKey)
  | removePreKey (id : UInt32)
  | storeSignedPreKey (id : UInt32) (key : SignedPreKey)
  | removeSignedPreKey (id : UInt32)
  | deleteSession (address : Address)
  | deleteSessions (name : String)

namespace Chore

/-- The store after a chore. -/
def apply (store : Store) : Chore -> Store
  | saveIdentity name identity => store.pin name identity
  | storePreKey id key => store.storePreKey id key
  | removePreKey id => store.removePreKey id
  | storeSignedPreKey id key => store.storeSignedPreKey id key
  | removeSignedPreKey id => store.removeSignedPreKey id
  | deleteSession address => store.deleteSession address
  | deleteSessions name => store.deleteSessions name

/-- After a chore a record is as it was, or new. -/
theorem loadSession_apply (store : Store) (chore : Chore) (address : Address) :
    (chore.apply store).loadSession address = store.loadSession address ∨
      (chore.apply store).loadSession address = .ok .new := by
  cases chore with
  | saveIdentity => exact .inl rfl
  | storePreKey => exact .inl rfl
  | removePreKey => exact .inl rfl
  | storeSignedPreKey => exact .inl rfl
  | removeSignedPreKey => exact .inl rfl
  | deleteSession other =>
    by_cases same : address = other
    · subst same
      exact .inr (Store.loadSession_deleteSession_self store address)
    · exact .inl (Store.loadSession_deleteSession_of_ne same)
  | deleteSessions name =>
    have loaded := Store.loadSession_deleteSessions store name address
    by_cases same : address.name = name
    · rw [if_pos same] at loaded
      exact .inr loaded
    · rw [if_neg same] at loaded
      exact .inl loaded

end Chore

/-- A sealed message that the envelope holds is not on the last counter. -/
def Envelope.BelowLast (envelope : Envelope) : Prop :=
  ∀ message, envelope.sealed? = some message → message.counter < lastCounter

/-- The operation is one under the given limits, and takes no message on the last counter. -/
def Operation.Under (limits : Limits) : Operation -> Prop
  | processBundle _ chosen _ => chosen = limits
  | initiate _ => True
  | processExchange _ chosen _ => chosen = limits
  | encrypt _ _ => True
  | decrypt _ chosen _ message => chosen = limits ∧ message.BelowLast
  | endSession _ => True

/-- The stores that the library can lead to under some limits. -/
inductive Store.Reachable [Suite] (limits : Limits) : Store -> Prop where
  | bare {store : Store} (empty : store.sessions = .empty) : Reachable limits store
  | operated {host after : Host} {operation : Operation} {result : Except Fault Reply}
      (before : Reachable limits host.store) (permissive : host.Permissive)
      (under : operation.Under limits)
      (performed : host.perform operation.run = (result, after)) : Reachable limits after.store
  | tended {store : Store} (before : Reachable limits store) (chore : Chore) :
      Reachable limits (chore.apply store)
  | restored {store other : Store} {address source : Address} {record : SessionRecord}
      (before : Reachable limits store) (earlier : Reachable limits other)
      (load : other.loadSession source = .ok record) :
      Reachable limits (store.storeSession address record)

/-- What holds of every record in a reachable store. -/
structure SessionRecord.Guarded [Suite] (limits : Limits) (record : SessionRecord) : Prop where
  produced : ∀ state ∈ record.states, state.Produced
  bounded : record.previous.length ≤ limits.archivedStates
  unclaimed : record.current.established = false → record.current.initiatorBaseKey = none

namespace SessionRecord

variable [Suite] {limits : Limits} {record : SessionRecord} {state : SessionState}

theorem guarded_new (limits : Limits) : new.Guarded limits where
  produced := by
    intro state member
    rw [List.mem_singleton.mp member]
    exact .empty
  bounded := Nat.zero_le _
  unclaimed := fun _ => rfl

theorem Guarded.settled (guarded : record.Guarded limits) : record.settled.Guarded limits :=
  ⟨guarded.produced, guarded.bounded, guarded.unclaimed⟩

omit [Suite] in
theorem mem_states_removePrevious {place : Nat} {other : SessionState}
    (member : other ∈ (record.removePrevious place).states) : other ∈ record.states := by
  rcases List.mem_cons.mp member with here | archived
  · rw [here]
    exact List.mem_cons_self
  · exact List.mem_cons_of_mem _ (List.mem_of_mem_eraseIdx archived)

/-- An established state may be put in front of a guarded record. -/
theorem Guarded.promote (guarded : record.Guarded limits) (produced : state.Produced)
    (established : state.established = true) :
    (record.promote state limits.archivedStates).Guarded limits where
  produced := by
    intro other member
    rcases mem_states_promote member with rfl | before
    · exact produced
    · exact guarded.produced other before
  bounded := length_previous_promote_le guarded.bounded state
  unclaimed := by
    intro absent
    rw [show (record.promote state limits.archivedStates).current = state from rfl,
      established] at absent
    cases absent

theorem Guarded.removePrevious (guarded : record.Guarded limits) (place : Nat) :
    (record.removePrevious place).Guarded limits where
  produced := fun other member => guarded.produced other (mem_states_removePrevious member)
  bounded := Nat.le_trans (List.length_eraseIdx_le ..) guarded.bounded
  unclaimed := guarded.unclaimed

/-- The current state of a guarded record may change as the library changes states. -/
theorem Guarded.replace (guarded : record.Guarded limits) (produced : state.Produced)
    (unclaimed : state.established = false → state.initiatorBaseKey = none) :
    ({ record with current := state } : SessionRecord).Guarded limits where
  produced := by
    intro other member
    rcases List.mem_cons.mp member with rfl | archived
    · exact produced
    · exact guarded.produced other (List.mem_cons_of_mem _ archived)
  bounded := guarded.bounded
  unclaimed := unclaimed

theorem produced_of_takes {trace : Trace} {message : WhisperMessage} {text : Bytes}
    {taken : SessionState} (produced : state.Produced) (notLast : message.counter < lastCounter)
    (takes : state.Takes limits trace.nextPair message text taken) :
    taken.Produced ∧ taken.established = true := by
  obtain ⟨_, gives, _⟩ := (SessionState.openMessage_eq_ok default).mpr takes
  exact ⟨.stepped produced (.opened notLast gives),
    (produced.orderly.takes notLast takes).2.2.2.1⟩

/-- A record that has opened a message is guarded again. -/
theorem Guarded.opened {trace : Trace} {message : WhisperMessage} {text : Bytes} {draws : Nat}
    {result : SessionRecord} (guarded : record.Guarded limits)
    (notLast : message.counter < lastCounter)
    (opened : record.Opened limits trace.nextPair message text draws result) :
    result.Guarded limits := by
  cases opened with
  | current takes =>
    have taken := produced_of_takes (guarded.produced _ List.mem_cons_self) notLast takes
    apply guarded.replace taken.1
    intro absent
    rw [taken.2] at absent
    cases absent
  | archived found takes =>
    have member := List.mem_cons_of_mem record.current (List.mem_of_getElem? found)
    have taken := produced_of_takes (guarded.produced _ member) notLast takes
    exact (guarded.removePrevious _).promote taken.1 taken.2

/-- Opening keeps what a handshake has left in a state. -/
theorem takes_keeps {ours : KeyPair} {message : WhisperMessage} {text : Bytes}
    {taken : SessionState} (takes : state.Takes limits ours message text taken) :
    taken.version = state.version ∧ taken.initiatorBaseKey = state.initiatorBaseKey := by
  obtain ⟨chained, chain, served, _, _, opens, rfl⟩ := takes
  cases opens.reached with
  | known present => exact ⟨rfl, rfl⟩
  | stepped root sender absent rooted sending => exact ⟨rfl, rfl⟩

/-- A guarded record forgets no base key when it opens a message. -/
theorem Guarded.hasSession_opened {trace : Trace} {message : WhisperMessage} {text : Bytes}
    {draws : Nat} {result : SessionRecord} {version : UInt8} {baseKey : PublicKey}
    (guarded : record.Guarded limits)
    (opened : record.Opened limits trace.nextPair message text draws result)
    (known : record.hasSession version baseKey = true) :
    result.hasSession version baseKey = true := by
  unfold hasSession at known ⊢
  rw [List.any_eq_true] at known ⊢
  obtain ⟨holder, member, holds⟩ := known
  have standing : holder = record.current → record.previous ≠ [] →
      record.current.established = true := by
    rintro rfl _
    cases present : record.current.established with
    | true => rfl
    | false =>
      rw [guarded.unclaimed present] at holds
      simp at holds
  rcases opened.survives guarded.bounded member standing with stays | ⟨taken, inside, takes⟩
  · exact ⟨holder, stays, holds⟩
  · obtain ⟨version_eq, base_eq⟩ := takes_keeps takes
    refine ⟨taken, inside, ?_⟩
    rw [version_eq, base_eq]
    exact holds

end SessionRecord

namespace Store

variable [Suite] {limits : Limits} {store : Store}

/-- Every record that the store gives out is guarded. -/
def Guarded (limits : Limits) (store : Store) : Prop :=
  ∀ (address : Address) (record : SessionRecord),
    store.loadSession address = .ok record → record.Guarded limits

theorem Guarded.storeSession {address : Address} {record : SessionRecord}
    (guarded : store.Guarded limits) (kept : record.Guarded limits) :
    (store.storeSession address record).Guarded limits := by
  intro other found load
  by_cases same : other = address
  · subst same
    rw [loadSession_storeSession_self] at load
    cases load
    exact kept.settled
  · rw [loadSession_storeSession_of_ne same] at load
    exact guarded other found load

theorem Guarded.deleteSessions (guarded : store.Guarded limits) (name : String) :
    (store.deleteSessions name).Guarded limits := by
  intro address record load
  rw [loadSession_deleteSessions] at load
  split at load
  · cases load
    exact SessionRecord.guarded_new limits
  · exact guarded address record load

/-- Pins and pre-keys are no part of what is guarded. -/
theorem Guarded.of_sessions_eq {other : Store} (guarded : store.Guarded limits)
    (same : other.sessions = store.sessions) : other.Guarded limits := by
  intro address record load
  apply guarded address record
  unfold loadSession at load ⊢
  rw [← same]
  exact load

omit [Suite] in
theorem sessions_settle (store : Store) (name : String) (identity : IdentityKey)
    (used : Option UInt32) :
    (Transport.settle store name identity used).sessions = store.sessions := by
  cases used with
  | none => rfl
  | some id => rfl

variable {host after : Host}

theorem produced_exchangeState (store : Store) (message : KeyExchangeMessage)
    (baseKey ratchetKey fresh : KeyPair) :
    (Establishment.exchangeState store message baseKey ratchetKey fresh).Produced ∧
      (Establishment.exchangeState store message baseKey ratchetKey fresh).established = true := by
  unfold Establishment.exchangeState
  dsimp only
  split
  · exact ⟨.announced (.initiator ..) none 0 store.registrationId none, rfl⟩
  · exact ⟨.announced (.responder ..) none 0 store.registrationId none, rfl⟩

theorem produced_responderState (store : Store) (message : PreKeyWhisperMessage)
    (signedPreKey : KeyPair) (oneTimePreKey : Option KeyPair) :
    (Establishment.responderState store message signedPreKey oneTimePreKey).Produced ∧
      (Establishment.responderState store message signedPreKey
        oneTimePreKey).established = true :=
  ⟨.announced (.responder ..) none message.registrationId store.registrationId
    (some message.baseKey), rfl⟩

theorem produced_bundleState (store : Store) (bundle : Bundle) (offer : Establishment.Offer)
    (baseKey ratchetKey : KeyPair) :
    (Establishment.bundleState store bundle offer baseKey ratchetKey).Produced ∧
      (Establishment.bundleState store bundle offer baseKey ratchetKey).established = true :=
  ⟨.announced (.initiator ..) _ bundle.registrationId store.registrationId
    (some baseKey.publicKey), rfl⟩

/-- A record that a handshake was taken for is guarded again. -/
theorem guarded_accepted {address : Address} {record accepted : SessionRecord}
    {message : PreKeyWhisperMessage} {used : Option UInt32} (guarded : record.Guarded limits)
    (accepts : Establishment.Accepted store address limits record message accepted used) :
    accepted.Guarded limits := by
  cases accepts with
  | negotiated => exact guarded
  | signed =>
    apply guarded.promote
    · exact (produced_responderState store message _ _).1
    · exact (produced_responderState store message _ _).2
  | gone => exact guarded
  | unsigned =>
    apply guarded.promote
    · exact (produced_responderState store message _ _).1
    · exact (produced_responderState store message _ _).2

theorem guarded_exchanged {address : Address} {message : KeyExchangeMessage}
    {answer : Option KeyExchangeMessage} {result : Store} {draws : Nat}
    (guarded : host.store.Guarded limits)
    (exchanged : Establishment.Exchanged host address limits message answer result draws) :
    result.Guarded limits := by
  have pinned : (host.store.pin address.name message.identity).Guarded limits :=
    guarded.of_sessions_eq rfl
  cases exchanged with
  | answered opening load brought =>
    apply pinned.storeSession
    apply (guarded _ _ load).promote
    · exact (produced_exchangeState host.store message _ _ _).1
    · exact (produced_exchangeState host.store message _ _ _).2
  | completed answering load waiting matching =>
    apply pinned.storeSession
    apply (guarded _ _ load).promote
    · exact (produced_exchangeState host.store message _ _ _).1
    · exact (produced_exchangeState host.store message _ _ _).2
  | passed => exact guarded

/-- An operation keeps the records of a store guarded. -/
theorem Guarded.operated {operation : Operation} {result : Except Fault Reply}
    (guarded : host.store.Guarded limits) (permissive : host.Permissive)
    (under : operation.Under limits)
    (performed : host.perform operation.run = (result, after)) : after.store.Guarded limits := by
  cases result with
  | error fault =>
    rw [(Operation.untouched_of_failed permissive performed).store_eq]
    exact guarded
  | ok reply =>
    cases Operation.done_of_performed permissive performed with
    | @processBundle address _ bundle offer record trusted offered load becomes =>
      cases under
      rw [becomes.store_eq]
      have made := produced_bundleState host.store bundle offer host.trace.nextPair
        (.drawnAt host.trace.entropy (host.trace.drawn + 1))
      have pinned : (host.store.pin address.name bundle.identity).Guarded limits :=
        guarded.of_sessions_eq rfl
      exact pinned.storeSession ((guarded _ _ load).promote made.1 made.2)
    | initiate load becomes =>
      rw [becomes.store_eq]
      have kept := guarded _ _ load
      exact guarded.storeSession (kept.replace
        (.awaiting (kept.produced _ List.mem_cons_self) _) kept.unclaimed)
    | processExchange trusted exchanged becomes =>
      cases under
      rw [becomes.store_eq]
      exact guarded_exchanged guarded exchanged
    | encrypt load sending sealing becomes =>
      rw [becomes.store_eq]
      have kept := guarded _ _ load
      apply guarded.storeSession
      apply kept.replace
      · exact .stepped (kept.produced _ List.mem_cons_self) (.sealed sending sealing)
      · intro absent
        obtain ⟨_, _, _, _, _, _, _, rfl⟩ := SessionState.sealText_eq_ok sealing
        cases absent
    | whisper load before opened known trusted becomes =>
      obtain ⟨rfl, notLast⟩ := under
      rw [becomes.store_eq]
      exact guarded.storeSession ((guarded _ _ load).opened (notLast _ rfl) opened)
    | preKeyWhisper load sender accepts before opened known trusted becomes =>
      obtain ⟨rfl, notLast⟩ := under
      rw [becomes.store_eq]
      apply Guarded.storeSession
      · exact guarded.of_sessions_eq (sessions_settle ..)
      · exact (guarded_accepted (guarded _ _ load) accepts).opened (notLast _ rfl) opened
    | endSession becomes =>
      rw [becomes.store_eq]
      exact guarded.deleteSessions _

/-- Every record in a reachable store is guarded. -/
theorem Reachable.guarded (reachable : Reachable limits store) : store.Guarded limits := by
  induction reachable with
  | bare empty =>
    intro address record load
    unfold loadSession at load
    rw [empty, Table.get?_empty] at load
    cases load
    exact SessionRecord.guarded_new limits
  | operated before permissive under performed ih =>
    exact ih.operated permissive under performed
  | tended before chore ih =>
    intro address record load
    rcases Chore.loadSession_apply _ chore address with same | fresh
    · rw [same] at load
      exact ih address record load
    · rw [fresh] at load
      cases load
      exact SessionRecord.guarded_new limits
  | restored before earlier load ih first => exact ih.storeSession (first _ _ load)

end Store
end DoubleRatchet
