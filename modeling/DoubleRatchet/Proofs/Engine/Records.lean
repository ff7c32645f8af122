import Mathlib.Logic.Relation
import DoubleRatchet.Proofs.Engine.History
import DoubleRatchet.Proofs.Session.Soundness

namespace DoubleRatchet

/-!
# What becomes of a record

A request changes at most one record, and it does so in steps of few kinds: a state that
was just negotiated is put in front, an exchange is left pending in the current state, the
current state seals a text, or some state opens a message.  A first message makes two of
these steps, the handshake and the opening.

An invariant of records is therefore shown for one step of each kind.  What a negotiation
gives is described by what is there and what is empty, and not by its keys.
-/

namespace SessionState

/-- What a negotiation under a version leaves behind. -/
structure Negotiated (version : UInt8) (state : SessionState) : Prop where
  version_eq : state.storedVersion = version
  established : state.established = true
  rooted : state.rootKey.isSome = true
  ours : state.localIdentity.isSome = true
  theirs : state.remoteIdentity.isSome = true
  single : state.receivers.length ≤ 1
  unused : ∀ chain ∈ state.receivers, chain.skipped = .empty

variable [Suite]

theorem negotiated_initiator (version : UInt8) (keys : Negotiation.InitiatorKeys)
    (ratchetKey : KeyPair) :
    (Negotiation.initiator version keys ratchetKey).Negotiated version where
  version_eq := rfl
  established := rfl
  rooted := rfl
  ours := rfl
  theirs := rfl
  single := Nat.le_refl 1
  unused := by
    intro chain member
    rw [List.mem_singleton.mp member]

theorem negotiated_responder (version : UInt8) (keys : Negotiation.ResponderKeys) :
    (Negotiation.responder version keys).Negotiated version where
  version_eq := rfl
  established := rfl
  rooted := rfl
  ours := rfl
  theirs := rfl
  single := Nat.zero_le 1
  unused := fun _ member => nomatch member

omit [Suite] in
/-- What is announced with a handshake is no part of the negotiation. -/
theorem Negotiated.announced {version : UInt8} {state : SessionState}
    (negotiated : state.Negotiated version) (pendingPreKey : Option PendingPreKey)
    (remoteRegistrationId localRegistrationId : UInt32) (initiatorBaseKey : Option PublicKey) :
    ({ state with pendingPreKey, remoteRegistrationId, localRegistrationId, initiatorBaseKey } :
      SessionState).Negotiated version :=
  ⟨negotiated.version_eq, negotiated.established, negotiated.rooted, negotiated.ours,
    negotiated.theirs, negotiated.single, negotiated.unused⟩

theorem negotiated_bundleState (store : Store) (bundle : Bundle) (offer : Establishment.Offer)
    (baseKey ratchetKey : KeyPair) :
    (Establishment.bundleState store bundle offer baseKey ratchetKey).Negotiated offer.version :=
  (negotiated_initiator _ _ _).announced _ _ _ _

theorem negotiated_exchangeState (store : Store) (message : KeyExchangeMessage)
    (baseKey ratchetKey fresh : KeyPair) :
    (Establishment.exchangeState store message baseKey ratchetKey fresh).Negotiated
      message.version := by
  simp only [Establishment.exchangeState]
  split
  · exact (negotiated_initiator _ _ _).announced _ _ _ _
  · exact (negotiated_responder _ _).announced _ _ _ _

end SessionState

variable [Suite]

/-- One step in the life of a record, under some limits.  Negotiations are of the given
versions. -/
inductive SessionRecord.Changed (limits : Limits) (versions : UInt8 -> Prop)
    (record : SessionRecord) : SessionRecord -> Prop where
  | negotiated {version : UInt8} {state : SessionState} (spoken : versions version)
      (negotiated : state.Negotiated version) :
      Changed limits versions record (record.promote state limits.archivedStates)
  | awaiting (pending : PendingExchange) :
      Changed limits versions record
        { record with current := { record.current with pendingExchange := some pending } }
  | sealed {sender : SenderChain} {text : Bytes} {envelope : Envelope} {state : SessionState}
      (sending : record.current.sender = some sender)
      (sealing : record.current.sealText sender text = .ok (envelope, state)) :
      Changed limits versions record { record with current := state }
  | opened {ours : KeyPair} {message : WhisperMessage} {text : Bytes} {draws : Nat}
      {result : SessionRecord} (opened : record.Opened limits ours message text draws result) :
      Changed limits versions record result
  | settled : Changed limits versions record record.settled

namespace Operation

variable {host after : Host} {limits : Limits} {operation : Operation} {reply : Reply}

omit [Suite] in
/-- The operation is one under the given limits. -/
def Limited (limits : Limits) : Operation -> Prop
  | processBundle _ chosen _ => chosen = limits
  | processExchange _ chosen _ => chosen = limits
  | decrypt _ chosen _ _ => chosen = limits
  | _ => True

omit [Suite] in
theorem Under.limited (under : operation.Under limits) : operation.Limited limits := by
  cases operation with
  | processBundle => exact under
  | initiate => trivial
  | processExchange => exact under
  | encrypt => trivial
  | decrypt => exact under.1
  | endSession => trivial

omit [Suite] in
/-- The versions of what the operation may negotiate.  A key exchange is negotiated in the
version of its message, whichever that is. -/
def Speaks : Operation -> UInt8 -> Prop
  | processExchange _ _ message => fun version => version = message.version
  | _ => Message.Spoken

/-- What a store may hold after a request: new records, and the old ones after some steps. -/
def Leads (operation : Operation) (limits : Limits) (store after : Store) : Prop :=
  ∀ (address : Address) (found : SessionRecord), after.loadSession address = .ok found →
    found = .new ∨ ∃ record, store.loadSession address = .ok record ∧
      Relation.ReflTransGen (SessionRecord.Changed limits operation.Speaks) record found

theorem leads_of_sessions_eq {store : Store} (same : after.store.sessions = store.sessions) :
    operation.Leads limits store after.store := by
  intro address found load
  rw [Store.loadSession_of_sessions_eq same] at load
  exact .inr ⟨found, load, .refl⟩

/-- A record that was stored after some steps. -/
theorem leads_of_stored {store other : Store} {address : Address} {record result : SessionRecord}
    (load : store.loadSession address = .ok record)
    (steps : Relation.ReflTransGen (SessionRecord.Changed limits operation.Speaks) record result)
    (stored : other.sessions = (store.storeSession address result).sessions) :
    operation.Leads limits store other := by
  intro place found loaded
  rcases Store.loadSession_of_stored stored loaded with ⟨rfl, rfl⟩ | ⟨_, same⟩
  · exact .inr ⟨record, load, steps.tail .settled⟩
  · exact .inr ⟨found, same, .refl⟩

/-- A record with a negotiated state in front. -/
theorem leads_of_negotiated {store other : Store} {address : Address} {record : SessionRecord}
    {state : SessionState} {version : UInt8} (load : store.loadSession address = .ok record)
    (negotiated : state.Negotiated version) (spoken : operation.Speaks version)
    (stored : other.sessions =
      (store.storeSession address (record.promote state limits.archivedStates)).sessions) :
    operation.Leads limits store other :=
  leads_of_stored load (.single (.negotiated spoken negotiated)) stored

theorem spoken_of_offer {bundle : Bundle} {offer : Establishment.Offer}
    (offered : Establishment.Offer.ofBundle bundle = .ok offer) :
    Message.Spoken offer.version := by
  simp only [Establishment.Offer.ofBundle] at offered
  split at offered
  · split at offered
    · cases offered
      exact .inr rfl
    · cases offered
  · cases offered
    exact .inl rfl
  · cases offered

/-- The handshake of a first message is at most one negotiation. -/
theorem steps_of_accepted {store : Store} {address : Address} {record accepted : SessionRecord}
    {message : PreKeyWhisperMessage} {used : Option UInt32}
    (accepts : Establishment.Accepted store address limits record message accepted used) :
    Relation.ReflTransGen (SessionRecord.Changed limits Message.Spoken) record accepted := by
  have made : ∀ (signedPreKey : KeyPair) (oneTimePreKey : Option KeyPair),
      Message.Spoken message.version → Relation.ReflTransGen
        (SessionRecord.Changed limits Message.Spoken) record (record.promote
          (Establishment.responderState store message signedPreKey oneTimePreKey)
          limits.archivedStates) := by
    intro signedPreKey oneTimePreKey spoken
    exact .single (.negotiated spoken ((SessionState.negotiated_responder _ _).announced _ _ _ _))
  cases accepts with
  | negotiated => exact .refl
  | signed version_eq => exact made _ _ (.inr version_eq)
  | gone => exact .refl
  | unsigned version_eq => exact made _ _ (.inl version_eq)

/-- A request that succeeds takes each record some steps further, or forgets it. -/
theorem Done.leads (done : operation.Done host after reply) (limited : operation.Limited limits) :
    operation.Leads limits host.store after.store := by
  cases done with
  | processBundle trusted offered load becomes =>
    cases limited
    have stored := congrArg Store.sessions becomes.store_eq
    exact leads_of_negotiated load (SessionState.negotiated_bundleState _ _ _ _ _)
      (spoken_of_offer offered) stored
  | initiate load becomes =>
    apply leads_of_stored load (.single (.awaiting _))
    rw [becomes.store_eq]
  | processExchange trusted exchanged becomes =>
    cases limited
    cases exchanged with
    | answered opening load brought signed =>
      have stored := congrArg Store.sessions becomes.store_eq
      exact leads_of_negotiated load (SessionState.negotiated_exchangeState _ _ _ _ _) rfl stored
    | completed answering load waiting matching signed response =>
      have stored := congrArg Store.sessions becomes.store_eq
      exact leads_of_negotiated load (SessionState.negotiated_exchangeState _ _ _ _ _) rfl stored
    | passed =>
      apply leads_of_sessions_eq
      rw [becomes.store_eq]
  | encrypt load sending sealing becomes =>
    apply leads_of_stored load (.single (.sealed sending sealing))
    rw [becomes.store_eq]
  | whisper load before opened known trusted becomes =>
    cases limited
    apply leads_of_stored load (.single (.opened opened))
    rw [becomes.store_eq]
  | @preKeyWhisper address _ _ message _ record accepted result used _ _ _ _ load sender accepts
      before opened known trusted becomes =>
    cases limited
    apply leads_of_stored load ((steps_of_accepted accepts).tail (.opened opened))
    rw [becomes.store_eq]
    simp only [Store.storeSession,
      Store.sessions_settle host.store address.name message.identity used]
  | endSession becomes =>
    intro place found load
    rw [becomes.store_eq, Store.loadSession_deleteSessions] at load
    split at load
    · cases load
      exact .inl rfl
    · exact .inr ⟨found, load, .refl⟩

end Operation

/-! ## Invariants of records -/

/-- A property that new records have and that no step takes away. -/
structure SessionRecord.Invariant (limits : Limits) (versions : UInt8 -> Prop)
    (holds : SessionRecord -> Prop) : Prop where
  new : holds .new
  step : ∀ {record result : SessionRecord}, record.Changed limits versions result →
    holds record → holds result

omit [Suite] in
/-- Every record that the store gives out has a property. -/
def Store.Every (holds : SessionRecord -> Prop) (store : Store) : Prop :=
  ∀ (address : Address) (record : SessionRecord), store.loadSession address = .ok record →
    holds record

section Invariants

variable {limits : Limits} {versions : UInt8 -> Prop} {holds : SessionRecord -> Prop}

theorem SessionRecord.Invariant.steps {record result : SessionRecord}
    (invariant : SessionRecord.Invariant limits versions holds)
    (steps : Relation.ReflTransGen (SessionRecord.Changed limits versions) record result)
    (before : holds record) : holds result := by
  induction steps with
  | refl => exact before
  | tail _ step ih => exact invariant.step step ih

omit [Suite] in
theorem Store.every_of_empty {store : Store} (new : holds .new) (empty : store.sessions = .empty) :
    store.Every holds := by
  intro address record load
  rw [loadSession_of_empty empty] at load
  cases load
  exact new

omit [Suite] in
/-- What a host does on its own only forgets records. -/
theorem Store.Every.tended {store : Store} (every : store.Every holds) (new : holds .new)
    (chore : Chore) : (chore.apply store).Every holds := by
  intro address record load
  rcases Chore.loadSession_apply store chore address with same | fresh
  · rw [same] at load
    exact every address record load
  · rw [fresh] at load
    cases load
    exact new

theorem Store.Every.asked {host : Host} {operation : Operation} (every : host.store.Every holds)
    (permissive : host.Permissive) (limited : operation.Limited limits)
    (invariant : SessionRecord.Invariant limits operation.Speaks holds) :
    (host.act (.asks operation)).store.Every holds := by
  rcases Host.act_asks_cases permissive operation with untouched | ⟨reply, done⟩
  · rw [untouched.store_eq]
    exact every
  · intro address record load
    rcases done.leads limited address record load with rfl | ⟨before, found, steps⟩
    · exact invariant.new
    · exact invariant.steps steps (every address before found)

/-- An invariant that does not ask for versions holds in every reachable store. -/
theorem Store.Reachable.every {store : Store} (reachable : Store.Reachable limits store)
    (invariant : ∀ versions, SessionRecord.Invariant limits versions holds) :
    store.Every holds := by
  induction reachable with
  | bare empty => exact every_of_empty (invariant Message.Spoken).new empty
  | operated before permissive under performed ih =>
    rw [← Host.act_asks performed]
    exact ih.asked permissive under.limited (invariant _)
  | tended before chore ih => exact ih.tended (invariant Message.Spoken).new chore
  | restored before earlier load ih first =>
    intro address record loaded
    rcases loadSession_of_stored rfl loaded with ⟨rfl, rfl⟩ | ⟨_, same⟩
    · exact (invariant Message.Spoken).step .settled (first _ _ load)
    · exact ih address record same

end Invariants

/-! ## Sound records -/

omit [Suite] in
/-- What a negotiation gives is sound, if there is room for the chain that it may open. -/
theorem SessionState.Negotiated.sound {limits : Limits} {version : UInt8} {state : SessionState}
    (negotiated : state.Negotiated version) (room : 0 < limits.receiverChains)
    (spoken : Message.Spoken version) : state.Sound limits where
  distinct := by
    have single := negotiated.single
    cases receivers : state.receivers with
    | nil => exact List.nodup_nil
    | cons chain rest =>
      rw [receivers, List.length_cons] at single
      rw [List.length_eq_zero_iff.mp (by omega : rest.length = 0)]
      exact List.pairwise_singleton _ _
  few := Nat.le_trans negotiated.single room
  filed := by
    intro chain member
    rw [negotiated.unused chain member]
    exact SkippedKeys.sound_empty _
  whole := fun _ => ⟨negotiated.rooted, negotiated.ours, negotiated.theirs,
    negotiated.version_eq ▸ spoken⟩
  bare := fun unestablished => absurd (negotiated.established.symm.trans unestablished) nofun

/-- Records stay sound, as long as only spoken versions are negotiated. -/
theorem SessionRecord.invariant_sound {limits : Limits} (room : 0 < limits.receiverChains)
    {versions : UInt8 -> Prop} (spoken : ∀ version, versions version → Message.Spoken version) :
    Invariant limits versions (Sound limits) where
  new := sound_new limits
  step := by
    intro record result changed sound
    have front := sound.states _ List.mem_cons_self
    cases changed with
    | negotiated version negotiated =>
      exact sound.promote (negotiated.sound room (spoken _ version))
    | awaiting pending => exact sound.replace (front.awaiting pending)
    | sealed sending sealing =>
      obtain ⟨_, _, _, _, _, _, _, rfl⟩ := SessionState.sealText_eq_ok sealing
      exact sound.replace (front.sent sending)
    | opened opened => exact (sound.opened opened).1
    | settled => exact ⟨sound.bounded, sound.archived, sound.states⟩

namespace SessionRecord

omit [Suite] in
/-- States are archived only behind an established one. -/
def Headed (record : SessionRecord) : Prop :=
  record.previous ≠ [] → record.current.established = true

theorem invariant_headed {limits : Limits} (versions : UInt8 -> Prop) :
    Invariant limits versions Headed where
  new := fun archived => absurd rfl archived
  step := by
    intro record result changed headed
    cases changed with
    | negotiated spoken negotiated => exact fun _ => negotiated.established
    | awaiting pending => exact headed
    | sealed sending sealing =>
      obtain ⟨_, _, _, _, _, _, _, rfl⟩ := SessionState.sealText_eq_ok sealing
      exact fun _ => rfl
    | opened opened =>
      cases opened with
      | current takes => exact fun _ => takes.established
      | archived found takes => exact fun _ => takes.established
    | settled => exact headed

end SessionRecord

end DoubleRatchet
