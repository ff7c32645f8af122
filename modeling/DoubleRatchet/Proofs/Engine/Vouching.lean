import DoubleRatchet.Proofs.Engine.History

namespace DoubleRatchet

/-!
# Identities that stand behind sessions

A session is opened with an identity, and the name is pinned to it at the same time.  The
two are kept in different places and are never compared again as such: what is compared is
the identity of the state that has opened a message, with the pin as it is then.  The
invariant that makes this enough is that a record with an established state belongs to a
name that is pinned, to whatever identity, and that established states are those of the own
identity.

`Vouches` says what a request does to pins and records at once.  A pin that is there is
never changed, because every request that writes one has found the identity trusted before.
-/

variable {name : String} {identity pinned : IdentityKey}

namespace Store

/-- A name is pinned. -/
def Pins (store : Store) (name : String) : Prop :=
  (store.pins.get? name).isSome = true

theorem eq_of_trusts {store : Store} (trusted : store.trusts name identity = true)
    (held : store.pins.get? name = some pinned) : pinned = identity := by
  unfold trusts at trusted
  rw [held] at trusted
  simpa using trusted

/-- Pinning a trusted identity changes no pin. -/
theorem get?_pin_of_trusts {store : Store} {other : String}
    (trusted : store.trusts name identity = true) (held : store.pins.get? other = some pinned) :
    (store.pin name identity).pins.get? other = some pinned := by
  unfold pin
  by_cases same : other = name
  · subst same
    rw [Table.get?_insert_self, eq_of_trusts trusted held]
  · rw [Table.get?_insert_of_ne _ same, held]

theorem pins_pin_self (store : Store) (name : String) (identity : IdentityKey) :
    (store.pin name identity).pins.get? name = some identity :=
  Table.get?_insert_self ..

theorem Pins.pin {store : Store} {other : String} (pins : store.Pins other) (name : String)
    (identity : IdentityKey) : (store.pin name identity).Pins other := by
  unfold Pins Store.pin at *
  by_cases same : other = name
  · subst same
    rw [Table.get?_insert_self]
    rfl
  · rw [Table.get?_insert_of_ne _ same]
    exact pins

end Store

variable [Suite]

/-! ## Records -/

namespace SessionRecord

/-- The established states of the record are those of the own identity, and the name that
the record belongs to is pinned where there are any. -/
def Vouched (store : Store) (name : String) (record : SessionRecord) : Prop :=
  ∀ state ∈ record.states, state.established = true →
    state.localIdentity = some store.identity.identity ∧ store.Pins name

variable {store other : Store} {record result : SessionRecord} {state : SessionState}

theorem vouched_new (store : Store) (name : String) : new.Vouched store name := by
  intro state member established
  rw [List.mem_singleton.mp member] at established
  cases established

/-- The record of a name stays vouched for as long as the pin and the own identity do. -/
theorem Vouched.mono (vouched : record.Vouched store name)
    (identity_eq : other.identity = store.identity) (pins : store.Pins name → other.Pins name) :
    record.Vouched other name := by
  intro state member established
  obtain ⟨ours, held⟩ := vouched state member established
  rw [identity_eq]
  exact ⟨ours, pins held⟩

/-- A state of the own identity may be put in front of the record of a pinned name. -/
theorem Vouched.promote (vouched : record.Vouched store name)
    (ours : state.localIdentity = some store.identity.identity) (pins : store.Pins name)
    (bound : Nat) : (record.promote state bound).Vouched store name := by
  intro found member established
  rcases mem_states_promote member with rfl | before
  · exact ⟨ours, pins⟩
  · exact vouched found before established

theorem Vouched.removePrevious (vouched : record.Vouched store name) (place : Nat) :
    (record.removePrevious place).Vouched store name :=
  fun state member => vouched state (mem_states_removePrevious member)

/-- The current state may change as long as it keeps its identity and is established only
if it was. -/
theorem Vouched.replace (vouched : record.Vouched store name)
    (established : state.established = true → record.current.established = true)
    (local_eq : state.localIdentity = record.current.localIdentity) :
    ({ record with current := state } : SessionRecord).Vouched store name := by
  intro found member here
  rcases List.mem_cons.mp member with rfl | archived
  · rw [local_eq]
    exact vouched record.current List.mem_cons_self (established here)
  · exact vouched found (List.mem_cons_of_mem _ archived) here

end SessionRecord

/-! ## States that open messages -/

namespace SessionState

variable {limits : Limits} {ours : KeyPair} {state taken : SessionState}
  {message : WhisperMessage} {text : Bytes}

/-- A state that has opened a message was established, and is of the same parties after. -/
theorem Takes.keeps_identities (takes : state.Takes limits ours message text taken) :
    state.established = true ∧ taken.localIdentity = state.localIdentity ∧
      taken.remoteIdentity = state.remoteIdentity := by
  obtain ⟨chained, chain, served, _, _, opens, rfl⟩ := takes
  refine ⟨opens.established, ?_⟩
  cases opens.reached with
  | known present => exact ⟨rfl, rfl⟩
  | stepped root sender absent rooted sending => exact ⟨rfl, rfl⟩

end SessionState

namespace SessionRecord

variable {store : Store} {record result : SessionRecord} {limits : Limits} {ours : KeyPair}
  {message : WhisperMessage} {text : Bytes} {draws : Nat}

theorem Vouched.opened (vouched : record.Vouched store name)
    (opened : record.Opened limits ours message text draws result) :
    result.Vouched store name := by
  cases opened with
  | current takes =>
    obtain ⟨established, local_eq, _⟩ := takes.keeps_identities
    exact vouched.replace (fun _ => established) local_eq
  | archived found takes =>
    obtain ⟨established, local_eq, _⟩ := takes.keeps_identities
    have member := List.mem_cons_of_mem record.current (List.mem_of_getElem? found)
    obtain ⟨own, pins⟩ := vouched _ member established
    exact (vouched.removePrevious _).promote (local_eq.trans own) pins _

end SessionRecord

/-! ## Stores -/

namespace Store

variable {store other : Store} {address : Address} {record : SessionRecord}

/-- Every record is vouched for. -/
def Vouched (store : Store) : Prop :=
  ∀ (address : Address) (record : SessionRecord), store.loadSession address = .ok record →
    record.Vouched store address.name

theorem vouched_of_empty (empty : store.sessions = .empty) : store.Vouched := by
  intro address record load
  cases (loadSession_of_empty empty address).symm.trans load
  exact SessionRecord.vouched_new _ _

/-- Records that are as they were, or new, stay vouched for as long as the pins do. -/
theorem Vouched.mono (vouched : store.Vouched) (identity_eq : other.identity = store.identity)
    (pins : ∀ name, store.Pins name → other.Pins name)
    (loads : ∀ address record, other.loadSession address = .ok record →
      store.loadSession address = .ok record ∨ record = .new) : other.Vouched := by
  intro address record load
  rcases loads address record load with before | rfl
  · exact (vouched address record before).mono identity_eq (pins address.name)
  · exact SessionRecord.vouched_new _ _

theorem Vouched.storeSession (vouched : store.Vouched)
    (kept : record.Vouched store address.name) :
    (store.storeSession address record).Vouched := by
  intro place found load
  by_cases same : place = address
  · subst same
    rw [loadSession_storeSession_self] at load
    cases load
    exact kept
  · rw [loadSession_storeSession_of_ne same] at load
    exact vouched place found load

/-- What a request does to the identities in a store. -/
structure Vouches (before after : Store) : Prop where
  identity_eq : after.identity = before.identity
  keeps : ∀ {name pinned}, before.pins.get? name = some pinned →
    after.pins.get? name = some pinned
  vouched : before.Vouched → after.Vouched

theorem Vouches.refl (store : Store) : store.Vouches store :=
  ⟨rfl, id, id⟩

/-- A record may be stored if it was vouched for. -/
theorem vouches_storeSession (kept : store.Vouched → record.Vouched store address.name) :
    store.Vouches (store.storeSession address record) :=
  ⟨rfl, id, fun vouched => vouched.storeSession (kept vouched)⟩

theorem Vouched.pin (vouched : store.Vouched) (name : String) (identity : IdentityKey) :
    (store.pin name identity).Vouched :=
  vouched.mono rfl (fun _ pins => pins.pin name identity) fun _ _ load => .inl load

/-- A trusted identity may be pinned together with a record that has a state of the own
identity in front. -/
theorem vouches_promote {state : SessionState} (trusted : store.trusts address.name identity = true)
    (load : store.loadSession address = .ok record)
    (ours : state.localIdentity = some store.identity.identity) (bound : Nat) :
    store.Vouches ((store.pin address.name identity).storeSession address
      (record.promote state bound)) where
  identity_eq := rfl
  keeps := fun held => get?_pin_of_trusts trusted held
  vouched := by
    intro vouched
    have pinned := vouched.pin address.name identity
    apply pinned.storeSession
    apply (pinned address record load).promote ours
    rw [Pins, pins_pin_self]
    rfl

theorem vouches_deleteSessions (store : Store) (name : String) :
    store.Vouches (store.deleteSessions name) where
  identity_eq := rfl
  keeps := id
  vouched := by
    intro vouched
    refine vouched.mono rfl (fun _ => id) ?_
    intro address record load
    rw [loadSession_deleteSessions] at load
    split at load
    · cases load
      exact .inr rfl
    · exact .inl load

end Store

/-! ## Requests and deeds -/

namespace Operation

variable {host after : Host} {address : Address} {limits : Limits}

theorem vouches_exchanged {message : KeyExchangeMessage} {answer : Option KeyExchangeMessage}
    {store : Store} {draws : Nat}
    (trusted : host.store.trusts address.name message.identity = true)
    (exchanged : Establishment.Exchanged host address limits message answer store draws) :
    host.store.Vouches store := by
  have ours : ∀ baseKey ratchetKey fresh, (Establishment.exchangeState host.store message baseKey
      ratchetKey fresh).localIdentity = some host.store.identity.identity := by
    intro baseKey ratchetKey fresh
    unfold Establishment.exchangeState
    dsimp only
    split
    · rfl
    · rfl
  cases exchanged with
  | answered opening load brought signed =>
    exact Store.vouches_promote trusted load (ours ..) _
  | completed answering load waiting matching signed =>
    exact Store.vouches_promote trusted load (ours ..) _
  | passed => exact .refl _

/-- The record that a handshake gives has no new state but one of the sender of the message. -/
theorem mem_states_accepted {store : Store} {message : PreKeyWhisperMessage}
    {record accepted : SessionRecord} {used : Option UInt32} {state : SessionState}
    (accepts : Establishment.Accepted store address limits record message accepted used)
    (member : state ∈ accepted.states) :
    state ∈ record.states ∨ ∃ signedPreKey oneTimePreKey,
      state = Establishment.responderState store message signedPreKey oneTimePreKey := by
  cases accepts with
  | negotiated => exact .inl member
  | signed =>
    rcases SessionRecord.mem_states_promote member with rfl | before
    · exact .inr ⟨_, _, rfl⟩
    · exact .inl before
  | gone => exact .inl member
  | unsigned =>
    rcases SessionRecord.mem_states_promote member with rfl | before
    · exact .inr ⟨_, _, rfl⟩
    · exact .inl before

/-- Once the sender of a first message is pinned, the record of its handshake is vouched for. -/
theorem vouched_accepted {store settled : Store} {message : PreKeyWhisperMessage}
    {record accepted : SessionRecord} {used : Option UInt32}
    (vouched : record.Vouched store address.name) (identity_eq : settled.identity = store.identity)
    (pins : settled.Pins address.name)
    (accepts : Establishment.Accepted store address limits record message accepted used) :
    accepted.Vouched settled address.name := by
  intro state member established
  rw [identity_eq]
  rcases mem_states_accepted accepts member with before | ⟨_, _, rfl⟩
  · exact ⟨(vouched state before established).1, pins⟩
  · exact ⟨rfl, pins⟩

omit [Suite] in
theorem settle_eq (store : Store) (name : String) (identity : IdentityKey) (used : Option UInt32) :
    (Transport.settle store name identity used).identity = store.identity ∧
      (Transport.settle store name identity used).pins =
        (store.pin name identity).pins := by
  cases used with
  | none => exact ⟨rfl, rfl⟩
  | some id => exact ⟨rfl, rfl⟩

theorem vouches_settle {message : PreKeyWhisperMessage} {store : Store}
    {record accepted result : SessionRecord} {used : Option UInt32} {ours : KeyPair}
    {text : Bytes} {draws : Nat} (load : store.loadSession address = .ok record)
    (sender : store.trusts address.name message.identity = true)
    (accepts : Establishment.Accepted store address limits record message accepted used)
    (opened : accepted.Opened limits ours message.message text draws result) :
    store.Vouches ((Transport.settle store address.name message.identity used).storeSession
      address result) := by
  obtain ⟨identity_eq, pins_eq⟩ := settle_eq store address.name message.identity used
  have sessions_eq := Store.sessions_settle store address.name message.identity used
  refine ⟨identity_eq, ?_, ?_⟩
  · intro name pinned held
    change (Transport.settle store address.name message.identity used).pins.get? name = _
    rw [pins_eq]
    exact Store.get?_pin_of_trusts sender held
  · intro vouched
    have settled : (Transport.settle store address.name message.identity used).Vouched := by
      apply vouched.mono identity_eq
      · intro name pins
        unfold Store.Pins
        rw [pins_eq]
        exact pins.pin address.name message.identity
      · intro place found loaded
        left
        unfold Store.loadSession at loaded ⊢
        rw [sessions_eq] at loaded
        exact loaded
    apply settled.storeSession
    apply SessionRecord.Vouched.opened _ opened
    apply vouched_accepted (vouched address record load) identity_eq _ accepts
    unfold Store.Pins
    rw [pins_eq, Store.pins_pin_self]
    rfl

/-- What a successful request does to identities. -/
theorem Done.vouches {operation : Operation} {reply : Reply}
    (done : operation.Done host after reply) : host.store.Vouches after.store := by
  cases done with
  | processBundle trusted offered load becomes =>
    rw [becomes.store_eq]
    exact Store.vouches_promote trusted load rfl _
  | initiate load becomes =>
    rw [becomes.store_eq]
    exact Store.vouches_storeSession fun vouched => (vouched _ _ load).replace id rfl
  | processExchange trusted exchanged becomes =>
    rw [becomes.store_eq]
    exact vouches_exchanged trusted exchanged
  | encrypt load sending sealing becomes =>
    rw [becomes.store_eq]
    obtain ⟨_, _, _, _, _, _, _, rfl⟩ := SessionState.sealText_eq_ok sealing
    have established := (congrArg Option.isSome sending).trans rfl
    exact Store.vouches_storeSession fun vouched =>
      (vouched _ _ load).replace (fun _ => established) rfl
  | whisper load before opened known trusted becomes =>
    rw [becomes.store_eq]
    exact Store.vouches_storeSession fun vouched => (vouched _ _ load).opened opened
  | preKeyWhisper load sender accepts before opened known trusted becomes =>
    rw [becomes.store_eq]
    exact vouches_settle load sender accepts opened
  | endSession becomes =>
    rw [becomes.store_eq]
    exact Store.vouches_deleteSessions ..

end Operation

namespace Host

variable {host : Host}

/-- No request changes a pin, whatever it gives. -/
theorem vouches_asks (permissive : host.Permissive) (operation : Operation) :
    host.store.Vouches (host.act (.asks operation)).store := by
  rcases act_asks_cases permissive operation with untouched | ⟨reply, done⟩
  · rw [untouched.store_eq]
    exact .refl _
  · exact done.vouches

/-- A host that looks after its store may change pins, but takes none away. -/
theorem vouched_tends (vouched : host.store.Vouched) (chore : Chore) :
    (host.act (.tends chore)).store.Vouched := by
  apply vouched.mono
  · cases chore <;> rfl
  · intro name pins
    cases chore with
    | saveIdentity name identity => exact pins.pin name identity
    | storePreKey => exact pins
    | removePreKey => exact pins
    | storeSignedPreKey => exact pins
    | removeSignedPreKey => exact pins
    | deleteSession => exact pins
    | deleteSessions => exact pins
  · intro address record load
    have loaded : (chore.apply host.store).loadSession address = .ok record := load
    rcases Chore.loadSession_apply host.store chore address with same | fresh
    · rw [same] at loaded
      exact .inl loaded
    · rw [fresh] at loaded
      cases loaded
      exact .inr rfl

/-- A pinned identity stays trusted for as long as a host does nothing but make requests. -/
theorem trusts_through_asks {name : String} {identity : IdentityKey} (permissive : host.Permissive)
    (held : host.store.pins.get? name = some identity) {deeds : List Deed}
    (requests : ∀ deed ∈ deeds, ∃ operation, deed = .asks operation) :
    (host.through deeds).store.trusts name identity = true := by
  induction deeds generalizing host with
  | nil =>
    change host.store.trusts name identity = true
    unfold Store.trusts
    rw [held]
    exact decide_eq_true rfl
  | cons deed deeds ih =>
    obtain ⟨operation, rfl⟩ := requests deed List.mem_cons_self
    exact ih (permissive_act permissive _) ((vouches_asks permissive operation).keeps held)
      fun deed member => requests deed (List.mem_cons_of_mem _ member)

/-- Whatever a host goes through, its records stay vouched for. -/
theorem vouched_through (permissive : host.Permissive) (vouched : host.store.Vouched)
    (deeds : List Deed) : (host.through deeds).store.Vouched := by
  apply through_induction permissive vouched
  intro host deed permissive vouched
  cases deed with
  | asks operation => exact (vouches_asks permissive operation).vouched vouched
  | tends chore => exact vouched_tends vouched chore

end Host
end DoubleRatchet
