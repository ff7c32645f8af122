import DoubleRatchet.Proofs.Engine.History

namespace DoubleRatchet

/-!
# What becomes of one-time pre-keys

A first message names a one-time pre-key, its handshake makes a state of the key, and the
key is forgotten once the embedded message has opened.  These are three separate steps, and
only the last one writes.  `Establishment.Seeded` is the first step, `Operation.Seeds` all
three together, and no request changes the pre-keys in any other way.

A pre-key that is gone comes back only if the host stores it again, so the number of times
that a host holds or stores an id bounds the number of sessions that are made of it.
-/

namespace Store

variable {store : Store} {id : UInt32}

/-- What a faithful shape has written is read back. -/
theorem readDocument_write {α : Type} [Json.Document α]
    (faithful : Json.Faithful (Json.Document.toValue : α -> Json.Value) Json.Document.ofValue?)
    (value : α) : readDocument (Json.Document.write value) = .ok value := by
  have tree : Json.Value.read? (Json.Document.write value) = some (Json.Document.toValue value) :=
    Json.Value.read?_write (faithful.isPlain value)
  simp only [readDocument, Json.Document.read?, tree, Option.bind_eq_bind, Option.bind_some,
    faithful.read_write]

theorem loadPreKey_storePreKey_self (store : Store) (id : UInt32) (key : PreKey) :
    (store.storePreKey id key).loadPreKey id = .ok key := by
  simp only [loadPreKey, storePreKey, Table.get?_insert_self]
  exact readDocument_write PreKey.faithful key

theorem loadSignedPreKey_storeSignedPreKey_self (store : Store) (id : UInt32)
    (key : SignedPreKey) : (store.storeSignedPreKey id key).loadSignedPreKey id = .ok key := by
  simp only [loadSignedPreKey, storeSignedPreKey, Table.get?_insert_self]
  exact readDocument_write SignedPreKey.faithful key

theorem loadSignedPreKey_storeSignedPreKey_of_ne (store : Store) {id other : UInt32}
    (different : other ≠ id) (key : SignedPreKey) :
    (store.storeSignedPreKey id key).loadSignedPreKey other = store.loadSignedPreKey other := by
  simp only [loadSignedPreKey, storeSignedPreKey, Table.get?_insert_of_ne _ different]

/-- Pre-keys depend on nothing but their tables. -/
theorem loadPreKey_of_preKeys_eq {after : Store} (same : after.preKeys = store.preKeys)
    (id : UInt32) : after.loadPreKey id = store.loadPreKey id := by
  simp only [loadPreKey, same]

theorem loadSignedPreKey_of_signedPreKeys_eq {after : Store}
    (same : after.signedPreKeys = store.signedPreKeys) (id : UInt32) :
    after.loadSignedPreKey id = store.loadSignedPreKey id := by
  simp only [loadSignedPreKey, same]

theorem loadPreKey_of_gone (gone : store.preKeys.contains id = false) :
    store.loadPreKey id = .error (.unknownPreKey id) := by
  simp only [Table.contains, Option.isSome_eq_false_iff, Option.isNone_iff_eq_none] at gone
  simp only [loadPreKey, gone]

theorem contains_removePreKey_self (store : Store) (id : UInt32) :
    (store.removePreKey id).preKeys.contains id = false := by
  simp only [removePreKey, Table.contains, Table.get?_erase_self, Option.isSome_none]

theorem contains_removePreKey_of_ne {other : UInt32} (different : other ≠ id) :
    (store.removePreKey id).preKeys.contains other = store.preKeys.contains other := by
  simp only [removePreKey, Table.contains, Table.get?_erase_of_ne _ different]

theorem preKeys_settle (store : Store) (name : String) (identity : IdentityKey)
    (used : Option UInt32) :
    (Transport.settle store name identity used).preKeys =
      (used.elim store store.removePreKey).preKeys := by
  cases used with
  | none => rfl
  | some id => rfl

end Store

variable [Suite]

/-! ## The handshake -/

namespace Establishment

variable {store : Store} {address : Address} {limits : Limits} {record accepted : SessionRecord}
  {message : PreKeyWhisperMessage} {id : UInt32} {used : Option UInt32} {state : SessionState}

/-- A first message has its handshake taken for a new session, whose state is made of the
one-time pre-key with an id. -/
inductive Seeded (store : Store) (record : SessionRecord) (message : PreKeyWhisperMessage)
    (id : UInt32) : SessionState -> Prop where
  /-- In the newer version the pre-key goes with a signed one, and the base key is new. -/
  | signed {signedId : UInt32} {signedPreKey : SignedPreKey} {preKey : PreKey}
      (version_eq : message.version = currentVersion)
      (unknown : record.hasSession message.version message.baseKey = false)
      (signedNamed : message.signedPreKeyId = some signedId)
      (signed_eq : store.loadSignedPreKey signedId = .ok signedPreKey)
      (named : message.preKeyId = some id) (loaded : store.loadPreKey id = .ok preKey) :
      Seeded store record message id
        (responderState store message signedPreKey.pair (some preKey.pair))
  /-- In the older version the pre-key stands alone. -/
  | unsigned {preKey : PreKey} (version_eq : message.version = oldestVersion)
      (named : message.preKeyId = some id) (loaded : store.loadPreKey id = .ok preKey) :
      Seeded store record message id (responderState store message preKey.pair none)

theorem Seeded.named (seeded : Seeded store record message id state) :
    message.preKeyId = some id := by
  cases seeded with
  | signed _ _ _ _ named => exact named
  | unsigned _ named => exact named

theorem Seeded.held (seeded : Seeded store record message id state) :
    store.preKeys.contains id = true := by
  cases seeded with
  | signed _ _ _ _ _ loaded => exact Store.contains_of_loadPreKey loaded
  | unsigned _ _ loaded => exact Store.contains_of_loadPreKey loaded

/-- The handshake puts the state in front, and uses up the pre-key unless it is the last
resort. -/
theorem Seeded.accepts (seeded : Seeded store record message id state) (address : Address)
    (limits : Limits) :
    Accepted store address limits record message (record.promote state limits.archivedStates)
      ((some id).filter fun id => id ≠ lastResortId) := by
  cases seeded with
  | @signed signedId signedPreKey preKey version_eq unknown signedNamed signed_eq named loaded =>
    have oneTime_eq : message.preKeyId.mapM store.loadPreKey = .ok (some preKey) := by
      rw [named]
      change (store.loadPreKey id >>= fun key => pure (some key)) = _
      rw [loaded]
      rfl
    have accepts : Accepted store address limits record message _ _ :=
      .signed version_eq unknown signedNamed signed_eq oneTime_eq
    rw [named] at accepts
    exact accepts
  | unsigned version_eq named loaded =>
    have accepts : Accepted store address limits record message _ _ :=
      .unsigned version_eq named loaded
    rw [named] at accepts
    exact accepts

/-- A handshake that uses up a pre-key has made a state of it. -/
theorem Accepted.seeded
    (accepts : Accepted store address limits record message accepted (some id)) :
    id ≠ lastResortId ∧ ∃ state, Seeded store record message id state ∧
      accepted = record.promote state limits.archivedStates := by
  generalize spent_eq : some id = used at accepts
  cases accepts with
  | negotiated => cases spent_eq
  | signed version_eq unknown signedNamed signed_eq oneTime_eq =>
    obtain ⟨named, spent⟩ := Option.filter_eq_some_iff.mp spent_eq.symm
    rw [named] at oneTime_eq
    change (store.loadPreKey id >>= fun key => pure (some key)) = _ at oneTime_eq
    cases loaded : store.loadPreKey id with
    | error fault =>
      rw [loaded] at oneTime_eq
      cases oneTime_eq
    | ok preKey =>
      rw [loaded] at oneTime_eq
      cases oneTime_eq
      exact ⟨of_decide_eq_true spent, _,
        .signed version_eq unknown signedNamed signed_eq named loaded, rfl⟩
  | gone => cases spent_eq
  | unsigned version_eq named loaded =>
    obtain ⟨same, spent⟩ := Option.filter_eq_some_iff.mp spent_eq.symm
    cases named.symm.trans same
    exact ⟨of_decide_eq_true spent, _, .unsigned version_eq named loaded, rfl⟩

/-! ## Handshakes that name a pre-key which is gone -/

variable {host : Host}

/-- A new handshake of the newer version fails where its pre-key is gone. -/
theorem perform_processHandshake_of_gone (permissive : host.Permissive)
    (trusted : host.store.trusts address.name message.identity = true)
    (newer : message.version = currentVersion)
    (unknown : record.hasSession message.version message.baseKey = false) {signedId : UInt32}
    {signedPreKey : SignedPreKey} (signedNamed : message.signedPreKeyId = some signedId)
    (signed_eq : host.store.loadSignedPreKey signedId = .ok signedPreKey)
    (named : message.preKeyId = some id) (gone : host.store.preKeys.contains id = false) :
    host.perform (processHandshake address limits record message) =
      (.error (.unknownPreKey id), host) := by
  have missing : message.preKeyId.mapM host.store.loadPreKey = .error (.unknownPreKey id) := by
    rw [named]
    change (host.store.loadPreKey id >>= fun key => pure (some key)) = _
    rw [Store.loadPreKey_of_gone gone]
    rfl
  have processed := perform_processSignedHandshake address limits record message permissive
  simp only [unknown, Bool.false_eq_true, if_false, signedNamed, signed_eq, missing] at processed
  simp only [processHandshake]
  rw [Host.perform_bind_of_ok (perform_checkTrusted permissive trusted), if_pos newer]
  exact Host.perform_bind_of_error processed _

/-- One of the older version fails too, unless there is an established session. -/
theorem perform_processHandshake_of_lone (permissive : host.Permissive)
    (trusted : host.store.trusts address.name message.identity = true)
    (older : message.version = oldestVersion) (load : host.store.loadSession address = .ok record)
    (unestablished : record.current.established = false)
    (named : message.preKeyId = some id) (gone : host.store.preKeys.contains id = false) :
    host.perform (processHandshake address limits record message) =
      (.error (.unknownPreKey id), host) := by
  have processed := perform_processUnsignedHandshake address limits record message permissive named
  rw [gone, Store.containsSession_eq load, unestablished,
    perform_respondByPreKey address limits record message permissive,
    Store.loadPreKey_of_gone gone] at processed
  have notNewer : ¬ message.version = currentVersion := by
    rw [older]
    decide
  simp only [processHandshake]
  rw [Host.perform_bind_of_ok (perform_checkTrusted permissive trusted), if_neg notNewer,
    if_pos older]
  exact Host.perform_bind_of_error processed _

end Establishment

/-- A first message is not opened where its handshake fails. -/
theorem Transport.perform_decryptWith_of_refused {host after : Host} {address : Address}
    {limits : Limits} {record : SessionRecord} {message : PreKeyWhisperMessage} {fault : Fault}
    (callback : Bytes -> Except Fault Unit) (permissive : host.Permissive)
    (load : host.store.loadSession address = .ok record)
    (refused : host.perform (Establishment.processHandshake address limits record message) =
      (.error fault, after)) :
    host.perform (decryptWith address limits callback (.preKeyWhisper message)) =
      (.error fault, after) := by
  have loaded := Host.perform_loadSession permissive address
  rw [load] at loaded
  change host.perform (decryptPreKeyWhisper address limits callback message) = _
  simp only [decryptPreKeyWhisper]
  rw [Host.perform_bind_of_ok loaded]
  exact Host.perform_bind_of_error refused _

/-! ## Requests -/

/-- A request opens a first message after a handshake that makes a session of a pre-key. -/
inductive Operation.Seeds (host : Host) (id : UInt32) : Operation -> Prop where
  | decrypt {address : Address} {limits : Limits} {callback : Bytes -> Except Fault Unit}
      {message : PreKeyWhisperMessage} {record : SessionRecord} {state : SessionState}
      {text : Bytes} {after : Host} (load : host.store.loadSession address = .ok record)
      (seeded : Establishment.Seeded host.store record message id state)
      (gives : host.perform (Transport.decryptWith address limits callback
        (.preKeyWhisper message)) = (.ok text, after)) :
      Seeds host id (.decrypt address limits callback (.preKeyWhisper message))

namespace Host

variable {host : Host} {id : UInt32} {operation : Operation}

theorem held_of_seeds (seeds : operation.Seeds host id) :
    host.store.preKeys.contains id = true := by
  cases seeds with
  | decrypt load seeded gives => exact seeded.held

/-- A request removes at most the pre-key that it has made a session of, and never the last
resort. -/
theorem preKeys_act_asks (permissive : host.Permissive) (operation : Operation) :
    (host.act (.asks operation)).store.preKeys = host.store.preKeys ∨
      ∃ id, id ≠ lastResortId ∧ operation.Seeds host id ∧
        (host.act (.asks operation)).store.preKeys = (host.store.removePreKey id).preKeys := by
  rcases performed : host.perform operation.run with ⟨fault | reply, after⟩
  · rw [act_asks performed, (Operation.untouched_of_failed permissive performed).store_eq]
    exact .inl rfl
  · rw [act_asks performed]
    cases Operation.done_of_performed permissive performed with
    | processBundle trusted offered load becomes =>
      rw [becomes.store_eq]
      exact .inl rfl
    | initiate load becomes =>
      rw [becomes.store_eq]
      exact .inl rfl
    | processExchange trusted exchanged becomes =>
      rw [becomes.store_eq]
      cases exchanged with
      | answered => exact .inl rfl
      | completed => exact .inl rfl
      | passed => exact .inl rfl
    | encrypt load sending sealing becomes =>
      rw [becomes.store_eq]
      exact .inl rfl
    | whisper load before opened known trusted becomes =>
      rw [becomes.store_eq]
      exact .inl rfl
    | @preKeyWhisper address limits callback message text record accepted result used _ _ _ _ load
        sender accepts before opened known trusted becomes =>
      have settled : after.store.preKeys =
          (used.elim host.store host.store.removePreKey).preKeys := by
        rw [becomes.store_eq]
        exact Store.preKeys_settle host.store address.name message.identity used
      rw [settled]
      cases used with
      | none => exact .inl rfl
      | some id =>
        obtain ⟨_, _, gives, _⟩ := perform_bind_eq_ok.mp performed
        obtain ⟨oneTime, state, seeded, _⟩ := accepts.seeded
        exact .inr ⟨id, oneTime, .decrypt load seeded gives, rfl⟩
    | endSession becomes =>
      rw [becomes.store_eq]
      exact .inl rfl

/-- Once a session was made of a one-time pre-key, the pre-key is gone. -/
theorem gone_of_seeds (permissive : host.Permissive) (oneTime : id ≠ lastResortId)
    (seeds : operation.Seeds host id) :
    (host.act (.asks operation)).store.preKeys.contains id = false := by
  cases seeds with
  | @decrypt address limits callback message record state text after load seeded gives =>
    have performed : host.perform (Operation.decrypt address limits callback
        (.preKeyWhisper message)).run = (.ok (.plaintext text), after) :=
      perform_bind_of_ok gives _
    rw [act_asks performed]
    obtain ⟨found, accepted, used, result, skipped, draws, middle, remote, also, sender, accepts,
      before, opened, known, trusted, agreed, becomes⟩ :=
      Transport.decryptPreKeyWhisper_eq_ok permissive gives
    cases load.symm.trans also
    -- The handshake is a function of the host, so it has used up what the pre-key's state says.
    obtain ⟨_, one⟩ := Establishment.perform_processHandshake permissive sender accepts
    obtain ⟨_, other⟩ := Establishment.perform_processHandshake permissive sender
      (seeded.accepts address limits)
    have spent : used = some id := by
      cases one.symm.trans other
      exact Option.filter_some_pos (decide_eq_true oneTime)
    rw [becomes.store_eq, spent]
    exact Store.contains_removePreKey_self ..

end Host

/-! ## Runs -/

/-- The host stores a pre-key under an id. -/
def Deed.supplies (id : UInt32) : Deed -> Bool
  | .tends (.storePreKey other _) => other = id
  | _ => false

namespace Host

variable {host : Host} {id : UInt32} {operation : Operation} {deeds : List Deed}

omit [Suite] in
/-- How often a host has a pre-key with an id: at the start, or by storing one. -/
def supply (host : Host) (id : UInt32) (deeds : List Deed) : Nat :=
  (host.store.preKeys.contains id).toNat + deeds.countP (Deed.supplies id)

omit [Suite] in
theorem supply_append (host : Host) (id : UInt32) (deeds more : List Deed) :
    host.supply id (deeds ++ more) = host.supply id deeds + more.countP (Deed.supplies id) := by
  simp only [supply, List.countP_append, Nat.add_assoc]

omit [Suite] in
theorem gone_of_supply (exhausted : host.supply id deeds = 0) :
    host.store.preKeys.contains id = false := by
  simp only [supply, Nat.add_eq_zero_iff, Bool.toNat_eq_zero] at exhausted
  exact exhausted.1

/-- A pre-key is there after a deed only if it was before, or was just stored. -/
theorem contains_act (permissive : host.Permissive) (deed : Deed)
    (held : (host.act deed).store.preKeys.contains id = true) :
    host.store.preKeys.contains id = true ∨ deed.supplies id = true := by
  have removed : ∀ other, (host.store.removePreKey other).preKeys.contains id = true →
      host.store.preKeys.contains id = true := by
    intro other still
    by_cases same : id = other
    · rw [same, Store.contains_removePreKey_self] at still
      cases still
    · rw [Store.contains_removePreKey_of_ne same] at still
      exact still
  cases deed with
  | asks operation =>
    rcases preKeys_act_asks permissive operation with same | ⟨spent, _, _, same⟩
    · rw [same] at held
      exact .inl held
    · rw [same] at held
      exact .inl (removed spent held)
  | tends chore =>
    cases chore with
    | storePreKey other key =>
      by_cases same : id = other
      · exact .inr (decide_eq_true same.symm)
      · have kept : (host.store.storePreKey other key).preKeys.contains id =
            host.store.preKeys.contains id := by
          simp only [Store.storePreKey, Table.contains, Table.get?_insert_of_ne _ same]
        exact .inl (kept.symm.trans held)
    | removePreKey other => exact .inl (removed other held)
    | saveIdentity => exact .inl held
    | storeSignedPreKey => exact .inl held
    | removeSignedPreKey => exact .inl held
    | deleteSession => exact .inl held
    | deleteSessions => exact .inl held

/-- No deed adds to the supply of a pre-key. -/
theorem supply_act_le (permissive : host.Permissive) (deed : Deed) (deeds : List Deed) :
    (host.act deed).supply id deeds ≤ host.supply id (deed :: deeds) := by
  simp only [supply, List.countP_cons]
  cases held : (host.act deed).store.preKeys.contains id with
  | false =>
    simp only [Bool.toNat_false]
    omega
  | true =>
    rcases contains_act permissive deed held with before | supplied
    · simp only [before, Bool.toNat_true]
      omega
    · simp only [supplied, Bool.toNat_true, if_true]
      omega

theorem supply_through_le (permissive : host.Permissive) (before deeds : List Deed) :
    (host.through before).supply id deeds ≤ host.supply id (before ++ deeds) := by
  induction before generalizing host with
  | nil => exact Nat.le_refl _
  | cons deed before ih =>
    exact Nat.le_trans (ih (permissive_act permissive deed))
      (supply_act_le permissive deed (before ++ deeds))

/-- Making a session of a one-time pre-key takes one from its supply. -/
theorem supply_of_seeds (permissive : host.Permissive) (oneTime : id ≠ lastResortId)
    (seeds : operation.Seeds host id) (deeds : List Deed) :
    (host.act (.asks operation)).supply id deeds + 1 =
      host.supply id (.asks operation :: deeds) := by
  have unsupplied : Deed.supplies id (.asks operation) = false := rfl
  simp only [supply, held_of_seeds seeds, gone_of_seeds permissive oneTime seeds,
    List.countP_cons, unsupplied, Bool.toNat_true, Bool.toNat_false, Bool.false_eq_true, if_false]
  omega

/-- Where a one-time pre-key was supplied once, nothing is left of it behind a session that was
made of it. -/
theorem gone_behind_seeds (permissive : host.Permissive) (oneTime : id ≠ lastResortId)
    {before between : List Deed} (once : host.supply id (before ++ .asks operation :: between) ≤ 1)
    (seeds : operation.Seeds (host.through before) id) :
    (host.through (before ++ .asks operation :: between)).store.preKeys.contains id = false := by
  have still := permissive_through permissive before
  have first : (host.through before).supply id (.asks operation :: between) ≤ 1 :=
    Nat.le_trans (supply_through_le permissive before _) once
  have spent := supply_of_seeds still oneTime seeds between
  have last : (((host.through before).act (.asks operation)).through between).supply id [] ≤
      ((host.through before).act (.asks operation)).supply id (between ++ []) :=
    supply_through_le (permissive_act still (.asks operation)) between []
  rw [List.append_nil] at last
  rw [through_append]
  have exhausted : ((host.through before).through (.asks operation :: between)).supply id [] = 0 :=
    Nat.eq_zero_of_le_zero (Nat.le_trans last (by omega))
  exact gone_of_supply exhausted

end Host
end DoubleRatchet
