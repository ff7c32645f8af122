import DoubleRatchet.Proofs.Engine.FailClosed

namespace DoubleRatchet

/-!
# When a handshake is taken

For every operation there is one description of its successes: what it has read
from the store, what it requires of that, what the store is afterwards and how
many pairs were drawn.  Later arguments about runs only use these descriptions,
so the code of an operation is looked at once.  This module has the two questions
of trust and the handshake of a first message, of which `Accepted` lists the four
ways in which it can end well.

The host is taken to refuse nothing, as everywhere in this part of the library.
Events and offered plaintexts are left out, because no operation reads them.
-/

/-- A host goes on to another store, with a number of draws. -/
structure Host.Becomes (host : Host) (store : Store) (draws : Nat) (after : Host) : Prop where
  store_eq : after.store = store
  refusal_eq : after.refusal = host.refusal
  continues : host.trace.Continues draws after.trace

theorem Host.Becomes.permissive {host after : Host} {store : Store} {draws : Nat}
    (becomes : host.Becomes store draws after) (permissive : host.Permissive) :
    after.Permissive := by
  intro call
  rw [becomes.refusal_eq]
  exact permissive call

variable {host after : Host} {address : Address} {limits : Limits}

/-! ## Trust -/

theorem Establishment.perform_checkTrusted (permissive : host.Permissive)
    {identity : IdentityKey} (trusted : host.store.trusts address.name identity = true) :
    host.perform (checkTrusted address identity) = (.ok (), host) := by
  unfold checkTrusted
  rw [Host.perform_bind_of_ok (Host.perform_isTrustedIdentity permissive _ _), trusted]
  rfl

theorem Establishment.checkTrusted_eq_ok (permissive : host.Permissive)
    {identity : IdentityKey}
    (gives : host.perform (checkTrusted address identity) = (.ok (), after)) :
    host.store.trusts address.name identity = true ∧ after = host := by
  cases trusted : host.store.trusts address.name identity with
  | true =>
    rw [perform_checkTrusted permissive trusted] at gives
    cases gives
    exact ⟨rfl, rfl⟩
  | false =>
    unfold checkTrusted at gives
    rw [Host.perform_bind_of_ok (Host.perform_isTrustedIdentity permissive _ _), trusted] at gives
    cases gives

theorem Transport.perform_checkSessionTrusted (permissive : host.Permissive)
    {record : SessionRecord} {remote : IdentityKey}
    (known : record.current.remoteIdentity = some remote)
    (trusted : host.store.trusts address.name remote = true) :
    host.perform (checkSessionTrusted address record) = (.ok (), host) := by
  have found : record.current.requireRemoteIdentity = .ok remote :=
    SessionState.require_eq_ok.mpr known
  unfold checkSessionTrusted
  rw [found, Host.perform_bind_of_ok (Host.perform_except _ _),
    Host.perform_bind_of_ok (Host.perform_isTrustedIdentity permissive _ _), trusted]
  rfl

theorem Transport.checkSessionTrusted_eq_ok (permissive : host.Permissive)
    {record : SessionRecord}
    (gives : host.perform (checkSessionTrusted address record) = (.ok (), after)) :
    ∃ remote, record.current.remoteIdentity = some remote ∧
      host.store.trusts address.name remote = true ∧ after = host := by
  unfold checkSessionTrusted at gives
  obtain ⟨remote, middle, found, rest⟩ := Host.perform_bind_eq_ok.mp gives
  obtain ⟨present, rfl⟩ := Host.perform_except_eq_ok.mp found
  have known : record.current.remoteIdentity = some remote := SessionState.require_eq_ok.mp present
  rw [Host.perform_bind_of_ok (Host.perform_isTrustedIdentity permissive _ _)] at rest
  cases trusted : host.store.trusts address.name remote with
  | true =>
    rw [trusted] at rest
    cases rest
    exact ⟨remote, known, trusted, rfl⟩
  | false =>
    rw [trusted] at rest
    cases rest

/-! ## The handshake of a first message -/

theorem Store.contains_of_loadPreKey {store : Store} {id : UInt32} {preKey : PreKey}
    (loaded : store.loadPreKey id = .ok preKey) : store.preKeys.contains id = true := by
  simp only [loadPreKey] at loaded
  simp only [Table.contains]
  cases found : store.preKeys.get? id with
  | none =>
    rw [found] at loaded
    cases loaded
  | some document => rfl

namespace Establishment

variable [Suite]

/-- The state that a responder makes of a handshake. -/
def responderState (store : Store) (message : PreKeyWhisperMessage) (signedPreKey : KeyPair)
    (oneTimePreKey : Option KeyPair) : SessionState :=
  { Negotiation.responder message.version
      { identity := store.identity
        signedPreKey, oneTimePreKey
        ratchetKey := signedPreKey
        theirIdentity := message.identity
        theirBaseKey := message.baseKey } with
    localRegistrationId := store.registrationId
    remoteRegistrationId := message.registrationId
    initiatorBaseKey := some message.baseKey }

/-- What a handshake makes of a record, with the pre-key that it uses up. -/
inductive Accepted (store : Store) (address : Address) (limits : Limits)
    (record : SessionRecord) (message : PreKeyWhisperMessage) :
    SessionRecord -> Option UInt32 -> Prop where
  /-- The base key was negotiated before. -/
  | negotiated (version_eq : message.version = currentVersion)
      (known : record.hasSession message.version message.baseKey = true) :
      Accepted store address limits record message record none
  /-- A new session of the newer version. -/
  | signed {id : UInt32} {signedPreKey : SignedPreKey} {oneTimePreKey : Option PreKey}
      (version_eq : message.version = currentVersion)
      (unknown : record.hasSession message.version message.baseKey = false)
      (named : message.signedPreKeyId = some id)
      (signed_eq : store.loadSignedPreKey id = .ok signedPreKey)
      (oneTime_eq : message.preKeyId.mapM store.loadPreKey = .ok oneTimePreKey) :
      Accepted store address limits record message
        (record.promote (responderState store message signedPreKey.pair
          (oneTimePreKey.map (·.pair))) limits.archivedStates)
        (message.preKeyId.filter fun id => id ≠ lastResortId)
  /-- The pre-key is gone and a session exists. -/
  | gone {id : UInt32} (version_eq : message.version = oldestVersion)
      (named : message.preKeyId = some id) (absent : store.preKeys.contains id = false)
      (present : store.containsSession address = .ok true) :
      Accepted store address limits record message record none
  /-- A new session of the older version. -/
  | unsigned {id : UInt32} {preKey : PreKey} (version_eq : message.version = oldestVersion)
      (named : message.preKeyId = some id) (loaded : store.loadPreKey id = .ok preKey) :
      Accepted store address limits record message
        (record.promote (responderState store message preKey.pair none) limits.archivedStates)
        (message.preKeyId.filter fun id => id ≠ lastResortId)

/-- A handshake of the newer version leaves a record that knows its base key. -/
theorem Accepted.hasSession {store : Store} {record accepted : SessionRecord}
    {message : PreKeyWhisperMessage} {used : Option UInt32}
    (accepts : Accepted store address limits record message accepted used)
    (newer : message.version = currentVersion) :
    accepted.hasSession message.version message.baseKey = true := by
  have apart : oldestVersion ≠ currentVersion := by decide
  cases accepts with
  | negotiated version_eq known => exact known
  | @signed id signedPreKey oneTimePreKey version_eq unknown named signed_eq oneTime_eq =>
    have version : (responderState store message signedPreKey.pair
        (oneTimePreKey.map (·.pair))).version = message.version := by
      change (if message.version = 0 then oldestVersion else message.version) = message.version
      rw [newer]
      rfl
    unfold SessionRecord.hasSession
    rw [List.any_eq_true]
    refine ⟨_, List.mem_cons_self, ?_⟩
    change (decide (_ = _) && decide (some message.baseKey = some message.baseKey)) = true
    rw [Bool.and_eq_true, decide_eq_true_iff, decide_eq_true_iff]
    exact ⟨version, rfl⟩
  | gone version_eq => exact absurd (version_eq.symm.trans newer) apart
  | unsigned version_eq => exact absurd (version_eq.symm.trans newer) apart

omit [Suite] in
variable (limits) in
theorem perform_promote (host : Host) (record : SessionRecord) (state : SessionState) :
    ∃ events, host.perform (monadLift (promote record state limits) : Engine SessionRecord) =
      (.ok (record.promote state limits.archivedStates),
        { host with trace := { host.trace with events } }) :=
  ⟨_, rfl⟩

omit [Suite] in
variable (address limits) in
theorem perform_acceptHandshake (permissive : host.Permissive) (record : SessionRecord)
    (negotiated : SessionState) (message : PreKeyWhisperMessage) :
    ∃ events, host.perform (acceptHandshake address limits record negotiated message) =
      (.ok (record.promote
        { negotiated with
          localRegistrationId := host.store.registrationId
          remoteRegistrationId := message.registrationId
          initiatorBaseKey := some message.baseKey } limits.archivedStates),
        { host with trace := { host.trace with events } }) := by
  unfold acceptHandshake
  rw [Host.perform_bind_of_ok (Host.perform_localRegistrationId permissive)]
  exact ⟨_, rfl⟩

omit [Suite] in
/-- Loading an optional pre-key gives what the store gives. -/
theorem perform_mapM_loadPreKey (permissive : host.Permissive) (id : Option UInt32) :
    host.perform (id.mapM Host.loadPreKey) = (id.mapM host.store.loadPreKey, host) := by
  cases id with
  | none => rfl
  | some id =>
    change host.perform (Host.loadPreKey id >>= fun key => pure (some key)) =
      (host.store.loadPreKey id >>= fun key => pure (some key), host)
    have loaded := Host.perform_loadPreKey permissive id
    cases found : host.store.loadPreKey id with
    | error fault =>
      rw [found] at loaded
      exact Host.perform_bind_of_error loaded _
    | ok key =>
      rw [found] at loaded
      rw [Host.perform_bind_of_ok loaded]
      rfl

section Steps

variable (address limits) (record : SessionRecord) (message : PreKeyWhisperMessage)

/-- The state of a responder is put in front of the record that the caller holds. -/
theorem perform_respond (permissive : host.Permissive) (signedPreKey : KeyPair)
    (oneTimePreKey : Option KeyPair) (used : Option UInt32) :
    ∃ events, host.perform
        (respond address limits record message signedPreKey oneTimePreKey used) =
      (.ok (record.promote (responderState host.store message signedPreKey oneTimePreKey)
        limits.archivedStates, used), { host with trace := { host.trace with events } }) := by
  unfold respond
  rw [Host.perform_bind_of_ok (Host.perform_identityKeyPair permissive)]
  obtain ⟨events, accepting⟩ := perform_acceptHandshake address limits
    permissive record
    (Negotiation.responder message.version
      { identity := host.store.identity
        signedPreKey, oneTimePreKey
        ratchetKey := signedPreKey
        theirIdentity := message.identity
        theirBaseKey := message.baseKey }) message
  rw [Host.perform_bind_of_ok accepting]
  exact ⟨events, rfl⟩

theorem perform_respondByPreKey (permissive : host.Permissive) (id : UInt32) :
    host.perform (respondByPreKey address limits record message id) =
      match host.store.loadPreKey id with
      | .error fault => (.error fault, host)
      | .ok preKey =>
        host.perform (respond address limits record message preKey.pair none (some id)) := by
  have loads := Host.perform_loadPreKey permissive id
  unfold respondByPreKey
  cases found : host.store.loadPreKey id with
  | error fault =>
    rw [found] at loads
    exact Host.perform_bind_of_error loads _
  | ok preKey =>
    rw [found] at loads
    exact Host.perform_bind_of_ok loads _

/-- What the newer handshake does, question by question. -/
theorem perform_processSignedHandshake (permissive : host.Permissive) :
    host.perform (processSignedHandshake address limits record message) =
      if record.hasSession message.version message.baseKey then
        (.ok (record, none), { host with trace :=
          { host.trace with events := host.trace.events ++ [.handshakeKnown message.baseKey] } })
      else match message.signedPreKeyId with
        | none => (.error (.invalid .missingSignedPreKey), host)
        | some id => match host.store.loadSignedPreKey id with
          | .error fault => (.error fault, host)
          | .ok signedPreKey => match message.preKeyId.mapM host.store.loadPreKey with
            | .error fault => (.error fault, host)
            | .ok oneTimePreKey => host.perform (respond address limits record message
                signedPreKey.pair (oneTimePreKey.map (·.pair)) message.preKeyId) := by
  unfold processSignedHandshake
  cases record.hasSession message.version message.baseKey with
  | true => rfl
  | false =>
    cases message.signedPreKeyId with
    | none => rfl
    | some id =>
      have first := Host.perform_loadSignedPreKey permissive id
      have second := perform_mapM_loadPreKey permissive message.preKeyId
      simp only [Bool.false_eq_true, if_false]
      cases signed_eq : host.store.loadSignedPreKey id with
      | error fault =>
        rw [signed_eq] at first
        exact Host.perform_bind_of_error first _
      | ok signedPreKey =>
        rw [signed_eq] at first
        refine (Host.perform_bind_of_ok first _).trans ?_
        cases oneTime_eq : message.preKeyId.mapM host.store.loadPreKey with
        | error fault =>
          rw [oneTime_eq] at second
          exact Host.perform_bind_of_error second _
        | ok oneTimePreKey =>
          rw [oneTime_eq] at second
          exact Host.perform_bind_of_ok second _

/-- What the older handshake does, question by question. -/
theorem perform_processUnsignedHandshake (permissive : host.Permissive) {id : UInt32}
    (named : message.preKeyId = some id) :
    host.perform (processUnsignedHandshake address limits record message) =
      if host.store.preKeys.contains id then
        host.perform (respondByPreKey address limits record message id)
      else match host.store.containsSession address with
        | .error fault => (.error fault, host)
        | .ok true => (.ok (record, none), { host with trace :=
            { host.trace with events := host.trace.events ++ [.preKeyGone id] } })
        | .ok false => host.perform (respondByPreKey address limits record message id) := by
  have asked := Host.perform_containsSession permissive address
  unfold processUnsignedHandshake
  rw [named]
  refine (Host.perform_bind_of_ok (Host.perform_containsPreKey permissive id) _).trans ?_
  cases host.store.preKeys.contains id with
  | true => rfl
  | false =>
    cases present : host.store.containsSession address with
    | error fault =>
      rw [present] at asked
      exact Host.perform_bind_of_error asked _
    | ok known =>
      rw [present] at asked
      refine (Host.perform_bind_of_ok asked _).trans ?_
      cases known with
      | true => rfl
      | false => rfl

end Steps

theorem processSignedHandshake_eq_ok (permissive : host.Permissive)
    {record accepted : SessionRecord} {message : PreKeyWhisperMessage} {used : Option UInt32}
    (gives : host.perform (processSignedHandshake address limits record message) =
      (.ok (accepted, used), after)) (version_eq : message.version = currentVersion) :
    Accepted host.store address limits record message accepted
        (used.filter fun id => id ≠ lastResortId) ∧
      host.Becomes host.store 0 after := by
  rw [perform_processSignedHandshake address limits record message permissive] at gives
  split at gives
  case isTrue known =>
    cases gives
    exact ⟨.negotiated version_eq known, rfl, rfl, rfl, rfl⟩
  case isFalse unknown =>
    split at gives
    case h_1 => cases gives
    case h_2 id named =>
      split at gives
      case h_1 => cases gives
      case h_2 signedPreKey signed_eq =>
        split at gives
        case h_1 => cases gives
        case h_2 oneTimePreKey oneTime_eq =>
          obtain ⟨events, responds⟩ := perform_respond address limits record message permissive
            signedPreKey.pair (oneTimePreKey.map (·.pair)) message.preKeyId
          cases responds.symm.trans gives
          rw [Bool.not_eq_true] at unknown
          exact ⟨.signed version_eq unknown named signed_eq oneTime_eq, rfl, rfl, rfl, rfl⟩

theorem respondByPreKey_eq_ok (permissive : host.Permissive)
    {record accepted : SessionRecord} {message : PreKeyWhisperMessage} {used : Option UInt32}
    {id : UInt32} (gives : host.perform (respondByPreKey address limits record message id) =
      (.ok (accepted, used), after)) (version_eq : message.version = oldestVersion)
    (named : message.preKeyId = some id) :
    Accepted host.store address limits record message accepted
        (used.filter fun id => id ≠ lastResortId) ∧
      host.Becomes host.store 0 after := by
  rw [perform_respondByPreKey address limits record message permissive] at gives
  split at gives
  case h_1 => cases gives
  case h_2 preKey loaded =>
    obtain ⟨events, responds⟩ := perform_respond address limits record message permissive
      preKey.pair none (some id)
    cases responds.symm.trans gives
    rw [← named]
    exact ⟨.unsigned version_eq named loaded, rfl, rfl, rfl, rfl⟩

theorem processUnsignedHandshake_eq_ok (permissive : host.Permissive)
    {record accepted : SessionRecord} {message : PreKeyWhisperMessage} {used : Option UInt32}
    (gives : host.perform (processUnsignedHandshake address limits record message) =
      (.ok (accepted, used), after)) (version_eq : message.version = oldestVersion) :
    Accepted host.store address limits record message accepted
        (used.filter fun id => id ≠ lastResortId) ∧
      host.Becomes host.store 0 after := by
  cases named : message.preKeyId with
  | none =>
    unfold processUnsignedHandshake at gives
    rw [named] at gives
    cases gives
  | some id =>
    rw [perform_processUnsignedHandshake address limits record message permissive named] at gives
    split at gives
    case isTrue => exact respondByPreKey_eq_ok permissive gives version_eq named
    case isFalse absent =>
      split at gives
      case h_1 => cases gives
      case h_2 present =>
        cases gives
        rw [Bool.not_eq_true] at absent
        exact ⟨.gone version_eq named absent present, rfl, rfl, rfl, rfl⟩
      case h_3 => exact respondByPreKey_eq_ok permissive gives version_eq named

/-- A handshake that is taken comes from a trusted identity, and changes nothing but
the record that it is given. -/
theorem processHandshake_eq_ok (permissive : host.Permissive)
    {record accepted : SessionRecord} {message : PreKeyWhisperMessage} {used : Option UInt32}
    (gives : host.perform (processHandshake address limits record message) =
      (.ok (accepted, used), after)) :
    host.store.trusts address.name message.identity = true ∧
      Accepted host.store address limits record message accepted used ∧
      host.Becomes host.store 0 after := by
  unfold processHandshake at gives
  obtain ⟨_, _, checked, rest⟩ := Host.perform_bind_eq_ok.mp gives
  obtain ⟨trusted, rfl⟩ := checkTrusted_eq_ok permissive checked
  refine ⟨trusted, ?_⟩
  by_cases newer : message.version = currentVersion
  · rw [if_pos newer] at rest
    obtain ⟨⟨result, named⟩, _, processed, returned⟩ := Host.perform_bind_eq_ok.mp rest
    have outcome := processSignedHandshake_eq_ok permissive processed newer
    cases returned
    exact outcome
  · rw [if_neg newer] at rest
    by_cases older : message.version = oldestVersion
    · rw [if_pos older] at rest
      obtain ⟨⟨result, named⟩, _, processed, returned⟩ := Host.perform_bind_eq_ok.mp rest
      have outcome := processUnsignedHandshake_eq_ok permissive processed older
      cases returned
      exact outcome
    · rw [if_neg older] at rest
      cases rest

/-- Every handshake that can be taken is. -/
theorem perform_processHandshake (permissive : host.Permissive)
    {record accepted : SessionRecord} {message : PreKeyWhisperMessage} {used : Option UInt32}
    (trusted : host.store.trusts address.name message.identity = true)
    (accepts : Accepted host.store address limits record message accepted used) :
    ∃ events, host.perform (processHandshake address limits record message) =
      (.ok (accepted, used), { host with trace := { host.trace with events } }) := by
  have apart : oldestVersion ≠ currentVersion := by decide
  have signed := perform_processSignedHandshake address limits record message permissive
  unfold processHandshake
  rw [Host.perform_bind_of_ok (perform_checkTrusted permissive trusted)]
  cases accepts with
  | negotiated version_eq known =>
    rw [if_pos known] at signed
    rw [if_pos version_eq, Host.perform_bind_of_ok signed]
    exact ⟨_, rfl⟩
  | @signed id signedPreKey oneTimePreKey version_eq unknown named signed_eq oneTime_eq =>
    obtain ⟨events, responds⟩ := perform_respond address limits record message permissive
      signedPreKey.pair (oneTimePreKey.map (·.pair)) message.preKeyId
    simp only [unknown, Bool.false_eq_true, if_false, named, signed_eq, oneTime_eq] at signed
    rw [if_pos version_eq, Host.perform_bind_of_ok (signed.trans responds)]
    exact ⟨events, rfl⟩
  | @gone id version_eq named absent present =>
    have unsigned := perform_processUnsignedHandshake address limits record message permissive named
    rw [absent, present] at unsigned
    rw [version_eq, if_neg apart, if_pos rfl, Host.perform_bind_of_ok unsigned]
    exact ⟨_, rfl⟩
  | @unsigned id preKey version_eq named loaded =>
    have unsigned := perform_processUnsignedHandshake address limits record message permissive named
    rw [Store.contains_of_loadPreKey loaded, if_pos rfl,
      perform_respondByPreKey address limits record message permissive, loaded] at unsigned
    obtain ⟨events, responds⟩ := perform_respond address limits record message permissive
      preKey.pair none (some id)
    rw [version_eq, if_neg apart, if_pos rfl, Host.perform_bind_of_ok (unsigned.trans responds),
      named]
    exact ⟨events, rfl⟩

end Establishment
end DoubleRatchet
