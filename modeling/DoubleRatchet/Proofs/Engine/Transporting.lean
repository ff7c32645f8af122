import DoubleRatchet.Proofs.Engine.Handshake

namespace DoubleRatchet

/-!
# When a text is sealed and when a message opens

Sealing needs an established current state.  Opening needs some state of the
record that takes the message, a pin that agrees with the remote identity of
that state, and a callback that accepts the plaintext.  Where all of that holds,
the store holds the new record afterwards, and in the case of a first message the
pin of its sender and no longer the pre-key that its handshake used up.

Each operation is described in both directions.  The direction from success is
the one for invariants.  The direction to success is needed to show that an honest
message is opened, and is stated for the current state of the record only.
-/

variable {host after : Host} {address : Address} {limits : Limits}

namespace Transport

variable [Suite]

/-- Sealing stores the record with the sender chain of its current state moved on. -/
theorem encrypt_eq_ok (permissive : host.Permissive) {text : Bytes} {envelope : Envelope}
    (gives : host.perform (encrypt address text) = (.ok envelope, after)) :
    ∃ record sender state, host.store.loadSession address = .ok record ∧
      record.current.sender = some sender ∧
      record.current.sealText sender text = .ok (envelope, state) ∧
      host.Becomes (host.store.storeSession address { record with current := state }) 0 after := by
  unfold encrypt at gives
  obtain ⟨record, _, loaded, rest⟩ := Host.perform_bind_eq_ok.mp gives
  rw [Host.perform_loadSession permissive] at loaded
  obtain ⟨load, rfl⟩ := Prod.mk.inj loaded
  cases sending : record.current.sender with
  | none =>
    rw [sending] at rest
    cases rest
  | some sender =>
    rw [sending] at rest
    obtain ⟨⟨sealed, state⟩, _, first, rest⟩ := Host.perform_bind_eq_ok.mp rest
    obtain ⟨sealing, rfl⟩ := Host.perform_except_eq_ok.mp first
    dsimp only at rest
    rw [Host.perform_bind_of_ok (Host.perform_storeSession permissive _ _)] at rest
    cases rest
    exact ⟨record, sender, state, load, sending, sealing, rfl, rfl, rfl, rfl⟩

/-- A text that is not sealed leaves the host as it is. -/
theorem encrypt_eq_error (permissive : host.Permissive) {text : Bytes} {fault : Fault}
    (fails : host.perform (encrypt address text) = (.error fault, after)) : after = host := by
  unfold encrypt at fails
  have loaded := Host.perform_loadSession permissive address
  cases load : host.store.loadSession address with
  | error other =>
    rw [load] at loaded
    rw [Host.perform_bind_of_error loaded] at fails
    exact (Prod.mk.inj fails).2.symm
  | ok record =>
    rw [load] at loaded
    rw [Host.perform_bind_of_ok loaded] at fails
    cases sending : record.current.sender with
    | none =>
      rw [sending] at fails
      exact (Prod.mk.inj fails).2.symm
    | some sender =>
      rw [sending] at fails
      dsimp only at fails
      cases sealing : record.current.sealText sender text with
      | error other =>
        rw [sealing, Host.perform_bind_of_error (Host.perform_except _ _)] at fails
        exact (Prod.mk.inj fails).2.symm
      | ok result =>
        rw [sealing, Host.perform_bind_of_ok (Host.perform_except _ _),
          Host.perform_bind_of_ok (Host.perform_storeSession permissive _ _)] at fails
        cases fails

/-- An established current state can seal every text that the suite can seal. -/
theorem perform_encrypt (permissive : host.Permissive) {text : Bytes} {envelope : Envelope}
    {record : SessionRecord} {sender : SenderChain} {state : SessionState}
    (load : host.store.loadSession address = .ok record)
    (sending : record.current.sender = some sender)
    (sealing : record.current.sealText sender text = .ok (envelope, state)) :
    ∃ after, host.perform (encrypt address text) = (.ok envelope, after) ∧
      host.Becomes (host.store.storeSession address { record with current := state }) 0 after := by
  unfold encrypt
  have loaded := Host.perform_loadSession permissive address
  rw [load] at loaded
  rw [Host.perform_bind_of_ok loaded, sending]
  dsimp only
  rw [sealing, Host.perform_bind_of_ok (Host.perform_except _ _)]
  dsimp only
  rw [Host.perform_bind_of_ok (Host.perform_storeSession permissive _ _)]
  exact ⟨_, rfl, rfl, rfl, rfl, rfl⟩

/-! ## Opening a sealed message -/

/-- Opening a sealed message tries it on the record, and only then writes. -/
theorem decryptWhisper_tries (permissive : host.Permissive)
    {callback : Bytes -> Except Fault Unit} {message : WhisperMessage} {text : Bytes}
    (gives : host.perform (decryptWhisper address limits callback message) = (.ok text, after)) :
    ∃ record result last remote,
      host.store.loadSession address = .ok record ∧
      (record.current.established = true ∨ record.previous ≠ []) ∧
      record.openMessage limits address message host.trace = (.ok (text, result), last) ∧
      result.current.remoteIdentity = some remote ∧
      host.store.trusts address.name remote = true ∧
      callback text = .ok () ∧
      after.store = host.store.storeSession address result ∧
      after.refusal = host.refusal ∧ last.Continues 0 after.trace := by
  unfold decryptWhisper at gives
  obtain ⟨record, _, loaded, rest⟩ := Host.perform_bind_eq_ok.mp gives
  rw [Host.perform_loadSession permissive] at loaded
  obtain ⟨load, rfl⟩ := Prod.mk.inj loaded
  have present : (!record.current.established && record.previous.isEmpty) = false := by
    cases absent : !record.current.established && record.previous.isEmpty with
    | false => rfl
    | true =>
      rw [absent] at rest
      cases rest
  rw [present] at rest
  obtain ⟨⟨opened, result⟩, _, first, rest⟩ := Host.perform_bind_eq_ok.mp rest
  obtain ⟨last, opening, rfl⟩ := Host.perform_traced_eq_ok.mp first
  have still : ({ host with trace := last } : Host).Permissive := permissive
  obtain ⟨_, _, checked, rest⟩ := Host.perform_bind_eq_ok.mp rest
  obtain ⟨remote, known, trusted, rfl⟩ := checkSessionTrusted_eq_ok still checked
  obtain ⟨_, _, offered, rest⟩ := Host.perform_bind_eq_ok.mp rest
  rw [Host.perform_offer] at offered
  obtain ⟨accepted, rfl⟩ := Prod.mk.inj offered
  have kept : ({ host with offered := some opened, trace := last } : Host).Permissive := permissive
  rw [Host.perform_bind_of_ok (Host.perform_storeSession kept _ _)] at rest
  cases rest
  have ready : record.current.established = true ∨ record.previous ≠ [] := by
    rw [Bool.and_eq_false_iff, Bool.not_eq_false', List.isEmpty_eq_false_iff] at present
    exact present
  exact ⟨record, result, last, remote, load, ready, opening, known, trusted, accepted, rfl, rfl,
    rfl, rfl⟩

/-- Opening a sealed message stores the record as it took the message. -/
theorem decryptWhisper_eq_ok (permissive : host.Permissive)
    {callback : Bytes -> Except Fault Unit} {message : WhisperMessage} {text : Bytes}
    (gives : host.perform (decryptWhisper address limits callback message) = (.ok text, after)) :
    ∃ record result skipped draws middle remote,
      host.store.loadSession address = .ok record ∧
      (record.current.established = true ∨ record.previous ≠ []) ∧
      host.trace.Continues skipped middle ∧
      record.Opened limits middle.nextPair message text draws result ∧
      result.current.remoteIdentity = some remote ∧
      host.store.trusts address.name remote = true ∧
      callback text = .ok () ∧
      host.Becomes (host.store.storeSession address result) (skipped + draws) after := by
  obtain ⟨record, result, last, remote, load, ready, opening, known, trusted, accepted, stored,
    refusal_eq, late⟩ := decryptWhisper_tries permissive gives
  obtain ⟨skipped, draws, middle, before, opened, behind⟩ :=
    SessionRecord.opened_of_openMessage opening
  exact ⟨record, result, skipped, draws, middle, remote, load, ready, before, opened, known,
    trusted, accepted, stored, refusal_eq, (before.trans behind).trans late⟩

/-- What a record opens is taken where the state that took it is of a trusted identity. -/
theorem perform_decryptWhisper_of_openMessage (permissive : host.Permissive)
    {message : WhisperMessage} {text : Bytes} {record result : SessionRecord} {later : Trace}
    {draws : Nat} {remote : IdentityKey} (load : host.store.loadSession address = .ok record)
    (ready : record.current.established = true)
    (opening : record.openMessage limits address message host.trace = (.ok (text, result), later))
    (continues : host.trace.Continues draws later)
    (known : result.current.remoteIdentity = some remote)
    (trusted : host.store.trusts address.name remote = true) :
    ∃ after, host.perform (decryptWhisper address limits (fun _ => .ok ()) message) =
        (.ok text, after) ∧
      host.Becomes (host.store.storeSession address result) draws after := by
  unfold decryptWhisper
  have loaded := Host.perform_loadSession permissive address
  rw [load] at loaded
  rw [Host.perform_bind_of_ok loaded, ready]
  have opened : host.perform (monadLift (record.openMessage limits address message) :
      Engine (Bytes × SessionRecord)) =
        (.ok (text, result), { host with trace := later }) :=
    Host.perform_traced_eq_ok.mpr ⟨later, opening, rfl⟩
  have still : ({ host with trace := later } : Host).Permissive := permissive
  have kept : ({ host with offered := some text, trace := later } : Host).Permissive := permissive
  refine ⟨{ host with
    store := host.store.storeSession address result
    offered := some text
    trace := later }, ?_, rfl, rfl, continues⟩
  change host.perform (monadLift (record.openMessage limits address message) >>= _) = _
  rw [Host.perform_bind_of_ok opened]
  dsimp only
  rw [Host.perform_bind_of_ok (perform_checkSessionTrusted still known trusted),
    Host.perform_bind_of_ok (Host.perform_offer _ _ _),
    Host.perform_bind_of_ok (Host.perform_storeSession kept _ _)]
  rfl

/-- An established current state opens what it has the keys of. -/
theorem perform_decryptWhisper (permissive : host.Permissive)
    {message : WhisperMessage} {text : Bytes} {record : SessionRecord} {taken : SessionState}
    {remote : IdentityKey} (load : host.store.loadSession address = .ok record)
    (takes : record.current.Takes limits host.trace.nextPair message text taken)
    (known : taken.remoteIdentity = some remote)
    (trusted : host.store.trusts address.name remote = true) :
    ∃ after, host.perform (decryptWhisper address limits (fun _ => .ok ()) message) =
        (.ok text, after) ∧
      host.Becomes (host.store.storeSession address { record with current := taken })
        (record.current.drawsFor message.ratchetKey) after := by
  have established : record.current.established = true := by
    obtain ⟨_, _, _, _, _, opens, _⟩ := takes
    exact opens.established
  obtain ⟨later, opening, continues⟩ :=
    SessionRecord.openMessage_of_takes address takes
  exact perform_decryptWhisper_of_openMessage permissive load established opening continues known
    trusted

/-! ## Opening a first message -/

/-- The store after a first message: the pre-key is used up and the sender pinned. -/
def settle (store : Store) (name : String) (identity : IdentityKey) (used : Option UInt32) :
    Store :=
  (used.elim store store.removePreKey).pin name identity

omit [Suite] in
variable (address) in
theorem perform_settling (permissive : host.Permissive) (identity : IdentityKey)
    (used : Option UInt32) (result : SessionRecord) (text : Bytes) :
    ∃ events, host.perform (do
        match used with
        | none => pure ()
        | some id =>
          Host.removePreKey id
          Trace.report (.preKeyConsumed id address)
        discard <| Host.saveIdentity address.name identity
        Host.storeSession address result
        return text) =
      (.ok text, { host with
        store := (settle host.store address.name identity used).storeSession address result
        trace := { host.trace with events } }) := by
  have writes : ∀ {current : Host}, current.Permissive → ∃ events, current.perform (do
        discard <| Host.saveIdentity address.name identity
        Host.storeSession address result
        return text) =
      (.ok text, { current with
        store := (current.store.pin address.name identity).storeSession address result
        trace := { current.trace with events } }) := by
    intro current still
    obtain ⟨events, pinned⟩ := Host.perform_pinning still address.name identity
    have kept : ({ current with
        store := current.store.pin address.name identity
        trace := { current.trace with events } } : Host).Permissive := still
    rw [Host.perform_bind_of_ok pinned,
      Host.perform_bind_of_ok (Host.perform_storeSession kept _ _)]
    exact ⟨events, rfl⟩
  cases used with
  | none => exact writes permissive
  | some id =>
    change ∃ events, host.perform (Host.removePreKey id >>= fun _ =>
      (monadLift (Trace.report (.preKeyConsumed id address)) : Engine Unit) >>= _) = _
    rw [Host.perform_bind_of_ok (Host.perform_removePreKey permissive id),
      Host.perform_bind_of_ok (Host.perform_report _ _)]
    exact writes permissive

/-- Opening a first message takes its handshake, tries the embedded message on the record that
this gives, and only then writes. -/
theorem decryptPreKeyWhisper_tries (permissive : host.Permissive)
    {callback : Bytes -> Except Fault Unit} {message : PreKeyWhisperMessage} {text : Bytes}
    (gives : host.perform (decryptPreKeyWhisper address limits callback message) =
      (.ok text, after)) :
    ∃ record accepted used result handed last remote,
      host.store.loadSession address = .ok record ∧
      host.store.trusts address.name message.identity = true ∧
      Establishment.Accepted host.store address limits record message accepted used ∧
      host.trace.Continues 0 handed ∧
      accepted.openMessage limits address message.message handed = (.ok (text, result), last) ∧
      result.current.remoteIdentity = some remote ∧
      host.store.trusts address.name remote = true ∧
      callback text = .ok () ∧
      after.store = (settle host.store address.name message.identity used).storeSession address
        result ∧
      after.refusal = host.refusal ∧ last.Continues 0 after.trace := by
  unfold decryptPreKeyWhisper at gives
  obtain ⟨record, _, loaded, rest⟩ := Host.perform_bind_eq_ok.mp gives
  rw [Host.perform_loadSession permissive] at loaded
  obtain ⟨load, rfl⟩ := Prod.mk.inj loaded
  obtain ⟨⟨accepted, used⟩, handed, processed, rest⟩ := Host.perform_bind_eq_ok.mp rest
  obtain ⟨trusted, accepts, becomes⟩ := Establishment.processHandshake_eq_ok permissive processed
  have still : handed.Permissive := becomes.permissive permissive
  obtain ⟨⟨opened, result⟩, _, first, rest⟩ := Host.perform_bind_eq_ok.mp rest
  obtain ⟨last, opening, rfl⟩ := Host.perform_traced_eq_ok.mp first
  have kept : ({ handed with trace := last } : Host).Permissive := still
  obtain ⟨_, _, checked, rest⟩ := Host.perform_bind_eq_ok.mp rest
  obtain ⟨remote, known, remoteTrusted, rfl⟩ := checkSessionTrusted_eq_ok kept checked
  obtain ⟨_, _, offered, rest⟩ := Host.perform_bind_eq_ok.mp rest
  rw [Host.perform_offer] at offered
  obtain ⟨agreed, rfl⟩ := Prod.mk.inj offered
  have offeredStill : ({ handed with offered := some opened, trace := last } : Host).Permissive :=
    still
  obtain ⟨events, settling⟩ := perform_settling address offeredStill message.identity
    used result opened
  cases settling.symm.trans rest
  have spent : handed.store = host.store := becomes.store_eq
  rw [spent] at remoteTrusted
  refine ⟨record, accepted, used, result, handed.trace, last, remote, load, trusted, accepts,
    becomes.continues, opening, known, remoteTrusted, agreed, ?_, becomes.refusal_eq, rfl, rfl⟩
  change (settle handed.store _ _ _).storeSession _ _ = _
  rw [spent]

/-- Opening a first message takes its handshake, opens the embedded message and
only then writes. -/
theorem decryptPreKeyWhisper_eq_ok (permissive : host.Permissive)
    {callback : Bytes -> Except Fault Unit} {message : PreKeyWhisperMessage} {text : Bytes}
    (gives : host.perform (decryptPreKeyWhisper address limits callback message) =
      (.ok text, after)) :
    ∃ record accepted used result skipped draws middle remote,
      host.store.loadSession address = .ok record ∧
      host.store.trusts address.name message.identity = true ∧
      Establishment.Accepted host.store address limits record message accepted used ∧
      host.trace.Continues skipped middle ∧
      accepted.Opened limits middle.nextPair message.message text draws result ∧
      result.current.remoteIdentity = some remote ∧
      host.store.trusts address.name remote = true ∧
      callback text = .ok () ∧
      host.Becomes ((settle host.store address.name message.identity used).storeSession address
        result) (skipped + draws) after := by
  obtain ⟨record, accepted, used, result, handed, last, remote, load, trusted, accepts, early,
    opening, known, remoteTrusted, agreed, stored, refusal_eq, late⟩ :=
    decryptPreKeyWhisper_tries permissive gives
  obtain ⟨skipped, draws, middle, before, opened, behind⟩ :=
    SessionRecord.opened_of_openMessage opening
  have reached : host.trace.Continues skipped middle := by
    have whole := early.trans before
    rw [Nat.zero_add] at whole
    exact whole
  exact ⟨record, accepted, used, result, skipped, draws, middle, remote, load, trusted, accepts,
    reached, opened, known, remoteTrusted, agreed, stored, refusal_eq,
    (reached.trans behind).trans late⟩

/-- What the record of a handshake opens is taken where the state that took it is of a trusted
identity.  The handshake may report something before the record is asked. -/
theorem perform_decryptPreKeyWhisper_of_openMessage (permissive : host.Permissive)
    {message : PreKeyWhisperMessage} {text : Bytes} {record accepted result : SessionRecord}
    {used : Option UInt32} {draws : Nat} {remote : IdentityKey}
    (load : host.store.loadSession address = .ok record)
    (trusted : host.store.trusts address.name message.identity = true)
    (accepts : Establishment.Accepted host.store address limits record message accepted used)
    (opens : ∀ events, ∃ last, accepted.openMessage limits address message.message
      { host.trace with events } = (.ok (text, result), last) ∧ host.trace.Continues draws last)
    (known : result.current.remoteIdentity = some remote)
    (remoteTrusted : host.store.trusts address.name remote = true) :
    ∃ after, host.perform (decryptPreKeyWhisper address limits (fun _ => .ok ()) message) =
        (.ok text, after) ∧
      host.Becomes ((settle host.store address.name message.identity used).storeSession address
        result) draws after := by
  unfold decryptPreKeyWhisper
  have loaded := Host.perform_loadSession permissive address
  rw [load] at loaded
  obtain ⟨events, processed⟩ :=
    Establishment.perform_processHandshake permissive trusted accepts
  obtain ⟨last, opening, continues⟩ := opens events
  have opened : ({ host with trace := { host.trace with events } } : Host).perform
      (monadLift (accepted.openMessage limits address message.message) :
        Engine (Bytes × SessionRecord)) =
      (.ok (text, result), { host with trace := last }) :=
    Host.perform_traced_eq_ok.mpr ⟨last, opening, rfl⟩
  have still : ({ host with trace := last } : Host).Permissive := permissive
  have kept : ({ host with offered := some text, trace := last } : Host).Permissive := permissive
  obtain ⟨settledEvents, settling⟩ := perform_settling address kept message.identity
    used result text
  refine ⟨{ host with
    store := (settle host.store address.name message.identity used).storeSession address result
    offered := some text
    trace := { last with events := settledEvents } }, ?_, rfl, rfl,
    continues.entropy_eq, continues.drawn_eq⟩
  rw [Host.perform_bind_of_ok loaded, Host.perform_bind_of_ok processed]
  dsimp only
  rw [Host.perform_bind_of_ok opened]
  dsimp only
  rw [Host.perform_bind_of_ok (perform_checkSessionTrusted still known remoteTrusted),
    Host.perform_bind_of_ok (Host.perform_offer _ _ _)]
  exact settling

/-- A first message opens where its handshake is taken and the current state of the
record that this gives has its keys. -/
theorem perform_decryptPreKeyWhisper (permissive : host.Permissive)
    {message : PreKeyWhisperMessage} {text : Bytes} {record accepted : SessionRecord}
    {used : Option UInt32} {taken : SessionState} {remote : IdentityKey}
    (load : host.store.loadSession address = .ok record)
    (trusted : host.store.trusts address.name message.identity = true)
    (accepts : Establishment.Accepted host.store address limits record message accepted used)
    (takes : accepted.current.Takes limits host.trace.nextPair message.message text taken)
    (known : taken.remoteIdentity = some remote)
    (remoteTrusted : host.store.trusts address.name remote = true) :
    ∃ after, host.perform (decryptPreKeyWhisper address limits (fun _ => .ok ()) message) =
        (.ok text, after) ∧
      host.Becomes ((settle host.store address.name message.identity used).storeSession address
        { accepted with current := taken })
        (accepted.current.drawsFor message.message.ratchetKey) after := by
  apply perform_decryptPreKeyWhisper_of_openMessage permissive load trusted accepts _ known
    remoteTrusted
  intro events
  have tries : accepted.current.Takes limits ({ host.trace with events } : Trace).nextPair
      message.message text taken := takes
  obtain ⟨last, opening, continues⟩ := SessionRecord.openMessage_of_takes address tries
  exact ⟨last, opening, continues.entropy_eq, continues.drawn_eq⟩

end Transport
end DoubleRatchet
