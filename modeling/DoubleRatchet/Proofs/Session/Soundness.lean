import DoubleRatchet.Proofs.Message.Reading
import DoubleRatchet.Proofs.Session.Decider
import DoubleRatchet.Proofs.Session.Receivers
import DoubleRatchet.Proofs.Session.Sealing

namespace DoubleRatchet

/-!
# States that have all of their parts

A session state exists before its session does, so each of its parts may be absent, and every
operation that needs one has to ask for it.  But the parts come together.  A state that can
send has a root key and both identities and is of a version that is spoken, and a state that
cannot has none of what a session leaves behind.  Its lists and caches are within their limits
in either case.

Sealing and opening keep this up, and a state for which it holds never lacks what it is asked
for.  Opening a message gives its text or refuses the message, provided that the limits leave
room for a receiver chain, and sealing fails only where the cipher does.
-/

variable [Suite]

namespace ReceiverChain

variable {chain : ReceiverChain} {served : Served} {forwardJumps capacity : Nat}
  {counter : UInt32} {reason : StateFault}

theorem sound_skip (sound : chain.skipped.Sound capacity) (count : Nat) :
    (chain.skip capacity count).1.skipped.Sound capacity := by
  induction count generalizing chain with
  | zero => exact sound
  | succ count ih => exact ih (sound.insert chain.chainKey.messageKeys)

theorem sound_served (sound : chain.skipped.Sound capacity)
    (serves : chain.serve forwardJumps capacity counter = .ok served) :
    served.chain.skipped.Sound capacity := by
  rcases serve_eq_ok serves with ⟨_, _, result⟩ | ⟨_, _, _, result⟩
  · rw [result]
    exact sound.erase counter
  · rw [result]
    exact sound_skip sound _

/-- A chain refuses a counter, and has no complaint about the state that it belongs to. -/
theorem serve_ne_invalidState :
    chain.serve forwardJumps capacity counter ≠ .error (.invalidState reason) := by
  intro fails
  simp only [serve] at fails
  split at fails
  · split at fails
    · cases fails
    · cases fails
  · split at fails
    · cases fails
    · cases fails

end ReceiverChain

namespace SessionState

omit [Suite] in
/-- The state has every part that a session needs. -/
structure Whole (state : SessionState) : Prop where
  rooted : state.rootKey.isSome = true
  ours : state.localIdentity.isSome = true
  theirs : state.remoteIdentity.isSome = true
  spoken : Message.Spoken state.storedVersion

omit [Suite] in
/-- What is always true of a state under some limits. -/
structure Sound (limits : Limits) (state : SessionState) : Prop where
  distinct : (state.receivers.map (·.ratchetKey)).Nodup
  few : state.receivers.length ≤ limits.receiverChains
  filed : ∀ chain ∈ state.receivers, chain.skipped.Sound limits.messageKeys
  whole : state.established = true → state.Whole
  /-- Without a session there is nothing that a session leaves behind. -/
  bare : state.established = false →
    state.receivers = [] ∧ state.rootKey = none ∧ state.initiatorBaseKey = none

variable {limits : Limits} {state chained taken : SessionState} {ours : KeyPair}
  {message : WhisperMessage} {theirs : PublicKey} {text : Bytes} {reason : StateFault}

omit [Suite] in
theorem sound_empty (limits : Limits) : empty.Sound limits where
  distinct := List.nodup_nil
  few := Nat.zero_le _
  filed := fun _ member => nomatch member
  whole := fun established => nomatch established
  bare := fun _ => ⟨rfl, rfl, rfl⟩

omit [Suite] in
theorem Sound.awaiting (sound : state.Sound limits) (pending : PendingExchange) :
    ({ state with pendingExchange := some pending } : SessionState).Sound limits where
  distinct := sound.distinct
  few := sound.few
  filed := sound.filed
  whole := fun established =>
    ⟨(sound.whole established).rooted, (sound.whole established).ours,
      (sound.whole established).theirs, (sound.whole established).spoken⟩
  bare := sound.bare

theorem Sound.sent (sound : state.Sound limits) {sender : SenderChain}
    (sending : state.sender = some sender) : (state.sent sender).Sound limits where
  distinct := sound.distinct
  few := sound.few
  filed := sound.filed
  whole := by
    intro _
    have whole : state.Whole := sound.whole (by rw [established, sending]; rfl)
    exact ⟨whole.rooted, whole.ours, whole.theirs, whole.spoken⟩
  bare := fun unestablished => nomatch unestablished

/-- A step of the agreement ratchet leaves a sound state. -/
theorem Sound.reached (sound : state.Sound limits) (established : state.established = true)
    (reached : state.Chained limits ours theirs chained) : chained.Sound limits := by
  cases reached with
  | known present => exact sound
  | stepped root sender absent rooted sending =>
    have whole := sound.whole established
    constructor
    · exact distinct_addReceiver sound.distinct absent _ _
    · exact length_addReceiver_le state theirs _ _
    · intro chain member
      rcases mem_addReceiver member with before | rfl
      · exact sound.filed chain before
      · exact SkippedKeys.sound_empty _
    · exact fun _ => ⟨rfl, whole.ours, whole.theirs, whole.spoken⟩
    · exact fun unestablished => nomatch unestablished

/-- A state that has taken a message is sound again. -/
theorem Sound.takes (sound : state.Sound limits)
    (takes : state.Takes limits ours message text taken) : taken.Sound limits := by
  obtain ⟨chained, chain, served, _, _, opens, rfl⟩ := takes
  have reached := sound.reached opens.established opens.reached
  have member := (mem_of_receiver?_eq_some opens.chain_eq).1
  have keys : ((chained.taken served.chain).receivers.map (·.ratchetKey)) =
      chained.receivers.map (·.ratchetKey) := ReceiverChain.map_ratchetKey_replaceIn ..
  have count : (chained.taken served.chain).receivers.length = chained.receivers.length := by
    have lengths := congrArg List.length keys
    rwa [List.length_map, List.length_map] at lengths
  have established := opens.reached.established opens.established
  have whole := reached.whole established
  constructor
  · rw [keys]
    exact reached.distinct
  · rw [count]
    exact reached.few
  · intro other put
    rcases ReceiverChain.mem_of_mem_replaceIn put with rfl | before
    · exact ReceiverChain.sound_served (reached.filed chain member) opens.served_eq
    · exact reached.filed other before
  · exact fun _ => ⟨whole.rooted, whole.ours, whole.theirs, whole.spoken⟩
  · intro unestablished
    rw [show (chained.taken served.chain).established = true from established] at unestablished
    cases unestablished

/-! ## What a sound state is asked for -/

/-- A sound state with a session has, or can open, a chain for every ratchet key. -/
theorem Sound.chain_eq (sound : state.Sound limits) (room : 0 < limits.receiverChains)
    (established : state.established = true) (ours : KeyPair) (theirs : PublicKey) :
    ∃ chained chain, state.Chained limits ours theirs chained ∧
      chained.receiver? theirs = some chain := by
  cases found : state.receiver? theirs with
  | some chain => exact ⟨state, chain, .known (by rw [found]; rfl), found⟩
  | none =>
    obtain ⟨root, rooted⟩ := Option.isSome_iff_exists.mp (sound.whole established).rooted
    obtain ⟨sender, sending⟩ := Option.isSome_iff_exists.mp established
    exact ⟨_, _, .stepped root sender found rooted sending, receiver?_ratchet ours found room⟩

/-- Behind the chain for its ratchet key, opening a message asks for both identities. -/
theorem openFrom_ne_invalidState {chain : ReceiverChain} {trace later : Trace}
    (found : chained.receiver? message.ratchetKey = some chain) (whole : chained.Whole) :
    chained.openFrom limits message trace ≠ (.error (.invalidState reason), later) := by
  intro fails
  rcases sequence_eq_error.mp fails with refused | ⟨⟨keys, served⟩, middle, serves, fails⟩
  · simp only [serve, found] at refused
    rcases sequence_eq_error.mp refused with unserved | ⟨_, _, _, impossible⟩
    · exact ReceiverChain.serve_ne_invalidState (congrArg Prod.fst unserved)
    · cases impossible
  · obtain ⟨_, result, _, _, rfl, rfl⟩ := serve_eq_ok serves
    obtain ⟨own, own_eq⟩ := Option.isSome_iff_exists.mp whole.ours
    obtain ⟨remote, remote_eq⟩ := Option.isSome_iff_exists.mp whole.theirs
    have remoteFound : (chained.putReceiver result.chain).requireRemoteIdentity = .ok remote :=
      require_eq_ok.mpr remote_eq
    have localFound : (chained.putReceiver result.chain).requireLocalIdentity = .ok own :=
      require_eq_ok.mpr own_eq
    dsimp only at fails
    rw [sequence_of_ok (lift_eq_ok.mpr ⟨remoteFound, rfl⟩),
      sequence_of_ok (lift_eq_ok.mpr ⟨localFound, rfl⟩)] at fails
    rcases sequence_eq_error.mp fails with untrue | ⟨_, _, _, sealedShut⟩
    · have refused := congrArg Prod.fst untrue
      change message.checkTag _ _ _ = _ at refused
      simp only [WhisperMessage.checkTag] at refused
      split at refused
      · cases refused
      · cases refused
    · cases unsealed : result.keys.unseal? message.body with
      | none =>
        rw [unsealed] at sealedShut
        cases sealedShut
      | some opened =>
        rw [unsealed] at sealedShut
        cases sealedShut

/-- Opening a message never finds a part of a sound state missing. -/
theorem Sound.openMessage_ne_invalidState (sound : state.Sound limits)
    (room : 0 < limits.receiverChains) (address : Address) (message : WhisperMessage)
    (trace later : Trace) :
    state.openMessage limits address message trace ≠ (.error (.invalidState reason), later) := by
  intro fails
  by_cases ready : state.established = true ∧ message.version = state.version
  · obtain ⟨established, sameVersion⟩ := ready
    obtain ⟨chained, chain, reached, found⟩ :=
      sound.chain_eq room established trace.nextPair message.ratchetKey
    obtain ⟨middle, gives, _⟩ := openChain_of_chained address reached
    have whole := (sound.reached established reached).whole (reached.established established)
    rw [openMessage_eq established sameVersion, sequence_of_ok gives] at fails
    exact openFrom_ne_invalidState found whole fails
  · simp only [openMessage] at fails
    cases established : state.established with
    | false =>
      rw [established] at fails
      cases fails
    | true =>
      have different : message.version ≠ state.version := fun same => ready ⟨established, same⟩
      rw [established, if_pos different] at fails
      cases fails

/-- Sealing fails only where the cipher does. -/
theorem Sound.sealText_eq_error (sound : state.Sound limits) {sender : SenderChain}
    (sending : state.sender = some sender) {fault : Fault}
    (fails : state.sealText sender text = .error fault) :
    fault = .invalidState .sealing ∧ sender.chainKey.messageKeys.seal? text = none := by
  have whole : state.Whole := sound.whole (by rw [established, sending]; rfl)
  obtain ⟨own, own_eq⟩ := Option.isSome_iff_exists.mp whole.ours
  obtain ⟨remote, remote_eq⟩ := Option.isSome_iff_exists.mp whole.theirs
  cases closed : sender.chainKey.messageKeys.seal? text with
  | some body =>
    rw [sealText_of_sealed own_eq remote_eq closed] at fails
    cases fails
  | none =>
    have localFound : state.requireLocalIdentity = .ok own := require_eq_ok.mpr own_eq
    have remoteFound : state.requireRemoteIdentity = .ok remote := require_eq_ok.mpr remote_eq
    simp only [sealText, localFound, remoteFound, closed] at fails
    cases fails
    exact ⟨rfl, rfl⟩

end SessionState

namespace SessionRecord

omit [Suite] in
/-- What is always true of a record under some limits. -/
structure Sound (limits : Limits) (record : SessionRecord) : Prop where
  bounded : record.previous.length ≤ limits.archivedStates
  archived : ∀ state ∈ record.previous, state.established = true
  states : ∀ state ∈ record.states, state.Sound limits

variable {limits : Limits} {record result : SessionRecord} {state : SessionState}
  {message : WhisperMessage} {reason : StateFault} {trace later : Trace}

omit [Suite] in
theorem sound_new (limits : Limits) : new.Sound limits where
  bounded := Nat.zero_le _
  archived := fun _ member => nomatch member
  states := by
    intro state member
    rw [List.mem_singleton.mp member]
    exact SessionState.sound_empty limits

omit [Suite] in
theorem Sound.promote (sound : record.Sound limits) (front : state.Sound limits) :
    (record.promote state limits.archivedStates).Sound limits where
  bounded := length_previous_promote_le sound.bounded state
  archived := by
    intro other member
    simp only [SessionRecord.promote] at member
    split at member
    · next established =>
      rcases List.mem_cons.mp (List.mem_of_mem_take member) with rfl | archived
      · exact established
      · exact sound.archived other archived
    · exact sound.archived other member
  states := by
    intro other member
    rcases mem_states_promote member with rfl | before
    · exact front
    · exact sound.states other before

omit [Suite] in
theorem Sound.removePrevious (sound : record.Sound limits) (place : Nat) :
    (record.removePrevious place).Sound limits where
  bounded := Nat.le_trans (List.length_eraseIdx_le ..) sound.bounded
  archived := fun other member => sound.archived other (List.mem_of_mem_eraseIdx member)
  states := by
    intro other member
    rcases List.mem_cons.mp member with rfl | archived
    · exact sound.states _ List.mem_cons_self
    · exact sound.states other (List.mem_cons_of_mem _ (List.mem_of_mem_eraseIdx archived))

omit [Suite] in
theorem Sound.replace (sound : record.Sound limits) (front : state.Sound limits) :
    ({ record with current := state } : SessionRecord).Sound limits where
  bounded := sound.bounded
  archived := sound.archived
  states := by
    intro other member
    rcases List.mem_cons.mp member with rfl | archived
    · exact front
    · exact sound.states other (List.mem_cons_of_mem _ archived)

/-- A record that has opened a message is sound again, and its current state has a session. -/
theorem Sound.opened {ours : KeyPair} {text : Bytes} {draws : Nat} (sound : record.Sound limits)
    (opened : record.Opened limits ours message text draws result) :
    result.Sound limits ∧ result.current.established = true := by
  cases opened with
  | current takes =>
    exact ⟨sound.replace ((sound.states _ List.mem_cons_self).takes takes), takes.established⟩
  | archived found takes =>
    have member := List.mem_cons_of_mem record.current (List.mem_of_getElem? found)
    exact ⟨(sound.removePrevious _).promote ((sound.states _ member).takes takes),
      takes.established⟩

/-- A sound record opens the message or refuses it. -/
theorem Sound.openMessage_ne_invalidState (sound : record.Sound limits)
    (room : 0 < limits.receiverChains) (address : Address) (message : WhisperMessage)
    (trace later : Trace) :
    record.openMessage limits address message trace ≠ (.error (.invalidState reason), later) := by
  intro fails
  rcases fault_of_openMessage fails with impossible | ⟨state, member, refuses⟩
  · cases impossible
  · obtain ⟨_, failed⟩ := SessionState.openMessage_of_verdict_error address refuses trace
    exact (sound.states state member).openMessage_ne_invalidState room _ _ _ _ failed

end SessionRecord
end DoubleRatchet
