import DoubleRatchet.Proofs.Engine.Seeding
import DoubleRatchet.Proofs.Turning

namespace DoubleRatchet

/-!
# Replays

A message that was taken once is refused as a duplicate from then on.  For a state
this is a statement about runs: it holds as long as the state keeps the receiver
chain of the message.  For a store it is a statement about the next delivery of the
same message, and there it covers the whole of a decryption: which state of the
record is asked first, what becomes of the archive, and whether the handshake of a
first message is taken once more.

The older version of the handshake is left out of the second statement.  It is
known by its pre-key, which a host can store again under the same id.

The last counter of a chain is left out of both.  Behind it the index of the chain
starts over, and the chain no longer knows what it has served.
-/

namespace SessionState

variable [Suite]

end SessionState

namespace SessionRecord

variable [Suite] {limits : Limits} {record result : SessionRecord}

/-- The state that took a message is in front, and has shut the place of the message. -/
theorem Guarded.shut {trace : Trace} {message : WhisperMessage} {text : Bytes} {draws : Nat}
    (guarded : record.Guarded limits) (notLast : message.counter < lastCounter)
    (opened : record.Opened limits trace.nextPair message text draws result) :
    result.current.Shut message.version message.ratchetKey message.counter := by
  have shuts : ∀ {state taken : SessionState}, state.Produced →
      state.Takes limits trace.nextPair message text taken →
      taken.Shut message.version message.ratchetKey message.counter := by
    intro state taken produced takes
    obtain ⟨_, gives, _⟩ := (SessionState.openMessage_eq_ok default).mpr takes
    exact produced.orderly.shut notLast gives
  cases opened with
  | current takes => exact shuts (guarded.produced _ List.mem_cons_self) takes
  | archived found takes =>
    have member := List.mem_cons_of_mem record.current (List.mem_of_getElem? found)
    exact shuts (guarded.produced _ member) takes

/-- A record whose current state has shut the place of a message refuses the message. -/
theorem openMessage_of_shut (record : SessionRecord) (limits : Limits) (address : Address)
    {message : WhisperMessage} (trace : Trace)
    (shut : record.current.Shut message.version message.ratchetKey message.counter) :
    ∃ index, record.openMessage limits address message trace =
      (.error (.duplicate index message.counter), trace) := by
  obtain ⟨index, refused⟩ := shut.refuses.openMessage limits address trace shut.present
    shut.established shut.version_eq.symm
  exact ⟨index, openMessage_of_duplicate refused⟩

end SessionRecord

namespace Transport

variable [Suite] {limits : Limits} {address : Address} {host after : Host} {text : Bytes}

/-- A first message that was opened is refused at its next delivery, if its handshake is known
by then: by its base key in the newer version, and by a pre-key that is gone in the older one. -/
theorem decryptPreKeyWhisper_again {message : PreKeyWhisperMessage}
    {callback : Bytes -> Except Fault Unit} (again : Bytes -> Except Fault Unit)
    (reachable : Store.Reachable limits host.store) (permissive : host.Permissive)
    (forgetful : message.version = currentVersion ∨
      message.version = oldestVersion ∧ message.preKeyId ≠ some lastResortId)
    (notLast : message.message.counter < lastCounter)
    (gives : host.perform (decryptPreKeyWhisper address limits callback message) =
      (.ok text, after)) :
    ∃ index later, after.perform (decryptPreKeyWhisper address limits again message) =
      (.error (.duplicate index message.message.counter), later) ∧ later.store = after.store := by
  obtain ⟨record, accepted, used, result, _, _, _, _, load, _, accepts, _, opened, _, _, _,
    becomes⟩ := decryptPreKeyWhisper_eq_ok permissive gives
  have guarded := Store.guarded_accepted (reachable.guarded _ _ load) accepts
  have shut := guarded.shut notLast opened
  have still : after.Permissive := becomes.permissive permissive
  have reload : after.store.loadSession address = .ok result.settled := by
    rw [becomes.store_eq]
    exact Store.loadSession_storeSession_self ..
  have trusted : after.store.trusts address.name message.identity = true := by
    rw [becomes.store_eq]
    exact Store.trusts_pin ..
  have preKeys_eq : after.store.preKeys =
      (used.elim host.store host.store.removePreKey).preKeys := by
    rw [becomes.store_eq]
    exact Store.preKeys_settle host.store address.name message.identity used
  have present : after.store.containsSession address = .ok true := by
    rw [Store.containsSession_eq reload]
    exact congrArg Except.ok shut.established
  have known : Establishment.Accepted after.store address limits result.settled message
      result.settled none := by
    rcases forgetful with newer | ⟨older, notLastResort⟩
    · have negotiated : result.hasSession message.version message.baseKey = true :=
        guarded.hasSession_opened opened (accepts.hasSession newer)
      exact .negotiated newer negotiated
    · cases accepts with
      | negotiated version_eq => exact absurd (older.symm.trans version_eq) (by decide)
      | signed version_eq => exact absurd (older.symm.trans version_eq) (by decide)
      | @gone id _ named absent =>
        refine .gone older named ?_ present
        rw [preKeys_eq]
        exact absent
      | @unsigned id _ _ named loaded =>
        refine .gone older named ?_ present
        have spent : (message.preKeyId.filter fun id => id ≠ lastResortId) = some id := by
          rw [named] at notLastResort ⊢
          exact Option.filter_some_pos (decide_eq_true fun same => notLastResort (congrArg _ same))
        rw [preKeys_eq, spent]
        exact Store.contains_removePreKey_self ..
  obtain ⟨events, processed⟩ := Establishment.perform_processHandshake still trusted known
  obtain ⟨index, refused⟩ := SessionRecord.openMessage_of_shut result.settled limits address
    { after.trace with events } shut
  refine ⟨index, { after with trace := { after.trace with events } }, ?_, rfl⟩
  have loaded := Host.perform_loadSession still address
  rw [reload] at loaded
  unfold decryptPreKeyWhisper
  rw [Host.perform_bind_of_ok loaded, Host.perform_bind_of_ok processed]
  apply Host.perform_bind_of_error
  rw [Host.perform_traced, refused]

end Transport
section Scene

open Scene

attribute [local instance] plainSuite

end Scene
end DoubleRatchet
