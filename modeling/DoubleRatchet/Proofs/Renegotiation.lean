import DoubleRatchet.Proofs.Engine.Records
import DoubleRatchet.Proofs.Engine.Seeding
import DoubleRatchet.Proofs.Replay

namespace DoubleRatchet

/-!
# Handshakes that come again

Every first message carries the handshake until it is answered, so the same handshake comes
several times, and a message can be delivered twice.  In the newer version a handshake is known
by its base key, for as long as some state of the record was negotiated from it.  In the older
version it is known by its pre-key, which is gone by then.

The second rule is weaker than the first.  A pre-key that is still there, because it is the one
of last resort or was stored once more, lets a handshake of the older version be taken again
and again, whatever the record knows of its base key.
-/

section Recognition

variable [Suite] {limits : Limits} {host : Host} {address : Address}
  {message : PreKeyWhisperMessage} {record accepted result : SessionRecord} {text : Bytes}

namespace SessionRecord

/-- A record that was negotiated from some base key has an established state in front. -/
theorem established_of_hasSession (guarded : record.Guarded limits) (headed : record.Headed)
    {version : UInt8} {baseKey : PublicKey} (known : record.hasSession version baseKey = true) :
    record.current.established = true := by
  simp only [hasSession, List.any_eq_true] at known
  obtain ⟨state, member, holds⟩ := known
  rcases List.mem_cons.mp member with rfl | archived
  · cases established : record.current.established with
    | true => rfl
    | false =>
      rw [guarded.unclaimed established] at holds
      simp at holds
  · exact headed (List.ne_nil_of_mem archived)

/-- Opening a message makes no state. -/
theorem Opened.length_states_le {ours : KeyPair} {message : WhisperMessage} {draws : Nat}
    (opened : record.Opened limits ours message text draws result) :
    result.states.length ≤ record.states.length := by
  cases opened with
  | current takes => exact Nat.le_refl _
  | @archived place state taken found takes =>
    have inside : place < record.previous.length := (List.getElem?_eq_some_iff.mp found).1
    have shorter := List.length_eraseIdx_of_lt inside
    have promoted := (states_promote_sublist (record.removePrevious place) taken
      limits.archivedStates).length_le
    simp only [states, removePrevious, List.length_cons] at promoted ⊢
    omega

end SessionRecord

namespace Establishment

/-- The handshake of a message can be known in the store: it is one of the newer version, or
its pre-key is not stored. -/
def Recognised (store : Store) (message : PreKeyWhisperMessage) : Prop :=
  message.version = currentVersion ∨ message.version = oldestVersion ∧
    ∀ id, message.preKeyId = some id → store.preKeys.contains id = false

/-- A handshake that can be known and whose base key the record knows is not taken again. -/
theorem Accepted.unchanged {store : Store} {used : Option UInt32}
    (accepts : Accepted store address limits record message accepted used)
    (recognised : Recognised store message)
    (known : record.hasSession message.version message.baseKey = true) :
    accepted = record ∧ used = none := by
  cases accepts with
  | negotiated => exact ⟨rfl, rfl⟩
  | signed _ unknown =>
    rw [known] at unknown
    cases unknown
  | gone => exact ⟨rfl, rfl⟩
  | unsigned version_eq named loaded =>
    rcases recognised with newer | ⟨_, gone⟩
    · rw [version_eq] at newer
      exact absurd newer (by decide)
    · have held := Store.contains_of_loadPreKey loaded
      rw [gone _ named] at held
      cases held

/-- It is passed over, and the embedded message is left to the record as it is. -/
theorem perform_processHandshake_of_known (permissive : host.Permissive)
    (load : host.store.loadSession address = .ok record)
    (trusted : host.store.trusts address.name message.identity = true)
    (recognised : Recognised host.store message)
    (named : message.version = oldestVersion → message.preKeyId.isSome = true)
    (known : record.hasSession message.version message.baseKey = true)
    (established : record.current.established = true) :
    ∃ events, host.perform (processHandshake address limits record message) =
      (.ok (record, none), { host with trace := { host.trace with events } }) := by
  apply perform_processHandshake permissive trusted
  rcases recognised with newer | ⟨older, gone⟩
  · exact .negotiated newer known
  · obtain ⟨id, here⟩ := Option.isSome_iff_exists.mp (named older)
    have present := Store.containsSession_eq load
    rw [established] at present
    exact .gone older here (gone id here) present

/-- The handshake of the older version is taken whenever its pre-key is stored. -/
theorem perform_processHandshake_of_stored (permissive : host.Permissive)
    (trusted : host.store.trusts address.name message.identity = true)
    (older : message.version = oldestVersion) {id : UInt32} (named : message.preKeyId = some id)
    {preKey : PreKey} (loaded : host.store.loadPreKey id = .ok preKey) (record : SessionRecord) :
    ∃ used events, host.perform (processHandshake address limits record message) =
      (.ok (record.promote (responderState host.store message preKey.pair none)
        limits.archivedStates, used), { host with trace := { host.trace with events } }) :=
  ⟨_, perform_processHandshake permissive trusted (.unsigned older named loaded)⟩

end Establishment

end Recognition

/-- A base key that the record knows is not negotiated again, where the handshake can be known.

Under a store that the library can lead to, the first message of a known base key is left to
the states of the record: a success is one of theirs and leaves the pre-keys alone, and a
failure leaves the store alone.  And a message that was just opened is a duplicate at its next
delivery, unless it is one of the older version and names the pre-key of last resort.  In that
version a pre-key that is stored lets every handshake be taken. -/
theorem known_handshake_not_taken_again [Suite] {limits : Limits} {host : Host}
    (reachable : Store.Reachable limits host.store) (permissive : host.Permissive)
    (address : Address) (message : PreKeyWhisperMessage)
    (callback : Bytes -> Except Fault Unit) :
    (∀ record, host.store.loadSession address = .ok record →
      Establishment.Recognised host.store message →
      record.hasSession message.version message.baseKey = true →
        (host.store.trusts address.name message.identity = true →
          (message.version = oldestVersion → message.preKeyId.isSome = true) →
            ∃ events, host.perform
                (Establishment.processHandshake address limits record message) =
              (.ok (record, none), { host with trace := { host.trace with events } })) ∧
        (∀ text after, host.perform (Transport.decryptWith address limits callback
            (.preKeyWhisper message)) = (.ok text, after) →
          after.store.preKeys = host.store.preKeys ∧
            ∃ ours draws result, record.Opened limits ours message.message text draws result ∧
              result.states.length ≤ record.states.length ∧
              after.store.loadSession address = .ok result.settled) ∧
        (∀ fault after, host.perform (Transport.decryptWith address limits callback
            (.preKeyWhisper message)) = (.error fault, after) → after.store = host.store)) ∧
    (∀ text after again, (message.version = currentVersion ∨
        message.version = oldestVersion ∧ message.preKeyId ≠ some lastResortId) →
      message.message.counter < lastCounter →
      host.perform (Transport.decryptWith address limits callback (.preKeyWhisper message)) =
          (.ok text, after) →
        ∃ index later, after.perform (Transport.decryptWith address limits again
            (.preKeyWhisper message)) =
          (.error (.duplicate index message.message.counter), later) ∧
          later.store = after.store) ∧
    (∀ record id preKey, message.version = oldestVersion → message.preKeyId = some id →
      host.store.loadPreKey id = .ok preKey →
      host.store.trusts address.name message.identity = true →
        ∃ used events, host.perform
            (Establishment.processHandshake address limits record message) =
          (.ok (record.promote (Establishment.responderState host.store message preKey.pair none)
            limits.archivedStates, used), { host with trace := { host.trace with events } })) := by
  refine ⟨?_, ?_, ?_⟩
  · intro record load recognised known
    have established := SessionRecord.established_of_hasSession (reachable.guarded _ _ load)
      (reachable.every SessionRecord.invariant_headed _ _ load) known
    refine ⟨?_, ?_, ?_⟩
    · intro trusted named
      exact Establishment.perform_processHandshake_of_known permissive load trusted recognised
        named known established
    · intro text after gives
      obtain ⟨found, accepted, used, result, _, draws, middle, _, also, _, accepts, _, opened, _, _,
        _, becomes⟩ := Transport.decryptPreKeyWhisper_eq_ok permissive gives
      cases load.symm.trans also
      obtain ⟨rfl, rfl⟩ := accepts.unchanged recognised known
      refine ⟨?_, middle.nextPair, draws, result, opened, opened.length_states_le, ?_⟩
      · rw [becomes.store_eq]
        rfl
      · rw [becomes.store_eq]
        exact Store.loadSession_storeSession_self ..
    · intro fault after fails
      have failed : host.perform (Operation.decrypt address limits callback
          (.preKeyWhisper message)).run = (.error fault, after) :=
        Host.perform_bind_of_error fails _
      exact (Operation.untouched_of_failed permissive failed).store_eq
  · intro text after again forgetful notLast gives
    exact Transport.decryptPreKeyWhisper_again again reachable permissive forgetful notLast gives
  · intro record id preKey older named loaded trusted
    exact Establishment.perform_processHandshake_of_stored permissive trusted older named loaded
      record

namespace Scene

attribute [local instance] plainSuite

theorem hasSession_answered {ours : KeyPair} {text : Bytes} {taken : SessionState}
    (takes : olderAnswer.Takes .standard ours (olderMessage 1).message text taken)
    (record : SessionRecord) (id : UInt32) :
    (answered record taken).hasSession (olderMessage id).version (olderMessage id).baseKey =
      true := by
  obtain ⟨version_eq, base_eq⟩ := SessionRecord.takes_keeps takes
  rw [SessionRecord.hasSession, List.any_eq_true]
  refine ⟨taken, List.mem_cons_self, ?_⟩
  rw [version_eq, base_eq]
  exact Bool.and_eq_true_iff.mpr ⟨decide_eq_true rfl, decide_eq_true rfl⟩

theorem reachable_olderHost (id : UInt32) : Store.Reachable .standard (olderHost id).store :=
  .tended (.bare rfl) (.storePreKey id preKey)

theorem reachable_answered {id : UInt32} {text : Bytes} {after : Host}
    (gives : (olderHost id).perform (Transport.decrypt aliceAddress .standard
      (.preKeyWhisper (olderMessage id))) = (.ok text, after)) :
    Store.Reachable .standard after.store := by
  have under : (Operation.decrypt aliceAddress .standard (fun _ => .ok ())
      (.preKeyWhisper (olderMessage id))).Under .standard := ⟨rfl, below_olderMessage id⟩
  exact .operated (reachable_olderHost id) (Host.permissive_start _ _) under
    (Host.perform_bind_of_ok gives _)

/-- Bob opens Alice's first message.  At its next delivery he knows her handshake, passes over
it and refuses the message as a duplicate. -/
theorem bob_recognises_handshake :
    ∃ text after record, (olderHost 1).perform (Transport.decrypt aliceAddress .standard
        (.preKeyWhisper (olderMessage 1))) = (.ok text, after) ∧
      after.store.loadSession aliceAddress = .ok record ∧
      Establishment.Recognised after.store (olderMessage 1) ∧
      record.hasSession (olderMessage 1).version (olderMessage 1).baseKey = true ∧
      (∃ events, after.perform (Establishment.processHandshake aliceAddress .standard record
          (olderMessage 1)) =
        (.ok (record, none), { after with trace := { after.trace with events } })) ∧
      ∃ index later, after.perform (Transport.decrypt aliceAddress .standard
          (.preKeyWhisper (olderMessage 1))) = (.error (.duplicate index 0), later) ∧
        later.store = after.store := by
  have permissive : (olderHost 1).Permissive := Host.permissive_start _ _
  obtain ⟨text, taken, after, draws, gives, takes, becomes, load, trusted⟩ := bob_meets 1
  have reachable := reachable_answered gives
  have gone : after.store.preKeys.contains 1 = false := by
    rw [becomes.store_eq]
    exact Store.contains_removePreKey_self ..
  have recognised : Establishment.Recognised after.store (olderMessage 1) := by
    refine .inr ⟨rfl, fun id named => ?_⟩
    cases named
    exact gone
  have known := hasSession_answered takes .new 1
  have passes := ((known_handshake_not_taken_again reachable (becomes.permissive permissive)
    aliceAddress (olderMessage 1) fun _ => .ok ()).1 _ load recognised known).1 trusted
    fun _ => rfl
  have twice := (known_handshake_not_taken_again (reachable_olderHost 1) permissive aliceAddress
    (olderMessage 1) fun _ => .ok ()).2.1 text after (fun _ => .ok ())
    (.inr ⟨rfl, by decide⟩) (below_olderMessage 1 _ rfl) gives
  exact ⟨text, after, _, gives, load, recognised, known, passes, twice⟩

/-- Where the message names the pre-key of last resort, Bob takes the handshake that his record
knows once more, and opens the message that he has opened before. -/
theorem bob_takes_known_handshake :
    ∃ text after record, (olderHost lastResortId).perform (Transport.decrypt aliceAddress
        .standard (.preKeyWhisper (olderMessage lastResortId))) = (.ok text, after) ∧
      Store.Reachable .standard after.store ∧ after.Permissive ∧
      after.store.loadSession aliceAddress = .ok record ∧
      record.hasSession (olderMessage lastResortId).version
        (olderMessage lastResortId).baseKey = true ∧
      ∃ again later result, after.perform (Transport.decrypt aliceAddress .standard
          (.preKeyWhisper (olderMessage lastResortId))) = (.ok again, later) ∧
        later.store.loadSession aliceAddress = .ok result ∧
        result.states.length = record.states.length + 1 := by
  have permissive : (olderHost lastResortId).Permissive := Host.permissive_start _ _
  obtain ⟨text, taken, after, _, gives, takes, becomes, load, trusted⟩ := bob_meets lastResortId
  have kept : after.store.preKeys = (olderHost lastResortId).store.preKeys := by
    rw [becomes.store_eq]
    rfl
  have loaded : after.store.loadPreKey lastResortId = .ok preKey := by
    rw [Store.loadPreKey_of_preKeys_eq kept]
    exact Store.loadPreKey_storePreKey_self ..
  obtain ⟨again, found, later, _, repeats, _, settles⟩ := bob_answers
    (becomes.permissive permissive) (congrArg Store.identity becomes.store_eq)
    (congrArg Store.registrationId becomes.store_eq) loaded load trusted
  have reload : later.store.loadSession aliceAddress =
      .ok (answered (answered .new taken) found) := by
    rw [settles.store_eq]
    exact Store.loadSession_storeSession_self ..
  have archive : (answered (answered .new taken) found).previous = [taken].take 40 :=
    if_pos takes.established
  refine ⟨text, after, _, gives, reachable_answered gives, becomes.permissive permissive, load,
    hasSession_answered takes _ _, again, later, _, repeats, reload, ?_⟩
  rw [SessionRecord.states, archive]
  rfl

end Scene
end DoubleRatchet
