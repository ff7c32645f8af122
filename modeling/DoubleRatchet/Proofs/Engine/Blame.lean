import DoubleRatchet.Proofs.Engine.FailClosed
import DoubleRatchet.Proofs.Engine.Records

namespace DoubleRatchet

/-!
# Faults that are laid on the state

Most faults of the engine say something about what came from outside: a message, a key, an
identity that is not trusted.  `Fault.invalidState` says that the session itself does not
admit the operation, and nothing that the other party sends should be able to cause that.

Most parts of the engine are blameless in this sense on every store.  Those that are not are
the ones that ask a state for its parts, and they are blameless on sound records.  What
remains are two causes that are none of the engine: the cipher may refuse a text as too long,
and the callback of a host may fail with whatever fault it likes.
-/

namespace Host

variable {α β : Type}

/-- The operation never lays its failure on a state, and leaves the host willing. -/
def Blameless (operation : Engine α) : Prop :=
  ∀ host : Host, host.Permissive → (host.perform operation).2.Permissive ∧
    ∀ reason, (host.perform operation).1 ≠ .error (.invalidState reason)

theorem Blameless.bind {operation : Engine α} {next : α -> Engine β}
    (first : Blameless operation) (second : ∀ value, Blameless (next value)) :
    Blameless (operation >>= next) := by
  intro host permissive
  have early := first host permissive
  rcases outcome : host.perform operation with ⟨fault | value, middle⟩
  · rw [outcome] at early
    rw [perform_bind_of_error outcome]
    exact ⟨early.1, fun reason same => early.2 reason (by rw [Except.error.inj same])⟩
  · rw [outcome] at early
    rw [perform_bind_of_ok outcome]
    exact second value middle early.1

theorem Sure.blameless {operation : Engine α} (sure : Sure operation) : Blameless operation := by
  intro host permissive
  obtain ⟨value, after, gives, still⟩ := sure host permissive
  rw [gives]
  exact ⟨still, fun reason impossible => nomatch impossible⟩

theorem blameless_except {result : Except Fault α}
    (other : ∀ reason, result ≠ .error (.invalidState reason)) :
    Blameless (monadLift result : Engine α) :=
  fun _ permissive => ⟨permissive, other⟩

theorem blameless_throw {fault : Fault} (other : ∀ reason, fault ≠ .invalidState reason) :
    Blameless (throw fault : Engine α) :=
  fun _ permissive => ⟨permissive, fun reason same => other reason (Except.error.inj same)⟩

theorem blameless_ask (call : StoreCall) {answer : Store -> Except Fault α}
    (other : ∀ store reason, answer store ≠ .error (.invalidState reason)) :
    Blameless (ask call answer) := by
  intro host permissive
  rw [perform_ask permissive]
  exact ⟨permissive, other host.store⟩

/-- A question that every store can answer. -/
theorem blameless_answered (call : StoreCall) (answer : Store -> α) :
    Blameless (ask call fun store => .ok (answer store)) :=
  (sure_ask call answer).blameless

theorem blameless_drawing (operation : Drawing α) : Blameless (monadLift operation : Engine α) :=
  (sure_drawing operation).blameless

theorem blameless_pure (value : α) : Blameless (pure value : Engine α) :=
  (sure_pure value).blameless

/-- On this host the operation lays a failure on a state only for certain reasons. -/
def Blames (host : Host) (operation : Engine α) (reasons : StateFault -> Prop) : Prop :=
  ∀ reason after, host.perform operation = (.error (.invalidState reason), after) → reasons reason

theorem Blameless.blames {operation : Engine α} (blameless : Blameless operation) {host : Host}
    (permissive : host.Permissive) (reasons : StateFault -> Prop) :
    host.Blames operation reasons :=
  fun reason _ fails =>
    absurd (congrArg Prod.fst fails) ((blameless host permissive).2 reason)

theorem Blames.bind {host : Host} {operation : Engine α} {next : α -> Engine β}
    {reasons : StateFault -> Prop} (first : host.Blames operation reasons)
    (second : ∀ value middle, host.perform operation = (.ok value, middle) →
      middle.Blames (next value) reasons) :
    host.Blames (operation >>= next) reasons := by
  intro reason after fails
  rcases perform_bind_eq_error.mp fails with early | ⟨value, middle, gives, late⟩
  · exact first reason after early
  · exact second value middle gives reason after late

theorem Blames.mono {host : Host} {operation : Engine α} {reasons others : StateFault -> Prop}
    (blames : host.Blames operation reasons) (weaker : ∀ reason, reasons reason → others reason) :
    host.Blames operation others :=
  fun reason after fails => weaker reason (blames reason after fails)

/-- What an operation gives may be wrapped up. -/
theorem Blames.wrapped {host : Host} {operation : Engine α} {reasons : StateFault -> Prop}
    (blames : host.Blames operation reasons) (wrap : α -> β) :
    host.Blames (do return wrap (← operation)) reasons := by
  apply blames.bind
  intro value after _ reason last fails
  cases fails

/-- The operation gives a text on this host that the callback refuses, and the reason that it
gives is laid on the state. -/
def Complains (host : Host) (callback : Bytes -> Except Fault Unit) (operation : Engine Bytes)
    (reason : StateFault) : Prop :=
  ∃ text after, host.perform operation = (.ok text, after) ∧
    callback text = .error (.invalidState reason)

/-- What comes first does not matter to the callback. -/
theorem Complains.behind {host middle : Host} {callback : Bytes -> Except Fault Unit}
    {operation : Engine α} {next : α -> Engine Bytes} {value : α} {reason : StateFault}
    (gives : host.perform operation = (.ok value, middle))
    (complains : middle.Complains callback (next value) reason) :
    host.Complains callback (operation >>= next) reason := by
  obtain ⟨text, after, opens, refuses⟩ := complains
  rw [← perform_bind_of_ok gives] at opens
  exact ⟨text, after, opens, refuses⟩

end Host

/-! ## Stores -/

namespace Store

variable {α : Type} {reason : StateFault}

theorem readDocument_ne_invalidState [Json.Document α] (document : Bytes) :
    (readDocument document : Except Fault α) ≠ .error (.invalidState reason) := by
  simp only [readDocument]
  split
  · rintro ⟨⟩
  · rintro ⟨⟩

theorem loadPreKey_ne_invalidState (store : Store) (id : UInt32) :
    store.loadPreKey id ≠ .error (.invalidState reason) := by
  simp only [loadPreKey]
  split
  · exact readDocument_ne_invalidState _
  · rintro ⟨⟩

theorem loadSignedPreKey_ne_invalidState (store : Store) (id : UInt32) :
    store.loadSignedPreKey id ≠ .error (.invalidState reason) := by
  simp only [loadSignedPreKey]
  split
  · exact readDocument_ne_invalidState _
  · rintro ⟨⟩

theorem loadSession_ne_invalidState (store : Store) (address : Address) :
    store.loadSession address ≠ .error (.invalidState reason) := by
  simp only [loadSession]
  split
  · exact readDocument_ne_invalidState _
  · rintro ⟨⟩

theorem containsSession_ne_invalidState (store : Store) (address : Address) :
    store.containsSession address ≠ .error (.invalidState reason) := by
  simp only [containsSession]
  split
  · next document _ =>
    cases reads : (readDocument document : Except Fault SessionRecord) with
    | ok record => rintro ⟨⟩
    | error fault =>
      intro fails
      cases fails
      exact readDocument_ne_invalidState document reads
  · rintro ⟨⟩

end Store

/-! ## Opening sessions -/

open Host

namespace Establishment

theorem blameless_checkTrusted (address : Address) (identity : IdentityKey) :
    Blameless (checkTrusted address identity) := by
  unfold checkTrusted
  apply (blameless_answered _ _).bind
  intro trusted
  cases trusted with
  | true => exact blameless_pure ()
  | false => exact (blameless_drawing _).bind fun _ => blameless_throw fun _ same => nomatch same

theorem blameless_acceptHandshake (address : Address) (limits : Limits) (record : SessionRecord)
    (negotiated : SessionState) (message : PreKeyWhisperMessage) :
    Blameless (acceptHandshake address limits record negotiated message) := by
  unfold acceptHandshake
  apply (blameless_answered _ _).bind
  intro registrationId
  apply (blameless_drawing _).bind
  intro promoted
  exact (blameless_drawing _).bind fun _ => blameless_pure _

variable [Suite]

theorem ofBundle_ne_invalidState (bundle : Bundle) (reason : StateFault) :
    Offer.ofBundle bundle ≠ .error (.invalidState reason) := by
  simp only [Offer.ofBundle]
  split
  · split
    · rintro ⟨⟩
    · rintro ⟨⟩
  · rintro ⟨⟩
  · rintro ⟨⟩

theorem checkSigned_ne_invalidState (message : KeyExchangeMessage) (reason : StateFault) :
    checkSigned message ≠ .error (.invalidState reason) := by
  simp only [checkSigned]
  split
  · rintro ⟨⟩
  · rintro ⟨⟩

theorem blameless_processBundle (address : Address) (limits : Limits) (bundle : Bundle) :
    Blameless (processBundle address limits bundle) := by
  unfold processBundle
  apply (blameless_checkTrusted _ _).bind
  intro _
  apply (blameless_except (ofBundle_ne_invalidState bundle)).bind
  intro offer
  apply (blameless_answered _ _).bind
  intro identity
  apply (blameless_drawing _).bind
  intro baseKey
  apply (blameless_ask _ fun store _ => store.loadSession_ne_invalidState address).bind
  intro record
  apply (blameless_drawing _).bind
  intro ratchetKey
  apply (blameless_answered _ _).bind
  intro registrationId
  apply (blameless_drawing _).bind
  intro promoted
  apply (sure_saveIdentity _ _).discard.blameless.bind
  intro _
  exact (sure_change _ _).blameless.bind fun _ => blameless_drawing _

theorem blameless_respond {address : Address} {limits : Limits} {record : SessionRecord}
    {message : PreKeyWhisperMessage} {signedPreKey : KeyPair} {oneTimePreKey : Option KeyPair}
    {used : Option UInt32} :
    Blameless (respond address limits record message signedPreKey oneTimePreKey used) := by
  apply (blameless_answered _ _).bind
  intro identity
  exact (blameless_acceptHandshake _ _ _ _ _).bind fun _ => blameless_pure _

theorem blameless_processSignedHandshake (address : Address) (limits : Limits)
    (record : SessionRecord) (message : PreKeyWhisperMessage) :
    Blameless (processSignedHandshake address limits record message) := by
  unfold processSignedHandshake
  split
  · exact (blameless_drawing _).bind fun _ => blameless_pure _
  · cases message.signedPreKeyId with
    | none => exact blameless_throw fun _ same => nomatch same
    | some signedPreKeyId =>
      apply (blameless_ask _ fun store _ => store.loadSignedPreKey_ne_invalidState _).bind
      intro signedPreKey
      refine Blameless.bind ?_ fun oneTimePreKey => blameless_respond
      cases message.preKeyId with
      | none => exact blameless_pure none
      | some id =>
        apply (blameless_ask _ fun store _ => store.loadPreKey_ne_invalidState id).bind
        exact fun _ => blameless_pure _

theorem blameless_processUnsignedHandshake (address : Address) (limits : Limits)
    (record : SessionRecord) (message : PreKeyWhisperMessage) :
    Blameless (processUnsignedHandshake address limits record message) := by
  unfold processUnsignedHandshake
  cases message.preKeyId with
  | none => exact blameless_throw fun _ same => nomatch same
  | some preKeyId =>
    have responds : Blameless (respondByPreKey address limits record message preKeyId) :=
      (blameless_ask _ fun store _ => store.loadPreKey_ne_invalidState preKeyId).bind
        fun _ => blameless_respond
    apply (blameless_answered _ _).bind
    intro stored
    cases stored with
    | true => exact responds
    | false =>
      apply (blameless_ask _ fun store _ => store.containsSession_ne_invalidState address).bind
      intro known
      cases known with
      | true => exact (blameless_drawing _).bind fun _ => blameless_pure _
      | false => exact responds

theorem blameless_processHandshake (address : Address) (limits : Limits)
    (record : SessionRecord) (message : PreKeyWhisperMessage) :
    Blameless (processHandshake address limits record message) := by
  unfold processHandshake
  apply (blameless_checkTrusted _ _).bind
  intro _
  split
  · exact (blameless_processSignedHandshake _ _ _ _).bind fun _ => blameless_pure _
  · split
    · exact (blameless_processUnsignedHandshake _ _ _ _).bind fun _ => blameless_pure _
    · have refused : Blameless (throw (.unknownVersion message.version) :
          Engine (SessionRecord × Option UInt32)) := blameless_throw fun _ same => nomatch same
      exact refused.bind fun _ => blameless_pure _

theorem blameless_initiate (address : Address) : Blameless (initiate address) := by
  unfold initiate
  apply (blameless_answered _ _).bind
  intro identity
  apply (blameless_drawing _).bind
  intro sequence
  apply (blameless_drawing _).bind
  intro baseKey
  apply (blameless_drawing _).bind
  intro ratchetKey
  apply (blameless_ask _ fun store _ => store.loadSession_ne_invalidState address).bind
  intro record
  apply (sure_change _ _).blameless.bind
  intro _
  exact (blameless_drawing _).bind fun _ => blameless_pure _

theorem blameless_processInitiate (address : Address) (limits : Limits)
    (message : KeyExchangeMessage) : Blameless (processInitiate address limits message) := by
  unfold processInitiate
  apply (blameless_except (checkSigned_ne_invalidState message)).bind
  intro _
  apply (blameless_answered _ _).bind
  intro identity
  apply (blameless_ask _ fun store _ => store.loadSession_ne_invalidState address).bind
  intro record
  apply (sure_answerKeys address record).blameless.bind
  intro keys
  apply (blameless_drawing _).bind
  intro negotiated
  exact (sure_concludeExchange _ _ _ _ _).blameless.bind fun _ => blameless_pure _

theorem blameless_processResponse (address : Address) (limits : Limits)
    (message : KeyExchangeMessage) : Blameless (processResponse address limits message) := by
  unfold processResponse
  apply (blameless_ask _ fun store _ => store.loadSession_ne_invalidState address).bind
  intro record
  split
  · apply (blameless_answered _ _).bind
    intro identity
    apply (blameless_drawing _).bind
    intro negotiated
    apply (blameless_except (checkSigned_ne_invalidState message)).bind
    intro _
    exact (sure_concludeExchange _ _ _ _ _).blameless.bind fun _ => blameless_drawing _
  · split
    · exact blameless_drawing _
    · apply (blameless_drawing _).bind
      exact fun _ => blameless_throw fun _ same => nomatch same

theorem blameless_processExchange (address : Address) (limits : Limits)
    (message : KeyExchangeMessage) : Blameless (processExchange address limits message) := by
  unfold processExchange
  apply (blameless_checkTrusted _ _).bind
  intro _
  split
  · exact (blameless_processInitiate _ _ _).bind fun _ => blameless_pure _
  · split
    · exact (blameless_processResponse _ _ _).bind fun _ => blameless_pure _
    · exact blameless_throw fun _ same => nomatch same

end Establishment

/-! ## Messages -/

namespace Transport

theorem blameless_endSession (address : Address) : Blameless (endSession address) :=
  ((sure_change _ _).bind fun _ => sure_drawing _).blameless

variable [Suite] {host : Host} {address : Address} {limits : Limits} {record : SessionRecord}
  {callback : Bytes -> Except Fault Unit}

omit [Suite] in
/-- The record of an address is sound, where all records are. -/
theorem sound_of_loaded {middle : Host} (permissive : host.Permissive)
    (sound : host.store.Every (SessionRecord.Sound limits))
    (loaded : host.perform (Host.loadSession address) = (.ok record, middle)) :
    record.Sound limits ∧ middle = host := by
  rw [Host.perform_loadSession permissive] at loaded
  obtain ⟨load, rfl⟩ := Prod.mk.inj loaded
  exact ⟨sound address record load, rfl⟩

/-- A text that the cipher refuses is longer than what it can seal. -/
theorem length_lt_of_refused {keys : MessageKeys} {text : Bytes} (refused : keys.seal? text = none)
    {length : Nat} (seals : Suite.SealsWithin ‹Suite› length) : length < text.length := by
  by_contra fits
  have sealedText := seals keys.cipherKey keys.nonce text (Nat.le_of_not_lt fits)
  change (keys.seal? text).isSome = true at sealedText
  rw [refused] at sealedText
  cases sealedText

/-- Sealing lays a failure on the state only where the text is too long for the cipher. -/
theorem encrypt_blames (permissive : host.Permissive)
    (sound : host.store.Every (SessionRecord.Sound limits)) (text : Bytes) :
    host.Blames (encrypt address text) fun reason =>
      reason = .sealing ∧ ∀ length, Suite.SealsWithin ‹Suite› length → length < text.length := by
  unfold encrypt
  apply Blames.bind
  · exact (blameless_ask _ fun store _ => store.loadSession_ne_invalidState address).blames
      permissive _
  · intro record middle loaded
    obtain ⟨whole, rfl⟩ := sound_of_loaded permissive sound loaded
    cases sending : record.current.sender with
    | none =>
      apply Blameless.blames _ permissive
      exact blameless_throw fun _ same => nomatch same
    | some sender =>
      apply Blames.bind
      · intro reason after fails
        have front := whole.states _ List.mem_cons_self
        obtain ⟨same, closed⟩ := front.sealText_eq_error sending (congrArg Prod.fst fails)
        cases same
        exact ⟨rfl, fun length => length_lt_of_refused closed⟩
      · intro outcome kept gives
        obtain ⟨_, rfl⟩ := Host.perform_except_eq_ok.mp gives
        have writes := (sure_change .storeSession fun store => store.storeSession address
          { record with current := outcome.2 }).bind fun _ =>
            (sure_drawing (Trace.report (.encrypted sender.chainKey.index address))).bind
              fun _ => sure_pure outcome.1
        exact writes.blameless.blames permissive _

omit [Suite] in
/-- Trust is asked about a state that has its remote identity. -/
theorem checkSessionTrusted_blames (permissive : host.Permissive)
    (theirs : record.current.remoteIdentity.isSome = true) (reasons : StateFault -> Prop) :
    host.Blames (checkSessionTrusted address record) reasons := by
  obtain ⟨remote, known⟩ := Option.isSome_iff_exists.mp theirs
  have found : record.current.requireRemoteIdentity = .ok remote :=
    SessionState.require_eq_ok.mpr known
  have present : Blameless (monadLift (Except.ok remote : Except Fault IdentityKey) :
      Engine IdentityKey) := (sure_pure remote).blameless
  unfold checkSessionTrusted
  rw [found]
  apply Blameless.blames _ permissive
  apply present.bind
  intro identity
  apply (blameless_answered _ _).bind
  intro trusted
  cases trusted with
  | true => exact blameless_pure ()
  | false => exact (blameless_drawing _).bind fun _ => blameless_throw fun _ same => nomatch same

/-- Opening a message with the record that it was found or negotiated for. -/
def conclude (address : Address) (limits : Limits) (record : SessionRecord)
    (message : WhisperMessage) (last : Bytes × SessionRecord -> Engine Bytes)
    (callback : Bytes -> Except Fault Unit) : Engine Bytes := do
  let opened ← record.openMessage limits address message
  checkSessionTrusted address opened.2
  Host.offer opened.1 callback
  last opened

/-- Behind the record of a message the callback alone can lay a failure on the state. -/
theorem conclude_blames (permissive : host.Permissive) (sound : record.Sound limits)
    (room : 0 < limits.receiverChains) (message : WhisperMessage)
    {last : Bytes × SessionRecord -> Engine Bytes}
    (gives : ∀ (opened : Bytes × SessionRecord) (host : Host), host.Permissive →
      ∃ after, host.perform (last opened) = (.ok opened.1, after)) :
    host.Blames (conclude address limits record message last callback)
      (host.Complains callback (conclude address limits record message last fun _ => .ok ())) := by
  apply Blames.bind
  · intro reason after fails
    rw [Host.perform_traced] at fails
    rcases outcome : record.openMessage limits address message host.trace with ⟨result, later⟩
    rw [outcome] at fails
    have refused : result = .error (.invalidState reason) := congrArg Prod.fst fails
    rw [refused] at outcome
    exact absurd outcome (sound.openMessage_ne_invalidState room address message _ _)
  · intro opened handed opens
    obtain ⟨later, opening, rfl⟩ := Host.perform_traced_eq_ok.mp opens
    obtain ⟨_, _, _, _, taken, _⟩ := SessionRecord.opened_of_openMessage opening
    obtain ⟨whole, established⟩ := sound.opened taken
    have theirs := ((whole.states _ List.mem_cons_self).whole established).theirs
    have still : ({ host with trace := later } : Host).Permissive := permissive
    apply Blames.bind
    · exact checkSessionTrusted_blames still theirs _
    · intro _ trusting checked
      obtain ⟨_, _, _, rfl⟩ := checkSessionTrusted_eq_ok still checked
      let offering : Host := { host with offered := some opened.1, trace := later }
      obtain ⟨_, finishes⟩ := gives opened offering permissive
      apply Blames.bind
      · intro reason after fails
        rw [Host.perform_offer] at fails
        -- Had the callback not refused the text, nothing else would have.
        apply Complains.behind opens
        apply Complains.behind checked
        have offered : Host.perform { host with trace := later } (Host.offer opened.1 fun _ =>
            .ok ()) = (.ok (), offering) := Host.perform_offer ..
        exact Complains.behind offered ⟨_, _, finishes, congrArg Prod.fst fails⟩
      · intro _ middle offered reason after fails
        rw [Host.perform_offer] at offered
        obtain ⟨_, rfl⟩ := Prod.mk.inj offered
        cases finishes.symm.trans fails

/-- Opening a message lays a failure on the state only if the callback does so, with the text
that the message opens to. -/
theorem decryptWith_blames (permissive : host.Permissive)
    (sound : host.store.Every (SessionRecord.Sound limits)) (room : 0 < limits.receiverChains)
    (message : Envelope) :
    host.Blames (decryptWith address limits callback message)
      (host.Complains callback (decrypt address limits message)) := by
  have loads : ∀ reasons, host.Blames (Host.loadSession address) reasons :=
    (blameless_ask _ fun store _ => store.loadSession_ne_invalidState address).blames permissive
  cases message with
  | whisper message =>
    change host.Blames (decryptWhisper address limits callback message)
      (host.Complains callback (decryptWhisper address limits (fun _ => .ok ()) message))
    unfold decryptWhisper
    refine Blames.bind (loads _) fun record middle loaded => ?_
    obtain ⟨whole, rfl⟩ := sound_of_loaded permissive sound loaded
    refine Blames.mono ?_ fun reason => Complains.behind loaded
    dsimp only
    split
    · apply Blameless.blames _ permissive
      exact blameless_throw fun _ same => nomatch same
    · have stores : ∀ (opened : Bytes × SessionRecord) (host : Host), host.Permissive →
          ∃ after, host.perform (do
            Host.storeSession address opened.2
            return opened.1) = (.ok opened.1, after) := by
        intro opened host permissive
        rw [Host.perform_bind_of_ok (Host.perform_storeSession permissive _ _)]
        exact ⟨_, rfl⟩
      exact conclude_blames permissive whole room message stores
  | preKeyWhisper message =>
    change host.Blames (decryptPreKeyWhisper address limits callback message)
      (host.Complains callback (decryptPreKeyWhisper address limits (fun _ => .ok ()) message))
    unfold decryptPreKeyWhisper
    refine Blames.bind (loads _) fun record middle loaded => ?_
    obtain ⟨whole, rfl⟩ := sound_of_loaded permissive sound loaded
    refine Blames.mono ?_ fun reason => Complains.behind loaded
    apply Blames.bind
    · exact (Establishment.blameless_processHandshake _ _ _ _).blames permissive _
    · intro taken handed processed
      obtain ⟨_, accepts, becomes⟩ := Establishment.processHandshake_eq_ok permissive processed
      have accepted := (SessionRecord.invariant_sound room fun _ spoken => spoken).steps
        (Operation.steps_of_accepted accepts) whole
      refine Blames.mono ?_ fun reason => Complains.behind processed
      apply conclude_blames (becomes.permissive permissive) accepted room message.message
      intro opened host permissive
      obtain ⟨_, settles⟩ := perform_settling address permissive message.identity taken.2 opened.2
        opened.1
      exact ⟨_, settles⟩
  | keyExchange message =>
    apply Blameless.blames _ permissive
    exact blameless_throw fun _ same => nomatch same

end Transport

/-! ## Requests -/

namespace Operation

variable [Suite] {host : Host} {limits : Limits}

/-- The operation lays its failure on the state for a reason that is none of the engine: a text
is longer than what the cipher can seal, or the callback refuses the text of a message. -/
def Excused (host : Host) : Operation -> StateFault -> Prop
  | encrypt _ text, reason =>
    reason = .sealing ∧ ∀ length, Suite.SealsWithin ‹Suite› length → length < text.length
  | decrypt address limits callback message, reason =>
    host.Complains callback (Transport.decrypt address limits message) reason
  | _, _ => False

/-- On a store of sound records a request lays its failure on the state only where the engine is
excused. -/
theorem blames (permissive : host.Permissive)
    (sound : host.store.Every (SessionRecord.Sound limits)) (room : 0 < limits.receiverChains)
    {operation : Operation} (limited : operation.Limited limits) :
    host.Blames operation.run (operation.Excused host) := by
  cases operation with
  | processBundle address chosen bundle =>
    exact Blames.wrapped ((Establishment.blameless_processBundle address chosen bundle).blames
      permissive _) fun _ => Reply.done
  | initiate address =>
    exact Blames.wrapped ((Establishment.blameless_initiate address).blames permissive _) _
  | processExchange address chosen message =>
    exact Blames.wrapped ((Establishment.blameless_processExchange address chosen message).blames
      permissive _) _
  | encrypt address text =>
    exact Blames.wrapped (Transport.encrypt_blames permissive sound text) _
  | decrypt address chosen callback message =>
    cases limited
    exact Blames.wrapped (Transport.decryptWith_blames permissive sound room message) _
  | endSession address =>
    exact Blames.wrapped ((Transport.blameless_endSession address).blames permissive _)
      fun _ => Reply.done

end Operation
end DoubleRatchet
