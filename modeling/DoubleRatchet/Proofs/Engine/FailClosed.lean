import DoubleRatchet.Proofs.Engine.Operation
import DoubleRatchet.Proofs.Session.Trial
import DoubleRatchet.Standard

namespace DoubleRatchet

/-!
# A failing operation leaves the store alone

Nothing in the engine rolls a store back, so a failure is harmless only because
of the order in which an operation does its work.  Three predicates describe the
parts of that order.  An operation may leave the store alone whatever happens;
it may be unable to fail; or it may be able to fail, but only on a store that it
has not touched.  The third is what is wanted of the engine, and a sequence has
it for one of two reasons: its first part leaves the store alone, or none of its
later parts can fail.

Only a host that refuses nothing is considered, because a store that can refuse
a call in the middle of the writes can leave half of them behind.  The contents
of the store are not restricted at all.  They may be documents that no operation
has written, and a load of one is then just another way to fail.
-/

namespace Host

variable {α β : Type}

/-- Nothing but draws and reports lies between two hosts. -/
structure Untouched (host after : Host) : Prop where
  store_eq : after.store = host.store
  refusal_eq : after.refusal = host.refusal
  continues : ∃ draws, host.trace.Continues draws after.trace

theorem Untouched.refl (host : Host) : host.Untouched host :=
  ⟨rfl, rfl, 0, .refl _⟩

theorem Untouched.trans {first second third : Host} (early : first.Untouched second)
    (late : second.Untouched third) : first.Untouched third := by
  obtain ⟨draws, before⟩ := early.continues
  obtain ⟨more, behind⟩ := late.continues
  exact ⟨late.store_eq.trans early.store_eq, late.refusal_eq.trans early.refusal_eq,
    draws + more, before.trans behind⟩

theorem Untouched.permissive {host after : Host} (untouched : host.Untouched after)
    (permissive : host.Permissive) : after.Permissive := by
  intro call
  rw [untouched.refusal_eq]
  exact permissive call

/-- The operation leaves the store and the refusals alone, whatever it gives. -/
def Reading (operation : Engine α) : Prop :=
  ∀ host : Host, host.Untouched (host.perform operation).2

/-- The operation cannot fail on a host that refuses nothing. -/
def Sure (operation : Engine α) : Prop :=
  ∀ host : Host, host.Permissive →
    ∃ value after, host.perform operation = (.ok value, after) ∧ after.Permissive

/-- Where the operation fails, the store is as it was. -/
def FailClosed (operation : Engine α) : Prop :=
  ∀ (host after : Host) (fault : Fault), host.Permissive →
    host.perform operation = (.error fault, after) → host.Untouched after

/-! ## Operations that leave the store alone -/

theorem Reading.bind {operation : Engine α} {next : α -> Engine β} (first : Reading operation)
    (second : ∀ value, Reading (next value)) : Reading (operation >>= next) := by
  intro host
  have early := first host
  rcases outcome : host.perform operation with ⟨fault | value, middle⟩
  · rw [perform_bind_of_error outcome]
    rw [outcome] at early
    exact early
  · rw [perform_bind_of_ok outcome]
    rw [outcome] at early
    exact early.trans (second value middle)

theorem reading_except (result : Except Fault α) : Reading (monadLift result : Engine α) :=
  fun host => .refl host

theorem reading_pure (value : α) : Reading (pure value : Engine α) :=
  fun host => .refl host

theorem reading_throw (fault : Fault) : Reading (throw fault : Engine α) :=
  fun host => .refl host

theorem reading_drawing {operation : Drawing α} (advancing : operation.Advancing) :
    Reading (monadLift operation : Engine α) :=
  fun host => ⟨rfl, rfl, advancing host.trace⟩

theorem reading_report (event : Event) :
    Reading (monadLift (Trace.report event) : Engine Unit) :=
  reading_drawing (Drawing.advancing_report event)

theorem reading_traced {operation : Traced α} (advancing : operation.Advancing) :
    Reading (monadLift operation : Engine α) :=
  fun host => ⟨rfl, rfl, advancing host.trace⟩

theorem reading_offer (plaintext : Bytes) (callback : Bytes -> Except Fault Unit) :
    Reading (offer plaintext callback) := by
  intro host
  rw [perform_offer]
  exact ⟨rfl, rfl, 0, .refl _⟩

theorem reading_permit (call : StoreCall) : Reading (permit call) := by
  intro host
  have same : (host.perform (permit call)).2 = host := by
    simp only [perform, permit, ExceptT.run]
    split
    · rfl
    · rfl
  rw [same]
  exact .refl host

theorem reading_ask (call : StoreCall) (answer : Store -> Except Fault α) :
    Reading (ask call answer) := by
  apply (reading_permit call).bind
  intro _
  have read : Reading present := fun host => Untouched.refl host
  exact read.bind fun host => reading_except (answer host.store)

/-! ## Operations that cannot fail -/

theorem Sure.bind {operation : Engine α} {next : α -> Engine β} (first : Sure operation)
    (second : ∀ value, Sure (next value)) : Sure (operation >>= next) := by
  intro host permissive
  obtain ⟨value, middle, gives, still⟩ := first host permissive
  rw [perform_bind_of_ok gives]
  exact second value middle still

/-- What cannot fail gives something. -/
theorem Sure.gives {operation : Engine α} (sure : Sure operation) {host : Host}
    (permissive : host.Permissive) :
    ∃ value after, host.perform operation = (.ok value, after) := by
  obtain ⟨value, after, gives, _⟩ := sure host permissive
  exact ⟨value, after, gives⟩

theorem sure_pure (value : α) : Sure (pure value : Engine α) :=
  fun host permissive => ⟨value, host, rfl, permissive⟩

theorem sure_drawing (operation : Drawing α) : Sure (monadLift operation : Engine α) :=
  fun _ permissive => ⟨_, _, rfl, permissive⟩

theorem sure_change (call : StoreCall) (changed : Store -> Store) :
    Sure (change call changed) :=
  fun _ permissive => ⟨_, _, perform_change permissive call changed, permissive⟩

theorem sure_ask (call : StoreCall) (answer : Store -> α) :
    Sure (ask call fun store => .ok (answer store)) :=
  fun _ permissive => ⟨_, _, perform_ask permissive call _, permissive⟩

theorem sure_saveIdentity (name : String) (identity : IdentityKey) :
    Sure (saveIdentity name identity) := by
  intro host permissive
  obtain ⟨replaced, events, gives⟩ := perform_saveIdentity permissive name identity
  exact ⟨replaced, _, gives, permissive⟩

theorem Sure.discard {operation : Engine α} (sure : Sure operation) :
    Sure (discard operation) := by
  intro host permissive
  obtain ⟨_, after, gives, still⟩ := sure host permissive
  exact ⟨(), after, perform_discard_of_ok gives, still⟩

/-! ## Operations that fail before they write -/

theorem Reading.failClosed {operation : Engine α} (reading : Reading operation) :
    FailClosed operation := by
  intro host after fault _ fails
  have untouched := reading host
  rw [fails] at untouched
  exact untouched

theorem Sure.failClosed {operation : Engine α} (sure : Sure operation) :
    FailClosed operation := by
  intro host after fault permissive fails
  obtain ⟨value, middle, gives, _⟩ := sure host permissive
  rw [gives] at fails
  cases fails

/-- A part that leaves the store alone may come first. -/
theorem FailClosed.bind {operation : Engine α} {next : α -> Engine β}
    (first : Reading operation) (second : ∀ value, FailClosed (next value)) :
    FailClosed (operation >>= next) := by
  intro host after fault permissive fails
  rcases perform_bind_eq_error.mp fails with fails | ⟨value, middle, gives, fails⟩
  · exact first.failClosed host after fault permissive fails
  · have early := first host
    rw [gives] at early
    exact early.trans (second value middle after fault (early.permissive permissive) fails)

/-- Wrapping what an operation gives adds no failure. -/
theorem FailClosed.wrap {operation : Engine α} (first : FailClosed operation) (wrapped : α -> β) :
    FailClosed (operation >>= fun value => pure (wrapped value)) := by
  intro host after fault permissive fails
  rcases perform_bind_eq_error.mp fails with fails | ⟨value, middle, _, impossible⟩
  · exact first host after fault permissive fails
  · cases impossible

end Host

/-! ## The parts of the engine -/

open Host

theorem Drawing.advancing_promote (record : SessionRecord) (state : SessionState)
    (limits : Limits) : Drawing.Advancing (Establishment.promote record state limits) :=
  (advancing_reportAll _).bind fun _ => advancing_pure _

theorem Establishment.reading_checkTrusted (address : Address) (identity : IdentityKey) :
    Reading (Establishment.checkTrusted address identity) := by
  unfold Establishment.checkTrusted
  apply (reading_ask _ _).bind
  intro trusted
  cases trusted with
  | true => exact reading_pure ()
  | false => exact (reading_report _).bind fun _ => reading_throw _

theorem Transport.reading_checkSessionTrusted (address : Address) (record : SessionRecord) :
    Reading (Transport.checkSessionTrusted address record) := by
  unfold Transport.checkSessionTrusted
  apply (reading_except _).bind
  intro remote
  apply (reading_ask _ _).bind
  intro trusted
  cases trusted with
  | true => exact reading_pure ()
  | false => exact (reading_report _).bind fun _ => reading_throw _

namespace Establishment

variable [Suite]

omit [Suite] in
/-- Accepting a handshake puts a state into the record it is given and writes
nothing: the record is stored by the caller, after the message has opened. -/
theorem reading_acceptHandshake (address : Address) (limits : Limits) (record : SessionRecord)
    (negotiated : SessionState) (message : PreKeyWhisperMessage) :
    Reading (acceptHandshake address limits record negotiated message) := by
  unfold acceptHandshake
  apply (reading_ask _ _).bind
  intro registrationId
  apply (reading_drawing (Drawing.advancing_promote _ _ _)).bind
  intro promoted
  exact (reading_report _).bind fun _ => reading_pure _

/-- How both handshakes end: pre-keys of this side answer the message, and the state that comes
of it is put in front of the record. -/
def respond (address : Address) (limits : Limits) (record : SessionRecord)
    (message : PreKeyWhisperMessage) (signedPreKey : KeyPair) (oneTimePreKey : Option KeyPair)
    (used : Option UInt32) : Engine (SessionRecord × Option UInt32) := do
  let identity ← Host.identityKeyPair
  let negotiated := Negotiation.responder message.version
    { identity, signedPreKey, oneTimePreKey
      ratchetKey := signedPreKey
      theirIdentity := message.identity
      theirBaseKey := message.baseKey }
  let record ← acceptHandshake address limits record negotiated message
  return (record, used)

/-- How the older handshake goes on where it is not taken as known, whichever way the store
was asked before. -/
def respondByPreKey (address : Address) (limits : Limits) (record : SessionRecord)
    (message : PreKeyWhisperMessage) (id : UInt32) : Engine (SessionRecord × Option UInt32) := do
  let preKey ← Host.loadPreKey id
  respond address limits record message preKey.pair none (some id)

theorem reading_respond {address : Address} {limits : Limits} {record : SessionRecord}
    {message : PreKeyWhisperMessage} {signedPreKey : KeyPair} {oneTimePreKey : Option KeyPair}
    {used : Option UInt32} :
    Reading (respond address limits record message signedPreKey oneTimePreKey used) := by
  apply (reading_ask _ _).bind
  intro identity
  exact (reading_acceptHandshake _ _ _ _ _).bind fun _ => reading_pure _

theorem reading_processSignedHandshake (address : Address) (limits : Limits)
    (record : SessionRecord) (message : PreKeyWhisperMessage) :
    Reading (processSignedHandshake address limits record message) := by
  unfold processSignedHandshake
  split
  · exact (reading_report _).bind fun _ => reading_pure _
  · cases message.signedPreKeyId with
    | none => exact reading_throw _
    | some signedPreKeyId =>
      apply (reading_ask _ _).bind
      intro signedPreKey
      refine Reading.bind ?_ fun oneTimePreKey => reading_respond
      cases message.preKeyId with
      | none => exact reading_pure none
      | some id => exact (reading_ask _ _).bind fun _ => reading_pure _

theorem reading_processUnsignedHandshake (address : Address) (limits : Limits)
    (record : SessionRecord) (message : PreKeyWhisperMessage) :
    Reading (processUnsignedHandshake address limits record message) := by
  unfold processUnsignedHandshake
  cases message.preKeyId with
  | none => exact reading_throw _
  | some preKeyId =>
    have responds : Reading (respondByPreKey address limits record message preKeyId) :=
      (reading_ask _ _).bind fun _ => reading_respond
    apply (reading_ask _ _).bind
    intro stored
    cases stored with
    | true => exact responds
    | false =>
      apply (reading_ask _ _).bind
      intro known
      cases known with
      | true => exact (reading_report _).bind fun _ => reading_pure _
      | false => exact responds

theorem reading_processHandshake (address : Address) (limits : Limits) (record : SessionRecord)
    (message : PreKeyWhisperMessage) :
    Reading (processHandshake address limits record message) := by
  unfold processHandshake
  apply (reading_checkTrusted address message.identity).bind
  intro _
  split
  · exact (reading_processSignedHandshake _ _ _ _).bind fun _ => reading_pure _
  · split
    · exact (reading_processUnsignedHandshake _ _ _ _).bind fun _ => reading_pure _
    · exact (reading_throw _).bind fun _ => reading_pure _

omit [Suite] in
/-- The writes of an opened session follow one another without a check. -/
theorem sure_concludeExchange (address : Address) (limits : Limits) (record : SessionRecord)
    (negotiated : SessionState) (identity : IdentityKey) :
    Sure (concludeExchange address limits record negotiated identity) := by
  unfold concludeExchange
  apply (sure_ask _ _).bind
  intro registrationId
  apply (sure_drawing _).bind
  intro promoted
  exact (sure_saveIdentity _ _).discard.bind fun _ => sure_change _ _

theorem failClosed_processBundle (address : Address) (limits : Limits) (bundle : Bundle) :
    FailClosed (processBundle address limits bundle) := by
  unfold processBundle
  apply FailClosed.bind (reading_checkTrusted address bundle.identity)
  intro _
  apply FailClosed.bind (reading_except _)
  intro offer
  apply FailClosed.bind (reading_ask _ _)
  intro identity
  apply FailClosed.bind (reading_drawing Drawing.advancing_generate)
  intro baseKey
  apply FailClosed.bind (reading_ask _ _)
  intro record
  -- Behind the load of the record there is no check left, so the rest cannot fail.
  apply Sure.failClosed
  apply (sure_drawing _).bind
  intro ratchetKey
  apply (sure_ask _ _).bind
  intro registrationId
  apply (sure_drawing _).bind
  intro promoted
  apply (sure_saveIdentity _ _).discard.bind
  intro _
  exact (sure_change _ _).bind fun _ => sure_drawing _

theorem failClosed_initiate (address : Address) : FailClosed (initiate address) := by
  unfold initiate
  apply FailClosed.bind (reading_ask _ _)
  intro identity
  apply FailClosed.bind (reading_drawing Drawing.advancing_generateSequence)
  intro sequence
  apply FailClosed.bind (reading_drawing Drawing.advancing_generate)
  intro baseKey
  apply FailClosed.bind (reading_drawing Drawing.advancing_generate)
  intro ratchetKey
  apply FailClosed.bind (reading_ask _ _)
  intro record
  apply Sure.failClosed
  apply (sure_change _ _).bind
  intro _
  exact (sure_drawing _).bind fun _ => sure_pure _

theorem reading_answerKeys (address : Address) (record : SessionRecord) :
    Reading (answerKeys address record) := by
  unfold answerKeys
  cases record.current.pendingExchange with
  | some pending => exact (reading_report _).bind fun _ => reading_pure _
  | none =>
    apply (reading_drawing Drawing.advancing_generate).bind
    intro baseKey
    exact (reading_drawing Drawing.advancing_generate).bind fun _ => reading_pure _

theorem sure_answerKeys (address : Address) (record : SessionRecord) :
    Sure (answerKeys address record) := by
  unfold answerKeys
  cases record.current.pendingExchange with
  | some pending => exact (sure_drawing _).bind fun _ => sure_pure _
  | none =>
    apply (sure_drawing _).bind
    intro baseKey
    exact (sure_drawing _).bind fun _ => sure_pure _

theorem failClosed_processInitiate (address : Address) (limits : Limits)
    (message : KeyExchangeMessage) : FailClosed (processInitiate address limits message) := by
  unfold processInitiate
  apply FailClosed.bind (reading_except _)
  intro _
  apply FailClosed.bind (reading_ask _ _)
  intro identity
  apply FailClosed.bind (reading_ask _ _)
  intro record
  apply FailClosed.bind (reading_answerKeys address record)
  intro keys
  apply FailClosed.bind (reading_drawing (Drawing.advancing_symmetric _ _))
  intro negotiated
  apply Sure.failClosed
  exact (sure_concludeExchange _ _ _ _ _).bind fun _ => sure_pure _

theorem failClosed_processResponse (address : Address) (limits : Limits)
    (message : KeyExchangeMessage) : FailClosed (processResponse address limits message) := by
  unfold processResponse
  apply FailClosed.bind (reading_ask _ _)
  intro record
  split
  · apply FailClosed.bind (reading_ask _ _)
    intro identity
    apply FailClosed.bind (reading_drawing (Drawing.advancing_symmetric _ _))
    intro negotiated
    apply FailClosed.bind (reading_except _)
    intro _
    apply Sure.failClosed
    exact (sure_concludeExchange _ _ _ _ _).bind fun _ => sure_drawing _
  · split
    · exact (reading_report _).failClosed
    · exact ((reading_report _).bind fun _ => reading_throw _).failClosed

theorem failClosed_processExchange (address : Address) (limits : Limits)
    (message : KeyExchangeMessage) : FailClosed (processExchange address limits message) := by
  unfold processExchange
  apply FailClosed.bind (reading_checkTrusted address message.identity)
  intro _
  split
  · exact (failClosed_processInitiate address limits message).wrap some
  · split
    · exact (failClosed_processResponse address limits message).wrap fun _ => none
    · exact (reading_throw _).failClosed

end Establishment

namespace Transport

variable [Suite]

theorem failClosed_encrypt (address : Address) (text : Bytes) :
    FailClosed (encrypt address text) := by
  unfold encrypt
  apply FailClosed.bind (reading_ask _ _)
  intro record
  cases record.current.sender with
  | none => exact (reading_throw _).failClosed
  | some sender =>
    apply FailClosed.bind (reading_except _)
    intro outcome
    apply Sure.failClosed
    apply (sure_change _ _).bind
    intro _
    exact (sure_drawing _).bind fun _ => sure_pure _

theorem failClosed_decryptWhisper (address : Address) (limits : Limits)
    (callback : Bytes -> Except Fault Unit) (message : WhisperMessage) :
    FailClosed (decryptWhisper address limits callback message) := by
  unfold decryptWhisper
  apply FailClosed.bind (reading_ask _ _)
  intro record
  split
  · exact (reading_throw _).failClosed
  · apply FailClosed.bind (reading_traced (SessionRecord.advancing_openMessage _ _))
    intro opened
    apply FailClosed.bind (reading_checkSessionTrusted address opened.2)
    intro _
    apply FailClosed.bind (reading_offer opened.1 callback)
    intro _
    apply Sure.failClosed
    exact (sure_change _ _).bind fun _ => sure_pure _

theorem failClosed_decryptPreKeyWhisper (address : Address) (limits : Limits)
    (callback : Bytes -> Except Fault Unit) (message : PreKeyWhisperMessage) :
    FailClosed (decryptPreKeyWhisper address limits callback message) := by
  unfold decryptPreKeyWhisper
  apply FailClosed.bind (reading_ask _ _)
  intro record
  apply FailClosed.bind (Establishment.reading_processHandshake _ _ _ _)
  intro accepted
  apply FailClosed.bind (reading_traced (SessionRecord.advancing_openMessage _ _))
  intro opened
  apply FailClosed.bind (reading_checkSessionTrusted address opened.2)
  intro _
  apply FailClosed.bind (reading_offer opened.1 callback)
  intro _
  -- The callback is the last thing that can fail; three writes follow it.
  have writes : Sure (do
      discard <| Host.saveIdentity address.name message.identity
      Host.storeSession address opened.2
      return opened.1 : Engine Bytes) := by
    apply (sure_saveIdentity _ _).discard.bind
    intro _
    exact (sure_change _ _).bind fun _ => sure_pure _
  apply Sure.failClosed
  cases accepted.2 with
  | none => exact writes
  | some id =>
    apply (sure_change _ _).bind
    intro _
    exact (sure_drawing _).bind fun _ => writes

theorem failClosed_decryptWith (address : Address) (limits : Limits)
    (callback : Bytes -> Except Fault Unit) (message : Envelope) :
    FailClosed (decryptWith address limits callback message) := by
  cases message with
  | whisper message => exact failClosed_decryptWhisper address limits callback message
  | preKeyWhisper message => exact failClosed_decryptPreKeyWhisper address limits callback message
  | keyExchange message => exact (reading_throw _).failClosed

end Transport

namespace Operation

variable [Suite]

/-- A failing operation has only drawn and reported. -/
theorem untouched_of_failed {host after : Host} {operation : Operation} {fault : Fault}
    (permissive : host.Permissive)
    (failed : host.perform operation.run = (.error fault, after)) : host.Untouched after := by
  have closed : FailClosed operation.run := by
    cases operation with
    | processBundle address limits bundle =>
      exact (Establishment.failClosed_processBundle address limits bundle).wrap fun _ => Reply.done
    | initiate address => exact (Establishment.failClosed_initiate address).wrap Reply.opening
    | processExchange address limits message =>
      exact (Establishment.failClosed_processExchange address limits message).wrap Reply.answer
    | encrypt address text => exact (Transport.failClosed_encrypt address text).wrap Reply.emitted
    | decrypt address limits callback message =>
      exact (Transport.failClosed_decryptWith address limits callback message).wrap Reply.plaintext
    | endSession address =>
      apply Sure.failClosed
      apply ((sure_change _ _).bind fun _ => sure_drawing _).bind
      exact fun _ => sure_pure _
  exact closed host after fault permissive failed

end Operation
end DoubleRatchet
