import DoubleRatchet.Proofs.Engine.Establishing
import DoubleRatchet.Proofs.Engine.Operation
import DoubleRatchet.Proofs.Engine.Transporting

namespace DoubleRatchet
namespace Operation

/-!
# What a request does where it succeeds

The descriptions of the single operations are put together here, one case for each way in
which a request can succeed: what it found in the store, what it gives, and the store that
it leaves.  An invariant of runs is a case analysis over `Done`, and a request that fails
leaves the store alone whatever it was.
-/

variable [Suite]

/-- The ways in which a request succeeds. -/
inductive Done (host after : Host) : Operation -> Reply -> Prop where
  /-- A session was opened from a bundle. -/
  | processBundle {address : Address} {limits : Limits} {bundle : Bundle}
      {offer : Establishment.Offer} {record : SessionRecord}
      (trusted : host.store.trusts address.name bundle.identity = true)
      (offered : Establishment.Offer.ofBundle bundle = .ok offer)
      (load : host.store.loadSession address = .ok record)
      (becomes : host.Becomes ((host.store.pin address.name bundle.identity).storeSession address
        (record.promote (Establishment.bundleState host.store bundle offer host.trace.nextPair
          (.drawnAt host.trace.entropy (host.trace.drawn + 1))) limits.archivedStates)) 2 after) :
      Done host after (.processBundle address limits bundle) .done
  /-- A key exchange was opened, and its keys are pending. -/
  | initiate {address : Address} {record : SessionRecord} {pending : PendingExchange} {draws : Nat}
      (load : host.store.loadSession address = .ok record)
      (becomes : host.Becomes (host.store.storeSession address { record with
        current := { record.current with pendingExchange := some pending } }) draws after) :
      Done host after (.initiate address) (.opening (Establishment.exchangeMessage currentVersion
        pending.sequence KeyExchangeMessage.initiateFlag host.store.identity
        pending.baseKey.publicKey pending.ratchetKey.publicKey))
  /-- A leg of a key exchange was taken. -/
  | processExchange {address : Address} {limits : Limits} {message : KeyExchangeMessage}
      {answer : Option KeyExchangeMessage} {store : Store} {draws : Nat}
      (trusted : host.store.trusts address.name message.identity = true)
      (exchanged : Establishment.Exchanged host address limits message answer store draws)
      (becomes : host.Becomes store draws after) :
      Done host after (.processExchange address limits message) (.answer answer)
  /-- A text was sealed. -/
  | encrypt {address : Address} {text : Bytes} {envelope : Envelope} {record : SessionRecord}
      {sender : SenderChain} {state : SessionState}
      (load : host.store.loadSession address = .ok record)
      (sending : record.current.sender = some sender)
      (sealing : record.current.sealText sender text = .ok (envelope, state))
      (becomes : host.Becomes (host.store.storeSession address { record with current := state }) 0
        after) :
      Done host after (.encrypt address text) (.emitted envelope)
  /-- A sealed message was opened. -/
  | whisper {address : Address} {limits : Limits} {callback : Bytes -> Except Fault Unit}
      {message : WhisperMessage} {text : Bytes} {record result : SessionRecord}
      {skipped draws : Nat} {middle : Trace} {remote : IdentityKey}
      (load : host.store.loadSession address = .ok record)
      (before : host.trace.Continues skipped middle)
      (opened : record.Opened limits middle.nextPair message text draws result)
      (known : result.current.remoteIdentity = some remote)
      (trusted : host.store.trusts address.name remote = true)
      (becomes : host.Becomes (host.store.storeSession address result) (skipped + draws) after) :
      Done host after (.decrypt address limits callback (.whisper message)) (.plaintext text)
  /-- A first message was opened. -/
  | preKeyWhisper {address : Address} {limits : Limits} {callback : Bytes -> Except Fault Unit}
      {message : PreKeyWhisperMessage} {text : Bytes} {record accepted result : SessionRecord}
      {used : Option UInt32} {skipped draws : Nat} {middle : Trace} {remote : IdentityKey}
      (load : host.store.loadSession address = .ok record)
      (sender : host.store.trusts address.name message.identity = true)
      (accepts : Establishment.Accepted host.store address limits record message accepted used)
      (before : host.trace.Continues skipped middle)
      (opened : accepted.Opened limits middle.nextPair message.message text draws result)
      (known : result.current.remoteIdentity = some remote)
      (trusted : host.store.trusts address.name remote = true)
      (becomes : host.Becomes ((Transport.settle host.store address.name message.identity
        used).storeSession address result) (skipped + draws) after) :
      Done host after (.decrypt address limits callback (.preKeyWhisper message))
        (.plaintext text)
  /-- The sessions with a name were ended. -/
  | endSession {address : Address}
      (becomes : host.Becomes (host.store.deleteSessions address.name) 0 after) :
      Done host after (.endSession address) .done

variable {host after : Host} {operation : Operation} {reply : Reply}

/-- A request that succeeds does so in one of these ways. -/
theorem done_of_performed (permissive : host.Permissive)
    (performed : host.perform operation.run = (.ok reply, after)) :
    operation.Done host after reply := by
  cases operation with
  | processBundle address limits bundle =>
    obtain ⟨_, _, gives, returned⟩ := Host.perform_bind_eq_ok.mp performed
    cases returned
    obtain ⟨offer, record, trusted, offered, load, becomes⟩ :=
      Establishment.processBundle_eq_ok permissive gives
    exact .processBundle trusted offered load becomes
  | initiate address =>
    obtain ⟨_, _, gives, returned⟩ := Host.perform_bind_eq_ok.mp performed
    cases returned
    obtain ⟨record, sequence, skipped, load, rfl, _, becomes⟩ :=
      Establishment.initiate_eq_ok permissive gives
    exact .initiate load becomes
  | processExchange address limits message =>
    obtain ⟨_, _, gives, returned⟩ := Host.perform_bind_eq_ok.mp performed
    cases returned
    obtain ⟨trusted, store, draws, exchanged, becomes⟩ :=
      Establishment.processExchange_eq_ok permissive gives
    exact .processExchange trusted exchanged becomes
  | encrypt address text =>
    obtain ⟨_, _, gives, returned⟩ := Host.perform_bind_eq_ok.mp performed
    cases returned
    obtain ⟨record, sender, state, load, sending, sealing, becomes⟩ :=
      Transport.encrypt_eq_ok permissive gives
    exact .encrypt load sending sealing becomes
  | decrypt address limits callback message =>
    obtain ⟨_, _, gives, returned⟩ := Host.perform_bind_eq_ok.mp performed
    cases returned
    cases message with
    | whisper message =>
      obtain ⟨record, result, skipped, draws, middle, remote, load, _, before, opened, known,
        trusted, _, becomes⟩ := Transport.decryptWhisper_eq_ok permissive gives
      exact .whisper load before opened known trusted becomes
    | preKeyWhisper message =>
      obtain ⟨record, accepted, used, result, skipped, draws, middle, remote, load, sender,
        accepts, before, opened, known, trusted, _, becomes⟩ :=
        Transport.decryptPreKeyWhisper_eq_ok permissive gives
      exact .preKeyWhisper load sender accepts before opened known trusted becomes
    | keyExchange message => cases gives
  | endSession address =>
    obtain ⟨_, _, gives, returned⟩ := Host.perform_bind_eq_ok.mp performed
    cases returned
    exact .endSession (Transport.endSession_eq_ok permissive gives)

theorem Done.refusal_eq (done : operation.Done host after reply) :
    after.refusal = host.refusal := by
  cases done with
  | processBundle trusted offered load becomes => exact becomes.refusal_eq
  | initiate load becomes => exact becomes.refusal_eq
  | processExchange trusted exchanged becomes => exact becomes.refusal_eq
  | encrypt load sending sealing becomes => exact becomes.refusal_eq
  | whisper load before opened known trusted becomes => exact becomes.refusal_eq
  | preKeyWhisper load sender accepts before opened known trusted becomes =>
    exact becomes.refusal_eq
  | endSession becomes => exact becomes.refusal_eq

end Operation
end DoubleRatchet
