import DoubleRatchet.Establishment

namespace DoubleRatchet

/-!
# Sending and receiving

A text is sealed under the keys of the sender chain, which then moves on.  A
message is opened by the first state of the record that takes it, the current
one before the archived ones from the newest on; a state that was archived
becomes current again when it takes a message.  A state that refuses a message
as invalid leaves it to the next one, and any other fault is final.

Opening gives a new state and leaves the old one alone.  Only the state that took
the message comes back into the record, and only after the plaintext was offered
to the callback of the host is anything stored.
-/

namespace SessionState

variable [Suite]

/-- Seals a text: the message, and the state with its sender chain moved on. -/
def sealText (state : SessionState) (sender : SenderChain) (text : Bytes) :
    Except Fault (Envelope × SessionState) := do
  let keys := sender.chainKey.messageKeys
  let localIdentity ← state.requireLocalIdentity
  let remoteIdentity ← state.requireRemoteIdentity
  match keys.seal? text with
  | none => throw (.invalidState .sealing)
  | some body =>
    let message := WhisperMessage.create state.version keys.macKey sender.ratchetKey.publicKey
      sender.chainKey.index state.previousCounter body localIdentity remoteIdentity
    let envelope : Envelope :=
      match state.pendingPreKey with
      | none => .whisper message
      | some pending => .preKeyWhisper
        { version := state.version
          registrationId := state.localRegistrationId
          preKeyId := pending.preKeyId
          signedPreKeyId := pending.signedPreKeyId
          baseKey := pending.baseKey
          identity := localIdentity
          message }
    return (envelope,
      { state with sender := some { sender with chainKey := sender.chainKey.next } })

/-- The state after a step of the agreement ratchet: a receiver chain for the new
key of the other party and a sender chain from the given fresh pair. -/
def ratchet (state : SessionState) (root : RootKey) (sender : SenderChain) (theirs : PublicKey)
    (ours : KeyPair) (receiverChains : Nat) : SessionState :=
  let (receiverRoot, receiverChain) := root.createChain theirs sender.ratchetKey
  let (senderRoot, senderChain) := receiverRoot.createChain theirs ours
  { state.addReceiver theirs receiverChain receiverChains with
    rootKey := some senderRoot
    previousCounter :=
      if sender.chainKey.index = 0 then 0 else sender.chainKey.index - 1
    sender := some ⟨ours, senderChain⟩ }

/-- The state with a receiver chain for a ratchet key, which is opened by a step of
the agreement ratchet where there is none. -/
def openChain (limits : Limits) (address : Address) (state : SessionState)
    (theirs : PublicKey) : Traced SessionState := do
  if (state.receiver? theirs).isSome then return state
  let root ← state.requireRootKey
  let sender ← state.requireSender
  let ours ← KeyPair.generate
  let (_, receiverChain) := root.createChain theirs sender.ratchetKey
  Trace.reportAll (state.droppedByAdding theirs receiverChain limits.receiverChains)
  Trace.report (.ratchetStepped theirs address)
  return state.ratchet root sender theirs ours limits.receiverChains

/-- The keys of a counter, with the state whose chain has served them.  A chain that
was opened and given up at once, because none are kept, has nothing to serve. -/
def serve (limits : Limits) (state : SessionState) (ratchetKey : PublicKey) (counter : UInt32) :
    Traced (MessageKeys × SessionState) := do
  match state.receiver? ratchetKey with
  | some chain =>
    let served ← chain.serve limits.forwardJumps limits.messageKeys counter
    Trace.reportAll served.events
    return (served.keys, state.putReceiver served.chain)
  | none =>
    if limits.forwardJumps < counter.toNat then
      throw (.invalid (.tooFarAhead counter counter.toNat))
    else throw (.invalidState (.missing .receiverChain))

/-- Opens a message: the text, and the state that took it.  Opening ends the
handshake of the state. -/
def openMessage (limits : Limits) (address : Address) (state : SessionState)
    (message : WhisperMessage) : Traced (Bytes × SessionState) := do
  if !state.established then throw (.invalid .uninitialized)
  if message.version ≠ state.version then
    throw (.invalid (.otherVersion message.version state.version))
  let chained ← state.openChain limits address message.ratchetKey
  let (keys, served) ← chained.serve limits message.ratchetKey message.counter
  let remoteIdentity ← served.requireRemoteIdentity
  let localIdentity ← served.requireLocalIdentity
  message.checkTag keys.macKey remoteIdentity localIdentity
  match keys.unseal? message.body with
  | none => throw (.invalid .notAuthentic)
  | some text => return (text, { served with pendingPreKey := none })

end SessionState

namespace SessionRecord

/-- Runs an operation and keeps the fault of an invalid message as a value. -/
def attempt {α : Type} (operation : Traced α) : Traced (Except MessageFault α) :=
  fun trace =>
    match operation trace with
    | (.ok value, trace) => (.ok (.ok value), trace)
    | (.error (.invalid fault), trace) => (.ok (.error fault), trace)
    | (.error fault, trace) => (.error fault, trace)

variable [Suite]

/-- The first of the archived states, from a place on, that takes a message: its
place, the text and the state as it took it. -/
def openArchived (limits : Limits) (address : Address) (message : WhisperMessage) :
    (place : Nat) -> List SessionState -> Traced (Option (Nat × Bytes × SessionState))
  | _, [] => return none
  | place, state :: older => do
    match ← attempt (state.openMessage limits address message) with
    | .ok (text, taken) => return some (place, text, taken)
    | .error _ => openArchived limits address message (place + 1) older

/-- Opens a message by the first state that takes it: the text, and the record with
that state as the current one. -/
def openMessage (limits : Limits) (address : Address) (record : SessionRecord)
    (message : WhisperMessage) : Traced (Bytes × SessionRecord) := do
  match ← attempt (record.current.openMessage limits address message) with
  | .ok (text, taken) => return (text, { record with current := taken })
  | .error fault =>
    Trace.report (.currentRefused fault)
    match ← openArchived limits address message 0 record.previous with
    | none => throw (.invalid .noValidSession)
    | some (place, text, taken) =>
      let record ← Establishment.promote (record.removePrevious place) taken limits
      Trace.report (.archivedPromoted place address)
      return (text, record)

end SessionRecord

namespace Transport

variable [Suite]

/-- Seals a text for an address. -/
def encrypt (address : Address) (text : Bytes) : Engine Envelope := do
  let record ← Host.loadSession address
  match record.current.sender with
  | none => throw (.noSession address)
  | some sender =>
    let (envelope, state) ← record.current.sealText sender text
    Host.storeSession address { record with current := state }
    Trace.report (.encrypted sender.chainKey.index address)
    return envelope

omit [Suite] in
/-- Refuses the plaintext of a state whose identity is no longer the pinned one. -/
def checkSessionTrusted (address : Address) (record : SessionRecord) : Engine Unit := do
  let remote ← record.current.requireRemoteIdentity
  if ← Host.isTrustedIdentity address.name remote then return ()
  Trace.report (.sessionUntrusted address remote)
  throw (.untrusted address.name remote)

/-- Opens a sealed message. -/
def decryptWhisper (address : Address) (limits : Limits) (callback : Bytes -> Except Fault Unit)
    (message : WhisperMessage) : Engine Bytes := do
  let record ← Host.loadSession address
  if !record.current.established && record.previous.isEmpty then throw (.noSession address)
  let (text, record) ← record.openMessage limits address message
  checkSessionTrusted address record
  Host.offer text callback
  Host.storeSession address record
  return text

/-- Opens a first message.  The pre-key that its handshake used up is forgotten
before anything else is written. -/
def decryptPreKeyWhisper (address : Address) (limits : Limits)
    (callback : Bytes -> Except Fault Unit) (message : PreKeyWhisperMessage) : Engine Bytes := do
  let record ← Host.loadSession address
  let (record, used) ← Establishment.processHandshake address limits record message
  let (text, record) ← record.openMessage limits address message.message
  checkSessionTrusted address record
  Host.offer text callback
  match used with
  | none => pure ()
  | some id =>
    Host.removePreKey id
    Trace.report (.preKeyConsumed id address)
  discard <| Host.saveIdentity address.name message.identity
  Host.storeSession address record
  return text

/-- Opens a message, and offers its text to a callback before anything is stored. -/
def decryptWith (address : Address) (limits : Limits) (callback : Bytes -> Except Fault Unit) :
    Envelope -> Engine Bytes
  | .whisper message => decryptWhisper address limits callback message
  | .preKeyWhisper message => decryptPreKeyWhisper address limits callback message
  | .keyExchange message => throw (.invalid (.noCiphertext message.sequence))

/-- Opens a message. -/
def decrypt (address : Address) (limits : Limits) (message : Envelope) : Engine Bytes :=
  decryptWith address limits (fun _ => .ok ()) message

omit [Suite]

/-- The current state of an established session. -/
def establishedState (address : Address) : Engine SessionState := do
  let record ← Host.loadSession address
  if record.current.established then return record.current
  throw (.noSession address)

/-- The registration id that the other party announced. -/
def remoteRegistrationId (address : Address) : Engine UInt32 := do
  return (← establishedState address).remoteRegistrationId

/-- The version of an established session. -/
def sessionVersion (address : Address) : Engine UInt8 := do
  return (← establishedState address).version

/-- Forgets every session with a name. -/
def endSession (address : Address) : Engine Unit := do
  Host.deleteSessions address.name
  Trace.report (.sessionsEnded address.name)

end Transport
end DoubleRatchet
