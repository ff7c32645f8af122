import DoubleRatchet.Proofs.Session.Opening

namespace DoubleRatchet
namespace SessionState

/-!
# What sealing makes of a state

Sealing needs both identities and a text that is not too long.  It gives one
message for the place of the sender chain, inside the handshake as long as that is
pending, and the state is the same but for its sender chain, which has moved on.
-/

variable [Suite]

/-- The message that a state seals a body into. -/
def sealedMessage (state : SessionState) (sender : SenderChain)
    (localIdentity remoteIdentity : IdentityKey) (body : Bytes) : WhisperMessage :=
  WhisperMessage.create state.version sender.chainKey.messageKeys.macKey
    sender.ratchetKey.publicKey sender.chainKey.index state.previousCounter body localIdentity
    remoteIdentity

omit [Suite] in
/-- The message as it travels: inside the handshake, if that is pending. -/
def wrap (state : SessionState) (localIdentity : IdentityKey) (message : WhisperMessage) :
    Envelope :=
  match state.pendingPreKey with
  | none => .whisper message
  | some pending => .preKeyWhisper
    { version := state.version
      registrationId := state.localRegistrationId
      preKeyId := pending.preKeyId
      signedPreKeyId := pending.signedPreKeyId
      baseKey := pending.baseKey
      identity := localIdentity
      message }

/-- The state after one more message on its sender chain. -/
def sent (state : SessionState) (sender : SenderChain) : SessionState :=
  { state with sender := some { sender with chainKey := sender.chainKey.next } }

theorem sealText_of_sealed {state : SessionState} {sender : SenderChain} {text body : Bytes}
    {localIdentity remoteIdentity : IdentityKey}
    (ours : state.localIdentity = some localIdentity)
    (theirs : state.remoteIdentity = some remoteIdentity)
    (closed : sender.chainKey.messageKeys.seal? text = some body) :
    state.sealText sender text =
      .ok (state.wrap localIdentity
        (state.sealedMessage sender localIdentity remoteIdentity body), state.sent sender) := by
  have localFound : state.requireLocalIdentity = .ok localIdentity := require_eq_ok.mpr ours
  have remoteFound : state.requireRemoteIdentity = .ok remoteIdentity := require_eq_ok.mpr theirs
  unfold sealText
  rw [localFound, remoteFound]
  simp only [closed]
  rfl

/-- A text that the keys cannot seal is refused. -/
theorem sealText_of_unsealed {state : SessionState} {sender : SenderChain} {text : Bytes}
    {localIdentity remoteIdentity : IdentityKey}
    (ours : state.localIdentity = some localIdentity)
    (theirs : state.remoteIdentity = some remoteIdentity)
    (refused : sender.chainKey.messageKeys.seal? text = none) :
    state.sealText sender text = .error (.invalidState .sealing) := by
  have localFound : state.requireLocalIdentity = .ok localIdentity := require_eq_ok.mpr ours
  have remoteFound : state.requireRemoteIdentity = .ok remoteIdentity := require_eq_ok.mpr theirs
  unfold sealText
  rw [localFound, remoteFound]
  simp only [refused]
  rfl

/-- A text that was sealed gave one message for the place of the sender chain. -/
theorem sealText_eq_ok {state next : SessionState} {sender : SenderChain} {text : Bytes}
    {envelope : Envelope} (gives : state.sealText sender text = .ok (envelope, next)) :
    ∃ localIdentity remoteIdentity body, state.localIdentity = some localIdentity ∧
      state.remoteIdentity = some remoteIdentity ∧
      sender.chainKey.messageKeys.seal? text = some body ∧
      envelope = state.wrap localIdentity
        (state.sealedMessage sender localIdentity remoteIdentity body) ∧
      next = state.sent sender := by
  cases ours : state.localIdentity with
  | none =>
    unfold sealText requireLocalIdentity at gives
    rw [ours] at gives
    cases gives
  | some localIdentity =>
    cases theirs : state.remoteIdentity with
    | none =>
      unfold sealText requireLocalIdentity requireRemoteIdentity at gives
      rw [ours, theirs] at gives
      cases gives
    | some remoteIdentity =>
      cases closed : sender.chainKey.messageKeys.seal? text with
      | none =>
        rw [sealText_of_unsealed ours theirs closed] at gives
        cases gives
      | some body =>
        rw [sealText_of_sealed ours theirs closed] at gives
        cases gives
        exact ⟨localIdentity, remoteIdentity, body, rfl, rfl, rfl, rfl, rfl⟩

end SessionState
end DoubleRatchet
