import DoubleRatchet.Proofs.Engine.Lives
import DoubleRatchet.Proofs.Suite.Newcomer

namespace DoubleRatchet

/-!
# The handshake goes along until it is answered

The party that opens a session from a bundle cannot know whether its first message has come
through, so it sends the handshake along with every message until one of the other party
arrives.  When to stop is remembered in a marker of the state, and the states of a record are
archived, revived and stored in the meantime.

That a state is marked is here compared with what it has gone through, as the ledger of lives
tells it.  Sealing only looks at the current state, so it follows what every message is.
-/

namespace Life

variable [Suite] {store : Store} {life : Life} {state : SessionState}

/-- The envelope carries a handshake as the life of a state asks for: that of its bundle, from
the owner of the store, and none once the bundle is answered or where there was no bundle. -/
def Sends (life : Life) (store : Store) (state : SessionState) : Envelope -> Prop
  | .whisper _ => life.unanswered? = none
  | .preKeyWhisper message => ∃ bundle, life.unanswered? = some bundle ∧
      message.preKeyId = bundle.preKey.map (·.id) ∧
      message.signedPreKeyId = bundle.signedPreKey.map (·.id) ∧
      state.initiatorBaseKey = some message.baseKey ∧
      message.registrationId = store.registrationId ∧
      message.identity = store.identity.identity
  | .keyExchange _ => False

/-- What a state that fits its life is sealed into is as its life asks for. -/
theorem Fits.sends (fits : life.Fits store state) (established : state.established = true)
    (message : WhisperMessage) :
    life.Sends store state (state.wrap store.identity.identity message) := by
  have marks := fits.marks
  unfold Marks at marks
  unfold SessionState.wrap
  cases unanswered : life.unanswered? with
  | none =>
    rw [unanswered] at marks
    rw [show state.pendingPreKey = none from marks]
    exact unanswered
  | some bundle =>
    rw [unanswered] at marks
    obtain ⟨baseKey, base_eq, marked⟩ := marks
    rw [marked]
    exact ⟨bundle, unanswered, rfl, rfl, base_eq, (fits.owned established).1, rfl⟩

/-- A state that fits its life seals every text that its keys can seal. -/
theorem Fits.sealText {sender : SenderChain} (fits : life.Fits store state)
    (sending : state.sender = some sender) (text : Bytes) :
    match sender.chainKey.messageKeys.seal? text with
    | none => (·.1) <$> state.sealText sender text = .error (.invalidState .sealing)
    | some _ => ∃ envelope, (·.1) <$> state.sealText sender text = .ok envelope ∧
        life.Sends store state envelope := by
  have established : state.established = true := (congrArg Option.isSome sending).trans rfl
  obtain ⟨_, ours, theirs⟩ := fits.owned established
  obtain ⟨remote, theirs⟩ := Option.isSome_iff_exists.mp theirs
  cases closed : sender.chainKey.messageKeys.seal? text with
  | none =>
    rw [SessionState.sealText_of_unsealed ours theirs closed]
    rfl
  | some body =>
    rw [SessionState.sealText_of_sealed ours theirs closed]
    exact ⟨_, rfl, fits.sends established _⟩

end Life

section Scene

open Scene

attribute [local instance] plainSuite

end Scene
end DoubleRatchet
