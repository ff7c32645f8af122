import Mathlib.Logic.Relation
import DoubleRatchet.Proofs.Session.Receivers
import DoubleRatchet.Proofs.Session.Sealing

namespace DoubleRatchet
namespace SessionState

/-!
# A state takes no message twice

The states of the library come from negotiations, and change by announcements of
a handshake, by an exchange that is left pending, and by sealing and opening.
`Produced` closes the negotiated states under these changes, with whatever keys,
texts and limits.  Every such state has its receiver chains in order, which is the
only thing the argument needs of its history.

A run of sealing and opening is a chain of `Step`s.  The theorem about runs speaks
of the receiver chain of one ratchet key for as long as the state keeps it; a chain
that was dropped is forgotten together with everything that was used up on it.  No
step of a run may take a message with the last counter, after which an index would
start over.
-/

variable [Suite]

/-- One successful sealing or opening. -/
inductive Step (state : SessionState) : SessionState -> Prop where
  | sealed {next : SessionState} {sender : SenderChain} {text : Bytes} {envelope : Envelope}
      (sending : state.sender = some sender)
      (gives : state.sealText sender text = .ok (envelope, next)) : Step state next
  | opened {next : SessionState} {limits : Limits} {address : Address} {message : WhisperMessage}
      {trace later : Trace} {text : Bytes} (notLast : message.counter < lastCounter)
      (gives : state.openMessage limits address message trace = (.ok (text, next), later)) :
      Step state next

/-- The states that the library makes. -/
inductive Produced : SessionState -> Prop where
  | empty : Produced .empty
  | initiator (version : UInt8) (keys : Negotiation.InitiatorKeys) (ratchetKey : KeyPair) :
      Produced (Negotiation.initiator version keys ratchetKey)
  | responder (version : UInt8) (keys : Negotiation.ResponderKeys) :
      Produced (Negotiation.responder version keys)
  | announced {state : SessionState} (before : Produced state)
      (pendingPreKey : Option PendingPreKey) (remoteRegistrationId localRegistrationId : UInt32)
      (initiatorBaseKey : Option PublicKey) :
      Produced { state with
        pendingPreKey, remoteRegistrationId, localRegistrationId, initiatorBaseKey }
  | awaiting {state : SessionState} (before : Produced state) (pending : PendingExchange) :
      Produced { state with pendingExchange := some pending }
  | stepped {state next : SessionState} (before : Produced state) (step : state.Step next) :
      Produced next

variable {state next : SessionState} {theirs : PublicKey} {counter : UInt32}

theorem Orderly.step (orderly : state.Orderly) (step : state.Step next) : next.Orderly := by
  cases step with
  | sealed sending gives =>
    obtain ⟨_, _, _, _, _, _, _, rfl⟩ := sealText_eq_ok gives
    exact ⟨orderly.distinct, orderly.inOrder⟩
  | opened notLast gives =>
    have taking := (takes_of_openMessage gives).1
    exact (orderly.takes notLast taking).1

/-- Every state of the library has its receiver chains in order. -/
theorem Produced.orderly (produced : Produced state) : state.Orderly := by
  induction produced with
  | empty => exact ⟨List.nodup_nil, fun _ member => nomatch member⟩
  | initiator version keys ratchetKey =>
    constructor
    · exact List.pairwise_singleton _ _
    · intro chain member
      rw [List.mem_singleton.mp member]
      exact ReceiverChain.inOrder_fresh _ _
  | responder version keys => exact ⟨List.nodup_nil, fun _ member => nomatch member⟩
  | announced before _ _ _ _ ih => exact ⟨ih.distinct, ih.inOrder⟩
  | awaiting before pending ih => exact ⟨ih.distinct, ih.inOrder⟩
  | stepped before step ih => exact ih.step step

/-- A step after which the state still has the chain for a ratchet key. -/
def KeepingStep (theirs : PublicKey) (state next : SessionState) : Prop :=
  state.Step next ∧ (next.receiver? theirs).isSome

/-- What holds of a state that has taken a message on a chain which it still has. -/
structure Shut (state : SessionState) (version : UInt8) (theirs : PublicKey) (counter : UInt32) :
    Prop where
  orderly : state.Orderly
  refuses : state.Refuses theirs counter
  present : (state.receiver? theirs).isSome
  established : state.established = true
  version_eq : state.version = version

theorem Shut.step {version : UInt8} (shut : state.Shut version theirs counter)
    (step : KeepingStep theirs state next) : next.Shut version theirs counter := by
  obtain ⟨step, present⟩ := step
  have orderly := shut.orderly.step step
  cases step with
  | sealed sending gives =>
    obtain ⟨_, _, _, _, _, _, _, rfl⟩ := sealText_eq_ok gives
    exact ⟨orderly, shut.refuses, present, rfl, shut.version_eq⟩
  | opened notLast gives =>
    have taking := (takes_of_openMessage gives).1
    obtain ⟨_, _, _, established, version_eq⟩ := shut.orderly.takes notLast taking
    refine ⟨orderly, shut.refuses.takes shut.orderly notLast shut.present taking, present,
      established, ?_⟩
    obtain ⟨_, _, _, _, _, opens, _⟩ := taking
    rw [version_eq, opens.version_eq]
    exact shut.version_eq

/-- Along a run that keeps the chain, a counter that was taken stays refused. -/
theorem Shut.run {version : UInt8} (shut : state.Shut version theirs counter)
    (run : Relation.ReflTransGen (KeepingStep theirs) state next) :
    next.Shut version theirs counter := by
  induction run with
  | refl => exact shut
  | tail _ step ih => exact ih.step step

/-- A state shuts the place of every message that it takes. -/
theorem Orderly.shut (orderly : state.Orderly) {limits : Limits} {address : Address}
    {message : WhisperMessage} {trace later : Trace} {text : Bytes}
    (notLast : message.counter < lastCounter)
    (gives : state.openMessage limits address message trace = (.ok (text, next), later)) :
    next.Shut message.version message.ratchetKey message.counter := by
  have taking := (takes_of_openMessage gives).1
  obtain ⟨ordered, refuses, present, established, version_eq⟩ := orderly.takes notLast taking
  exact ⟨ordered, refuses, present, established, version_eq⟩

end SessionState
end DoubleRatchet
