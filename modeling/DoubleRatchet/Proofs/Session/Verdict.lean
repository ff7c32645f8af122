import DoubleRatchet.Proofs.Session.Trial

namespace DoubleRatchet

/-!
# What a state answers to a message

Opening a message draws a pair where the agreement ratchet moves, and the new state
depends on that pair.  The answer does not: the keys of the message come from the chains
of the other party, which are made before the own pair enters.  A state therefore has one
verdict on a message, its text or a fault, whatever is drawn and whoever asks.

That is what makes it meaningful to speak of the first state of a record that does not
decline a message, before any of them is tried.
-/

namespace Traced

variable {α β : Type}

/-- The operation gives the same result on every trace. -/
def Gives (operation : Traced α) (result : Except Fault α) : Prop :=
  ∀ trace : Trace, (operation trace).1 = result

theorem gives_lift (result : Except Fault α) : Gives (monadLift result) result :=
  fun _ => rfl

theorem gives_reportAll (events : List Event) :
    Gives (monadLift (Trace.reportAll events)) (.ok ()) :=
  fun _ => rfl

theorem Gives.bind {operation : Traced α} {next : α -> Traced β} {result : Except Fault α}
    {following : α -> Except Fault β} (first : Gives operation result)
    (second : ∀ value, Gives (next value) (following value)) :
    Gives (operation >>= next) (result >>= following) := by
  intro trace
  have early := first trace
  rw [sequence_eq]
  rcases outcome : operation trace with ⟨fault | value, later⟩
  · rw [outcome] at early
    rw [← early]
    rfl
  · rw [outcome] at early
    rw [← early]
    exact second value later

end Traced

namespace SessionState

open Traced

variable [Suite] {limits : Limits}

/-- What serving a counter gives. -/
def keysFor (limits : Limits) (state : SessionState) (theirs : PublicKey) (counter : UInt32) :
    Except Fault (MessageKeys × SessionState) :=
  match state.receiver? theirs with
  | some chain => do
    let served ← chain.serve limits.forwardJumps limits.messageKeys counter
    return (served.keys, state.putReceiver served.chain)
  | none =>
    if limits.forwardJumps < counter.toNat then
      .error (.invalid (.tooFarAhead counter counter.toNat))
    else .error (.invalidState (.missing .receiverChain))

/-- What is left of opening a message once its chain is there gives this. -/
def readFrom (limits : Limits) (chained : SessionState) (message : WhisperMessage) :
    Except Fault (Bytes × SessionState) := do
  let (keys, served) ← chained.keysFor limits message.ratchetKey message.counter
  let remoteIdentity ← served.requireRemoteIdentity
  let localIdentity ← served.requireLocalIdentity
  message.checkTag keys.macKey remoteIdentity localIdentity
  match keys.unseal? message.body with
  | none => throw (.invalid .notAuthentic)
  | some text => return (text, { served with pendingPreKey := none })

theorem gives_serve (state : SessionState) (theirs : PublicKey) (counter : UInt32) :
    (state.serve limits theirs counter).Gives (state.keysFor limits theirs counter) := by
  unfold serve keysFor
  cases state.receiver? theirs with
  | none =>
    dsimp only
    split
    · exact gives_lift (.error _)
    · exact gives_lift (.error _)
  | some chain =>
    apply (gives_lift _).bind
    intro served
    exact (gives_reportAll served.events).bind fun _ => gives_lift (.ok _)

theorem gives_openFrom (chained : SessionState) (message : WhisperMessage) :
    (chained.openFrom limits message).Gives (chained.readFrom limits message) := by
  unfold openFrom readFrom
  apply (gives_serve chained _ _).bind
  rintro ⟨keys, served⟩
  apply (gives_lift _).bind
  intro remoteIdentity
  apply (gives_lift _).bind
  intro localIdentity
  apply (gives_lift _).bind
  intro _
  cases keys.unseal? message.body with
  | none => exact gives_lift (.error _)
  | some text => exact gives_lift (.ok _)

omit [Suite] in
/-- The state with another root and sender chain. -/
def sendingBy (state : SessionState) (root : RootKey) (sender : SenderChain) : SessionState :=
  { state with rootKey := some root, sender := some sender }

theorem keysFor_sendingBy (state : SessionState) (root : RootKey) (sender : SenderChain)
    (theirs : PublicKey) (counter : UInt32) :
    (state.sendingBy root sender).keysFor limits theirs counter =
      (fun found => (found.1, found.2.sendingBy root sender)) <$>
        state.keysFor limits theirs counter := by
  have same : (state.sendingBy root sender).receiver? theirs = state.receiver? theirs := rfl
  unfold keysFor
  rw [same]
  cases state.receiver? theirs with
  | none =>
    dsimp only
    split
    · rfl
    · rfl
  | some chain =>
    simp only [map_bind, map_pure]
    rfl

/-- Reading does not look at the root and the sender chain, and hands them on. -/
theorem readFrom_sendingBy (chained : SessionState) (root : RootKey) (sender : SenderChain)
    (message : WhisperMessage) :
    (chained.sendingBy root sender).readFrom limits message =
      (fun read => (read.1, read.2.sendingBy root sender)) <$>
        chained.readFrom limits message := by
  unfold readFrom
  rw [keysFor_sendingBy, bind_map_left, map_bind]
  congr 1
  funext ⟨keys, served⟩
  have remote_eq : (served.sendingBy root sender).requireRemoteIdentity =
      served.requireRemoteIdentity := rfl
  have local_eq : (served.sendingBy root sender).requireLocalIdentity =
      served.requireLocalIdentity := rfl
  simp only [remote_eq, local_eq, map_bind]
  cases keys.unseal? message.body with
  | none => rfl
  | some text => rfl

/-- A message that a chain is there for is answered by what the chain reads. -/
theorem answer_of_chained {state chained : SessionState} {message : WhisperMessage}
    {address : Address} {trace : Trace} (established : state.established = true)
    (sameVersion : message.version = state.version)
    (reached : state.Chained limits trace.nextPair message.ratchetKey chained) :
    (·.1) <$> (state.openMessage limits address message trace).1 =
      (·.1) <$> chained.readFrom limits message := by
  obtain ⟨later, gives, _⟩ := openChain_of_chained address reached
  rw [openMessage_eq established sameVersion, sequence_of_ok gives,
    gives_openFrom chained message later]

/-- What a state reads after a step of the ratchet does not depend on the own pair. -/
theorem text_readFrom_ratchet (state : SessionState) (root : RootKey) (sender : SenderChain)
    (message : WhisperMessage) (ours other : KeyPair) (bound : Nat) :
    (·.1) <$> (state.ratchet root sender message.ratchetKey ours bound).readFrom limits message =
      (·.1) <$>
        (state.ratchet root sender message.ratchetKey other bound).readFrom limits message := by
  let received := root.createChain message.ratchetKey sender.ratchetKey
  let base : SessionState :=
    { state.addReceiver message.ratchetKey received.2 bound with
      previousCounter := if sender.chainKey.index = 0 then 0 else sender.chainKey.index - 1 }
  have stepped (pair : KeyPair) : state.ratchet root sender message.ratchetKey pair bound =
      base.sendingBy (received.1.createChain message.ratchetKey pair).1
        ⟨pair, (received.1.createChain message.ratchetKey pair).2⟩ := rfl
  rw [stepped ours, stepped other, readFrom_sendingBy, readFrom_sendingBy, ← comp_map, ← comp_map]
  rfl

/-- The answer of a state to a message is the same for all addresses and traces. -/
theorem exists_answer (limits : Limits) (state : SessionState) (message : WhisperMessage) :
    ∃ answer : Except Fault Bytes, ∀ (address : Address) (trace : Trace),
      (·.1) <$> (state.openMessage limits address message trace).1 = answer := by
  by_cases ready : state.established = true ∧ message.version = state.version
  · obtain ⟨established, sameVersion⟩ := ready
    cases present : state.receiver? message.ratchetKey with
    | some chain =>
      refine ⟨_, fun address trace => answer_of_chained established sameVersion (.known ?_)⟩
      rw [present]
      rfl
    | none =>
      have missing : ¬ (state.receiver? message.ratchetKey).isSome = true := by
        rw [present]
        exact Bool.false_ne_true
      obtain ⟨sender, sending⟩ := Option.isSome_iff_exists.mp established
      cases rooted : state.rootKey with
      | none =>
        refine ⟨.error (.invalidState (.missing .rootKey)), fun address trace => ?_⟩
        have fails : state.openChain limits address message.ratchetKey trace =
            (.error (.invalidState (.missing .rootKey)), trace) := by
          unfold openChain requireRootKey
          rw [if_neg missing, rooted]
          rfl
        rw [openMessage_eq established sameVersion, sequence_of_error fails]
        rfl
      | some root =>
        refine ⟨(·.1) <$> (state.ratchet root sender message.ratchetKey default
          limits.receiverChains).readFrom limits message, fun address trace => ?_⟩
        rw [answer_of_chained established sameVersion (.stepped root sender present rooted sending)]
        exact text_readFrom_ratchet state root sender message _ _ _
  · cases established : state.established with
    | false =>
      refine ⟨.error (.invalid .uninitialized), fun address trace => ?_⟩
      unfold openMessage
      rw [established]
      rfl
    | true =>
      have different : message.version ≠ state.version := fun same => ready ⟨established, same⟩
      refine ⟨.error (.invalid (.otherVersion message.version state.version)),
        fun address trace => ?_⟩
      unfold openMessage
      rw [established, if_pos different]
      rfl

/-- The answer of a state to a message: its text, or the fault with which it is refused. -/
def verdict (limits : Limits) (message : WhisperMessage) (state : SessionState) :
    Except Fault Bytes :=
  (·.1) <$> (state.openMessage limits default message (.start fun _ => default)).1

/-- The state refuses the message as invalid, and so leaves it to the next one. -/
def declines (limits : Limits) (message : WhisperMessage) (state : SessionState) : Bool :=
  match state.verdict limits message with
  | .error (.invalid _) => true
  | _ => false

/-- Opening is answered by the verdict, whatever is drawn. -/
theorem answer_eq_verdict (address : Address) (state : SessionState) (message : WhisperMessage)
    (trace : Trace) :
    (·.1) <$> (state.openMessage limits address message trace).1 =
      state.verdict limits message := by
  obtain ⟨answer, same⟩ := exists_answer limits state message
  exact (same address trace).trans (same default _).symm

theorem openMessage_of_verdict_ok (address : Address) {state : SessionState}
    {message : WhisperMessage} {text : Bytes} (accepts : state.verdict limits message = .ok text)
    (trace : Trace) :
    ∃ taken later, state.openMessage limits address message trace = (.ok (text, taken), later) := by
  have answer := (answer_eq_verdict address state message trace).trans accepts
  rcases outcome : state.openMessage limits address message trace with ⟨fault | read, later⟩
  · rw [outcome] at answer
    cases answer
  · rw [outcome] at answer
    cases answer
    exact ⟨read.2, later, rfl⟩

theorem openMessage_of_verdict_error (address : Address) {state : SessionState}
    {message : WhisperMessage} {fault : Fault}
    (refuses : state.verdict limits message = .error fault) (trace : Trace) :
    ∃ later, state.openMessage limits address message trace = (.error fault, later) := by
  have answer := (answer_eq_verdict address state message trace).trans refuses
  rcases outcome : state.openMessage limits address message trace with ⟨other | read, later⟩
  · rw [outcome] at answer
    cases answer
    exact ⟨later, rfl⟩
  · rw [outcome] at answer
    cases answer

theorem declines_iff {state : SessionState} {message : WhisperMessage} :
    state.declines limits message = true ↔
      ∃ fault, state.verdict limits message = .error (.invalid fault) := by
  unfold declines
  rcases state.verdict limits message with fault | text
  · cases fault <;> simp
  · simp

end SessionState

namespace SessionRecord

variable [Suite] {limits : Limits} {state : SessionState} {message : WhisperMessage} {trace : Trace}

/-- An attempt at a state that declines goes on with the next one, somewhat later. -/
theorem attempt_of_declines (address : Address)
    (declines : state.declines limits message = true) (trace : Trace) :
    ∃ fault draws later, attempt (state.openMessage limits address message) trace =
      (.ok (.error fault), later) ∧ trace.Continues draws later := by
  obtain ⟨fault, refuses⟩ := SessionState.declines_iff.mp declines
  obtain ⟨later, fails⟩ := SessionState.openMessage_of_verdict_error address refuses trace
  obtain ⟨draws, _, continues⟩ := SessionState.openMessage_continues limits address state message
    trace
  rw [fails] at continues
  refine ⟨fault, draws, later, ?_, continues⟩
  unfold attempt
  rw [fails]

/-- A fault of a state that does not decline is final. -/
theorem attempt_of_refuses (address : Address) {fault : Fault}
    (decides : state.declines limits message = false)
    (refuses : state.verdict limits message = .error fault) (trace : Trace) :
    ∃ later, attempt (state.openMessage limits address message) trace = (.error fault, later) := by
  obtain ⟨later, fails⟩ := SessionState.openMessage_of_verdict_error address refuses trace
  refine ⟨later, ?_⟩
  unfold attempt
  rw [fails]
  cases fault with
  | invalid reason =>
    rw [SessionState.declines_iff.mpr ⟨reason, refuses⟩] at decides
    cases decides
  | _ => rfl

end SessionRecord
end DoubleRatchet
