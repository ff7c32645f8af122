import DoubleRatchet.Proofs.Engine.Draws
import DoubleRatchet.Transport

namespace DoubleRatchet

/-!
# What it means that a state opens a message

Opening a message draws a key pair where the agreement ratchet moves and reports
what it does.  The rest is a function of the state and of that pair.  `Opens`
collects the conditions of a success without any trace, and the theorems here say
that the operation succeeds exactly under those conditions, on every trace, with
the pair that the trace would draw next.

A failed attempt may have drawn as well, which matters to a record that goes on
to the next of its states.
-/

namespace SessionState

open Traced

/-- The state from which the keys of a message are served: the state itself, where
it knows the ratchet key, and the state after a step of the agreement ratchet
otherwise. -/
inductive Chained [Suite] (limits : Limits) (ours : KeyPair) (state : SessionState)
    (theirs : PublicKey) : SessionState -> Prop where
  | known (present : (state.receiver? theirs).isSome) : Chained limits ours state theirs state
  | stepped (root : RootKey) (sender : SenderChain) (absent : state.receiver? theirs = none)
      (rooted : state.rootKey = some root) (sending : state.sender = some sender) :
      Chained limits ours state theirs
        (state.ratchet root sender theirs ours limits.receiverChains)

/-- The conditions under which a state opens a message: `chained` is the state whose
chain serves the keys, `chain` that chain, and `served` what it serves. -/
structure Opens [Suite] (limits : Limits) (ours : KeyPair) (state : SessionState)
    (message : WhisperMessage) (text : Bytes) (chained : SessionState) (chain : ReceiverChain)
    (served : Served) (localIdentity remoteIdentity : IdentityKey) : Prop where
  established : state.established = true
  version_eq : message.version = state.version
  reached : state.Chained limits ours message.ratchetKey chained
  chain_eq : chained.receiver? message.ratchetKey = some chain
  served_eq : chain.serve limits.forwardJumps limits.messageKeys message.counter = .ok served
  remote_eq : chained.remoteIdentity = some remoteIdentity
  local_eq : chained.localIdentity = some localIdentity
  verifies : message.verifies served.keys.macKey remoteIdentity localIdentity = true
  unsealed : served.keys.unseal? message.body = some text

/-- The state that has opened a message by keys of a chain. -/
def taken (chained : SessionState) (chain : ReceiverChain) : SessionState :=
  { chained.putReceiver chain with pendingPreKey := none }

/-- The pair that opening a message draws, if it draws one. -/
def drawsFor (state : SessionState) (theirs : PublicKey) : Nat :=
  if (state.receiver? theirs).isSome then 0 else 1

variable [Suite] {limits : Limits} {address : Address} {trace later : Trace}

theorem Chained.established {state chained : SessionState} {ours : KeyPair} {theirs : PublicKey}
    (opened : state.Chained limits ours theirs chained)
    (established : state.established = true) : chained.established = true := by
  cases opened with
  | known present => exact established
  | stepped root sender absent rooted sending => rfl

omit [Suite] in
theorem require_eq_ok {α : Type} {part : StatePart} {found : Option α} {value : α} :
    require part found = .ok value ↔ found = some value := by
  cases found with
  | none => simp [require]
  | some other => simp [require]

/-! ## The chain for a ratchet key -/

variable (address) in
/-- Where the chain can be had, it is, and only a step of the ratchet draws. -/
theorem openChain_of_chained {state chained : SessionState} {theirs : PublicKey}
    (opened : state.Chained limits trace.nextPair theirs chained) :
    ∃ later, state.openChain limits address theirs trace = (.ok chained, later) ∧
      trace.Continues (state.drawsFor theirs) later := by
  cases opened with
  | known present =>
    refine ⟨trace, ?_, ?_⟩
    · unfold openChain
      rw [if_pos present]
      rfl
    · unfold drawsFor
      rw [if_pos present]
      exact .refl trace
  | stepped root sender absent rooted sending =>
    have missing : ¬ (state.receiver? theirs).isSome = true := by
      rw [absent]
      exact Bool.false_ne_true
    unfold openChain drawsFor
    rw [if_neg missing, if_neg missing]
    have rootFound : state.requireRootKey = .ok root := require_eq_ok.mpr rooted
    have senderFound : state.requireSender = .ok sender := require_eq_ok.mpr sending
    rw [rootFound, senderFound]
    exact ⟨_, rfl, rfl, rfl⟩

variable (limits address) in
/-- Getting the chain is what `Chained` says, and it draws at most one pair. -/
theorem openChain_outcome (state : SessionState) (theirs : PublicKey) (trace : Trace) :
    ∃ draws ≤ state.drawsFor theirs, ∃ outcome later,
      state.openChain limits address theirs trace = (outcome, later) ∧
        trace.Continues draws later ∧
        ∀ chained, outcome = .ok chained →
          state.Chained limits trace.nextPair theirs chained ∧
            draws = state.drawsFor theirs := by
  by_cases present : (state.receiver? theirs).isSome = true
  · have opened : state.Chained limits trace.nextPair theirs state := .known present
    obtain ⟨later, gives, continues⟩ := openChain_of_chained address opened
    refine ⟨_, Nat.le_refl _, _, later, gives, continues, ?_⟩
    intro chained same
    cases same
    exact ⟨opened, rfl⟩
  · have absent : state.receiver? theirs = none := by
      simpa using present
    cases rooted : state.rootKey with
    | none =>
      have missing : state.requireRootKey = .error (.invalidState (.missing .rootKey)) := by
        unfold requireRootKey
        rw [rooted]
        rfl
      refine ⟨0, Nat.zero_le _, .error (.invalidState (.missing .rootKey)), trace, ?_,
        .refl trace, ?_⟩
      · unfold openChain
        rw [if_neg present, missing]
        rfl
      · intro _ impossible
        cases impossible
    | some root =>
      cases sending : state.sender with
      | none =>
        have rootFound : state.requireRootKey = .ok root := require_eq_ok.mpr rooted
        have missing : state.requireSender = .error (.invalidState (.missing .senderChain)) := by
          unfold requireSender
          rw [sending]
          rfl
        refine ⟨0, Nat.zero_le _, .error (.invalidState (.missing .senderChain)), trace, ?_,
          .refl trace, ?_⟩
        · unfold openChain
          rw [if_neg present, rootFound, missing]
          rfl
        · intro _ impossible
          cases impossible
      | some sender =>
        have opened : state.Chained limits trace.nextPair theirs _ :=
          .stepped root sender absent rooted sending
        obtain ⟨later, gives, continues⟩ := openChain_of_chained address opened
        refine ⟨_, Nat.le_refl _, _, later, gives, continues, ?_⟩
        intro chained same
        cases same
        exact ⟨opened, rfl⟩

/-! ## The message itself -/

/-- Serving keys gives what the chain for the ratchet key serves. -/
theorem serve_of_chain {state : SessionState} {message : WhisperMessage} {chain : ReceiverChain}
    {served : Served} (found : state.receiver? message.ratchetKey = some chain)
    (serves : chain.serve limits.forwardJumps limits.messageKeys message.counter = .ok served) :
    state.serve limits message.ratchetKey message.counter trace =
      (.ok (served.keys, state.putReceiver served.chain),
        { trace with events := trace.events ++ served.events }) := by
  unfold serve
  rw [found]
  change ((monadLift (chain.serve limits.forwardJumps limits.messageKeys message.counter) :
    Traced Served) >>= _) trace = _
  rw [serves]
  rfl

theorem serve_eq_ok {state served : SessionState} {theirs : PublicKey} {counter : UInt32}
    {keys : MessageKeys}
    (gives : state.serve limits theirs counter trace = (.ok (keys, served), later)) :
    ∃ chain result, state.receiver? theirs = some chain ∧
      chain.serve limits.forwardJumps limits.messageKeys counter = .ok result ∧
      keys = result.keys ∧ served = state.putReceiver result.chain := by
  unfold serve at gives
  cases found : state.receiver? theirs with
  | none =>
    rw [found] at gives
    dsimp only at gives
    split at gives
    · cases gives
    · cases gives
  | some chain =>
    rw [found] at gives
    obtain ⟨result, middle, first, second⟩ := sequence_eq_ok.mp gives
    have serves : chain.serve limits.forwardJumps limits.messageKeys counter = .ok result := by
      cases outcome : chain.serve limits.forwardJumps limits.messageKeys counter with
      | error fault =>
        rw [outcome] at first
        cases first
      | ok other =>
        rw [outcome] at first
        cases first
        rfl
    obtain ⟨_, last, reported, returned⟩ := sequence_eq_ok.mp second
    cases returned
    exact ⟨chain, result, rfl, serves, rfl, rfl⟩

theorem silent_serve (state : SessionState) (theirs : PublicKey) (counter : UInt32) :
    (state.serve limits theirs counter).Silent := by
  unfold serve
  cases state.receiver? theirs with
  | none =>
    dsimp only
    split
    · exact silent_lift (.error _)
    · exact silent_lift (.error _)
  | some chain =>
    apply (silent_lift _).bind
    intro served
    exact (silent_reportAll _).bind fun _ => silent_lift (.ok _)

/-- What is left of opening a message once its chain is there. -/
def openFrom (limits : Limits) (chained : SessionState) (message : WhisperMessage) :
    Traced (Bytes × SessionState) := do
  let (keys, served) ← chained.serve limits message.ratchetKey message.counter
  let remoteIdentity ← served.requireRemoteIdentity
  let localIdentity ← served.requireLocalIdentity
  message.checkTag keys.macKey remoteIdentity localIdentity
  match keys.unseal? message.body with
  | none => throw (.invalid .notAuthentic)
  | some text => return (text, { served with pendingPreKey := none })

theorem openMessage_eq {state : SessionState} {message : WhisperMessage}
    (established : state.established = true) (sameVersion : message.version = state.version) :
    state.openMessage limits address message =
      state.openChain limits address message.ratchetKey >>=
        fun chained => chained.openFrom limits message := by
  unfold openMessage
  have present : ¬ (!state.established) = true := by
    rw [established]
    decide
  rw [if_neg present, if_neg (not_not_intro sameVersion)]
  rfl

omit [Suite] in
/-- A lifted computation gives what it gives without a trace. -/
theorem lift_eq_ok {α : Type} {result : Except Fault α} {value : α} :
    (monadLift result : Traced α) trace = (.ok value, later) ↔
      result = .ok value ∧ later = trace := by
  change (result, trace) = (.ok value, later) ↔ _
  rw [Prod.mk.injEq, eq_comm (a := trace)]

/-- A state opens the messages that it has the keys of. -/
theorem openMessage_of_opens {state chained : SessionState} {message : WhisperMessage}
    {text : Bytes} {chain : ReceiverChain} {served : Served}
    {localIdentity remoteIdentity : IdentityKey}
    (opens : state.Opens limits trace.nextPair message text chained chain served localIdentity
      remoteIdentity) :
    ∃ later, state.openMessage limits address message trace =
        (.ok (text, chained.taken served.chain), later) ∧
      trace.Continues (state.drawsFor message.ratchetKey) later := by
  obtain ⟨middle, gives, continues⟩ := openChain_of_chained address opens.reached
  rw [openMessage_eq opens.established opens.version_eq, sequence_of_ok gives]
  refine ⟨{ middle with events := middle.events ++ served.events }, ?_,
    continues.entropy_eq, continues.drawn_eq⟩
  unfold openFrom
  rw [sequence_of_ok (serve_of_chain opens.chain_eq opens.served_eq)]
  have remoteFound : (chained.putReceiver served.chain).requireRemoteIdentity =
      .ok remoteIdentity := require_eq_ok.mpr opens.remote_eq
  have localFound : (chained.putReceiver served.chain).requireLocalIdentity =
      .ok localIdentity := require_eq_ok.mpr opens.local_eq
  have checked : message.checkTag served.keys.macKey remoteIdentity localIdentity = .ok () := by
    unfold WhisperMessage.checkTag
    rw [if_pos opens.verifies]
  dsimp only
  rw [sequence_of_ok (lift_eq_ok.mpr ⟨remoteFound, rfl⟩),
    sequence_of_ok (lift_eq_ok.mpr ⟨localFound, rfl⟩),
    sequence_of_ok (lift_eq_ok.mpr ⟨checked, rfl⟩), opens.unsealed]
  rfl

theorem openFrom_eq_ok {chained taken : SessionState} {message : WhisperMessage} {text : Bytes}
    (gives : chained.openFrom limits message trace = (.ok (text, taken), later)) :
    ∃ chain served localIdentity remoteIdentity,
      chained.receiver? message.ratchetKey = some chain ∧
      chain.serve limits.forwardJumps limits.messageKeys message.counter = .ok served ∧
      chained.remoteIdentity = some remoteIdentity ∧
      chained.localIdentity = some localIdentity ∧
      message.verifies served.keys.macKey remoteIdentity localIdentity = true ∧
      served.keys.unseal? message.body = some text ∧
      taken = chained.taken served.chain := by
  unfold openFrom at gives
  obtain ⟨⟨keys, served⟩, _, serves, gives⟩ := sequence_eq_ok.mp gives
  obtain ⟨chain, result, found, served_eq, rfl, rfl⟩ := serve_eq_ok serves
  obtain ⟨remoteIdentity, _, remoteFound, gives⟩ := sequence_eq_ok.mp gives
  obtain ⟨localIdentity, _, localFound, gives⟩ := sequence_eq_ok.mp gives
  obtain ⟨_, _, checked, gives⟩ := sequence_eq_ok.mp gives
  have remote_eq := require_eq_ok.mp (lift_eq_ok.mp remoteFound).1
  have local_eq := require_eq_ok.mp (lift_eq_ok.mp localFound).1
  have tagged := (lift_eq_ok.mp checked).1
  unfold WhisperMessage.checkTag at tagged
  split at tagged
  · next verifies =>
    cases unsealed : result.keys.unseal? message.body with
    | none =>
      rw [unsealed] at gives
      cases gives
    | some opened =>
      rw [unsealed] at gives
      cases gives
      exact ⟨chain, result, localIdentity, remoteIdentity, found, served_eq, remote_eq, local_eq,
        verifies, unsealed, rfl⟩
  · cases tagged

/-- A message that a state has opened is one that it had the keys of. -/
theorem opens_of_openMessage {state taken : SessionState} {message : WhisperMessage}
    {text : Bytes}
    (gives : state.openMessage limits address message trace = (.ok (text, taken), later)) :
    ∃ chained chain served localIdentity remoteIdentity,
      state.Opens limits trace.nextPair message text chained chain served localIdentity
        remoteIdentity ∧
      taken = chained.taken served.chain := by
  have established : state.established = true := by
    cases present : state.established with
    | true => rfl
    | false =>
      unfold openMessage at gives
      rw [present] at gives
      cases gives
  have sameVersion : message.version = state.version := by
    by_cases same : message.version = state.version
    · exact same
    · unfold openMessage at gives
      rw [established, if_pos same] at gives
      cases gives
  rw [openMessage_eq established sameVersion] at gives
  obtain ⟨chained, middle, opened, gives⟩ := sequence_eq_ok.mp gives
  obtain ⟨_, _, _, _, outcome, _, known⟩ :=
    openChain_outcome limits address state message.ratchetKey trace
  rw [outcome] at opened
  cases opened
  obtain ⟨chain, served, localIdentity, remoteIdentity, chain_eq, served_eq, remote_eq, local_eq,
    verifies, unsealed, same⟩ := openFrom_eq_ok gives
  refine ⟨chained, chain, served, localIdentity, remoteIdentity, ?_, same⟩
  exact
    { established
      version_eq := sameVersion
      reached := (known chained rfl).1
      chain_eq, served_eq, remote_eq, local_eq, verifies, unsealed }

theorem silent_openFrom (chained : SessionState) (message : WhisperMessage) :
    (chained.openFrom limits message).Silent := by
  unfold openFrom
  apply (silent_serve chained message.ratchetKey message.counter).bind
  rintro ⟨keys, served⟩
  apply (silent_lift _).bind
  intro remoteIdentity
  apply (silent_lift _).bind
  intro localIdentity
  apply (silent_lift _).bind
  intro _
  cases keys.unseal? message.body with
  | none => exact silent_lift (.error _)
  | some text => exact silent_lift (.ok _)

variable (limits address) in
/-- Opening a message draws at most one pair, whether it succeeds or not. -/
theorem openMessage_continues (state : SessionState) (message : WhisperMessage) (trace : Trace) :
    ∃ draws ≤ 1, trace.Continues draws (state.openMessage limits address message trace).2 := by
  by_cases ready : state.established = true ∧ message.version = state.version
  · rw [openMessage_eq ready.1 ready.2, sequence_eq]
    obtain ⟨draws, few, outcome, middle, gives, continues, _⟩ :=
      openChain_outcome limits address state message.ratchetKey trace
    have bound : state.drawsFor message.ratchetKey ≤ 1 := by
      unfold drawsFor
      split
      · exact Nat.zero_le 1
      · exact Nat.le_refl 1
    refine ⟨draws, Nat.le_trans few bound, ?_⟩
    rw [gives]
    cases outcome with
    | error fault => exact continues
    | ok chained => exact continues.trans (silent_openFrom chained message middle)
  · refine ⟨0, Nat.zero_le 1, ?_⟩
    unfold openMessage
    cases present : state.established with
    | false => exact .refl trace
    | true =>
      have different : message.version ≠ state.version := fun same => ready ⟨present, same⟩
      rw [if_pos different]
      exact .refl trace

end SessionState
end DoubleRatchet
