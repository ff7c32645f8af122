import DoubleRatchet.Proofs.Message.Reading
import DoubleRatchet.Proofs.Ratchet.Serving
import DoubleRatchet.Proofs.Session.Agreement
import DoubleRatchet.Proofs.Session.Receivers
import DoubleRatchet.Proofs.Session.Sealing

namespace DoubleRatchet

/-!
# Who hears a message

A message is heard by a state with a receiver chain that is level with the sender chain, as
long as the two states are of one version and of the same two identities.

The two states that a negotiation leaves behind hear each other from the start, each in its
own way.  The initiator has a receiver chain for the ratchet key of the responder already.
The responder gets its first one by a step of the agreement ratchet, and loses it again at
once if it keeps none.
-/

namespace ReceiverChain

variable [Suite] {chain : ReceiverChain}

/-- A chain that has come some way after another one serves the keys of what is further on
there. -/
theorem serve_of_advanced {first : ChainKey} {reached count forwardJumps : Nat}
    (advanced : chain.chainKey = first.advance reached) (further : reached ≤ count)
    (fits : first.index.toNat + count < 2 ^ 32) (near : count - reached ≤ forwardJumps)
    (capacity : Nat) :
    ∃ served, chain.serve forwardJumps capacity (first.advance count).index = .ok served ∧
      served.keys = (first.advance count).messageKeys ∧
      served.chain.chainKey = first.advance (count + 1) := by
  have here : chain.chainKey.index.toNat = first.index.toNat + reached := by
    rw [advanced]
    exact ChainKey.toNat_index_advance (by omega)
  have there : (first.advance count).index.toNat = first.index.toNat + count :=
    ChainKey.toNat_index_advance fits
  have gap : (first.advance count).index.toNat - chain.chainKey.index.toNat = count - reached := by
    omega
  have whole : reached + (count - reached) = count := Nat.add_sub_of_le further
  have goesOn (more : Nat) : chain.chainKey.advance (count - reached + more) =
      first.advance (count + more) := by
    rw [advanced, ← ChainKey.advance_add, ← Nat.add_assoc, whole]
  have ahead : chain.chainKey.index ≤ (first.advance count).index := by
    rw [UInt32.le_iff_toNat_le]
    omega
  obtain ⟨events, serves⟩ : ∃ events,
      chain.serve forwardJumps capacity (first.advance count).index = .ok ⟨_, _, events⟩ :=
    serve_of_ahead ahead (by omega)
  rw [gap] at serves
  exact ⟨_, serves, congrArg ChainKey.messageKeys (goesOn 0), goesOn 1⟩

theorem serve_of_level {counter : UInt32} (level : counter = chain.chainKey.index)
    (forwardJumps capacity : Nat) :
    ∃ served, chain.serve forwardJumps capacity counter = .ok served ∧
      served.keys = chain.chainKey.messageKeys := by
  subst level
  have unmoved : chain.chainKey = chain.chainKey.advance 0 := rfl
  obtain ⟨served, serves, keys_eq, _⟩ := serve_of_advanced unmoved (Nat.le_refl 0)
    chain.chainKey.index.toNat_lt (Nat.zero_le forwardJumps) capacity
  exact ⟨served, serves, keys_eq⟩

end ReceiverChain

namespace SessionState

variable [Suite] {limits : Limits} {ours : KeyPair} {text : Bytes} {envelope : Envelope}

/-- A state with a chain that serves the keys of the sender chain opens what they have sealed. -/
theorem opens_of_sealed (faithful : Suite.SealingFaithful ‹Suite›)
    {speaking hearing chained : SessionState} {sender : SenderChain} {chain : ReceiverChain}
    {served : Served} {speaker hearer : IdentityKey} {body : Bytes}
    (established : hearing.established = true) (version_eq : speaking.version = hearing.version)
    (hearerLocal : hearing.localIdentity = some hearer)
    (hearerRemote : hearing.remoteIdentity = some speaker)
    (reached : hearing.Chained limits ours sender.ratchetKey.publicKey chained)
    (found : chained.receiver? sender.ratchetKey.publicKey = some chain)
    (serves : chain.serve limits.forwardJumps limits.messageKeys sender.chainKey.index =
      .ok served)
    (keys_eq : served.keys = sender.chainKey.messageKeys)
    (closed : sender.chainKey.messageKeys.seal? text = some body) :
    hearing.Opens limits ours (speaking.sealedMessage sender speaker hearer body) text chained
      chain served hearer speaker := by
  have identities : chained.localIdentity = hearing.localIdentity ∧
      chained.remoteIdentity = hearing.remoteIdentity := by
    cases reached with
    | known present => exact ⟨rfl, rfl⟩
    | stepped root sender absent rooted sending => exact ⟨rfl, rfl⟩
  exact {
    established
    version_eq
    reached
    chain_eq := found
    served_eq := serves
    remote_eq := identities.2.trans hearerRemote
    local_eq := identities.1.trans hearerLocal
    verifies := by
      rw [keys_eq]
      exact WhisperMessage.verifies_create
    unsealed := by
      rw [keys_eq]
      exact faithful _ _ _ _ closed }

/-- A state with a chain that is level with the sender chain hears what the other one says. -/
theorem takes_of_sealed (faithful : Suite.SealingFaithful ‹Suite›)
    {speaking hearing chained next : SessionState} {sender : SenderChain} {chain : ReceiverChain}
    {speaker hearer : IdentityKey} (established : hearing.established = true)
    (version_eq : speaking.version = hearing.version)
    (speakerLocal : speaking.localIdentity = some speaker)
    (speakerRemote : speaking.remoteIdentity = some hearer)
    (hearerLocal : hearing.localIdentity = some hearer)
    (hearerRemote : hearing.remoteIdentity = some speaker)
    (idle : speaking.pendingPreKey = none)
    (reached : hearing.Chained limits ours sender.ratchetKey.publicKey chained)
    (found : chained.receiver? sender.ratchetKey.publicKey = some chain)
    (level : chain.chainKey = sender.chainKey)
    (sealing : speaking.sealText sender text = .ok (envelope, next)) :
    ∃ message taken, envelope = .whisper message ∧
      hearing.Takes limits ours message text taken ∧ taken.remoteIdentity = some speaker := by
  obtain ⟨localIdentity, remoteIdentity, body, ownership, destination, closed, rfl, _⟩ :=
    sealText_eq_ok sealing
  cases speakerLocal.symm.trans ownership
  cases speakerRemote.symm.trans destination
  have index : sender.chainKey.index = chain.chainKey.index := congrArg ChainKey.index level.symm
  obtain ⟨served, serves, keys_eq⟩ :=
    ReceiverChain.serve_of_level index limits.forwardJumps limits.messageKeys
  rw [level] at keys_eq
  have opens := opens_of_sealed faithful established version_eq hearerLocal hearerRemote reached
    found serves keys_eq closed
  refine ⟨_, _, ?_, ⟨_, _, _, _, _, opens, rfl⟩, opens.remote_eq⟩
  unfold wrap
  rw [idle]

/-- Whatever a state without a chain for the ratchet key hears first on it carries the tag of
the chain that a step of the agreement ratchet opens. -/
theorem Takes.verifies_stepped {state taken : SessionState} {message : WhisperMessage}
    {root : RootKey} {sender : SenderChain}
    (takes : state.Takes limits ours message text taken)
    (absent : state.receiver? message.ratchetKey = none) (rooted : state.rootKey = some root)
    (sending : state.sender = some sender) (room : 0 < limits.receiverChains)
    (first : message.counter = 0) :
    ∃ remote own, state.remoteIdentity = some remote ∧ state.localIdentity = some own ∧
      message.verifies (root.createChain message.ratchetKey
        sender.ratchetKey).2.messageKeys.macKey remote own = true := by
  obtain ⟨chained, chain, served, own, remote, opens, _⟩ := takes
  cases opens.reached with
  | known present =>
    rw [absent] at present
    cases present
  | stepped other speaking _ also still =>
    cases rooted.symm.trans also
    cases sending.symm.trans still
    cases (receiver?_ratchet ours absent room).symm.trans opens.chain_eq
    have level : message.counter = (⟨message.ratchetKey, (root.createChain message.ratchetKey
        sender.ratchetKey).2, .empty⟩ : ReceiverChain).chainKey.index := first
    obtain ⟨_, serves, keys_eq⟩ :=
      ReceiverChain.serve_of_level level limits.forwardJumps limits.messageKeys
    cases serves.symm.trans opens.served_eq
    have verifies := opens.verifies
    rw [keys_eq] at verifies
    exact ⟨remote, own, opens.remote_eq, opens.local_eq, verifies⟩

variable {terms : Terms} {ratchetKey : KeyPair} {initiating responding next : SessionState}
  {sender : SenderChain}

theorem Joined.version_eq (joined : Joined terms ratchetKey initiating responding) :
    initiating.version = responding.version := by
  unfold version
  rw [joined.initiatorVersion_eq, joined.responderVersion_eq]

/-- The registrations of the parties have no part in what joins them. -/
theorem Joined.registered (joined : Joined terms ratchetKey initiating responding)
    (one other : UInt32) :
    Joined terms ratchetKey { initiating with localRegistrationId := one }
      { responding with localRegistrationId := other } :=
  ⟨joined.initiatorVersion_eq, joined.responderVersion_eq, joined.initiatorLocal_eq,
    joined.initiatorRemote_eq, joined.responderLocal_eq, joined.responderRemote_eq,
    joined.first_eq, joined.step_eq⟩

/-- The initiator hears what the responder says first. -/
theorem Joined.initiator_takes (faithful : Suite.SealingFaithful ‹Suite›)
    (joined : Joined terms ratchetKey initiating responding)
    (idle : responding.pendingPreKey = none) (sending : responding.sender = some sender)
    (sealing : responding.sealText sender text = .ok (envelope, next)) :
    ∃ message taken, envelope = .whisper message ∧
      initiating.Takes limits ours message text taken ∧
      taken.remoteIdentity = some terms.theirs := by
  obtain ⟨chain, _, speaking, receivers, _⟩ := joined.first_eq
  obtain ⟨_, _, own, _, _, speaks, _⟩ := joined.step_eq
  cases speaking.symm.trans sending
  have established : initiating.established = true := congrArg Option.isSome speaks
  have found : initiating.receiver? ratchetKey.publicKey =
      some ⟨ratchetKey.publicKey, chain, .empty⟩ := by
    unfold receiver?
    rw [receivers]
    exact List.find?_cons_of_pos (decide_eq_true rfl)
  have known : (initiating.receiver? ratchetKey.publicKey).isSome = true :=
    congrArg Option.isSome found
  exact takes_of_sealed faithful established joined.version_eq.symm joined.responderLocal_eq
    joined.responderRemote_eq joined.initiatorLocal_eq joined.initiatorRemote_eq idle
    (.known known) found rfl sealing

/-- The responder hears what the initiator says first, if it keeps receiver chains. -/
theorem Joined.responder_takes (faithful : Suite.SealingFaithful ‹Suite›)
    (joined : Joined terms ratchetKey initiating responding) (room : 0 < limits.receiverChains)
    (idle : initiating.pendingPreKey = none) (sending : initiating.sender = some sender)
    (sealing : initiating.sealText sender text = .ok (envelope, next)) :
    ∃ message taken, envelope = .whisper message ∧
      responding.Takes limits ours message text taken ∧
      taken.remoteIdentity = some terms.ours := by
  obtain ⟨chain, _, speaks, _, receivers⟩ := joined.first_eq
  obtain ⟨root, sendingRoot, own, rooted, _, speaking, step⟩ := joined.step_eq
  cases speaking.symm.trans sending
  have established : responding.established = true := congrArg Option.isSome speaks
  have absent : responding.receiver? sender.ratchetKey.publicKey = none := by
    unfold receiver?
    rw [receivers]
    rfl
  have found : (responding.ratchet root ⟨ratchetKey, chain⟩ sender.ratchetKey.publicKey ours
      limits.receiverChains).receiver? sender.ratchetKey.publicKey = _ :=
    receiver?_ratchet ours absent room
  rw [step] at found
  exact takes_of_sealed faithful established joined.version_eq joined.initiatorLocal_eq
    joined.initiatorRemote_eq joined.responderLocal_eq joined.responderRemote_eq idle
    (.stepped root ⟨ratchetKey, chain⟩ absent rooted speaks) found rfl sealing

end SessionState
end DoubleRatchet
