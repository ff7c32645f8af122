import DoubleRatchet.Proofs.Ratchet.Serving
import DoubleRatchet.Proofs.Session.Trial

namespace DoubleRatchet

/-!
# The receiver chains of a state

A state keeps its receiver chains in a list, and looks a chain up by its ratchet
key.  The look-up finds the oldest chain for a key; that it finds the only one is
an invariant, since a chain is added only for a key that has none.  Under that
invariant the look-up is membership, and everything that happens to the list can
be said chain by chain.
-/

namespace ReceiverChain

theorem map_ratchetKey_replaceIn (chain : ReceiverChain) (chains : List ReceiverChain) :
    (chain.replaceIn chains).map (·.ratchetKey) = chains.map (·.ratchetKey) := by
  induction chains with
  | nil => rfl
  | cons first rest ih =>
    unfold replaceIn
    split
    · next same => rw [List.map_cons, List.map_cons, same]
    · rw [List.map_cons, List.map_cons, ih]

theorem mem_of_mem_replaceIn {chain other : ReceiverChain} {chains : List ReceiverChain}
    (member : other ∈ chain.replaceIn chains) : other = chain ∨ other ∈ chains := by
  induction chains with
  | nil => cases member
  | cons first rest ih =>
    unfold replaceIn at member
    split at member
    · rcases List.mem_cons.mp member with same | later
      · exact .inl same
      · exact .inr (List.mem_cons_of_mem _ later)
    · rcases List.mem_cons.mp member with same | later
      · exact .inr (same ▸ List.mem_cons_self)
      · exact (ih later).imp_right (List.mem_cons_of_mem _)

/-- A chain for another key is found where it was. -/
theorem find?_replaceIn_of_ne {chain : ReceiverChain} {theirs : PublicKey}
    (different : chain.ratchetKey ≠ theirs) (chains : List ReceiverChain) :
    (chain.replaceIn chains).find? (fun other => other.ratchetKey = theirs) =
      chains.find? fun other => other.ratchetKey = theirs := by
  induction chains with
  | nil => rfl
  | cons first rest ih =>
    unfold replaceIn
    split
    · next same =>
      rw [List.find?_cons_of_neg (by simpa using different),
        List.find?_cons_of_neg (by simpa [same] using different)]
    · rw [List.find?_cons, List.find?_cons, ih]

/-- The chain that was put in place is found there. -/
theorem find?_replaceIn_self {chain : ReceiverChain} {chains : List ReceiverChain}
    (present : (chains.find? fun other => other.ratchetKey = chain.ratchetKey).isSome) :
    (chain.replaceIn chains).find? (fun other => other.ratchetKey = chain.ratchetKey) =
      some chain := by
  induction chains with
  | nil => cases present
  | cons first rest ih =>
    unfold replaceIn
    split
    · rw [List.find?_cons_of_pos (by simp)]
    · next different =>
      rw [List.find?_cons_of_neg (by simpa using different)] at present ⊢
      exact ih present

end ReceiverChain

namespace SessionState

/-- The chains of the state are for different keys, and each of them is in order. -/
structure Orderly (state : SessionState) : Prop where
  distinct : (state.receivers.map (·.ratchetKey)).Nodup
  inOrder : ∀ chain ∈ state.receivers, chain.InOrder

/-- Whatever chain the state has for the key, the counter is used up on it. -/
def Refuses (state : SessionState) (theirs : PublicKey) (counter : UInt32) : Prop :=
  ∀ chain, state.receiver? theirs = some chain → chain.UsedUp counter

variable {state : SessionState} {theirs : PublicKey}

theorem mem_of_receiver?_eq_some {chain : ReceiverChain}
    (found : state.receiver? theirs = some chain) :
    chain ∈ state.receivers ∧ chain.ratchetKey = theirs := by
  have keyed := List.find?_some found
  exact ⟨List.mem_of_find?_eq_some found, by simpa using keyed⟩

/-- Under the invariant the look-up finds every chain. -/
theorem receiver?_of_mem {chain : ReceiverChain}
    (distinct : (state.receivers.map (·.ratchetKey)).Nodup) (member : chain ∈ state.receivers) :
    state.receiver? chain.ratchetKey = some chain := by
  unfold receiver?
  generalize state.receivers = chains at distinct member
  induction chains with
  | nil => cases member
  | cons first rest ih =>
    rw [List.map_cons, List.nodup_cons] at distinct
    rcases List.mem_cons.mp member with rfl | later
    · exact List.find?_cons_of_pos (by simp)
    · have different : first.ratchetKey ≠ chain.ratchetKey := by
        intro same
        apply distinct.1
        rw [same]
        exact List.mem_map_of_mem later
      rw [List.find?_cons_of_neg (by simpa using different)]
      exact ih distinct.2 later

theorem receiver?_eq_none_iff :
    state.receiver? theirs = none ↔ theirs ∉ state.receivers.map (·.ratchetKey) := by
  unfold receiver?
  rw [List.find?_eq_none]
  simp only [decide_eq_true_eq, List.mem_map, not_exists, not_and]

theorem receiver?_putReceiver_self {chain : ReceiverChain}
    (present : (state.receiver? chain.ratchetKey).isSome) :
    (state.putReceiver chain).receiver? chain.ratchetKey = some chain :=
  ReceiverChain.find?_replaceIn_self present

theorem receiver?_putReceiver_of_ne {chain : ReceiverChain}
    (different : chain.ratchetKey ≠ theirs) :
    (state.putReceiver chain).receiver? theirs = state.receiver? theirs :=
  ReceiverChain.find?_replaceIn_of_ne different state.receivers

theorem Orderly.putReceiver {chain : ReceiverChain} (orderly : state.Orderly)
    (inOrder : chain.InOrder) : (state.putReceiver chain).Orderly := by
  constructor
  · change ((chain.replaceIn state.receivers).map (·.ratchetKey)).Nodup
    rw [ReceiverChain.map_ratchetKey_replaceIn]
    exact orderly.distinct
  · intro other member
    rcases ReceiverChain.mem_of_mem_replaceIn member with rfl | before
    · exact inOrder
    · exact orderly.inOrder other before

/-- Adding a chain for a key without one keeps the chains for different keys. -/
theorem distinct_addReceiver (distinct : (state.receivers.map (·.ratchetKey)).Nodup)
    (absent : state.receiver? theirs = none) (chainKey : ChainKey) (bound : Nat) :
    ((state.addReceiver theirs chainKey bound).receivers.map (·.ratchetKey)).Nodup := by
  let added : ReceiverChain := ⟨theirs, chainKey, .empty⟩
  have all : ((state.receivers ++ [added]).map (·.ratchetKey)).Nodup := by
    rw [List.map_append, List.nodup_append]
    refine ⟨distinct, by simp, ?_⟩
    intro key member other last same
    subst same
    have here : key = theirs := by simpa using last
    rw [here] at member
    exact receiver?_eq_none_iff.mp absent member
  have kept : ((state.receivers ++ [added]).drop ((state.receivers ++ [added]).length -
      bound)).Sublist (state.receivers ++ [added]) := List.drop_sublist ..
  exact (kept.map (·.ratchetKey)).nodup all

/-- The chains behind an addition are the old ones and an unused one. -/
theorem mem_addReceiver {chainKey : ChainKey} {bound : Nat} {chain : ReceiverChain}
    (member : chain ∈ (state.addReceiver theirs chainKey bound).receivers) :
    chain ∈ state.receivers ∨ chain = ⟨theirs, chainKey, .empty⟩ :=
  (List.mem_append.mp (List.mem_of_mem_drop member)).imp_right List.mem_singleton.mp

/-- A chain that is found behind an addition was found before, or is the unused one. -/
theorem receiver?_of_addReceiver (distinct : (state.receivers.map (·.ratchetKey)).Nodup)
    {other : PublicKey} {chainKey : ChainKey} {bound : Nat} {chain : ReceiverChain}
    (found : (state.addReceiver theirs chainKey bound).receiver? other = some chain) :
    state.receiver? other = some chain ∨ other = theirs ∧ chain = ⟨theirs, chainKey, .empty⟩ := by
  obtain ⟨member, rfl⟩ := mem_of_receiver?_eq_some found
  rcases mem_addReceiver member with before | rfl
  · exact .inl (receiver?_of_mem distinct before)
  · exact .inr ⟨rfl, rfl⟩

theorem length_addReceiver_le (state : SessionState) (theirs : PublicKey) (chainKey : ChainKey)
    (bound : Nat) : (state.addReceiver theirs chainKey bound).receivers.length ≤ bound := by
  simp only [addReceiver, List.length_drop]
  omega

theorem Orderly.addReceiver (orderly : state.Orderly) (absent : state.receiver? theirs = none)
    (chainKey : ChainKey) (bound : Nat) : (state.addReceiver theirs chainKey bound).Orderly := by
  constructor
  · exact distinct_addReceiver orderly.distinct absent chainKey bound
  · intro chain member
    rcases mem_addReceiver member with before | rfl
    · exact orderly.inOrder chain before
    · exact ReceiverChain.inOrder_fresh theirs chainKey

variable [Suite] {limits : Limits} {ours : KeyPair} {message : WhisperMessage} {text : Bytes}
  {chained taken : SessionState}

theorem Orderly.reached (orderly : state.Orderly)
    (reached : state.Chained limits ours theirs chained) : chained.Orderly := by
  cases reached with
  | known present => exact orderly
  | stepped root sender absent rooted sending =>
    have added := orderly.addReceiver absent (root.createChain theirs sender.ratchetKey).2
      limits.receiverChains
    exact ⟨added.distinct, added.inOrder⟩

variable (ours) in
/-- The chain that a step of the ratchet opens is the one for its key, where chains are kept. -/
theorem receiver?_ratchet {root : RootKey} {sender : SenderChain} {bound : Nat}
    (absent : state.receiver? theirs = none) (room : 0 < bound) :
    (state.ratchet root sender theirs ours bound).receiver? theirs =
      some ⟨theirs, (root.createChain theirs sender.ratchetKey).2, .empty⟩ := by
  have gone : ∀ count, (state.receivers.drop count).find? (fun chain =>
      chain.ratchetKey = theirs) = none := by
    intro count
    rw [List.find?_eq_none]
    intro chain member
    exact List.find?_eq_none.mp absent chain (List.mem_of_mem_drop member)
  change List.find? (fun chain => chain.ratchetKey = theirs)
    (List.drop _ (state.receivers ++ [⟨theirs, _, .empty⟩])) = _
  rw [List.length_append, List.length_singleton,
    List.drop_append_of_le_length (by omega), List.find?_append, gone, Option.none_or]
  apply List.find?_cons_of_pos
  exact decide_eq_true rfl

/-- A chain that is still there after a step of the ratchet is the one that was there. -/
theorem receiver?_of_chained {other : PublicKey} {chain before : ReceiverChain}
    (orderly : state.Orderly) (reached : state.Chained limits ours theirs chained)
    (had : state.receiver? other = some before) (found : chained.receiver? other = some chain) :
    chain = before := by
  cases reached with
  | known present =>
    rw [had] at found
    exact (Option.some.inj found).symm
  | stepped root sender absent rooted sending =>
    rcases receiver?_of_addReceiver orderly.distinct found with again | ⟨rfl, _⟩
    · exact Option.some.inj (again.symm.trans had)
    · cases absent.symm.trans had

/-! ## Taking a message -/

/-- The chain that has served a message is found again under the ratchet key of the message. -/
theorem Opens.receiver?_taken {chain : ReceiverChain} {served : Served}
    {localIdentity remoteIdentity : IdentityKey}
    (opens : state.Opens limits ours message text chained chain served localIdentity
      remoteIdentity) :
    served.chain.ratchetKey = message.ratchetKey ∧
      (chained.taken served.chain).receiver? message.ratchetKey = some served.chain := by
  obtain ⟨_, keyed⟩ := mem_of_receiver?_eq_some opens.chain_eq
  have kept : served.chain.ratchetKey = message.ratchetKey :=
    (ReceiverChain.ratchetKey_served opens.served_eq).trans keyed
  have placed : (chained.putReceiver served.chain).receiver? served.chain.ratchetKey =
      some served.chain := receiver?_putReceiver_self (by
    rw [kept, opens.chain_eq]
    rfl)
  rw [kept] at placed
  exact ⟨kept, placed⟩

theorem Takes.version_eq (takes : state.Takes limits ours message text taken) :
    taken.version = message.version := by
  obtain ⟨chained, chain, served, _, _, opens, rfl⟩ := takes
  rw [opens.version_eq]
  cases opens.reached with
  | known present => rfl
  | stepped root sender absent rooted sending => rfl

/-- A state that has taken a message is in order, and will not take it again. -/
theorem Orderly.takes (orderly : state.Orderly) (notLast : message.counter < lastCounter)
    (takes : state.Takes limits ours message text taken) :
    taken.Orderly ∧ taken.Refuses message.ratchetKey message.counter ∧
      (taken.receiver? message.ratchetKey).isSome ∧ taken.established = true ∧
      taken.version = message.version := by
  have established := takes.established
  have version_eq := takes.version_eq
  obtain ⟨chained, chain, served, _, _, opens, rfl⟩ := takes
  obtain ⟨member, _⟩ := mem_of_receiver?_eq_some opens.chain_eq
  have ordered := orderly.reached opens.reached
  have outcome :=
    ReceiverChain.inOrder_served (ordered.inOrder chain member) notLast opens.served_eq
  have found := opens.receiver?_taken.2
  refine ⟨?_, ?_, ?_, established, version_eq⟩
  · have put := ordered.putReceiver outcome.1
    exact ⟨put.distinct, put.inOrder⟩
  · intro other same
    rw [found] at same
    cases same
    exact outcome.2
  · rw [found]
    rfl

/-- What a state refuses it goes on to refuse, as long as it has the chain. -/
theorem Refuses.takes {other : PublicKey} {counter : UInt32} (orderly : state.Orderly)
    (notLast : message.counter < lastCounter) (refuses : state.Refuses other counter)
    (present : (state.receiver? other).isSome)
    (takes : state.Takes limits ours message text taken) : taken.Refuses other counter := by
  obtain ⟨chained, chain, served, _, _, opens, rfl⟩ := takes
  obtain ⟨before, had⟩ := Option.isSome_iff_exists.mp present
  obtain ⟨kept, placed⟩ := opens.receiver?_taken
  intro last found
  by_cases same : message.ratchetKey = other
  · subst same
    cases placed.symm.trans found
    have source := receiver?_of_chained orderly opens.reached had opens.chain_eq
    rw [← source] at had
    exact ReceiverChain.usedUp_served notLast opens.served_eq (refuses chain had)
  · have untouched : (chained.taken served.chain).receiver? other = chained.receiver? other :=
      receiver?_putReceiver_of_ne (by rw [kept]; exact same)
    rw [untouched] at found
    rw [receiver?_of_chained orderly opens.reached had found]
    exact refuses before had

/-- What its chain does not serve a state refuses with the fault of the chain, and nothing is
drawn. -/
theorem openMessage_of_unserved (address : Address) (trace : Trace) {chain : ReceiverChain}
    {fault : Fault} (established : state.established = true)
    (sameVersion : message.version = state.version)
    (found : state.receiver? message.ratchetKey = some chain)
    (unserved : chain.serve limits.forwardJumps limits.messageKeys message.counter =
      .error fault) :
    state.openMessage limits address message trace = (.error fault, trace) := by
  rw [openMessage_eq established sameVersion]
  have opened : state.openChain limits address message.ratchetKey trace = (.ok state, trace) := by
    unfold openChain
    rw [found]
    rfl
  rw [sequence_of_ok opened]
  apply sequence_of_error
  unfold serve
  rw [found]
  dsimp only
  rw [unserved]
  rfl

/-- A message on a used-up counter is refused as a duplicate, and nothing is drawn. -/
theorem Refuses.openMessage (limits : Limits) (address : Address) (trace : Trace)
    (refuses : state.Refuses message.ratchetKey message.counter)
    (present : (state.receiver? message.ratchetKey).isSome)
    (established : state.established = true) (sameVersion : message.version = state.version) :
    ∃ index, state.openMessage limits address message trace =
      (.error (.duplicate index message.counter), trace) := by
  obtain ⟨chain, found⟩ := Option.isSome_iff_exists.mp present
  have duplicate := ReceiverChain.serve_of_usedUp (refuses chain found) limits.forwardJumps
    limits.messageKeys
  exact ⟨chain.chainKey.index, openMessage_of_unserved address trace established sameVersion found
    duplicate⟩

end SessionState
end DoubleRatchet
