import DoubleRatchet.Proofs.Session.Receivers

namespace DoubleRatchet

/-!
# Keys that are served in place

`ReceiverChain.serve` answers with a new chain and leaves the old one alone.  Where a
state is changed in place there is no old one to fall back on: the keys of passed
messages are filed one after the other, the chain key is replaced last, and a fault on
the way would leave the state half changed.

`InPlace` is a computation that changes a state as it goes.  The request for the keys
of a counter is written here in that form, by the operations of the state that change a
single chain, and it comes out that it does what serving does: where keys are given,
the state has the served chain in its place, and where a fault is given, it is the state
that was there before.
-/

/-- A computation that changes a state, and may stop.  What it has changed until then
stays changed. -/
abbrev InPlace := ExceptT Fault (StateM SessionState)

namespace InPlace

/-- Changes the state in one step that may fail. -/
def change (step : SessionState -> Except Fault SessionState) : InPlace Unit :=
  fun state =>
    match step state with
    | .ok after => (.ok (), after)
    | .error fault => (.error fault, state)

/-- Takes the keys of a skipped message out of the state. -/
def takeSkipped (theirs : PublicKey) (counter : UInt32) : InPlace (Option MessageKeys) :=
  fun state =>
    let (taken, after) := state.takeSkipped theirs counter
    (.ok taken, after)

variable [Suite]

/-- Files the keys of the next `count` messages, and gives the chain key past them. -/
def fileAhead (theirs : PublicKey) (capacity : Nat) : (count : Nat) -> ChainKey -> InPlace ChainKey
  | 0, chainKey => return chainKey
  | count + 1, chainKey => do
    change fun state => state.fileSkipped theirs chainKey.messageKeys capacity
    fileAhead theirs capacity count chainKey.next

/-- The keys of a counter, on a chain that is at `chainKey`. -/
def messageKeys (limits : Limits) (theirs : PublicKey) (chainKey : ChainKey)
    (counter : UInt32) : InPlace MessageKeys := do
  if counter < chainKey.index then
    match ← takeSkipped theirs counter with
    | some keys => return keys
    | none => throw (.duplicate chainKey.index counter)
  else
    let jump := counter.toNat - chainKey.index.toNat
    if limits.forwardJumps < jump then throw (.invalid (.tooFarAhead counter jump))
    let reached ← fileAhead theirs limits.messageKeys jump chainKey
    change fun state => state.setReceiverChainKey theirs reached.next
    return reached.messageKeys

/-- Asks the state for the keys of a counter on its chain for a ratchet key. -/
def request (limits : Limits) (theirs : PublicKey) (counter : UInt32) : InPlace MessageKeys := do
  let state ← get
  let chain ← state.requireReceiver theirs
  messageKeys limits theirs chain.chainKey counter

end InPlace

namespace ReceiverChain

theorem replaceIn_replaceIn {first second : ReceiverChain}
    (same : first.ratchetKey = second.ratchetKey) (chains : List ReceiverChain) :
    second.replaceIn (first.replaceIn chains) = second.replaceIn chains := by
  induction chains with
  | nil => rfl
  | cons chain rest ih =>
    by_cases here : chain.ratchetKey = second.ratchetKey
    · simp [replaceIn, same, here]
    · simp [replaceIn, same, here, ih]

theorem replaceIn_self {chain : ReceiverChain} {chains : List ReceiverChain}
    (found : chains.find? (fun other => other.ratchetKey = chain.ratchetKey) = some chain) :
    chain.replaceIn chains = chains := by
  induction chains with
  | nil => rfl
  | cons first rest ih =>
    unfold replaceIn
    by_cases here : first.ratchetKey = chain.ratchetKey
    · rw [List.find?_cons_of_pos (by simpa using here), Option.some.injEq] at found
      rw [if_pos here, found]
    · rw [List.find?_cons_of_neg (by simpa using here)] at found
      rw [if_neg here, ih found]

end ReceiverChain

namespace SessionState

theorem putReceiver_putReceiver (state : SessionState) {first second : ReceiverChain}
    (same : first.ratchetKey = second.ratchetKey) :
    (state.putReceiver first).putReceiver second = state.putReceiver second := by
  change { state with receivers := second.replaceIn (first.replaceIn state.receivers) } = _
  rw [ReceiverChain.replaceIn_replaceIn same]
  rfl

theorem putReceiver_self {state : SessionState} {chain : ReceiverChain}
    (found : state.receiver? chain.ratchetKey = some chain) : state.putReceiver chain = state := by
  unfold putReceiver
  rw [ReceiverChain.replaceIn_self found]

theorem requireReceiver_eq {state : SessionState} {theirs : PublicKey} {chain : ReceiverChain}
    (found : state.receiver? theirs = some chain) : state.requireReceiver theirs = .ok chain := by
  unfold requireReceiver
  rw [found]
  rfl

/-- A chain that was put in place is found under the key of the one that was there. -/
theorem receiver?_putReceiver {state : SessionState} {theirs : PublicKey}
    {chain other : ReceiverChain} (found : state.receiver? theirs = some chain)
    (keyed : other.ratchetKey = theirs) :
    (state.putReceiver other).receiver? theirs = some other := by
  subst keyed
  apply receiver?_putReceiver_self
  rw [found]
  rfl

theorem setReceiverChainKey_putReceiver {state : SessionState} {theirs : PublicKey}
    {chain other : ReceiverChain} (found : state.receiver? theirs = some chain)
    (keyed : other.ratchetKey = theirs) (chainKey : ChainKey) :
    (state.putReceiver other).setReceiverChainKey theirs chainKey =
      .ok (state.putReceiver { other with chainKey }) := by
  unfold setReceiverChainKey
  rw [requireReceiver_eq (receiver?_putReceiver found keyed)]
  change Except.ok ((state.putReceiver other).putReceiver { other with chainKey }) = _
  rw [state.putReceiver_putReceiver (by rfl)]

end SessionState

namespace InPlace

variable [Suite] {state after : SessionState} {theirs : PublicKey} {chain : ReceiverChain}

omit [Suite] in
theorem change_of_ok {step : SessionState -> Except Fault SessionState}
    (gives : step state = .ok after) : change step state = (.ok (), after) := by
  unfold change
  rw [gives]

omit [Suite] in
theorem takeSkipped_eq (found : state.receiver? theirs = some chain) (counter : UInt32) :
    takeSkipped theirs counter state =
      match chain.skipped.take? counter with
      | none => (.ok none, state)
      | some (keys, skipped) => (.ok (some keys), state.putReceiver { chain with skipped }) := by
  change (Except.ok (state.takeSkipped theirs counter).1, (state.takeSkipped theirs counter).2) = _
  unfold SessionState.takeSkipped
  rw [found]
  dsimp only
  cases chain.skipped.take? counter with
  | none => rfl
  | some taken => rfl

/-- Filing keys one after the other leaves the chain key where it was, and the cache as it is
when the whole chain moves on. -/
theorem fileAhead_eq {capacity count : Nat} {chainKey : ChainKey}
    (found : state.receiver? theirs = some chain) :
    fileAhead theirs capacity count chainKey state =
      (.ok (chainKey.advance count),
        state.putReceiver { chain with
          skipped := (ReceiverChain.skip capacity count { chain with chainKey }).1.skipped }) := by
  have keyed := (SessionState.mem_of_receiver?_eq_some found).2
  induction count generalizing state chain chainKey with
  | zero =>
    subst keyed
    change (Except.ok chainKey, state) = (.ok chainKey, state.putReceiver chain)
    rw [SessionState.putReceiver_self found]
  | succ count ih =>
    let filed : ReceiverChain :=
      { chain with skipped := chain.skipped.insert chainKey.messageKeys capacity }
    have filing : state.fileSkipped theirs chainKey.messageKeys capacity =
        .ok (state.putReceiver filed) := by
      unfold SessionState.fileSkipped
      rw [SessionState.requireReceiver_eq found]
      rfl
    have placed : (state.putReceiver filed).receiver? theirs = some filed :=
      SessionState.receiver?_putReceiver found keyed
    unfold fileAhead
    rw [sequence_of_ok (change_of_ok filing), ih placed keyed]
    change (_, (state.putReceiver filed).putReceiver { chain with
      skipped := (ReceiverChain.skip capacity count
        { filed with chainKey := chainKey.next }).1.skipped }) = _
    rw [state.putReceiver_putReceiver (by rfl)]
    rfl

/-- A request in place is answered as the chain serves it.  Keys come with the served chain in
its place, and a fault with the state that was there before. -/
theorem request_eq {limits : Limits} {counter : UInt32}
    (found : state.receiver? theirs = some chain) :
    request limits theirs counter state =
      match chain.serve limits.forwardJumps limits.messageKeys counter with
      | .ok served => (.ok served.keys, state.putReceiver served.chain)
      | .error fault => (.error fault, state) := by
  have keyed := (SessionState.mem_of_receiver?_eq_some found).2
  have asked : request limits theirs counter state =
      messageKeys limits theirs chain.chainKey counter state := by
    change (monadLift (state.requireReceiver theirs) >>= fun chain =>
      messageKeys limits theirs chain.chainKey counter) state = _
    rw [SessionState.requireReceiver_eq found]
    rfl
  rw [asked]
  unfold messageKeys ReceiverChain.serve
  by_cases below : counter < chain.chainKey.index
  · have takes := takeSkipped_eq found counter
    rw [if_pos below, if_pos below]
    cases taken : chain.skipped.take? counter with
    | none =>
      rw [taken] at takes
      rw [sequence_of_ok takes]
      rfl
    | some found =>
      rw [taken] at takes
      rw [sequence_of_ok takes]
      rfl
  · rw [if_neg below, if_neg below]
    dsimp only
    by_cases far : limits.forwardJumps < counter.toNat - chain.chainKey.index.toNat
    · rw [if_pos far, if_pos far]
      rfl
    · let jump := counter.toNat - chain.chainKey.index.toNat
      let filed : ReceiverChain := { chain with
        skipped := (chain.skip limits.messageKeys jump).1.skipped }
      have files : fileAhead theirs limits.messageKeys jump chain.chainKey state =
          (.ok (chain.chainKey.advance jump), state.putReceiver filed) := fileAhead_eq found
      have moves := SessionState.setReceiverChainKey_putReceiver found
        (show filed.ratchetKey = theirs from keyed) (chain.chainKey.advance jump).next
      rw [if_neg far, if_neg far]
      change (fileAhead theirs limits.messageKeys jump chain.chainKey >>= _) state = _
      rw [sequence_of_ok files, sequence_of_ok (change_of_ok moves)]
      unfold ReceiverChain.serveNext
      dsimp only
      rw [ReceiverChain.chainKey_skip, ReceiverChain.ratchetKey_skip]
      rfl

end InPlace
end DoubleRatchet
