import DoubleRatchet.Proofs.Suite.Newcomer

namespace DoubleRatchet

/-!
# What the previous counter counts

A message tells how long the sending chain was that its own chain has replaced, so that the
receiver can know what is still to come on it.  The number is taken when the agreement ratchet
steps, from the index of the chain that is replaced, and goes out with every message until the
next step.

The index of a chain is the number of messages that were sealed on it.  What is taken is one
less than the index, that is the counter of the last message and not the number of messages.
An empty chain and a chain of one message cannot be told apart by it.
-/

/-- How many messages a state has sealed on its sender chain, and how many it had sealed on the
chain before, if this one has replaced another. -/
structure Tally where
  sent : Nat
  replaced : Option Nat
  deriving DecidableEq

namespace Tally

/-- The tally of the first chain, before its first message. -/
def fresh : Tally :=
  ⟨0, none⟩

/-- One more message is sealed. -/
def send (tally : Tally) : Tally :=
  { tally with sent := tally.sent + 1 }

/-- The chain is replaced. -/
def step (tally : Tally) : Tally :=
  ⟨0, some tally.sent⟩

/-- A message is opened.  Where its ratchet key is new to the state, the chain is replaced. -/
def hear (state : SessionState) (message : WhisperMessage) (tally : Tally) : Tally :=
  if (state.receiver? message.ratchetKey).isSome then tally else tally.step

/-- How messages are counted through a history. -/
def labelling : Labelling Tally where
  unset := fresh
  bundle _ := fresh
  handshake _ := fresh
  exchange _ := fresh
  sealed := send
  opened := hear

/-- The number that goes out with messages: one less than the messages on the chain before, and
nothing if there was no chain before. -/
def previous (tally : Tally) : Nat :=
  match tally.replaced with
  | none => 0
  | some count => count % 2 ^ 32 - 1

/-- The state stands where its tally says. -/
structure Fits (tally : Tally) (state : SessionState) : Prop where
  index_eq : ∀ sender, state.sender = some sender →
    sender.chainKey.index.toNat = tally.sent % 2 ^ 32
  previous_eq : state.previousCounter.toNat = tally.previous

variable [Suite] {tally : Tally} {state next taken : SessionState}

omit [Suite] in
/-- A new state has sealed nothing. -/
theorem fits_fresh {sender : SenderChain} (sending : state.sender = some sender)
    (begins : sender.chainKey.index = 0) (nothing : state.previousCounter = 0) :
    fresh.Fits state where
  index_eq := by
    intro other same
    cases sending.symm.trans same
    rw [begins]
    rfl
  previous_eq := congrArg UInt32.toNat nothing

theorem Fits.send (fits : tally.Fits state) {sender : SenderChain} {text : Bytes}
    {envelope : Envelope} (sending : state.sender = some sender)
    (sealing : state.sealText sender text = .ok (envelope, next)) : tally.send.Fits next := by
  obtain ⟨_, _, _, _, _, _, _, rfl⟩ := SessionState.sealText_eq_ok sealing
  refine ⟨?_, fits.previous_eq⟩
  intro moved same
  cases same
  change (sender.chainKey.index + 1).toNat = (tally.sent + 1) % 2 ^ 32
  rw [UInt32.toNat_add, fits.index_eq sender sending]
  exact Nat.mod_add_mod ..

/-- A step takes its number from the chain that it replaces. -/
theorem Fits.step (fits : tally.Fits state) {sender : SenderChain}
    (sending : state.sender = some sender) (root : RootKey) (theirs : PublicKey) (ours : KeyPair)
    (receiverChains : Nat) :
    tally.step.Fits (state.ratchet root sender theirs ours receiverChains) where
  index_eq := by
    intro fresh same
    cases same
    rfl
  previous_eq := by
    change (if sender.chainKey.index = 0 then 0 else sender.chainKey.index - 1).toNat = _
    rw [toNat_decremented, fits.index_eq sender sending]
    rfl

/-- Opening a message moves no sender chain but by a step. -/
theorem Fits.hear (fits : tally.Fits state) {limits : Limits} {ours : KeyPair}
    {message : WhisperMessage} {text : Bytes}
    (takes : state.Takes limits ours message text taken) :
    (tally.hear state message).Fits taken := by
  obtain ⟨chained, chain, served, _, _, opens, rfl⟩ := takes
  have reached : (tally.hear state message).Fits chained := by
    unfold Tally.hear
    cases opens.reached with
    | known present =>
      rw [if_pos present]
      exact fits
    | stepped root sender absent rooted sending =>
      rw [absent]
      exact fits.step sending root _ ours _
  exact ⟨reached.index_eq, reached.previous_eq⟩

omit [Suite] in
/-- What the number says about the chain before.  It is the number of messages on that chain only
if there were none. -/
theorem Fits.tells (fits : tally.Fits state) :
    match tally.replaced with
    | none => state.previousCounter = 0
    | some count => state.previousCounter.toNat = count % 2 ^ 32 - 1 ∧
        (count < 2 ^ 32 → (state.previousCounter.toNat = count ↔ count = 0)) := by
  have previous := fits.previous_eq
  unfold Tally.previous at previous
  split at previous
  · exact UInt32.toNat_inj.mp previous
  · refine ⟨previous, fun small => ?_⟩
    rw [previous, Nat.mod_eq_of_lt small]
    omega

/-- That states stand where their tallies say is kept by all that happens to them. -/
theorem kept : labelling.Kept fun _ => Fits where
  unset _ := ⟨fun _ absent => (nomatch absent), rfl⟩
  owned fits _ := fits
  awaiting _ fits := ⟨fits.index_eq, fits.previous_eq⟩
  sealed fits sending sealing := fits.send sending sealing
  opened fits takes := fits.hear takes
  bundle _ _ _ _ _ := fits_fresh rfl rfl rfl
  handshake _ _ _ _ := fits_fresh rfl rfl rfl
  exchange store message baseKey ratchetKey fresh := by
    unfold Establishment.exchangeState
    dsimp only
    split
    · exact fits_fresh rfl rfl rfl
    · exact fits_fresh rfl rfl rfl

end Tally

theorem SessionState.sealed?_wrap (state : SessionState) (localIdentity : IdentityKey)
    (message : WhisperMessage) : (state.wrap localIdentity message).sealed? = some message := by
  unfold wrap
  split
  · rfl
  · rfl

/-- Every message that a host seals, after whatever it goes through.  The first chain of a session
sends zero.  A chain that the agreement ratchet has opened sends one less than the number of
messages that were sealed on the chain before it, as far as 32 bits hold this number, and so
sends the number itself only if there were none.  The counter of the message shows that the
messages on each chain are counted right. -/
theorem previous_counter_one_short [Suite] {host : Host} (permissive : host.Permissive)
    (bare : host.store.sessions = .empty) (deeds : List Deed) {address : Address} {text : Bytes}
    {envelope : Envelope} {after : Host}
    (gives : (host.through deeds).perform (Transport.encrypt address text) =
      (.ok envelope, after)) :
    ∃ tally archived message, Tally.labelling.ledger host deeds address = tally :: archived ∧
      envelope.sealed? = some message ∧ message.counter.toNat = tally.sent % 2 ^ 32 ∧
      match tally.replaced with
      | none => message.previousCounter = 0
      | some count => message.previousCounter.toNat = count % 2 ^ 32 - 1 ∧
          (count < 2 ^ 32 → (message.previousCounter.toNat = count ↔ count = 0)) := by
  obtain ⟨record, sender, next, load, sending, sealing, _⟩ :=
    Transport.encrypt_eq_ok (Host.permissive_through permissive deeds) gives
  obtain ⟨ours, theirs, body, _, _, _, rfl, _⟩ := SessionState.sealText_eq_ok sealing
  obtain ⟨tally, archived, fits, _, labelled⟩ :=
    List.forall₂_cons_right_iff.mp
      (Tally.kept.labels_ledger permissive bare deeds address record load)
  exact ⟨tally, archived, _, labelled, SessionState.sealed?_wrap .., fits.index_eq sender sending,
    fits.tells⟩

section Scene

open Scene

attribute [local instance] plainSuite

/-- The state of Alice after she has written to Bob once. -/
def Scene.addressed : SessionState :=
  olderState.sent (olderState.sender.getD default)

/-- The ratchet key that Bob answers under. -/
def Scene.answerPair : KeyPair :=
  .drawnAt bobDraws 0

/-- The chain that he answers on. -/
def Scene.answerChain : ChainKey :=
  ((addressed.rootKey.getD default).createChain answerPair.publicKey
    (addressed.sender.getD default).ratchetKey).2

/-- His answer. -/
def Scene.answer : WhisperMessage :=
  .create oldestVersion answerChain.messageKeys.macKey answerPair.publicKey 0 0 [0x79]
    bob.identity alice.identity

/-- Alice opens it. -/
def Scene.reads : Operation :=
  hears answer

theorem Scene.answer_accepted : addressed.verdict .standard answer = .ok [0x79] := by
  decide +kernel

/-- The ratchet key of the answer is new to her. -/
theorem Scene.answer_steps (tally : Tally) : tally.hear addressed answer = tally.step := by
  have unknown : addressed.receiver? answer.ratchetKey = none := by decide +kernel
  unfold Tally.hear
  rw [unknown]
  rfl

/-- Alice writes to Bob once, opens his answer under a new ratchet key, and writes again. -/
def Scene.exchangeOfLetters : List Deed :=
  [.asks joins] ++ [.asks writes] ++ [.asks reads]

theorem Scene.writes_again : ∃ envelope after,
    (newcomer.through exchangeOfLetters).perform (Transport.encrypt bobAddress [0x68]) =
      (.ok envelope, after) ∧
    Tally.labelling.ledger newcomer exchangeOfLetters bobAddress = [⟨0, some 1⟩] := by
  obtain ⟨_, _, _, wrote⟩ := (stands_joined Tally.labelling).write rfl rfl rfl
  have stands : Stands Tally.labelling ([.asks joins] ++ [.asks writes]) addressed ⟨1, none⟩ :=
    wrote
  obtain ⟨taken, _, takes, read⟩ := stands.hear answer_accepted rfl
  obtain ⟨sender, sending⟩ := Option.isSome_iff_exists.mp takes.established
  obtain ⟨_, ours, theirs⟩ := takes.keeps_identities
  obtain ⟨envelope, after, gives, _⟩ := read.write sending ours theirs
  refine ⟨envelope, after, gives, read.told.trans ?_⟩
  exact congrArg (fun tally => [tally]) (answer_steps ⟨1, none⟩)

/-- The chain that Alice's second message replaces has carried one message. -/
theorem second_letter_sends_zero :
    newcomer.Permissive ∧ newcomer.store.sessions = .empty ∧ ∃ envelope after message,
      (newcomer.through exchangeOfLetters).perform (Transport.encrypt bobAddress [0x68]) =
        (.ok envelope, after) ∧
      envelope.sealed? = some message ∧ message.counter = 0 ∧ message.previousCounter = 0 := by
  obtain ⟨envelope, after, gives, counted⟩ := writes_again
  obtain ⟨tally, archived, message, labelled, holds, counter, previous⟩ :=
    previous_counter_one_short (Host.permissive_start _ _) rfl exchangeOfLetters gives
  cases counted.symm.trans labelled
  exact ⟨Host.permissive_start _ _, rfl, envelope, after, message, gives, holds,
    UInt32.toNat_inj.mp counter, UInt32.toNat_inj.mp previous.1⟩

/-- It tells a length of zero, so that a message can tell the wrong length. -/
theorem replaced_chain_told_too_short :
    ∃ (host : Host) (deeds : List Deed) (envelope : Envelope) (after : Host)
      (message : WhisperMessage) (tally : Tally) (count : Nat), host.Permissive ∧
      host.store.sessions = .empty ∧
      (host.through deeds).perform (Transport.encrypt bobAddress [0x68]) = (.ok envelope, after) ∧
      envelope.sealed? = some message ∧ Tally.labelling.ledger host deeds bobAddress = [tally] ∧
      tally.replaced = some count ∧ message.previousCounter.toNat ≠ count := by
  obtain ⟨envelope, after, gives, counted⟩ := writes_again
  have permissive : newcomer.Permissive := Host.permissive_start _ _
  obtain ⟨record, sender, next, load, sending, sealing, _⟩ :=
    Transport.encrypt_eq_ok (Host.permissive_through permissive exchangeOfLetters) gives
  obtain ⟨_, _, _, _, _, _, rfl, _⟩ := SessionState.sealText_eq_ok sealing
  have fits := Tally.kept.labels_ledger permissive rfl exchangeOfLetters _ _ load
  rw [counted] at fits
  cases fits with
  | cons front archive =>
    refine ⟨newcomer, exchangeOfLetters, _, after, _, _, 1, permissive, rfl, gives,
      SessionState.sealed?_wrap .., counted, rfl, ?_⟩
    change record.current.previousCounter.toNat ≠ 1
    rw [front.previous_eq]
    decide

end Scene
end DoubleRatchet
