import DoubleRatchet.Proofs.Engine.Ledger
import DoubleRatchet.Proofs.Suite.Plain

namespace DoubleRatchet

/-!
# A newcomer and her ledger

Alice has no sessions, opens one from a bundle of Bob, writes to him and opens what he writes.
Whatever the labels of her states are, the ledger then has the one label that the labelling
gives to what she has done, beside the one state that she has.
-/

/-- A message that the current state accepts is opened there. -/
theorem Transport.perform_decryptWhisper_of_verdict [Suite] {host : Host}
    (permissive : host.Permissive) {address : Address} {limits : Limits} {message : WhisperMessage}
    {text : Bytes} {record : SessionRecord} {remote : IdentityKey}
    (load : host.store.loadSession address = .ok record)
    (accepts : record.current.verdict limits message = .ok text)
    (known : record.current.remoteIdentity = some remote)
    (trusted : host.store.trusts address.name remote = true) :
    ∃ taken after, record.current.Takes limits host.trace.nextPair message text taken ∧
      host.perform (decryptWhisper address limits (fun _ => .ok ()) message) = (.ok text, after) ∧
      host.Becomes (host.store.storeSession address { record with current := taken })
        (record.current.drawsFor message.ratchetKey) after := by
  obtain ⟨taken, _, opens⟩ := SessionState.openMessage_of_verdict_ok address accepts host.trace
  have takes := (SessionState.takes_of_openMessage opens).1
  have kept : taken.remoteIdentity = some remote := takes.keeps_identities.2.2.trans known
  obtain ⟨after, gives, becomes⟩ := perform_decryptWhisper permissive load takes kept trusted
  exact ⟨taken, after, takes, gives, becomes⟩

namespace Scene

attribute [local instance] plainSuite

/-- Alice before she has written to anyone. -/
def newcomer : Host :=
  .start (.ofIdentity alice 7) aliceDraws

/-- Alice opens a session from a bundle of Bob. -/
def joins : Operation :=
  .processBundle bobAddress .standard olderBundle

/-- Alice writes to Bob. -/
def writes : Operation :=
  .encrypt bobAddress [0x68]

/-- Alice opens a message of Bob. -/
def hears (message : WhisperMessage) : Operation :=
  .decrypt bobAddress .standard (fun _ => .ok ()) (.whisper message)

variable {α : Type} {rules : Labelling α} {deeds : List Deed} {state next : SessionState}
  {label renewed : α}

/-- Where Alice stands with Bob after some deeds: her current state, and its label. -/
structure Stands (rules : Labelling α) (deeds : List Deed) (state : SessionState) (label : α) :
    Prop where
  load : (newcomer.through deeds).store.loadSession bobAddress = .ok ⟨state, [], false⟩
  told : rules.ledger newcomer deeds bobAddress = [label]
  established : state.established = true
  owner : newcomer.store.SameOwner (newcomer.through deeds).store
  trusted : (newcomer.through deeds).store.trusts "bob" bob.identity = true

theorem newcomer_joins : ∃ after, newcomer.perform joins.run = (.ok .done, after) ∧
    newcomer.Becomes ((newcomer.store.pin "bob" bob.identity).storeSession bobAddress
      ⟨olderState, [], false⟩) 2 after := by
  have permissive : newcomer.Permissive := Host.permissive_start _ _
  have trusted : newcomer.store.trusts bobAddress.name olderBundle.identity = true :=
    Store.trusts_of_unpinned rfl _
  have load : newcomer.store.loadSession bobAddress = .ok .new := Store.loadSession_of_empty rfl _
  have offered : Establishment.Offer.ofBundle olderBundle = .ok olderOffer := rfl
  obtain ⟨after, gives, becomes⟩ :=
    Establishment.perform_processBundle .standard permissive trusted offered load
  exact ⟨after, Host.perform_bind_of_ok gives _, becomes⟩

theorem stands_joined (rules : Labelling α) :
    Stands rules [.asks joins] olderState (rules.bundle olderBundle) := by
  obtain ⟨after, performed, becomes⟩ := newcomer_joins
  have load : newcomer.store.loadSession bobAddress = .ok .new := Store.loadSession_of_empty rfl _
  have reached : newcomer.through [.asks joins] = after := Host.act_asks performed
  refine ⟨?_, ?_, rfl, ?_, ?_⟩
  · rw [reached, becomes.store_eq]
    exact Store.loadSession_storeSession_self ..
  · change (Ledger.bare rules).act rules newcomer (.asks joins) bobAddress = _
    rw [Ledger.act_asks_of_ok _ _ performed]
    dsimp only [joins, Ledger.asked]
    rw [Ledger.goOn_of_ok _ load, Function.update_self]
    rfl
  · rw [reached, becomes.store_eq]
    exact ⟨rfl, rfl⟩
  · rw [reached, becomes.store_eq]
    exact Store.trusts_pin ..

theorem Stands.permissive (_ : Stands rules deeds state label) :
    (newcomer.through deeds).Permissive :=
  Host.permissive_through (Host.permissive_start _ _) deeds

/-- A request stores a new state, and the ledger has its label. -/
theorem Stands.asks (stands : Stands rules deeds state label) {operation : Operation}
    {reply : Reply} {after : Host} {draws : Nat}
    (performed : (newcomer.through deeds).perform operation.run = (.ok reply, after))
    (becomes : (newcomer.through deeds).Becomes ((newcomer.through deeds).store.storeSession
      bobAddress ⟨next, [], false⟩) draws after)
    (established : next.established = true)
    (told : (rules.ledger newcomer deeds).asked rules (newcomer.through deeds) operation
      bobAddress = [renewed]) :
    Stands rules (deeds ++ [.asks operation]) next renewed := by
  have reached : newcomer.through (deeds ++ [.asks operation]) = after := by
    rw [Host.through_concat, Host.act_asks performed]
  refine ⟨?_, ?_, established, ?_, ?_⟩
  · rw [reached, becomes.store_eq]
    exact Store.loadSession_storeSession_self ..
  · rw [Labelling.ledger_asks_of_ok rules performed]
    exact told
  · rw [reached, becomes.store_eq]
    exact ⟨stands.owner.identity_eq, stands.owner.registrationId_eq⟩
  · rw [reached, becomes.store_eq]
    exact stands.trusted

theorem Stands.write (stands : Stands rules deeds state label) {sender : SenderChain}
    (sending : state.sender = some sender) (ours : state.localIdentity = some alice.identity)
    (theirs : state.remoteIdentity = some bob.identity) :
    ∃ envelope after, (newcomer.through deeds).perform (Transport.encrypt bobAddress [0x68]) =
        (.ok envelope, after) ∧
      Stands rules (deeds ++ [.asks writes]) (state.sent sender) (rules.sealed label) := by
  have closed : sender.chainKey.messageKeys.seal? [0x68] = some [0x68] := rfl
  have sealing := SessionState.sealText_of_sealed ours theirs closed
  obtain ⟨after, gives, becomes⟩ :=
    Transport.perform_encrypt stands.permissive stands.load sending sealing
  have performed : (newcomer.through deeds).perform writes.run = (.ok (.emitted _), after) :=
    Host.perform_bind_of_ok gives _
  refine ⟨_, after, gives, stands.asks performed becomes rfl ?_⟩
  dsimp only [writes, Ledger.asked]
  rw [Ledger.goOn_of_ok _ stands.load, Function.update_self, stands.told]
  rfl

theorem Stands.hear (stands : Stands rules deeds state label) {message : WhisperMessage}
    {text : Bytes} (accepts : state.verdict .standard message = .ok text)
    (theirs : state.remoteIdentity = some bob.identity) :
    ∃ taken ours, state.Takes .standard ours message text taken ∧
      Stands rules (deeds ++ [.asks (hears message)]) taken (rules.opened state message label) := by
  obtain ⟨taken, after, takes, gives, becomes⟩ :=
    Transport.perform_decryptWhisper_of_verdict stands.permissive stands.load accepts theirs
      stands.trusted
  have performed : (newcomer.through deeds).perform (hears message).run =
      (.ok (.plaintext text), after) := Host.perform_bind_of_ok gives _
  have decides : (⟨state, [], false⟩ : SessionRecord).decider? .standard message = some 0 :=
    SessionRecord.decider?_of_current accepts
  refine ⟨taken, _, takes, stands.asks performed becomes takes.established ?_⟩
  dsimp only [hears, Ledger.asked]
  rw [Ledger.goOn_of_ok _ stands.load, Function.update_self, stands.told]
  unfold Labelling.after
  rw [decides]
  rfl

end Scene
end DoubleRatchet
