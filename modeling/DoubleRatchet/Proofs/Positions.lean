import DoubleRatchet.Proofs.Engine.Run
import DoubleRatchet.Proofs.Suite.Plain

namespace DoubleRatchet

/-!
# No position is taken twice, unless a pending exchange is revived

The claim of a ratchet is that no keys of a message protect two texts.  Keys are
found by the ratchet key and the counter, so it is enough that a run never emits the
same position twice, whatever it is sent and in whatever order.

It holds for every run that does not revive a pending key on which it has already
sent.  The pending pairs of a key exchange stay in the state that was current when
it was opened, and that state is archived with them.  A message of the old session
that arrives late brings the state back to the front, and a leg of the exchange
that arrives once more is then answered from the same pairs: the sender chain of
the new state starts at zero again, on a key that was used before.  The second part
of the theorem says that this is no theoretical gap: the next message that is sent
there does take a position that is taken.
-/

theorem SessionRecord.Ahead.settled {record : SessionRecord} {emitted : List Position}
    (ahead : record.Ahead emitted) : record.settled.Ahead emitted :=
  ⟨ahead.distinct, ahead.apart, ahead.above⟩

/-- The operation revives a pending key on which the run has sent before. -/
def Operation.Reuses [Suite] (operation : Operation) (run : Run) (address : Address) : Prop :=
  ∃ key counter, operation.Revives run.host address key ∧ (key, counter) ∈ run.emitted

namespace Run

variable [Suite] {run : Run} {operation : Operation}

/-- What holds of a run that has reused nothing. -/
structure Sound (run : Run) : Prop where
  permissive : run.host.Permissive
  distinct : run.emitted.Nodup
  known : ∀ position ∈ run.emitted, position.1 ∈ run.drawn
  ahead : ∀ address record, run.host.store.loadSession address = .ok record →
    record.Ahead run.emitted
  drew : ∀ address record, run.host.store.loadSession address = .ok record →
    ∀ key ∈ record.held, key ∈ run.drawn
  apart : ∀ address other record found, address ≠ other →
    run.host.store.loadSession address = .ok record →
    run.host.store.loadSession other = .ok found → ∀ key ∈ record.held, key ∉ found.held

/-- What holds of every run. -/
structure Closed (run : Run) : Prop where
  permissive : run.host.Permissive
  below : ∀ key counter, (key, counter) ∈ run.emitted →
    ∀ lower < counter, (key, lower) ∈ run.emitted
  filled : ∀ address record, run.host.store.loadSession address = .ok record →
    record.Filled run.emitted

omit [Suite] in
theorem loadSession_start {host : Host} (bare : host.store.sessions = .empty) {address : Address}
    {record : SessionRecord} (load : host.store.loadSession address = .ok record) :
    record = .new := by
  unfold Store.loadSession at load
  rw [bare, Table.get?_empty] at load
  exact (Except.ok.inj load).symm

omit [Suite] in
theorem sound_start {host : Host} (permissive : host.Permissive)
    (bare : host.store.sessions = .empty) : (start host).Sound where
  permissive := permissive
  distinct := List.nodup_nil
  known := by
    intro position member
    cases member
  ahead := by
    intro address record load
    rw [loadSession_start bare load]
    exact SessionRecord.ahead_new []
  drew := by
    intro address record load key member
    rw [loadSession_start bare load] at member
    cases member
  apart := by
    intro address other record found _ load _ key member
    rw [loadSession_start bare load] at member
    cases member

omit [Suite] in
theorem closed_start {host : Host} (permissive : host.Permissive)
    (bare : host.store.sessions = .empty) : (start host).Closed where
  permissive := permissive
  below := by
    intro key counter member
    cases member
  filled := by
    intro address record load
    rw [loadSession_start bare load]
    exact SessionRecord.filled_new []

omit [Suite] in
/-- A sound run stays sound when a record takes the place of another one that holds no
keys but those of the old one and fresh ones. -/
theorem Sound.stored {after : Host} {address : Address} {record result : SessionRecord}
    {emitted : List Position} {fresh more : List PublicKey} (sound : run.Sound)
    (refusal_eq : after.refusal = run.host.refusal)
    (load : run.host.store.loadSession address = .ok record)
    (stored : after.store.sessions = (run.host.store.storeSession address result).sessions)
    (held : ∀ key ∈ result.held, key ∈ fresh ∨ key ∈ record.held) (drew : fresh ⊆ more)
    (nodup : (run.drawn ++ more).Nodup) (ahead : result.Ahead emitted)
    (others : ∀ other found, other ≠ address → run.host.store.loadSession other = .ok found →
      found.Ahead emitted)
    (distinct : emitted.Nodup) (known : ∀ position ∈ emitted, position.1 ∈ run.drawn) :
    Sound ⟨after, emitted, run.drawn ++ more⟩ := by
  have source : ∀ key ∈ result.held, key ∈ run.drawn ++ more := by
    intro key member
    rcases held key member with new | old
    · exact List.mem_append_right _ (drew new)
    · exact List.mem_append_left _ (sound.drew address record load key old)
  -- A fresh key was not drawn before, and every other record holds keys that were.
  have foreign : ∀ other found, other ≠ address → run.host.store.loadSession other = .ok found →
      ∀ key ∈ result.held, key ∉ found.held := by
    intro other found different also key member inside
    rcases held key member with new | old
    · have before := sound.drew other found also key inside
      exact (List.nodup_append.mp nodup).2.2 key before key (drew new) rfl
    · exact sound.apart address other record found different.symm load also key old inside
  constructor
  · exact permissive_of_refusal_eq sound.permissive refusal_eq
  · exact distinct
  · exact fun position member => List.mem_append_left _ (known position member)
  · intro other found also
    rcases Store.loadSession_of_stored stored also with ⟨_, rfl⟩ | ⟨different, before⟩
    · exact ahead.settled
    · exact others other found different before
  · intro other found also key member
    rcases Store.loadSession_of_stored stored also with ⟨_, rfl⟩ | ⟨different, before⟩
    · exact source key member
    · exact List.mem_append_left _ (sound.drew other found before key member)
  · intro first second one two different here there key member inside
    rcases Store.loadSession_of_stored stored here with ⟨rfl, rfl⟩ | ⟨away, before⟩
    · rcases Store.loadSession_of_stored stored there with ⟨rfl, _⟩ | ⟨_, also⟩
      · exact different rfl
      · exact foreign second two (Ne.symm different) also key member inside
    · rcases Store.loadSession_of_stored stored there with ⟨rfl, rfl⟩ | ⟨_, also⟩
      · exact foreign first one away before key inside member
      · exact sound.apart first second one two different before also key member inside

/-- One operation keeps a run sound, unless it reuses a pending key. -/
theorem Sound.effect {after : Host} {positions : List Position} (sound : run.Sound)
    (effect : operation.Effect run.host after positions)
    (nodup : (run.drawn ++ operation.drawnKeys run.host after).Nodup)
    (below : ∀ position ∈ run.emitted ++ positions, position.2 < lastCounter)
    (clean : ∀ address, ¬ operation.Reuses run address) :
    Sound ⟨after, run.emitted ++ positions, run.drawn ++ operation.drawnKeys run.host after⟩ := by
  cases effect with
  | kept refusal_eq loads =>
    rw [List.append_nil]
    constructor
    · exact permissive_of_refusal_eq sound.permissive refusal_eq
    · exact sound.distinct
    · exact fun position member => List.mem_append_left _ (sound.known position member)
    · intro address record load
      rcases loads address record load with before | rfl
      · exact sound.ahead address record before
      · exact SessionRecord.ahead_new _
    · intro address record load key member
      rcases loads address record load with before | rfl
      · exact List.mem_append_left _ (sound.drew address record before key member)
      · cases member
    · intro address other record found different here there key member inside
      rcases loads address record here with before | rfl
      · rcases loads other found there with also | rfl
        · exact sound.apart address other record found different before also key member inside
        · cases inside
      · cases member
  | @renewed address record result fresh revived refusal_eq load renewed drew revives stored =>
    rw [List.append_nil]
    have held : ∀ key ∈ record.keys, key ∈ run.drawn := fun key member =>
      sound.drew address record load key (List.mem_append_right _ member)
    have split := List.nodup_append.mp nodup
    have unused : ∀ key, key ∈ fresh ∨ key ∈ revived →
        ∀ counter, (key, counter) ∉ run.emitted := by
      intro key source counter sent
      rcases source with new | pending
      · exact split.2.2 key (sound.known _ sent) key (drew.subset new) rfl
      · exact clean address ⟨key, counter, revives key pending, sent⟩
    have distinct : (fresh ++ record.keys).Nodup := by
      rw [List.nodup_append]
      refine ⟨SessionRecord.nodup_of_subperm drew split.2.1,
        (sound.ahead address record load).distinct, ?_⟩
      rintro key new _ old rfl
      exact split.2.2 key (held key old) key (drew.subset new) rfl
    exact sound.stored refusal_eq load stored (fun key => renewed.held) drew.subset nodup
      ((sound.ahead address record load).renewed renewed distinct unused)
      (fun other found _ also => sound.ahead other found also) sound.distinct sound.known
  | @sent address record sender refusal_eq load sending stored =>
    have ahead := sound.ahead address record load
    have holds : sender.key ∈ record.held :=
      SessionRecord.mem_held_of_mem_chains (SessionRecord.mem_chains_of_sender sending)
    have notLast : sender.chainKey.index < lastCounter :=
      below sender.position (List.mem_append_right _ List.mem_cons_self)
    have held : ∀ key ∈ (record.sent sender).held, key ∈ [] ∨ key ∈ record.held := by
      intro key member
      rw [SessionRecord.held_sent sending] at member
      exact .inr member
    refine sound.stored refusal_eq load stored held (List.nil_subset _) nodup
      (ahead.sent sending notLast) ?_ ?_ ?_
    · intro other found different also
      apply (sound.ahead other found also).append
      exact sound.apart address other record found different.symm load also _ holds
    · rw [List.nodup_append]
      refine ⟨sound.distinct, List.pairwise_singleton _ _, ?_⟩
      rintro position before _ here rfl
      rw [List.mem_singleton.mp here] at before
      have past := ahead.above sender (SessionRecord.mem_chains_of_sender sending) _ before
      exact absurd past (UInt32.lt_irrefl _)
    · intro position member
      rcases List.mem_append.mp member with before | here
      · exact sound.known position before
      · rw [List.mem_singleton.mp here]
        exact sound.drew address record load _ holds

/-- One operation keeps what holds of every run. -/
theorem Closed.effect {after : Host} {positions : List Position} (closed : run.Closed)
    (effect : operation.Effect run.host after positions) (drawn : List PublicKey) :
    Closed ⟨after, run.emitted ++ positions, drawn⟩ := by
  cases effect with
  | kept refusal_eq loads =>
    rw [List.append_nil]
    refine ⟨permissive_of_refusal_eq closed.permissive refusal_eq, closed.below, ?_⟩
    intro address record load
    rcases loads address record load with before | rfl
    · exact closed.filled address record before
    · exact SessionRecord.filled_new _
  | renewed refusal_eq load renewed drew revives stored =>
    rw [List.append_nil]
    refine ⟨permissive_of_refusal_eq closed.permissive refusal_eq, closed.below, ?_⟩
    intro other found also
    rcases Store.loadSession_of_stored stored also with ⟨_, rfl⟩ | ⟨_, before⟩
    · have filled := (closed.filled _ _ load).renewed renewed
      exact filled
    · exact closed.filled other found before
  | @sent address record sender refusal_eq load sending stored =>
    have filled := closed.filled address record load
    refine ⟨permissive_of_refusal_eq closed.permissive refusal_eq, ?_, ?_⟩
    · intro key counter member lower less
      apply List.mem_append_left
      rcases List.mem_append.mp member with before | here
      · exact closed.below key counter before lower less
      · cases List.mem_singleton.mp here
        exact filled sender (SessionRecord.mem_chains_of_sender sending) lower less
    · intro other found also
      rcases Store.loadSession_of_stored stored also with ⟨_, rfl⟩ | ⟨_, before⟩
      · exact filled.sent sending
      · exact (closed.filled other found before).append _

theorem Sound.next (sound : run.Sound) (nodup : (run.next operation).drawn.Nodup)
    (below : ∀ position ∈ (run.next operation).emitted, position.2 < lastCounter)
    (clean : ∀ address, ¬ operation.Reuses run address) : (run.next operation).Sound :=
  sound.effect (Operation.effect_of_performed sound.permissive rfl) nodup below clean

theorem Closed.next (closed : run.Closed) (operation : Operation) :
    (run.next operation).Closed :=
  closed.effect (Operation.effect_of_performed closed.permissive rfl) _

/-- Every run is closed. -/
theorem closed_after {host : Host} (permissive : host.Permissive)
    (bare : host.store.sessions = .empty) (operations : List Operation) :
    (after host operations).Closed := by
  induction operations using List.reverseRecOn with
  | nil => exact closed_start permissive bare
  | append_singleton before operation ih =>
    rw [after_append_singleton]
    exact ih.next operation

/-- A run that reuses no pending key is sound. -/
theorem sound_after {host : Host} (permissive : host.Permissive)
    (bare : host.store.sessions = .empty) (operations : List Operation)
    (nodup : (after host operations).drawn.Nodup)
    (below : ∀ position ∈ (after host operations).emitted, position.2 < lastCounter)
    (clean : ∀ before operation later address, operations = before ++ operation :: later →
      ¬ operation.Reuses (after host before) address) :
    (after host operations).Sound := by
  induction operations using List.reverseRecOn with
  | nil => exact sound_start permissive bare
  | append_singleton before operation ih =>
    rw [after_append_singleton] at nodup below ⊢
    have drawn : (after host before).drawn <+: ((after host before).next operation).drawn :=
      List.prefix_append ..
    have emitted : (after host before).emitted <+: ((after host before).next operation).emitted :=
      List.prefix_append ..
    have sound : (after host before).Sound := by
      apply ih (drawn.sublist.nodup nodup)
      · exact fun position member => below position (emitted.subset member)
      · intro earlier other later address split
        apply clean earlier other (later ++ [operation]) address
        rw [split, List.append_assoc]
        rfl
    exact sound.next nodup below fun address => clean before operation [] address rfl

/-- A revived key is the key of the current state, and nothing was sent on it yet. -/
theorem sender_of_revives {host : Host} {address : Address} {key : PublicKey}
    (permissive : host.Permissive) (revives : operation.Revives host address key) :
    ∃ reply after record chain, host.perform operation.run = (.ok reply, after) ∧
      after.Permissive ∧ after.store.loadSession address = .ok record ∧
      record.current.sender = some chain ∧ chain.position = (key, 0) := by
  cases operation with
  | processExchange address limits message =>
    obtain ⟨record, pending, answer, after, rfl, load, waiting, rfl, matching, role, gives⟩ :=
      revives
    obtain ⟨_, store, draws, exchanged, becomes⟩ :=
      Establishment.processExchange_eq_ok permissive gives
    have performed : host.perform (Operation.processExchange address limits message).run =
        (.ok (.answer answer), after) := Host.perform_bind_of_ok gives _
    -- Both ways of taking the exchange put the state of a responder in front.
    have fronted : ∀ {store : Store} (fresh : KeyPair), after.store = store.storeSession address
        (record.promote (Establishment.exchangeState host.store message pending.baseKey
          pending.ratchetKey fresh) limits.archivedStates) →
        ∃ record chain, after.store.loadSession address = .ok record ∧
          record.current.sender = some chain ∧
          chain.position = (pending.ratchetKey.publicKey, 0) := by
      intro store fresh stored
      rw [stored, Store.loadSession_storeSession_self]
      obtain ⟨_, ⟨other, _⟩ | ⟨_, _, chain, opening, pair, zero⟩⟩ :=
        Operation.exchangeState_chain host.store message pending.baseKey pending.ratchetKey fresh
      · rw [role] at other
        cases other
      · refine ⟨_, chain, rfl, SessionState.sender_of_opener opening, ?_⟩
        unfold SenderChain.position SenderChain.key
        rw [pair, zero]
    cases exchanged with
    | @answered found baseKey ratchetKey drawn opening also brought =>
      cases load.symm.trans also
      unfold Establishment.broughtPairs at brought
      rw [waiting] at brought
      cases brought
      obtain ⟨result, chain, found, sending, place⟩ := fronted _ becomes.store_eq
      exact ⟨_, after, result, chain, performed, becomes.permissive permissive, found, sending,
        place⟩
    | @completed found other answering also wanted same =>
      cases load.symm.trans also
      cases waiting.symm.trans wanted
      obtain ⟨result, chain, found, sending, place⟩ := fronted _ becomes.store_eq
      exact ⟨_, after, result, chain, performed, becomes.permissive permissive, found, sending,
        place⟩
    | @passed found answering also unmatched =>
      cases load.symm.trans also
      rcases matching with opening | same
      · rw [answering] at opening
        cases opening
      · exact absurd same (unmatched pending waiting)
  | processBundle => cases revives
  | initiate => cases revives
  | encrypt => cases revives
  | decrypt => cases revives
  | endSession => cases revives

theorem positions_of_encrypt {host last : Host} {address : Address} {record : SessionRecord}
    {chain : SenderChain} {text : Bytes} {envelope : Envelope} (permissive : host.Permissive)
    (load : host.store.loadSession address = .ok record)
    (sending : record.current.sender = some chain)
    (gives : host.perform (Transport.encrypt address text) = (.ok envelope, last)) :
    (Reply.emitted envelope).positions = [chain.position] := by
  obtain ⟨other, sender, state, also, speaking, sealing, _⟩ :=
    Transport.encrypt_eq_ok permissive gives
  cases load.symm.trans also
  cases sending.symm.trans speaking
  obtain ⟨_, _, _, _, _, _, rfl, _⟩ := SessionState.sealText_eq_ok sealing
  exact Operation.positions_wrap ..

/-- Where a run reuses a pending key, the message that is sent next takes a position twice. -/
theorem not_nodup_of_reuses {host : Host} (permissive : host.Permissive)
    (bare : host.store.sessions = .empty) {before later : List Operation} {address : Address}
    {text : Bytes} {envelope : Envelope} {last : Host}
    (reuses : operation.Reuses (after host before) address)
    (gives : (after host (before ++ [operation])).host.perform (Transport.encrypt address text) =
      (.ok envelope, last)) :
    ¬ (after host (before ++ operation :: .encrypt address text :: later)).emitted.Nodup := by
  intro distinct
  obtain ⟨key, counter, revives, sent⟩ := reuses
  have closed := closed_after permissive bare before
  obtain ⟨reply, middle, record, chain, performed, still, load, sending, place⟩ :=
    sender_of_revives closed.permissive revives
  have reached := next_eq performed
  rw [← after_append_singleton] at reached
  have sealing : (after host (before ++ [operation])).host.perform
      (Operation.encrypt address text).run = (.ok (.emitted envelope), last) :=
    Host.perform_bind_of_ok gives _
  have position : (Reply.emitted envelope).positions = [(key, 0)] := by
    rw [← place]
    rw [reached] at gives
    exact positions_of_encrypt still load sending gives
  -- The first position on the key is among what was emitted before, and is emitted now.
  have first : (key, 0) ∈ (after host before).emitted := by
    by_cases zero : counter = 0
    · exact zero ▸ sent
    · exact closed.below key counter sent 0 (UInt32.pos_iff_ne_zero.mpr zero)
  have whole : (after host (before ++ [operation])).emitted ++ [(key, 0)] <+:
      (after host (before ++ operation :: .encrypt address text :: later)).emitted := by
    have split : before ++ operation :: .encrypt address text :: later =
        (before ++ [operation]) ++ .encrypt address text :: later := by
      rw [List.append_assoc]
      rfl
    have continued := emitted_prefix ((after host (before ++ [operation])).next
      (.encrypt address text)) later
    have emitted : ((after host (before ++ [operation])).next (.encrypt address text)).emitted =
        (after host (before ++ [operation])).emitted ++ [(key, 0)] := by
      rw [next_eq sealing, position]
    rw [emitted] at continued
    rw [split, after_append host (before ++ [operation])]
    exact continued
  have twice := whole.sublist.nodup distinct
  apply (List.nodup_append.mp twice).2.2 (key, 0) _ (key, 0) List.mem_cons_self rfl
  rw [reached]
  exact List.mem_append_left _ first

/-- A run takes no position twice if it never reuses a pending key; and where it does reuse
one, the message that is sent next takes a position twice. -/
theorem emitted_nodup {host : Host} (permissive : host.Permissive)
    (bare : host.store.sessions = .empty) (operations : List Operation) :
    ((after host operations).drawn.Nodup →
      (∀ position ∈ (after host operations).emitted, position.2 < lastCounter) →
      (∀ before operation later address, operations = before ++ operation :: later →
        ¬ operation.Reuses (after host before) address) →
      (after host operations).emitted.Nodup) ∧
    (∀ before operation later address text envelope last,
      operations = before ++ operation :: .encrypt address text :: later →
      operation.Reuses (after host before) address →
      (after host (before ++ [operation])).host.perform (Transport.encrypt address text) =
        (.ok envelope, last) →
      ¬ (after host operations).emitted.Nodup) := by
  constructor
  · intro nodup below clean
    exact (sound_after permissive bare operations nodup below clean).distinct
  · rintro before operation later address text envelope last rfl reuses gives
    exact not_nodup_of_reuses permissive bare reuses gives

end Run

namespace Scene

attribute [local instance] plainSuite

/-- How far Alice's run has come: the draws and the record of Bob, with what was drawn and
emitted. -/
structure Stage (run : Run) (draws : Nat) (record : SessionRecord) (emitted : List Position)
    (drawn : List PublicKey) : Prop where
  permissive : run.host.Permissive
  entropy : run.host.trace.entropy = aliceDraws
  draws : run.host.trace.drawn = draws
  identity : run.host.store.identity = alice
  registered : run.host.store.registrationId = 7
  trusted : run.host.store.trusts "bob" bob.identity = true
  load : run.host.store.loadSession bobAddress = .ok record
  emitted : run.emitted = emitted
  drawn : run.drawn = drawn

variable {run : Run} {draws : Nat} {record result : SessionRecord} {emitted : List Position}
  {drawn : List PublicKey}

/-- An operation that stores a record of Bob and draws nothing. -/
theorem Stage.stored {operation : Operation} {reply : Reply} {after : Host} {store : Store}
    (stage : Stage run draws record emitted drawn)
    (performed : run.host.perform operation.run = (.ok reply, after))
    (pairs : ∀ before last, operation.keyPlaces before last = List.range' before (last - before))
    (becomes : run.host.Becomes (store.storeSession bobAddress result) 0 after)
    (pinned : store = run.host.store ∨ store = run.host.store.pin "bob" bob.identity) :
    Stage (run.next operation) draws result.settled (emitted ++ reply.positions) drawn := by
  have trusted : store.trusts "bob" bob.identity = true := by
    rcases pinned with rfl | rfl
    · exact stage.trusted
    · exact Store.trusts_pin ..
  have kept : store.identity = alice ∧ store.registrationId = 7 := by
    rcases pinned with rfl | rfl
    · exact ⟨stage.identity, stage.registered⟩
    · exact ⟨stage.identity, stage.registered⟩
  rw [Run.next_eq performed, Operation.drawnKeys_of_becomes becomes pairs]
  constructor
  · exact becomes.permissive stage.permissive
  · exact becomes.continues.entropy_eq.trans stage.entropy
  · exact becomes.continues.drawn_eq.trans stage.draws
  · rw [becomes.store_eq]
    exact kept.1
  · rw [becomes.store_eq]
    exact kept.2
  · rw [becomes.store_eq]
    exact trusted
  · rw [becomes.store_eq]
    exact Store.loadSession_storeSession_self ..
  · exact congrArg (· ++ reply.positions) stage.emitted
  · exact (List.append_nil _).trans stage.drawn

/-- Alice answers the crossing exchange from her pending pairs, each time that it comes. -/
theorem Stage.answered (stage : Stage run draws record emitted drawn) {sequence : UInt32}
    (pending : record.current.pendingExchange = some (waiting sequence)) :
    Stage (run.next (.processExchange bobAddress .standard crossing)) draws
      (record.promote answering 40).settled emitted drawn := by
  have signed : Establishment.checkSigned crossing = .ok () := by
    have genuine : crossing.verifies = true := rfl
    unfold Establishment.checkSigned
    rw [genuine]
    rfl
  have opening : crossing.isInitiate = true := rfl
  have role : Negotiation.isInitiator (waiting sequence).baseKey.publicKey crossing.baseKey =
      false := by
    change Negotiation.isInitiator (KeyPair.drawnAt aliceDraws 3).publicKey crossing.baseKey = false
    decide
  obtain ⟨answer, after, gives⟩ := Establishment.perform_processExchange stage.permissive
    stage.trusted opening signed stage.load
  obtain ⟨_, store, draws, exchanged, becomes⟩ :=
    Establishment.processExchange_eq_ok stage.permissive gives
  have load := stage.load
  cases exchanged with
  | @answered found baseKey ratchetKey drawn opening also brought =>
    cases load.symm.trans also
    unfold Establishment.broughtPairs at brought
    rw [pending] at brought
    cases brought
    have none : Establishment.exchangeDraws (waiting sequence).baseKey crossing = 0 :=
      congrArg (fun ours : Bool => if ours then 1 else 0) role
    rw [Establishment.exchangeState_of_responder _ _ role, none, stage.identity,
      stage.registered] at becomes
    have pairs : ∀ before last, (Operation.processExchange bobAddress .standard crossing).keyPlaces
        before last = List.range' before (last - before) := fun _ _ => rfl
    have next := stage.stored (Host.perform_bind_of_ok gives _) pairs becomes (.inr rfl)
    rw [← List.append_nil emitted]
    exact next
  | completed answering => cases answering
  | passed answering => cases answering

/-- A state that was just put in front takes the first position on its key. -/
theorem Stage.sent (stage : Stage run draws record emitted drawn)
    (front : record.current = answering) :
    Stage (run.next (.encrypt bobAddress [0x68, 0x69])) draws
      (record.sent (answering.sender.getD default)).settled
      (emitted ++ [((KeyPair.drawnAt aliceDraws 4).publicKey, 0)]) drawn := by
  have sending : record.current.sender = some (answering.sender.getD default) := by
    rw [front]
    rfl
  have ours : record.current.localIdentity = some alice.identity := by
    rw [front]
    rfl
  have theirs : record.current.remoteIdentity = some bob.identity := by
    rw [front]
    rfl
  have closed : (answering.sender.getD default).chainKey.messageKeys.seal? [0x68, 0x69] =
      some [0x68, 0x69] := rfl
  have sealing := SessionState.sealText_of_sealed ours theirs closed
  obtain ⟨after, gives, becomes⟩ :=
    Transport.perform_encrypt stage.permissive stage.load sending sealing
  have pairs : ∀ before last, (Operation.encrypt bobAddress [0x68, 0x69]).keyPlaces before last =
      List.range' before (last - before) := fun _ _ => rfl
  have next := stage.stored (Host.perform_bind_of_ok gives _) pairs becomes (.inl rfl)
  rw [Operation.positions_wrap] at next
  exact next

/-- The older session takes the late message, whether or not it has a pending exchange. -/
theorem late_taken (pending : Option PendingExchange) (ours : KeyPair) :
    ∃ taken, ({ olderState with pendingExchange := pending } : SessionState).Takes .standard ours
        late [0x6c, 0x61, 0x74, 0x65] taken ∧
      taken.remoteIdentity = some bob.identity ∧ taken.pendingExchange = pending := by
  obtain ⟨served, serves, keys⟩ : ∃ served,
      lateChain.serve Limits.standard.forwardJumps Limits.standard.messageKeys late.counter =
        .ok served ∧ served.keys = lateChain.chainKey.messageKeys := ⟨_, rfl, rfl⟩
  let state : SessionState := { olderState with pendingExchange := pending }
  have opens : state.Opens .standard ours late [0x6c, 0x61, 0x74, 0x65] state lateChain served
      alice.identity bob.identity :=
    { established := rfl
      version_eq := rfl
      reached := .known rfl
      chain_eq := rfl
      served_eq := serves
      remote_eq := rfl
      local_eq := rfl
      verifies := by
        rw [keys]
        decide +kernel
      unsealed := rfl }
  exact ⟨_, ⟨_, _, _, _, _, opens, rfl⟩, rfl, rfl⟩

/-- Behind a state that refuses it for its version, the older session takes the late message
and comes back to the front with its pending exchange. -/
theorem Stage.late (stage : Stage run draws record emitted drawn) {sequence : UInt32}
    {newer : SessionState} (front : record.current = newer) (established : newer.established = true)
    (version : newer.version = currentVersion)
    (archive : record.previous = [{ olderState with pendingExchange := some (waiting sequence) }]) :
    ∃ result, result.current.pendingExchange = some (waiting sequence) ∧
      Stage (run.next (.decrypt bobAddress .standard (fun _ => .ok ()) (.whisper Scene.late))) draws
        result emitted drawn := by
  have refused : record.current.openMessage .standard bobAddress Scene.late run.host.trace =
      (.error (.invalid (.otherVersion oldestVersion currentVersion)), run.host.trace) := by
    have different : Scene.late.version ≠ record.current.version := by
      rw [front, version]
      decide
    have there : record.current.established = true := by
      rw [front]
      exact established
    unfold SessionState.openMessage
    rw [there, if_pos different, front, version]
    rfl
  obtain ⟨taken, takes, known, pending⟩ :=
    late_taken (some (waiting sequence)) run.host.trace.nextPair
  obtain ⟨later, opening, continues⟩ :=
    SessionRecord.openMessage_of_archived_takes refused archive takes
  have ready : record.current.established = true := by
    rw [front]
    exact established
  obtain ⟨after, gives, becomes⟩ := Transport.perform_decryptWhisper_of_openMessage
    stage.permissive stage.load ready opening continues known stage.trusted
  have pairs : ∀ before last, (Operation.decrypt bobAddress .standard (fun _ => .ok ())
      (.whisper Scene.late)).keyPlaces before last = List.range' before (last - before) :=
    fun _ _ => rfl
  have next := stage.stored (Host.perform_bind_of_ok gives _) pairs becomes (.inl rfl)
  refine ⟨((record.removePrevious 0).promote taken 40).settled, pending, ?_⟩
  rw [← List.append_nil emitted]
  exact next

/-- Alice opens a session of the older version. -/
theorem stage_opened :
    Stage ((Run.start (.start (.ofIdentity alice 7) aliceDraws)).next
        (.processBundle bobAddress .standard olderBundle)) 2 ⟨olderState, [], false⟩ []
      [(KeyPair.drawnAt aliceDraws 0).publicKey, (KeyPair.drawnAt aliceDraws 1).publicKey] := by
  have offered : Establishment.Offer.ofBundle olderBundle = .ok olderOffer := rfl
  have permissive := Host.permissive_start (.ofIdentity alice 7) aliceDraws
  have load : (Store.ofIdentity alice 7).loadSession bobAddress = .ok .new :=
    Store.loadSession_eq_new rfl
  obtain ⟨after, gives, becomes⟩ := Establishment.perform_processBundle .standard permissive
    (Store.trusts_of_unpinned rfl _) offered load
  have performed : (Run.start (.start (.ofIdentity alice 7) aliceDraws)).host.perform
      (Operation.processBundle bobAddress .standard olderBundle).run = (.ok .done, after) :=
    Host.perform_bind_of_ok gives _
  have pairs : ∀ before last, (Operation.processBundle bobAddress .standard olderBundle).keyPlaces
      before last = List.range' before (last - before) := fun _ _ => rfl
  have keys := Operation.drawnKeys_of_becomes becomes pairs
  rw [Run.next_eq performed]
  constructor
  · exact becomes.permissive permissive
  · exact becomes.continues.entropy_eq
  · exact becomes.continues.drawn_eq
  · rw [becomes.store_eq]
    rfl
  · rw [becomes.store_eq]
    rfl
  · rw [becomes.store_eq]
    exact Store.trusts_pin ..
  · rw [becomes.store_eq]
    exact Store.loadSession_storeSession_self ..
  · rfl
  · exact keys

theorem drawn_sequence (events : List Event) :
    (generateSequence ⟨aliceDraws, 2, events⟩).2.drawn = 3 := by
  rw [Drawing.snd_generateSequence, Drawing.snd_drawBelow_of_kept]
  change Bytes.ofLittleEndian ((aliceDraws 2).toList.take 4) * 65534 % UInt32.size ≤
    (65534 <<< Trace.leadingZeros 65534) % UInt32.size - 1
  decide

/-- She then opens a key exchange. -/
theorem Stage.initiated (stage : Stage run 2 ⟨olderState, [], false⟩ emitted drawn) :
    ∃ sequence, Stage (run.next (.initiate bobAddress)) 5
      ⟨{ olderState with pendingExchange := some (waiting sequence) }, [], false⟩ emitted
      (drawn ++ [(KeyPair.drawnAt aliceDraws 3).publicKey,
        (KeyPair.drawnAt aliceDraws 4).publicKey]) := by
  obtain ⟨message, after, gives⟩ := Establishment.perform_initiate stage.permissive stage.load
  obtain ⟨record, sequence, skipped, load, _, count, becomes⟩ :=
    Establishment.initiate_eq_ok stage.permissive gives
  cases stage.load.symm.trans load
  have one : skipped = 1 := by
    have start : run.host.trace = ⟨aliceDraws, 2, run.host.trace.events⟩ := by
      rw [← stage.entropy, ← stage.draws]
    rw [start, drawn_sequence] at count
    change 3 = 2 + skipped at count
    omega
  subst one
  have performed : run.host.perform (Operation.initiate bobAddress).run =
      (.ok (.opening message), after) := Host.perform_bind_of_ok gives _
  have drew := becomes.continues.drawn_eq
  rw [stage.draws] at drew
  refine ⟨sequence, ?_⟩
  have keys : (Operation.initiate bobAddress).drawnKeys run.host after =
      [(KeyPair.drawnAt aliceDraws 3).publicKey, (KeyPair.drawnAt aliceDraws 4).publicKey] := by
    change [(KeyPair.drawnAt run.host.trace.entropy (after.trace.drawn - 2)).publicKey,
      (KeyPair.drawnAt run.host.trace.entropy (after.trace.drawn - 1)).publicKey] = _
    rw [drew, stage.entropy]
  rw [stage.entropy, stage.draws] at becomes
  rw [Run.next_eq performed, keys]
  constructor
  · exact becomes.permissive stage.permissive
  · exact becomes.continues.entropy_eq.trans stage.entropy
  · exact drew
  · rw [becomes.store_eq]
    exact stage.identity
  · rw [becomes.store_eq]
    exact stage.registered
  · rw [becomes.store_eq]
    exact stage.trusted
  · rw [becomes.store_eq]
    exact Store.loadSession_storeSession_self ..
  · exact (List.append_nil _).trans stage.emitted
  · exact congrArg (· ++ _) stage.drawn

/-- The crossing exchange alone reuses nothing: when it is answered, nothing was sent. -/
theorem first_position_taken_once :
    let host := Host.start (.ofIdentity alice 7) aliceDraws
    let operations : List Operation := [.processBundle bobAddress .standard olderBundle,
      .initiate bobAddress, .processExchange bobAddress .standard crossing,
      .encrypt bobAddress [0x68, 0x69]]
    (Run.after host operations).emitted = [((KeyPair.drawnAt aliceDraws 4).publicKey, 0)] ∧
      (Run.after host operations).emitted.Nodup := by
  intro host operations
  obtain ⟨sequence, waited⟩ := stage_opened.initiated
  have crossed : ∃ record drawn, Stage (Run.after host [.processBundle bobAddress .standard
      olderBundle, .initiate bobAddress]) 5 record [] drawn := by
    unfold Run.after
    rw [List.foldl_cons, List.foldl_cons, List.foldl_nil]
    exact ⟨_, _, waited⟩
  obtain ⟨_, _, waiting⟩ := crossed
  have last : ∃ record, Stage (Run.after host operations) 5 record
      [((KeyPair.drawnAt aliceDraws 4).publicKey, 0)]
      [(KeyPair.drawnAt aliceDraws 0).publicKey, (KeyPair.drawnAt aliceDraws 1).publicKey,
        (KeyPair.drawnAt aliceDraws 3).publicKey, (KeyPair.drawnAt aliceDraws 4).publicKey] := by
    unfold Run.after operations
    rw [List.foldl_cons, List.foldl_cons, List.foldl_cons, List.foldl_cons, List.foldl_nil]
    exact ⟨_, (waited.answered rfl).sent rfl⟩
  obtain ⟨_, stage⟩ := last
  have nodup : (Run.after host operations).drawn.Nodup := by
    rw [stage.drawn]
    decide
  have below : ∀ position ∈ (Run.after host operations).emitted, position.2 < lastCounter := by
    rw [stage.emitted]
    intro position member
    rw [List.mem_singleton.mp member]
    decide
  have clean : ∀ before operation later address, operations = before ++ operation :: later →
      ¬ operation.Reuses (Run.after host before) address := by
    rintro before operation later address split ⟨key, counter, revives, sent⟩
    unfold operations at split
    rcases before with _ | ⟨first, _ | ⟨second, _ | ⟨third, _ | ⟨fourth, more⟩⟩⟩⟩
    · cases split
      cases revives
    · cases split
      cases revives
    · cases split
      rw [waiting.emitted] at sent
      cases sent
    · cases split
      cases revives
    · simp at split
  exact ⟨stage.emitted, (Run.emitted_nodup (Host.permissive_start _ _) rfl operations).1 nodup below
    clean⟩

/-- Alice opens a session of the older version and a key exchange, which crosses with one of
Bob's.  A message of the older session arrives late, and then Bob's exchange once more:
the two messages that she sends after it has come take the same position. -/
theorem position_taken_twice :
    ∃ (host : Host) (operations : List Operation), host.Permissive ∧
      host.store.sessions = .empty ∧ host.store.preKeys = .empty ∧
      host.store.signedPreKeys = .empty ∧ (Run.after host operations).drawn.Nodup ∧
      ¬ (Run.after host operations).emitted.Nodup := by
  obtain ⟨sequence, waited⟩ := stage_opened.initiated
  have answered := waited.answered rfl
  have sent := answered.sent rfl
  obtain ⟨result, pending, late⟩ := sent.late rfl rfl rfl rfl
  let position : Position := ((KeyPair.drawnAt aliceDraws 4).publicKey, 0)
  let drawn := [(KeyPair.drawnAt aliceDraws 0).publicKey, (KeyPair.drawnAt aliceDraws 1).publicKey,
    (KeyPair.drawnAt aliceDraws 3).publicKey, (KeyPair.drawnAt aliceDraws 4).publicKey]
  let operations : List Operation := [.processBundle bobAddress .standard olderBundle,
    .initiate bobAddress, .processExchange bobAddress .standard crossing,
    .encrypt bobAddress [0x68, 0x69],
    .decrypt bobAddress .standard (fun _ => .ok ()) (.whisper Scene.late),
    .processExchange bobAddress .standard crossing, .encrypt bobAddress [0x68, 0x69]]
  have last : ∃ record, Stage (Run.after (.start (.ofIdentity alice 7) aliceDraws) operations)
      5 record [position, position] drawn := by
    unfold Run.after operations
    rw [List.foldl_cons, List.foldl_cons, List.foldl_cons, List.foldl_cons, List.foldl_cons,
      List.foldl_cons, List.foldl_cons, List.foldl_nil]
    exact ⟨_, (late.answered pending).sent rfl⟩
  obtain ⟨_, stage⟩ := last
  refine ⟨.start (.ofIdentity alice 7) aliceDraws, operations, Host.permissive_start _ _, rfl, rfl,
    rfl, ?_, ?_⟩
  · rw [stage.drawn]
    decide
  · rw [stage.emitted]
    decide

end Scene
end DoubleRatchet
