import DoubleRatchet.Proofs.Engine.Reachable
import DoubleRatchet.Proofs.Session.Positions

namespace DoubleRatchet

/-!
# Runs and what one step of a run does

A run is a sequence of operations on one host.  What it has drawn and what it has
emitted are kept beside the host: the public keys of all pairs that were drawn, and
the places of all messages that were sealed.  Operations never look at either, so
they say nothing that the run itself does not.

A step has one of three effects on the records of the store.  It leaves them alone
or forgets some, it renews one of them, or it sends on the sender chain of the
current state of one of them.
-/

/-- The positions of the sealed messages that a reply hands out. -/
def Reply.positions : Reply -> List Position
  | emitted envelope =>
    envelope.sealed?.toList.map fun message => (message.ratchetKey, message.counter)
  | _ => []

namespace Operation

variable [Suite]

/-- The numbers of the draws that an operation has made key pairs of.  Opening a key
exchange first draws its sequence, which is no key. -/
def keyPlaces (before after : Nat) : Operation -> List Nat
  | initiate _ => [after - 2, after - 1]
  | _ => List.range' before (after - before)

/-- The public keys of the pairs that an operation has drawn. -/
def drawnKeys (operation : Operation) (host after : Host) : List PublicKey :=
  (operation.keyPlaces host.trace.drawn after.trace.drawn).map fun place =>
    (KeyPair.drawnAt host.trace.entropy place).publicKey

/-- The operation succeeds in putting a state in front that sends on a key of the pending
exchange: this side takes the role of the responder, and brings what was pending. -/
def Revives (host : Host) (place : Address) (key : PublicKey) : Operation -> Prop
  | processExchange address limits message =>
    ∃ record pending answer after, address = place ∧
      host.store.loadSession address = .ok record ∧
      record.current.pendingExchange = some pending ∧
      pending.ratchetKey.publicKey = key ∧
      (message.isInitiate = true ∨ pending.sequence = message.sequence) ∧
      Negotiation.isInitiator pending.baseKey.publicKey message.baseKey = false ∧
      host.perform (Establishment.processExchange address limits message) = (.ok answer, after)
  | _ => False

/-- The keys are those of all draws, where every draw is one of a pair. -/
theorem drawnKeys_of_becomes {operation : Operation} {host after : Host} {store : Store}
    {draws : Nat} (becomes : host.Becomes store draws after)
    (pairs : ∀ before last, operation.keyPlaces before last = List.range' before (last - before)) :
    operation.drawnKeys host after = (List.range' host.trace.drawn draws).map fun place =>
      (KeyPair.drawnAt host.trace.entropy place).publicKey := by
  unfold drawnKeys
  rw [pairs, becomes.continues.drawn_eq, Nat.add_sub_cancel_left]

/-- What an operation does to the records of the store, with the positions of what it
has emitted. -/
inductive Effect (operation : Operation) (host after : Host) : List Position -> Prop where
  /-- No record has changed, but some may be gone. -/
  | kept (refusal_eq : after.refusal = host.refusal)
      (loads : ∀ address record, after.store.loadSession address = .ok record →
        host.store.loadSession address = .ok record ∨ record = .new) :
      Effect operation host after []
  /-- One record was renewed by what was drawn, and perhaps by a pending key. -/
  | renewed {address : Address} {record result : SessionRecord} {fresh revived : List PublicKey}
      (refusal_eq : after.refusal = host.refusal)
      (load : host.store.loadSession address = .ok record)
      (renewed : record.Renewed fresh revived result)
      (drew : fresh.Subperm (operation.drawnKeys host after))
      (revives : ∀ key ∈ revived, operation.Revives host address key)
      (stored : after.store.sessions = (host.store.storeSession address result).sessions) :
      Effect operation host after []
  /-- One message was sent. -/
  | sent {address : Address} {record : SessionRecord} {sender : SenderChain}
      (refusal_eq : after.refusal = host.refusal)
      (load : host.store.loadSession address = .ok record)
      (sending : record.current.sender = some sender)
      (stored : after.store.sessions = (host.store.storeSession address
        (record.sent sender)).sessions) :
      Effect operation host after [sender.position]

/-! ## The effect of each operation -/

variable {host after : Host} {address : Address} {limits : Limits}

theorem mem_drawn {before last place : Nat} (entropy : Nat -> Octets 32) (low : before ≤ place)
    (high : place < last) : (KeyPair.drawnAt entropy place).publicKey ∈
      (List.range' before (last - before)).map fun place =>
        (KeyPair.drawnAt entropy place).publicKey := by
  apply List.mem_map_of_mem
  rw [List.mem_range'_1]
  omega

theorem effect_processBundle {bundle : Bundle} (permissive : host.Permissive)
    (gives : host.perform (Establishment.processBundle address limits bundle) = (.ok (), after)) :
    Effect (processBundle address limits bundle) host after [] := by
  obtain ⟨offer, record, _, _, load, becomes⟩ := Establishment.processBundle_eq_ok permissive gives
  let fresh := KeyPair.drawnAt host.trace.entropy (host.trace.drawn + 1)
  let state := Establishment.bundleState host.store bundle offer host.trace.nextPair fresh
  obtain ⟨chain, speaking, pair, zero⟩ : ∃ chain, state.voice = some chain ∧
      chain.ratchetKey = fresh ∧ chain.chainKey.index = 0 := ⟨_, rfl, rfl, rfl⟩
  have renewed := SessionRecord.renewed_promote_voice record limits.archivedStates speaking zero rfl
    rfl
  refine .renewed becomes.refusal_eq load renewed ?_ (fun _ member => nomatch member) ?_
  · have last : host.trace.drawn + 1 < after.trace.drawn := by
      rw [becomes.continues.drawn_eq]
      omega
    rw [List.singleton_subperm_iff, SenderChain.key, pair]
    exact mem_drawn _ (Nat.le_succ _) last
  · rw [becomes.store_eq]
    rfl

theorem effect_initiate {message : KeyExchangeMessage} (permissive : host.Permissive)
    (gives : host.perform (Establishment.initiate address) = (.ok message, after)) :
    Effect (initiate address) host after [] := by
  obtain ⟨record, sequence, skipped, load, _, _, becomes⟩ :=
    Establishment.initiate_eq_ok permissive gives
  let pending : PendingExchange := ⟨sequence,
    .drawnAt host.trace.entropy (host.trace.drawn + skipped),
    .drawnAt host.trace.entropy (host.trace.drawn + skipped + 1)⟩
  refine .renewed becomes.refusal_eq load (record.renewed_of_pending pending) ?_
    (fun _ member => nomatch member) ?_
  · have last : after.trace.drawn - 1 = host.trace.drawn + skipped + 1 := by
      rw [becomes.continues.drawn_eq]
      omega
    rw [List.singleton_subperm_iff]
    change _ ∈ [(KeyPair.drawnAt host.trace.entropy (after.trace.drawn - 2)).publicKey,
      (KeyPair.drawnAt host.trace.entropy (after.trace.drawn - 1)).publicKey]
    rw [last]
    exact List.mem_cons_of_mem _ List.mem_cons_self
  · rw [becomes.store_eq]

/-- The state of a key exchange has a voice of the pair that an initiator draws, or an
opener of the pair that a responder has brought. -/
theorem exchangeState_chain (store : Store) (message : KeyExchangeMessage)
    (baseKey ratchetKey fresh : KeyPair) :
    let state := Establishment.exchangeState store message baseKey ratchetKey fresh
    state.pendingKey = none ∧
      ((Negotiation.isInitiator baseKey.publicKey message.baseKey = true ∧ state.opener = none ∧
          ∃ chain, state.voice = some chain ∧ chain.ratchetKey = fresh ∧
            chain.chainKey.index = 0) ∨
        (Negotiation.isInitiator baseKey.publicKey message.baseKey = false ∧ state.voice = none ∧
          ∃ chain, state.opener = some chain ∧ chain.ratchetKey = ratchetKey ∧
            chain.chainKey.index = 0)) := by
  cases role : Negotiation.isInitiator baseKey.publicKey message.baseKey with
  | true =>
    rw [Establishment.exchangeState_of_initiator ratchetKey fresh role]
    exact ⟨rfl, .inl ⟨rfl, rfl, _, rfl, rfl, rfl⟩⟩
  | false =>
    rw [Establishment.exchangeState_of_responder ratchetKey fresh role]
    exact ⟨rfl, .inr ⟨rfl, rfl, _, rfl, rfl, rfl⟩⟩

/-- Where a key exchange has put its state in front, one record was renewed.  The pair
that this side has brought was drawn just now, or was pending and is revived. -/
theorem effect_of_exchange {message : KeyExchangeMessage} {record : SessionRecord}
    {baseKey ratchetKey : KeyPair} (drawn : Nat)
    (load : host.store.loadSession address = .ok record)
    (becomes : host.Becomes ((host.store.pin address.name message.identity).storeSession address
      (record.promote (Establishment.exchangeState host.store message baseKey ratchetKey
        (.drawnAt host.trace.entropy (host.trace.drawn + drawn))) limits.archivedStates))
      (drawn + Establishment.exchangeDraws baseKey message) after)
    (source : (∃ place < drawn,
        ratchetKey = .drawnAt host.trace.entropy (host.trace.drawn + place)) ∨
      (record.current.pendingKey = some ratchetKey.publicKey ∧
        (Negotiation.isInitiator baseKey.publicKey message.baseKey = false →
          (processExchange address limits message).Revives host address ratchetKey.publicKey))) :
    Effect (processExchange address limits message) host after [] := by
  have last := becomes.continues.drawn_eq
  have stored : after.store.sessions = (host.store.storeSession address
      (record.promote (Establishment.exchangeState host.store message baseKey ratchetKey
        (.drawnAt host.trace.entropy (host.trace.drawn + drawn)))
          limits.archivedStates)).sessions := by
    rw [becomes.store_eq]
    rfl
  obtain ⟨idle, ⟨role, closed, chain, speaking, pair, zero⟩ |
      ⟨role, silent, chain, opening, pair, zero⟩⟩ :=
    exchangeState_chain host.store message baseKey ratchetKey
      (.drawnAt host.trace.entropy (host.trace.drawn + drawn))
  · refine .renewed becomes.refusal_eq load (SessionRecord.renewed_promote_voice _ _ speaking
      zero closed idle) ?_
      (fun _ member => nomatch member) stored
    have one : Establishment.exchangeDraws baseKey message = 1 := if_pos role
    rw [List.singleton_subperm_iff, SenderChain.key, pair]
    exact mem_drawn _ (Nat.le_add_right _ _) (by omega)
  · subst pair
    rcases source with ⟨place, early, drew⟩ | ⟨pending, revives⟩
    · have renewed : record.Renewed [chain.key] [] (record.promote _ limits.archivedStates) :=
        SessionRecord.renewed_promote_opener silent idle opening zero (.inl List.mem_cons_self)
          (SessionRecord.subperm_of_fresh _ record)
      refine .renewed becomes.refusal_eq load renewed ?_ (fun _ member => nomatch member) stored
      rw [List.singleton_subperm_iff, SenderChain.key, drew]
      exact mem_drawn _ (Nat.le_add_right _ _) (by omega)
    · have renewed : record.Renewed [] [chain.key] (record.promote _ limits.archivedStates) :=
        SessionRecord.renewed_promote_opener silent idle opening zero (.inr List.mem_cons_self)
          (SessionRecord.subperm_of_pending pending)
      refine .renewed becomes.refusal_eq load renewed List.nil_subperm ?_ stored
      intro key member
      rw [List.mem_singleton.mp member]
      exact revives role

theorem effect_processExchange {message : KeyExchangeMessage} {answer : Option KeyExchangeMessage}
    (permissive : host.Permissive)
    (gives : host.perform (Establishment.processExchange address limits message) =
      (.ok answer, after)) :
    Effect (processExchange address limits message) host after [] := by
  obtain ⟨_, store, draws, exchanged, becomes⟩ :=
    Establishment.processExchange_eq_ok permissive gives
  cases exchanged with
  | @answered record baseKey ratchetKey drawn opening load brought =>
    apply effect_of_exchange drawn load becomes
    unfold Establishment.broughtPairs at brought
    cases waiting : record.current.pendingExchange with
    | none =>
      rw [waiting] at brought
      cases brought
      exact .inl ⟨1, Nat.one_lt_two, rfl⟩
    | some pending =>
      rw [waiting] at brought
      cases brought
      have pendingKey : record.current.pendingKey = some pending.ratchetKey.publicKey :=
        congrArg (Option.map _) waiting
      exact .inr ⟨pendingKey, fun role => ⟨record, pending, _, after, rfl, load, waiting, rfl,
        .inl opening, role, gives⟩⟩
  | @completed record pending answering load waiting matching =>
    rw [← Nat.zero_add (Establishment.exchangeDraws _ _)] at becomes
    have pendingKey : record.current.pendingKey = some pending.ratchetKey.publicKey :=
      congrArg (Option.map _) waiting
    exact effect_of_exchange 0 load becomes (.inr ⟨pendingKey, fun role =>
      ⟨record, pending, _, after, rfl, load, waiting, rfl, .inr matching, role, gives⟩⟩)
  | passed =>
    refine .kept becomes.refusal_eq fun _ _ load => .inl ?_
    rw [becomes.store_eq] at load
    exact load

/-- What a state seals is at the position of its sender chain. -/
theorem positions_wrap (state : SessionState) (sender : SenderChain)
    (localIdentity remoteIdentity : IdentityKey) (body : Bytes) :
    (Reply.emitted (state.wrap localIdentity
      (state.sealedMessage sender localIdentity remoteIdentity body))).positions =
        [sender.position] := by
  unfold Reply.positions SessionState.wrap
  cases state.pendingPreKey with
  | none => rfl
  | some pending => rfl

theorem effect_encrypt {text : Bytes} {envelope : Envelope} (permissive : host.Permissive)
    (gives : host.perform (Transport.encrypt address text) = (.ok envelope, after)) :
    Effect (encrypt address text) host after (Reply.emitted envelope).positions := by
  obtain ⟨record, sender, state, load, sending, sealing, becomes⟩ :=
    Transport.encrypt_eq_ok permissive gives
  obtain ⟨localIdentity, remoteIdentity, body, _, _, _, rfl, rfl⟩ :=
    SessionState.sealText_eq_ok sealing
  rw [positions_wrap]
  refine .sent becomes.refusal_eq load sending ?_
  rw [becomes.store_eq]
  rfl

/-- What a state that opened a message has drawn is among what the operation has drawn. -/
theorem subperm_of_opened {record result : SessionRecord} {message : WhisperMessage}
    {text : Bytes} {skipped draws : Nat} {middle : Trace}
    (before : host.trace.Continues skipped middle)
    (opened : record.Opened limits middle.nextPair message text draws result)
    (drawn : after.trace.drawn = host.trace.drawn + (skipped + draws)) :
    (List.replicate draws middle.nextPair.publicKey).Subperm
      ((List.range' host.trace.drawn (after.trace.drawn - host.trace.drawn)).map fun place =>
        (KeyPair.drawnAt host.trace.entropy place).publicKey) := by
  have few : draws = 0 ∨ draws = 1 := by
    have either : ∀ state : SessionState, state.drawsFor message.ratchetKey = 0 ∨
        state.drawsFor message.ratchetKey = 1 := by
      intro state
      unfold SessionState.drawsFor
      split
      · exact .inl rfl
      · exact .inr rfl
    cases opened with
    | current takes => exact either _
    | archived found takes => exact either _
  rcases few with rfl | rfl
  · exact List.nil_subperm
  · have pair : middle.nextPair = .drawnAt host.trace.entropy (host.trace.drawn + skipped) := by
      unfold Trace.nextPair
      rw [before.entropy_eq, before.drawn_eq]
    rw [List.replicate_one, List.singleton_subperm_iff, pair]
    exact mem_drawn _ (Nat.le_add_right _ _) (by omega)

/-- The state of a responder that waits for its first message has nothing to keep. -/
theorem within_accepted {record accepted : SessionRecord} {message : PreKeyWhisperMessage}
    {used : Option UInt32} {store : Store}
    (accepts : Establishment.Accepted store address limits record message accepted used) :
    accepted.keys.Subperm record.keys ∧ ∀ chain ∈ accepted.voices, chain ∈ record.voices := by
  have promoted : ∀ (signedPreKey : KeyPair) (oneTimePreKey : Option KeyPair),
      (record.promote (Establishment.responderState store message signedPreKey oneTimePreKey)
        limits.archivedStates).keys.Subperm record.keys ∧
      ∀ chain ∈ (record.promote (Establishment.responderState store message signedPreKey
        oneTimePreKey) limits.archivedStates).voices, chain ∈ record.voices := by
    intro signedPreKey oneTimePreKey
    refine ⟨(SessionRecord.keys_promote_sublist ..).subperm, ?_⟩
    intro chain member
    rcases SessionRecord.mem_voices_promote member with here | before
    · cases here
    · exact before
  cases accepts with
  | negotiated => exact ⟨List.Subperm.refl _, fun _ member => member⟩
  | signed => exact promoted _ _
  | gone => exact ⟨List.Subperm.refl _, fun _ member => member⟩
  | unsigned => exact promoted _ _

theorem effect_decrypt {callback : Bytes -> Except Fault Unit} {message : Envelope} {text : Bytes}
    (permissive : host.Permissive)
    (gives : host.perform (Transport.decryptWith address limits callback message) =
      (.ok text, after)) :
    Effect (decrypt address limits callback message) host after [] := by
  cases message with
  | keyExchange message => cases gives
  | whisper message =>
    obtain ⟨record, result, skipped, draws, middle, _, load, _, before, opened, _, _, _,
      becomes⟩ := Transport.decryptWhisper_eq_ok permissive gives
    exact .renewed becomes.refusal_eq load (SessionRecord.renewed_of_opened opened)
      (subperm_of_opened before opened becomes.continues.drawn_eq) (fun _ member => nomatch member)
      (by rw [becomes.store_eq])
  | preKeyWhisper message =>
    obtain ⟨record, accepted, used, result, skipped, draws, middle, _, load, _, accepts, before,
      opened, _, _, _, becomes⟩ := Transport.decryptPreKeyWhisper_eq_ok permissive gives
    obtain ⟨keys, voices⟩ := within_accepted accepts
    refine .renewed becomes.refusal_eq load
      ((SessionRecord.renewed_of_opened opened).of_within keys voices
        (SessionRecord.opener_of_opened opened))
      (subperm_of_opened before opened becomes.continues.drawn_eq) (fun _ member => nomatch member)
      ?_
    have settled : (Transport.settle host.store address.name message.identity used).sessions =
        host.store.sessions := Store.sessions_settle ..
    rw [becomes.store_eq]
    unfold Store.storeSession
    rw [settled]

/-- What an operation does to the records, whatever it gives. -/
theorem effect_of_performed {operation : Operation} {result : Except Fault Reply}
    (permissive : host.Permissive) (performed : host.perform operation.run = (result, after)) :
    operation.Effect host after (result.toOption.toList.flatMap Reply.positions) := by
  cases result with
  | error fault =>
    have untouched := untouched_of_failed permissive performed
    refine .kept untouched.refusal_eq fun _ _ load => .inl ?_
    rw [untouched.store_eq] at load
    exact load
  | ok reply =>
    change operation.Effect host after (reply.positions ++ [])
    rw [List.append_nil]
    cases operation with
    | processBundle address limits bundle =>
      obtain ⟨_, _, gives, returned⟩ := Host.perform_bind_eq_ok.mp performed
      cases returned
      exact effect_processBundle permissive gives
    | initiate address =>
      obtain ⟨_, _, gives, returned⟩ := Host.perform_bind_eq_ok.mp performed
      cases returned
      exact effect_initiate permissive gives
    | processExchange address limits message =>
      obtain ⟨_, _, gives, returned⟩ := Host.perform_bind_eq_ok.mp performed
      cases returned
      exact effect_processExchange permissive gives
    | encrypt address text =>
      obtain ⟨_, _, gives, returned⟩ := Host.perform_bind_eq_ok.mp performed
      cases returned
      exact effect_encrypt permissive gives
    | decrypt address limits callback message =>
      obtain ⟨_, _, gives, returned⟩ := Host.perform_bind_eq_ok.mp performed
      cases returned
      exact effect_decrypt permissive gives
    | endSession address =>
      obtain ⟨_, _, gives, returned⟩ := Host.perform_bind_eq_ok.mp performed
      cases returned
      have becomes := Transport.endSession_eq_ok permissive gives
      refine .kept becomes.refusal_eq fun other record load => ?_
      rw [becomes.store_eq, Store.loadSession_deleteSessions] at load
      split at load
      · cases load
        exact .inr rfl
      · exact .inl load

end Operation

/-- A host with what was drawn and emitted on the way to it. -/
structure Run where
  host : Host
  emitted : List Position
  drawn : List PublicKey

namespace Run

variable [Suite]

/-- A run before its first operation. -/
def start (host : Host) : Run :=
  ⟨host, [], []⟩

/-- A run after one more operation. -/
def next (run : Run) (operation : Operation) : Run :=
  let (result, after) := run.host.perform operation.run
  { host := after
    emitted := run.emitted ++ result.toOption.toList.flatMap Reply.positions
    drawn := run.drawn ++ operation.drawnKeys run.host after }

/-- The run of some operations on a host. -/
def after (host : Host) (operations : List Operation) : Run :=
  operations.foldl next (start host)

omit [Suite] in
theorem permissive_of_refusal_eq {host after : Host} (permissive : host.Permissive)
    (same : after.refusal = host.refusal) : after.Permissive := by
  intro call
  rw [same]
  exact permissive call

/-- A run after an operation that succeeds. -/
theorem next_eq {run : Run} {operation : Operation} {reply : Reply} {after : Host}
    (performed : run.host.perform operation.run = (.ok reply, after)) :
    run.next operation =
      ⟨after, run.emitted ++ reply.positions, run.drawn ++ operation.drawnKeys run.host after⟩ := by
  unfold next
  rw [performed]
  change Run.mk after (run.emitted ++ (reply.positions ++ [])) _ = _
  rw [List.append_nil]

theorem after_append_singleton (host : Host) (operations : List Operation)
    (operation : Operation) :
    after host (operations ++ [operation]) = (after host operations).next operation := by
  unfold after
  rw [List.foldl_append]
  rfl

theorem after_append (host : Host) (operations more : List Operation) :
    after host (operations ++ more) = more.foldl next (after host operations) :=
  List.foldl_append ..

/-- What was emitted stays emitted. -/
theorem emitted_prefix (run : Run) (operations : List Operation) :
    run.emitted <+: (operations.foldl next run).emitted := by
  induction operations generalizing run with
  | nil => exact List.prefix_refl _
  | cons operation operations ih => exact (List.prefix_append ..).trans (ih (run.next operation))

end Run
end DoubleRatchet
