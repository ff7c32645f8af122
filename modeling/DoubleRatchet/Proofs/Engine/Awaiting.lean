import Mathlib.Data.List.Perm.Subperm
import DoubleRatchet.Proofs.Engine.Vouching

namespace DoubleRatchet

/-!
# Key exchanges that wait for an answer

The pending half of a key exchange is kept inside of a state, and nothing ever takes it out.
It is out of the way once another state is in front, and gone if the old one was not
established and so did not enter the archive.  But an archived state keeps what it awaits,
and brings it along when a message puts it in front again.

`Moves` says what a request does to the sequences that the states of a record await.  A
sequence comes into a record only when its key exchange is opened, and into the front of a
record only then or together with an archived state that has opened a message.
-/

namespace SessionState

/-- The sequence of the key exchange that the state awaits an answer to. -/
def awaits (state : SessionState) : Option UInt32 :=
  state.pendingExchange.map (·.sequence)

/-- Opening a message leaves the pending exchange of a state alone. -/
theorem Takes.pendingExchange_eq [Suite] {limits : Limits} {ours : KeyPair}
    {state taken : SessionState} {message : WhisperMessage} {text : Bytes}
    (takes : state.Takes limits ours message text taken) :
    taken.pendingExchange = state.pendingExchange := by
  obtain ⟨chained, chain, served, _, _, opens, rfl⟩ := takes
  cases opens.reached with
  | known present => rfl
  | stepped root sender absent rooted sending => rfl

theorem Takes.awaits_eq [Suite] {limits : Limits} {ours : KeyPair} {state taken : SessionState}
    {message : WhisperMessage} {text : Bytes}
    (takes : state.Takes limits ours message text taken) : taken.awaits = state.awaits :=
  congrArg (Option.map PendingExchange.sequence) takes.pendingExchange_eq

end SessionState

namespace SessionRecord

/-! ## Records -/

/-- The sequences that the states of a record await answers to. -/
def awaited (record : SessionRecord) : List UInt32 :=
  record.states.filterMap SessionState.awaits

variable {record : SessionRecord} {state : SessionState}

theorem awaited_eq (record : SessionRecord) :
    record.awaited =
      record.current.awaits.toList ++ record.previous.filterMap SessionState.awaits := by
  change (record.current :: record.previous).filterMap SessionState.awaits = _
  cases awaiting : record.current.awaits with
  | none => exact List.filterMap_cons_none awaiting
  | some sequence => exact List.filterMap_cons_some awaiting

theorem awaited_promote_sublist (record : SessionRecord) (state : SessionState) (bound : Nat) :
    (record.promote state bound).awaited.Sublist (state.awaits.toList ++ record.awaited) := by
  have whole : ({ record with current := state, previous := record.states } :
      SessionRecord).awaited = state.awaits.toList ++ record.awaited := awaited_eq _
  rw [← whole]
  exact (states_promote_sublist record state bound).filterMap _

theorem awaited_promote_of_idle (idle : state.awaits = none) (bound : Nat) :
    (record.promote state bound).awaited.Sublist record.awaited := by
  have kept := record.awaited_promote_sublist state bound
  rw [idle] at kept
  exact kept

/-- A state that was not established is not archived, and what it awaits is out of the way. -/
theorem awaited_promote_of_unestablished (idle : state.awaits = none)
    (unestablished : record.current.established = false) (bound : Nat) :
    (record.promote state bound).awaited = record.previous.filterMap SessionState.awaits := by
  have archive : (record.promote state bound).previous = record.previous := by
    unfold promote
    rw [unestablished]
    rfl
  have front : (record.promote state bound).current.awaits = none := idle
  rw [awaited_eq, archive, front]
  rfl

/-- The front of a record is renewed by a request that opens no message, with the sequence
of the key exchange that it has opened. -/
inductive Renews (record : SessionRecord) : List UInt32 -> SessionRecord -> Prop where
  /-- A state that awaits nothing was put in front. -/
  | fronted {state : SessionState} (idle : state.awaits = none) (bound : Nat) :
      Renews record [] (record.promote state bound)
  /-- The current state awaits the answer to a key exchange that was just opened. -/
  | opening {state : SessionState} {sequence : UInt32} (awaits : state.awaits = some sequence) :
      Renews record [sequence] { record with current := state }
  /-- The current state awaits what it did. -/
  | kept {state : SessionState} (same : state.awaits = record.current.awaits) :
      Renews record [] { record with current := state }

theorem Renews.awaited {opened : List UInt32} {result : SessionRecord}
    (renews : record.Renews opened result) :
    result.awaited.Subperm (record.awaited ++ opened) := by
  cases renews with
  | fronted idle bound =>
    rw [List.append_nil]
    exact (awaited_promote_of_idle idle bound).subperm
  | @opening state sequence awaits =>
    rw [awaited_eq, awaited_eq record, awaits]
    change ([sequence] ++ record.previous.filterMap SessionState.awaits).Subperm _
    rw [List.append_assoc]
    exact List.perm_append_comm.subperm.trans (List.sublist_append_right ..).subperm
  | @kept state same =>
    rw [List.append_nil, awaited_eq, awaited_eq record]
    change (state.awaits.toList ++ record.previous.filterMap SessionState.awaits).Subperm _
    rw [same]

theorem Renews.front {opened : List UInt32} {result : SessionRecord} {sequence : UInt32}
    (renews : record.Renews opened result) (awaits : result.current.awaits = some sequence) :
    record.current.awaits = some sequence ∨ sequence ∈ opened := by
  cases renews with
  | fronted idle bound => cases idle.symm.trans awaits
  | opening fresh =>
    cases fresh.symm.trans awaits
    exact .inr List.mem_cons_self
  | kept same => exact .inl (same.symm.trans awaits)

variable [Suite] {limits : Limits} {ours : KeyPair} {message : WhisperMessage} {text : Bytes}
  {draws : Nat} {accepted result : SessionRecord}

/-- Opening a message brings in no sequence that a record awaits. -/
theorem Opened.awaited (opened : record.Opened limits ours message text draws result) :
    result.awaited.Subperm record.awaited := by
  cases opened with
  | @current taken takes =>
    rw [awaited_eq, awaited_eq record]
    change (taken.awaits.toList ++ record.previous.filterMap SessionState.awaits).Subperm _
    rw [takes.awaits_eq]
  | @archived place state taken found takes =>
    apply (awaited_promote_sublist (record.removePrevious place) taken
      limits.archivedStates).subperm.trans
    obtain ⟨inside, here⟩ := List.getElem?_eq_some_iff.mp found
    -- The taker goes from its place in the archive to the front.
    have moved : (state :: (record.removePrevious place).states).Perm record.states := by
      apply (List.Perm.swap ..).trans
      apply List.Perm.cons
      rw [← here]
      exact List.getElem_cons_eraseIdx_perm inside
    have whole : ({ record with
        current := state
        previous := (record.removePrevious place).states } : SessionRecord).awaited =
          state.awaits.toList ++ (record.removePrevious place).awaited :=
      awaited_eq _
    rw [takes.awaits_eq, ← whole]
    exact (moved.filterMap _).subperm

/-- A state that awaits an answer is in front of a record that has opened a message only if
it was there or comes from the archive. -/
theorem Opened.front {sequence : UInt32}
    (opened : accepted.Opened limits ours message text draws result)
    (accepts : accepted = record ∨
      ∃ state bound, state.awaits = none ∧ accepted = record.promote state bound)
    (awaits : result.current.awaits = some sequence) :
    record.current.awaits = some sequence ∨
      sequence ∈ record.previous.filterMap SessionState.awaits := by
  obtain ⟨state, member, takes⟩ := opened.taker
  have awaiting : state.awaits = some sequence := takes.awaits_eq.symm.trans awaits
  have before : state ∈ record.states := by
    rcases accepts with rfl | ⟨newer, bound, idle, rfl⟩
    · exact member
    · rcases mem_states_promote member with rfl | before
      · cases idle.symm.trans awaiting
      · exact before
  rcases List.mem_cons.mp before with rfl | archived
  · exact .inl awaiting
  · exact .inr (List.mem_filterMap.mpr ⟨state, archived, awaiting⟩)

end SessionRecord

/-! ## Requests -/

namespace Store

/-- The current state of a record awaits an answer to a key exchange. -/
def Fronts (store : Store) (address : Address) (sequence : UInt32) : Prop :=
  ∃ record, store.loadSession address = .ok record ∧ record.current.awaits = some sequence

/-- An archived state of a record awaits an answer to a key exchange. -/
def Archives (store : Store) (address : Address) (sequence : UInt32) : Prop :=
  ∃ record, store.loadSession address = .ok record ∧
    sequence ∈ record.previous.filterMap SessionState.awaits

/-- What the record of an address awaits is among the given sequences, each of which accounts
for one state. -/
def AwaitsWithin (store : Store) (address : Address) (opened : List UInt32) : Prop :=
  ∀ record, store.loadSession address = .ok record → record.awaited.Subperm opened

end Store

/-- The sequences of the key exchanges that a reply opens. -/
def Reply.sequences : Reply -> List UInt32
  | opening message => [message.sequence]
  | _ => []

namespace Operation

variable [Suite] {host after : Host}

/-- What a request does to the records, with the sequences of the key exchanges that it has
opened. -/
inductive Moves (host after : Host) : Operation -> List UInt32 -> Prop where
  /-- No record has changed, but some may be gone. -/
  | kept {operation : Operation}
      (loads : ∀ address record, after.store.loadSession address = .ok record →
        host.store.loadSession address = .ok record ∨ record = .new) :
      Moves host after operation []
  /-- The front of one record was renewed. -/
  | renewed {operation : Operation} {address : Address} {record result : SessionRecord}
      {opened : List UInt32} (load : host.store.loadSession address = .ok record)
      (renews : record.Renews opened result)
      (stored : after.store.sessions = (host.store.storeSession address result).sessions) :
      Moves host after operation opened
  /-- One record has opened a message, after a handshake where the message carries one. -/
  | opened {address : Address} {limits : Limits} {callback : Bytes -> Except Fault Unit}
      {envelope : Envelope} {record accepted result : SessionRecord} {ours : KeyPair}
      {message : WhisperMessage} {text : Bytes} {draws : Nat}
      (load : host.store.loadSession address = .ok record)
      (accepts : accepted = record ∨
        ∃ state bound, state.awaits = none ∧ accepted = record.promote state bound)
      (takes : accepted.Opened limits ours message text draws result)
      (stored : after.store.sessions = (host.store.storeSession address result).sessions) :
      Moves host after (.decrypt address limits callback envelope) []

theorem awaits_bundleState (store : Store) (bundle : Bundle) (offer : Establishment.Offer)
    (baseKey ratchetKey : KeyPair) :
    (Establishment.bundleState store bundle offer baseKey ratchetKey).awaits = none :=
  rfl

theorem awaits_responderState (store : Store) (message : PreKeyWhisperMessage)
    (signedPreKey : KeyPair) (oneTimePreKey : Option KeyPair) :
    (Establishment.responderState store message signedPreKey oneTimePreKey).awaits = none :=
  rfl

theorem awaits_exchangeState (store : Store) (message : KeyExchangeMessage)
    (baseKey ratchetKey fresh : KeyPair) :
    (Establishment.exchangeState store message baseKey ratchetKey fresh).awaits = none :=
  congrArg (Option.map _) (Establishment.idle_exchangeState ..).1

theorem accepted_cases {store : Store} {address : Address} {limits : Limits}
    {record accepted : SessionRecord} {message : PreKeyWhisperMessage} {used : Option UInt32}
    (accepts : Establishment.Accepted store address limits record message accepted used) :
    accepted = record ∨
      ∃ state bound, state.awaits = none ∧ accepted = record.promote state bound := by
  cases accepts with
  | negotiated => exact .inl rfl
  | signed => exact .inr ⟨_, _, awaits_responderState .., rfl⟩
  | gone => exact .inl rfl
  | unsigned => exact .inr ⟨_, _, awaits_responderState .., rfl⟩

/-- A state that awaits nothing was put in front, and its identity pinned. -/
theorem moves_of_fronted {operation : Operation} {address : Address} {identity : IdentityKey}
    {record : SessionRecord} {state : SessionState} {bound draws : Nat}
    (load : host.store.loadSession address = .ok record) (idle : state.awaits = none)
    (becomes : host.Becomes ((host.store.pin address.name identity).storeSession address
      (record.promote state bound)) draws after) :
    operation.Moves host after [] := by
  refine .renewed load (.fronted idle bound) ?_
  rw [becomes.store_eq]
  rfl

/-- What a successful request does to the records. -/
theorem Done.moves {operation : Operation} {reply : Reply}
    (done : operation.Done host after reply) : operation.Moves host after reply.sequences := by
  cases done with
  | processBundle trusted offered load becomes =>
    exact moves_of_fronted load (awaits_bundleState ..) becomes
  | @initiate address record pending draws load becomes =>
    have awaits : ({ record.current with pendingExchange := some pending } :
        SessionState).awaits = some pending.sequence := rfl
    refine .renewed load (.opening awaits) ?_
    rw [becomes.store_eq]
  | processExchange trusted exchanged becomes =>
    cases exchanged with
    | answered opening load brought signed =>
      exact moves_of_fronted load (awaits_exchangeState ..) becomes
    | completed answering load waiting matching signed response =>
      exact moves_of_fronted load (awaits_exchangeState ..) becomes
    | passed =>
      refine .kept fun place record load => .inl ?_
      rw [becomes.store_eq] at load
      exact load
  | @encrypt address text envelope record sender state load sending sealing becomes =>
    obtain ⟨_, _, _, _, _, _, _, rfl⟩ := SessionState.sealText_eq_ok sealing
    have same : (record.current.sent sender).awaits = record.current.awaits := rfl
    refine .renewed load (.kept same) ?_
    rw [becomes.store_eq]
  | whisper load before opened known trusted becomes =>
    refine .opened load (.inl rfl) opened ?_
    rw [becomes.store_eq]
  | @preKeyWhisper address _ _ message _ _ _ _ used _ _ _ _ load sender accepts before opened
      known trusted becomes =>
    refine .opened load (accepted_cases accepts) opened ?_
    have settled := Store.sessions_settle host.store address.name message.identity used
    rw [becomes.store_eq]
    unfold Store.storeSession
    rw [settled]
  | endSession becomes =>
    refine .kept fun place record load => ?_
    rw [becomes.store_eq, Store.loadSession_deleteSessions] at load
    split at load
    · cases load
      exact .inr rfl
    · exact .inl load

/-- A request brings in only the sequence of a key exchange that it has opened. -/
theorem Moves.awaitsWithin {operation : Operation} {address : Address}
    {fresh opened : List UInt32} (moves : operation.Moves host after fresh)
    (within : host.store.AwaitsWithin address opened) :
    after.store.AwaitsWithin address (opened ++ fresh) := by
  intro found load
  have wider : ∀ {record : SessionRecord}, host.store.loadSession address = .ok record →
      record.awaited.Subperm (opened ++ fresh) := fun before =>
    (within _ before).trans (List.sublist_append_left ..).subperm
  cases moves with
  | kept loads =>
    rcases loads address found load with before | rfl
    · exact wider before
    · exact List.nil_subperm
  | renewed before renews stored =>
    rcases Store.loadSession_of_stored stored load with ⟨rfl, rfl⟩ | ⟨_, other⟩
    · exact renews.awaited.trans ((List.subperm_append_right _).mpr (within _ before))
    · exact wider other
  | opened before accepts takes stored =>
    rcases Store.loadSession_of_stored stored load with ⟨rfl, rfl⟩ | ⟨_, other⟩
    · apply takes.awaited.trans
      rcases accepts with rfl | ⟨state, bound, idle, rfl⟩
      · exact wider before
      · exact (SessionRecord.awaited_promote_of_idle idle bound).subperm.trans (wider before)
    · exact wider other

/-- A state that awaits an answer is in front after a request only if it was before, if the
request has opened its key exchange, or if the request has opened a message. -/
theorem Moves.front {operation : Operation} {fresh : List UInt32} {address : Address}
    {sequence : UInt32} (moves : operation.Moves host after fresh)
    (fronts : after.store.Fronts address sequence) :
    host.store.Fronts address sequence ∨ sequence ∈ fresh ∨
      (host.store.Archives address sequence ∧
        ∃ limits callback envelope, operation = .decrypt address limits callback envelope) := by
  obtain ⟨found, load, awaits⟩ := fronts
  cases moves with
  | kept loads =>
    rcases loads address found load with before | rfl
    · exact .inl ⟨found, before, awaits⟩
    · cases awaits
  | renewed before renews stored =>
    rcases Store.loadSession_of_stored stored load with ⟨rfl, rfl⟩ | ⟨_, other⟩
    · rcases renews.front awaits with front | opened
      · exact .inl ⟨_, before, front⟩
      · exact .inr (.inl opened)
    · exact .inl ⟨found, other, awaits⟩
  | opened before accepts takes stored =>
    rcases Store.loadSession_of_stored stored load with ⟨rfl, rfl⟩ | ⟨_, other⟩
    · rcases takes.front accepts awaits with front | archived
      · exact .inl ⟨_, before, front⟩
      · exact .inr (.inr ⟨⟨_, before, archived⟩, _, _, _, rfl⟩)
    · exact .inl ⟨found, other, awaits⟩

end Operation

/-! ## Histories -/

variable [Suite]

/-- The sequences of the key exchanges that a deed opens. -/
def Deed.sequences (host : Host) : Deed -> List UInt32
  | .asks operation => (host.perform operation.run).1.toOption.toList.flatMap Reply.sequences
  | .tends _ => []

/-- The deed puts an archived state in front that still awaits the answer to a key exchange. -/
def Deed.Recalls (host : Host) (address : Address) (sequence : UInt32) (deed : Deed) : Prop :=
  ¬ host.store.Fronts address sequence ∧ host.store.Archives address sequence ∧
    (host.act deed).store.Fronts address sequence

/-- Some deed of a history puts an archived state in front that still awaits the answer. -/
def Host.Recalled (host : Host) (address : Address) (sequence : UInt32) (deeds : List Deed) :
    Prop :=
  ∃ before deed later, deeds = before ++ deed :: later ∧
    deed.Recalls (host.through before) address sequence

theorem Deed.sequences_asks {host after : Host} {operation : Operation}
    {result : Except Fault Reply} (performed : host.perform operation.run = (result, after)) :
    sequences host (.asks operation) = result.toOption.toList.flatMap Reply.sequences :=
  congrArg (fun outcome => outcome.1.toOption.toList.flatMap Reply.sequences) performed

/-- Whether the deed asks for a key exchange. -/
def Deed.initiates : Deed -> Bool
  | .asks (.initiate _) => true
  | _ => false

/-- Only a deed that asks for a key exchange opens one. -/
theorem Deed.length_sequences_le {host : Host} (permissive : host.Permissive) (deed : Deed) :
    (deed.sequences host).length ≤ if deed.initiates then 1 else 0 := by
  cases deed with
  | tends chore => exact Nat.zero_le _
  | asks operation =>
    rcases performed : host.perform operation.run with ⟨fault | reply, after⟩
    · rw [sequences_asks performed]
      exact Nat.zero_le _
    · rw [sequences_asks performed]
      cases Operation.done_of_performed permissive performed with
      | initiate => exact Nat.le_refl _
      | processBundle => exact Nat.le_refl _
      | processExchange => exact Nat.le_refl _
      | encrypt => exact Nat.le_refl _
      | whisper => exact Nat.le_refl _
      | preKeyWhisper => exact Nat.le_refl _
      | endSession => exact Nat.le_refl _

namespace Host

variable {host : Host} {address : Address} {sequence : UInt32}

/-- The sequences of the key exchanges that are opened along a history. -/
def sequences (host : Host) : List Deed -> List UInt32
  | [] => []
  | deed :: deeds => deed.sequences host ++ (host.act deed).sequences deeds

theorem sequences_append (host : Host) (deeds more : List Deed) :
    host.sequences (deeds ++ more) =
      host.sequences deeds ++ (host.through deeds).sequences more := by
  induction deeds generalizing host with
  | nil => rfl
  | cons deed deeds ih =>
    have rest := ih (host.act deed)
    change deed.sequences host ++ (host.act deed).sequences (deeds ++ more) = _
    rw [rest, ← List.append_assoc]
    rfl

/-- A history opens no more key exchanges than are asked for in it. -/
theorem length_sequences_le (permissive : host.Permissive) (deeds : List Deed) :
    (host.sequences deeds).length ≤ deeds.countP Deed.initiates := by
  induction deeds generalizing host with
  | nil => exact Nat.le_refl _
  | cons deed deeds ih =>
    have here := Deed.length_sequences_le permissive deed
    have rest := ih (permissive_act permissive deed)
    rw [List.countP_cons]
    change (deed.sequences host ++ (host.act deed).sequences deeds).length ≤ _
    rw [List.length_append]
    omega

/-- A request moves the records in one of the ways that there are, also where it is in vain. -/
theorem moves_asks (permissive : host.Permissive) (operation : Operation) :
    operation.Moves host (host.act (.asks operation))
      (Deed.sequences host (.asks operation)) := by
  rcases performed : host.perform operation.run with ⟨fault | reply, after⟩
  · rw [act_asks performed, Deed.sequences_asks performed]
    refine .kept fun place record load => .inl ?_
    rw [(Operation.untouched_of_failed permissive performed).store_eq] at load
    exact load
  · have opened : [reply].flatMap Reply.sequences = reply.sequences := List.append_nil _
    rw [act_asks performed, Deed.sequences_asks performed]
    change operation.Moves host after ([reply].flatMap Reply.sequences)
    rw [opened]
    exact (Operation.done_of_performed permissive performed).moves

theorem awaitsWithin_act {opened : List UInt32} (permissive : host.Permissive)
    (within : host.store.AwaitsWithin address opened) (deed : Deed) :
    (host.act deed).store.AwaitsWithin address (opened ++ deed.sequences host) := by
  cases deed with
  | asks operation => exact (moves_asks permissive operation).awaitsWithin within
  | tends chore =>
    intro found load
    have loaded : (chore.apply host.store).loadSession address = .ok found := load
    apply List.Subperm.trans _ (List.sublist_append_left ..).subperm
    rcases Chore.loadSession_apply host.store chore address with same | fresh
    · rw [same] at loaded
      exact within found loaded
    · rw [fresh] at loaded
      cases loaded
      exact List.nil_subperm

/-- What is awaited was opened along the way, or was awaited from the start. -/
theorem awaitsWithin_through {opened : List UInt32} (permissive : host.Permissive)
    (within : host.store.AwaitsWithin address opened) (deeds : List Deed) :
    (host.through deeds).store.AwaitsWithin address (opened ++ host.sequences deeds) := by
  induction deeds generalizing host opened with
  | nil =>
    change host.store.AwaitsWithin address (opened ++ [])
    rw [List.append_nil]
    exact within
  | cons deed deeds ih =>
    have last := ih (permissive_act permissive deed) (awaitsWithin_act permissive within deed)
    rw [List.append_assoc] at last
    exact last

omit [Suite] in
theorem awaitsWithin_of_sessionless (sessionless : host.store.sessions = .empty)
    (address : Address) : host.store.AwaitsWithin address [] := by
  intro record load
  cases (Store.loadSession_of_empty sessionless address).symm.trans load
  exact List.nil_subperm

/-- Where all sequences differ, none of those before a request is opened again after it. -/
theorem unopened_after {done : Host} {before later : List Deed} {operation : Operation}
    {result : Except Fault Reply}
    (performed : (host.through before).perform operation.run = (result, done))
    (distinct : (host.sequences (before ++ .asks operation :: later)).Nodup) :
    (host.sequences before).Nodup ∧
      ∀ sequence ∈ host.sequences before, sequence ∉ done.sequences later := by
  rw [sequences_append] at distinct
  obtain ⟨known, _, apart⟩ := List.nodup_append.mp distinct
  refine ⟨known, ?_⟩
  intro sequence early late
  rw [← act_asks performed] at late
  exact apart sequence early sequence (List.mem_append_right _ late) rfl

/-- A state that awaits an answer is in front after a deed only if it was before, if the deed
has opened its key exchange, or if the deed is a decryption that has recalled it. -/
theorem fronts_act (permissive : host.Permissive) {deed : Deed}
    (fronts : (host.act deed).store.Fronts address sequence) :
    host.store.Fronts address sequence ∨ sequence ∈ deed.sequences host ∨
      (host.store.Archives address sequence ∧ ∃ limits callback envelope,
        deed = .asks (.decrypt address limits callback envelope)) := by
  cases deed with
  | asks operation =>
    rcases (moves_asks permissive operation).front fronts with before | opened |
      ⟨archived, limits, callback, envelope, rfl⟩
    · exact .inl before
    · exact .inr (.inl opened)
    · exact .inr (.inr ⟨archived, limits, callback, envelope, rfl⟩)
  | tends chore =>
    obtain ⟨found, load, awaits⟩ := fronts
    have loaded : (chore.apply host.store).loadSession address = .ok found := load
    rcases Chore.loadSession_apply host.store chore address with same | fresh
    · rw [same] at loaded
      exact .inl ⟨found, loaded, awaits⟩
    · rw [fresh] at loaded
      cases loaded
      cases awaits

/-- Nothing but a decryption recalls what was not opened again. -/
theorem decrypt_of_recalls (permissive : host.Permissive) {deed : Deed}
    (recalls : deed.Recalls host address sequence) (unopened : sequence ∉ deed.sequences host) :
    ∃ limits callback envelope, deed = .asks (.decrypt address limits callback envelope) := by
  obtain ⟨behind, _, fronts⟩ := recalls
  rcases fronts_act permissive fronts with before | opened | ⟨_, decrypts⟩
  · exact absurd before behind
  · exact absurd opened unopened
  · exact decrypts

/-- What is not in front stays so along a history that neither opens nor recalls it. -/
theorem not_fronts_through (permissive : host.Permissive) {deeds : List Deed}
    (behind : ¬ host.store.Fronts address sequence) (unopened : sequence ∉ host.sequences deeds)
    (unrecalled : ¬ host.Recalled address sequence deeds) :
    ¬ (host.through deeds).store.Fronts address sequence := by
  induction deeds generalizing host with
  | nil => exact behind
  | cons deed deeds ih =>
    have first : sequence ∉ deed.sequences host := fun member =>
      unopened (List.mem_append_left _ member)
    have rest : sequence ∉ (host.act deed).sequences deeds := fun member =>
      unopened (List.mem_append_right _ member)
    apply ih (permissive_act permissive deed) _ rest
    · rintro ⟨before, other, later, rfl, recalls⟩
      exact unrecalled ⟨deed :: before, other, later, rfl, recalls⟩
    · intro fronts
      rcases fronts_act permissive fronts with before | opened | ⟨archived, _⟩
      · exact behind before
      · exact first opened
      · exact unrecalled ⟨[], deed, deeds, rfl, behind, archived, fronts⟩

/-- What no state of a record awaits is not recalled along a history that does not open it. -/
theorem not_recalled_of_forgotten {opened : List UInt32} (permissive : host.Permissive)
    {deeds : List Deed} (within : host.store.AwaitsWithin address opened)
    (forgotten : sequence ∉ opened) (unopened : sequence ∉ host.sequences deeds) :
    ¬ host.Recalled address sequence deeds := by
  rintro ⟨before, deed, later, rfl, _, ⟨record, load, archived⟩, _⟩
  have awaited : sequence ∈ record.awaited := by
    rw [record.awaited_eq]
    exact List.mem_append_right _ archived
  have known := (awaitsWithin_through permissive within before record load).subset awaited
  rw [sequences_append] at unopened
  rcases List.mem_append.mp known with early | late
  · exact forgotten early
  · exact unopened (List.mem_append_left _ late)

end Host
end DoubleRatchet
