import DoubleRatchet.Proofs.Engine.Seeding
import DoubleRatchet.Proofs.Session.Labels

namespace DoubleRatchet

/-!
# Labels through a history

A statement about what a state has gone through needs a label at every state of every record,
which is kept as the engine makes, changes, moves and forgets states.  What the labels are is
left open here.  A labelling says which label a new state gets and how sealing and opening
change it; the ledger of a host follows from that, deed by deed, and is never looked at by the
engine.

A relation between labels and states then holds at every state after every history, if it
holds of new states and is kept by sealing and opening (`Labelling.Kept`).  Where the states
are, and what fails in between, does not matter to whoever states the relation.
-/

/-- Which label a state begins with, and how it changes.  The state that opens a message is
given as it was before. -/
structure Labelling (α : Type) where
  unset : α
  bundle : Bundle -> α
  handshake : PreKeyWhisperMessage -> α
  exchange : KeyExchangeMessage -> α
  sealed : α -> α
  opened : SessionState -> WhisperMessage -> α -> α

/-- The labels of the states in the records of all addresses, in the order of the states. -/
abbrev Ledger (α : Type) := Address -> List α

/-- Whether the leg of a key exchange makes a state: it opens the exchange, or answers the one
that is pending. -/
def SessionRecord.concludes (record : SessionRecord) (message : KeyExchangeMessage) : Bool :=
  message.isInitiate ||
    record.current.pendingExchange.any fun pending => pending.sequence = message.sequence

/-- Whether the handshake of a first message makes a state: its base key is not known yet, or
its pre-key is still there. -/
def Establishment.negotiates (store : Store) (record : SessionRecord)
    (message : PreKeyWhisperMessage) : Bool :=
  if message.version = currentVersion then !record.hasSession message.version message.baseKey
  else message.preKeyId.any fun id => store.preKeys.contains id

/-- The labels in a record after a message was opened by the state that decides about it. -/
def Labelling.after [Suite] {α : Type} (rules : Labelling α) (record : SessionRecord)
    (limits : Limits) (message : WhisperMessage) (labels : List α) : List α :=
  match record.decider? limits message with
  | none => labels
  | some place =>
    record.bringLabelForward limits.archivedStates
      (rules.opened (record.states.getD place .empty) message) place labels

namespace Ledger

variable {α : Type}

/-- Before there are any sessions. -/
def bare (rules : Labelling α) : Ledger α :=
  fun _ => [rules.unset]

/-- The records of some addresses are forgotten. -/
def forget (rules : Labelling α) (ledger : Ledger α) (gone : Address -> Bool) : Ledger α :=
  fun address => if gone address then [rules.unset] else ledger address

/-- The ledger after a host has looked after its store. -/
def tended (rules : Labelling α) (ledger : Ledger α) : Chore -> Ledger α
  | .deleteSession address => ledger.forget rules fun place => place = address
  | .deleteSessions name => ledger.forget rules fun place => place.name = name
  | _ => ledger

/-- The labels in the record of an address change. -/
def goOn (ledger : Ledger α) (store : Store) (address : Address)
    (next : SessionRecord -> List α -> List α) : Ledger α :=
  match store.loadSession address with
  | .error _ => ledger
  | .ok record => Function.update ledger address (next record (ledger address))

variable [Suite]

/-- The ledger after a request that has succeeded. -/
def asked (rules : Labelling α) (ledger : Ledger α) (host : Host) : Operation -> Ledger α
  | .processBundle address limits bundle =>
    ledger.goOn host.store address fun record =>
      record.promoteLabel limits.archivedStates (rules.bundle bundle)
  | .initiate _ => ledger
  | .processExchange address limits message =>
    ledger.goOn host.store address fun record labels =>
      if record.concludes message then
        record.promoteLabel limits.archivedStates (rules.exchange message) labels
      else labels
  | .encrypt address _ => ledger.goOn host.store address fun _ => List.modifyHead rules.sealed
  | .decrypt address limits _ (.whisper message) =>
    ledger.goOn host.store address fun record => rules.after record limits message
  | .decrypt address limits _ (.preKeyWhisper message) =>
    ledger.goOn host.store address fun record labels =>
      match (host.perform (Establishment.processHandshake address limits record message)).1 with
      | .error _ => labels
      | .ok (accepted, _) =>
        rules.after accepted limits message.message <|
          if Establishment.negotiates host.store record message then
            record.promoteLabel limits.archivedStates (rules.handshake message) labels
          else labels
  | .decrypt _ _ _ (.keyExchange _) => ledger
  | .endSession address => ledger.forget rules fun place => place.name = address.name

/-- The ledger after a deed.  A request that fails changes nothing. -/
def act (rules : Labelling α) (ledger : Ledger α) (host : Host) : Deed -> Ledger α
  | .asks operation =>
    match (host.perform operation.run).1 with
    | .error _ => ledger
    | .ok _ => ledger.asked rules host operation
  | .tends chore => ledger.tended rules chore

/-- The ledger after all deeds of a host. -/
def through (rules : Labelling α) (ledger : Ledger α) (host : Host) : List Deed -> Ledger α
  | [] => ledger
  | deed :: deeds => (ledger.act rules host deed).through rules (host.act deed) deeds

theorem through_append (rules : Labelling α) (ledger : Ledger α) (host : Host)
    (deeds more : List Deed) :
    ledger.through rules host (deeds ++ more) =
      (ledger.through rules host deeds).through rules (host.through deeds) more := by
  induction deeds generalizing ledger host with
  | nil => rfl
  | cons first deeds ih => exact ih (ledger.act rules host first) (host.act first)

theorem act_asks_of_ok {operation : Operation} {reply : Reply} {host after : Host}
    (rules : Labelling α) (ledger : Ledger α)
    (performed : host.perform operation.run = (.ok reply, after)) :
    ledger.act rules host (.asks operation) = ledger.asked rules host operation := by
  simp only [Ledger.act, performed]

theorem act_asks_of_error {operation : Operation} {fault : Fault} {host after : Host}
    (rules : Labelling α) (ledger : Ledger α)
    (performed : host.perform operation.run = (.error fault, after)) :
    ledger.act rules host (.asks operation) = ledger := by
  simp only [Ledger.act, performed]

omit [Suite] in
theorem goOn_of_ok (ledger : Ledger α) {store : Store} {address : Address} {record : SessionRecord}
    (load : store.loadSession address = .ok record) (next : SessionRecord -> List α -> List α) :
    ledger.goOn store address next =
      Function.update ledger address (next record (ledger address)) := by
  unfold Ledger.goOn
  rw [load]

end Ledger

namespace Labelling

variable {α : Type} [Suite]

/-- The labels of all states after a history that began without sessions. -/
def ledger (rules : Labelling α) (host : Host) (deeds : List Deed) : Ledger α :=
  (Ledger.bare rules).through rules host deeds

theorem ledger_append (rules : Labelling α) (host : Host) (deeds more : List Deed) :
    rules.ledger host (deeds ++ more) =
      (rules.ledger host deeds).through rules (host.through deeds) more :=
  Ledger.through_append ..

/-- One more request at the end of a history, which succeeds. -/
theorem ledger_asks_of_ok {operation : Operation} {reply : Reply} {host after : Host}
    {deeds : List Deed} (rules : Labelling α)
    (performed : (host.through deeds).perform operation.run = (.ok reply, after)) :
    rules.ledger host (deeds ++ [.asks operation]) =
      (rules.ledger host deeds).asked rules (host.through deeds) operation := by
  rw [ledger_append]
  exact Ledger.act_asks_of_ok rules _ performed

end Labelling

/-! ## What a relation has to keep -/

/-- Two stores are those of one owner. -/
structure Store.SameOwner (store other : Store) : Prop where
  identity_eq : other.identity = store.identity
  registrationId_eq : other.registrationId = store.registrationId

/-- The relation holds of new states under their first labels, and is kept by all that changes a
label or a state. -/
structure Labelling.Kept [Suite] {α : Type} (rules : Labelling α)
    (holds : Store -> α -> SessionState -> Prop) : Prop where
  unset : ∀ store, holds store rules.unset .empty
  owned : ∀ {store other label state}, holds store label state → store.SameOwner other →
    holds other label state
  awaiting : ∀ {store label state} pending, holds store label state →
    holds store label { state with pendingExchange := some pending }
  sealed : ∀ {store label state sender text envelope next}, holds store label state →
    state.sender = some sender → state.sealText sender text = .ok (envelope, next) →
      holds store (rules.sealed label) next
  opened : ∀ {store label state limits ours message text taken}, holds store label state →
    state.Takes limits ours message text taken →
      holds store (rules.opened state message label) taken
  bundle : ∀ store bundle offer baseKey ratchetKey, holds store (rules.bundle bundle)
    (Establishment.bundleState store bundle offer baseKey ratchetKey)
  handshake : ∀ store message signedPreKey oneTimePreKey, holds store (rules.handshake message)
    (Establishment.responderState store message signedPreKey oneTimePreKey)
  exchange : ∀ store message baseKey ratchetKey fresh, holds store (rules.exchange message)
    (Establishment.exchangeState store message baseKey ratchetKey fresh)

variable [Suite]

/-- A request that succeeds leaves the store to its owner. -/
theorem Operation.Done.sameOwner {host after : Host} {operation : Operation} {reply : Reply}
    (done : operation.Done host after reply) : host.store.SameOwner after.store := by
  cases done with
  | processBundle trusted offered load becomes =>
    rw [becomes.store_eq]
    exact ⟨rfl, rfl⟩
  | initiate load becomes =>
    rw [becomes.store_eq]
    exact ⟨rfl, rfl⟩
  | processExchange trusted exchanged becomes =>
    rw [becomes.store_eq]
    cases exchanged with
    | answered => exact ⟨rfl, rfl⟩
    | completed => exact ⟨rfl, rfl⟩
    | passed => exact ⟨rfl, rfl⟩
  | encrypt load sending sealing becomes =>
    rw [becomes.store_eq]
    exact ⟨rfl, rfl⟩
  | whisper load before opened known trusted becomes =>
    rw [becomes.store_eq]
    exact ⟨rfl, rfl⟩
  | @preKeyWhisper _ _ _ _ _ _ _ _ used _ _ _ _ load sender accepts before opened known trusted
      becomes =>
    rw [becomes.store_eq]
    cases used with
    | none => exact ⟨rfl, rfl⟩
    | some id => exact ⟨rfl, rfl⟩
  | endSession becomes =>
    rw [becomes.store_eq]
    exact ⟨rfl, rfl⟩

namespace Labelling.Kept

variable {α : Type} {rules : Labelling α} {holds : Store -> α -> SessionState -> Prop}
  {store : Store} {record accepted result : SessionRecord} {limits : Limits} {labels : List α}

/-- A record that has opened a message is labelled by the labels after it. -/
theorem forall₂_opened (kept : rules.Kept holds) {address : Address} {message : WhisperMessage}
    {text : Bytes} {trace later : Trace}
    (all : List.Forall₂ (holds store) labels record.states)
    (gives : record.openMessage limits address message trace = (.ok (text, result), later)) :
    List.Forall₂ (holds store) (rules.after record limits message labels) result.states := by
  obtain ⟨place, state, ours, taken, decides, found, takes, rfl⟩ :=
    SessionRecord.decider_of_openMessage gives
  have here : record.states.getD place .empty = state := by
    rw [List.getD_eq_getElem?_getD, found]
    rfl
  unfold after
  rw [decides]
  dsimp only
  rw [here]
  exact SessionRecord.forall₂_bringForward all found
    (fun _ before => kept.opened before takes) _

/-- A record that a handshake was taken for is labelled with the label of its state in front, if
it has made one. -/
theorem forall₂_accepted (kept : rules.Kept holds) {address : Address}
    {message : PreKeyWhisperMessage} {used : Option UInt32}
    (all : List.Forall₂ (holds store) labels record.states)
    (accepts : Establishment.Accepted store address limits record message accepted used) :
    List.Forall₂ (holds store)
      (if Establishment.negotiates store record message then
        record.promoteLabel limits.archivedStates (rules.handshake message) labels
      else labels) accepted.states := by
  have apart : message.version = oldestVersion → message.version ≠ currentVersion := by
    intro version_eq
    rw [version_eq]
    decide
  unfold Establishment.negotiates
  cases accepts with
  | negotiated version_eq known =>
    rw [if_pos version_eq, known]
    exact all
  | signed version_eq unknown =>
    rw [if_pos version_eq, unknown]
    exact SessionRecord.forall₂_promote all (kept.handshake store message _ _) _
  | gone version_eq named absent =>
    rw [if_neg (apart version_eq), named, Option.any_some, absent]
    exact all
  | unsigned version_eq named loaded =>
    rw [if_neg (apart version_eq), named, Option.any_some, Store.contains_of_loadPreKey loaded]
    exact SessionRecord.forall₂_promote all (kept.handshake store message _ _) _

end Labelling.Kept

/-! ## The relation through a history -/

namespace Ledger

variable {α : Type} {rules : Labelling α} {holds : Store -> α -> SessionState -> Prop}
  {ledger : Ledger α} {store other : Store} {host after : Host} {address : Address}
  {record result : SessionRecord} {limits : Limits}

omit [Suite] in
/-- The relation holds of every state in every record and the label that the ledger has for it. -/
def Labels (holds : Store -> α -> SessionState -> Prop) (ledger : Ledger α) (store : Store) :
    Prop :=
  ∀ (address : Address) (record : SessionRecord), store.loadSession address = .ok record →
    List.Forall₂ (holds store) (ledger address) record.states

theorem forall₂_new (kept : rules.Kept holds) (store : Store) :
    List.Forall₂ (holds store) [rules.unset] SessionRecord.new.states :=
  .cons (kept.unset store) .nil

theorem labels_bare (kept : rules.Kept holds) (empty : store.sessions = .empty) :
    (bare rules).Labels holds store := by
  intro address record load
  cases (Store.loadSession_of_empty empty address).symm.trans load
  exact forall₂_new kept store

theorem Labels.of_sessions_eq (labels : ledger.Labels holds store) (kept : rules.Kept holds)
    (same : store.SameOwner other) (sessions_eq : other.sessions = store.sessions) :
    ledger.Labels holds other := by
  intro address record load
  rw [Store.loadSession_of_sessions_eq sessions_eq] at load
  exact (labels address record load).imp fun _ _ held => kept.owned held same

/-- A record may be stored together with labels of its states. -/
theorem Labels.goOn (labels : ledger.Labels holds store) (kept : rules.Kept holds)
    (same : store.SameOwner other) (load : store.loadSession address = .ok record)
    (stored : other.sessions = (store.storeSession address result).sessions)
    {next : SessionRecord -> List α -> List α}
    (all : List.Forall₂ (holds store) (next record (ledger address)) result.states) :
    (ledger.goOn store address next).Labels holds other := by
  intro place found load'
  rw [goOn_of_ok ledger load]
  rcases Store.loadSession_of_stored stored load' with ⟨rfl, rfl⟩ | ⟨apart, before⟩
  · rw [Function.update_self]
    exact all.imp fun _ _ held => kept.owned held same
  · rw [Function.update_of_ne apart]
    exact (labels place found before).imp fun _ _ held => kept.owned held same

/-- A record may be stored whose states have the labels that they had. -/
theorem Labels.stay (labels : ledger.Labels holds store) (kept : rules.Kept holds)
    (same : store.SameOwner other) (load : store.loadSession address = .ok record)
    (stored : other.sessions = (store.storeSession address result).sessions)
    (all : List.Forall₂ (holds store) (ledger address) result.states) :
    ledger.Labels holds other := by
  have whole : ledger.goOn store address (fun _ labels => labels) = ledger := by
    rw [goOn_of_ok ledger load, Function.update_eq_self]
  rw [← whole]
  exact labels.goOn kept same load stored all

/-- Records that are forgotten begin anew. -/
theorem Labels.forget (labels : ledger.Labels holds store) (kept : rules.Kept holds)
    (same : store.SameOwner other) {gone : Address -> Bool}
    (loads : ∀ address, other.loadSession address =
      if gone address then .ok .new else store.loadSession address) :
    (ledger.forget rules gone).Labels holds other := by
  intro address record load
  rw [loads] at load
  unfold Ledger.forget
  split at load
  next absent =>
    cases load
    rw [if_pos absent]
    exact forall₂_new kept other
  next present =>
    rw [if_neg present]
    exact (labels address record load).imp fun _ _ held => kept.owned held same

theorem labels_exchanged {message : KeyExchangeMessage} {answer : Option KeyExchangeMessage}
    {draws : Nat} (labels : ledger.Labels holds host.store) (kept : rules.Kept holds)
    (same : host.store.SameOwner store)
    (exchanged : Establishment.Exchanged host address limits message answer store draws) :
    Labels holds (ledger.goOn host.store address fun record labels =>
      if record.concludes message then
        record.promoteLabel limits.archivedStates (rules.exchange message) labels
      else labels) store := by
  cases exchanged with
  | @answered record _ _ _ opening load brought signed =>
    have concludes : record.concludes message = true := by
      unfold SessionRecord.concludes
      rw [opening]
      rfl
    apply labels.goOn kept same load rfl
    rw [if_pos concludes]
    exact SessionRecord.forall₂_promote (labels _ _ load) (kept.exchange ..) _
  | @completed record pending answering load waiting matching signed response =>
    have concludes : record.concludes message = true := by
      unfold SessionRecord.concludes
      rw [answering, waiting, Option.any_some, matching, decide_eq_true rfl]
      rfl
    apply labels.goOn kept same load rfl
    rw [if_pos concludes]
    exact SessionRecord.forall₂_promote (labels _ _ load) (kept.exchange ..) _
  | @passed record answering load unmatched crossed =>
    have stays : ¬ record.concludes message = true := by
      unfold SessionRecord.concludes
      rw [answering, Bool.false_or, Option.any_eq_true]
      rintro ⟨pending, waiting, matching⟩
      exact unmatched pending waiting (of_decide_eq_true matching)
    rw [goOn_of_ok ledger load, if_neg stays, Function.update_eq_self]
    exact labels

/-- The labels are right again after a request that has succeeded. -/
theorem Labels.asked {operation : Operation} {reply : Reply}
    (labels : ledger.Labels holds host.store) (kept : rules.Kept holds)
    (permissive : host.Permissive)
    (performed : host.perform operation.run = (.ok reply, after)) :
    (ledger.asked rules host operation).Labels holds after.store := by
  have done := Operation.done_of_performed permissive performed
  have same := done.sameOwner
  cases done with
  | processBundle trusted offered load becomes =>
    have stored := congrArg Store.sessions becomes.store_eq
    exact labels.goOn kept same load stored
      (SessionRecord.forall₂_promote (labels _ _ load) (kept.bundle ..) _)
  | initiate load becomes =>
    exact labels.stay kept same load (congrArg Store.sessions becomes.store_eq)
      (SessionRecord.forall₂_replace (labels _ _ load) fun _ before => kept.awaiting _ before)
  | processExchange trusted exchanged becomes =>
    rw [becomes.store_eq] at same ⊢
    exact labels_exchanged labels kept same exchanged
  | encrypt load sending sealing becomes =>
    exact labels.goOn kept same load (congrArg Store.sessions becomes.store_eq)
      (SessionRecord.forall₂_change (labels _ _ load)
        fun _ before => kept.sealed before sending sealing)
  | whisper =>
    obtain ⟨_, _, gives, returned⟩ := Host.perform_bind_eq_ok.mp performed
    cases returned
    obtain ⟨record, result, last, _, load, _, opening, _, _, _, store_eq, _, _⟩ :=
      Transport.decryptWhisper_tries permissive gives
    exact labels.goOn kept same load (congrArg Store.sessions store_eq)
      (kept.forall₂_opened (labels _ _ load) opening)
  | @preKeyWhisper address limits callback message =>
    obtain ⟨_, _, gives, returned⟩ := Host.perform_bind_eq_ok.mp performed
    cases returned
    obtain ⟨record, accepted, used, result, handed, last, _, load, trusted, accepts, _, opening, _,
      _, _, store_eq, _, _⟩ := Transport.decryptPreKeyWhisper_tries permissive gives
    obtain ⟨events, processed⟩ :=
      Establishment.perform_processHandshake permissive trusted accepts
    have stored : after.store.sessions = (host.store.storeSession address result).sessions := by
      rw [store_eq]
      unfold Store.storeSession
      rw [Store.sessions_settle host.store address.name message.identity used]
    unfold Ledger.asked
    apply labels.goOn kept same load stored
    rw [processed]
    exact kept.forall₂_opened (kept.forall₂_accepted (labels _ _ load) accepts) opening
  | endSession becomes =>
    apply labels.forget kept same
    intro place
    rw [becomes.store_eq, Store.loadSession_deleteSessions]
    simp

theorem Labels.tended (labels : ledger.Labels holds store) (kept : rules.Kept holds)
    (chore : Chore) : (ledger.tended rules chore).Labels holds (chore.apply store) := by
  cases chore with
  | saveIdentity => exact labels.of_sessions_eq kept ⟨rfl, rfl⟩ rfl
  | storePreKey => exact labels.of_sessions_eq kept ⟨rfl, rfl⟩ rfl
  | removePreKey => exact labels.of_sessions_eq kept ⟨rfl, rfl⟩ rfl
  | storeSignedPreKey => exact labels.of_sessions_eq kept ⟨rfl, rfl⟩ rfl
  | removeSignedPreKey => exact labels.of_sessions_eq kept ⟨rfl, rfl⟩ rfl
  | deleteSession address =>
    have owned : store.SameOwner (store.deleteSession address) := ⟨rfl, rfl⟩
    refine labels.forget kept owned fun place => ?_
    by_cases same : place = address
    · subst same
      rw [if_pos (decide_eq_true rfl)]
      exact Store.loadSession_deleteSession_self store place
    · rw [if_neg (by simpa using same)]
      exact Store.loadSession_deleteSession_of_ne same
  | deleteSessions name =>
    have owned : store.SameOwner (store.deleteSessions name) := ⟨rfl, rfl⟩
    refine labels.forget kept owned fun place => ?_
    simpa using Store.loadSession_deleteSessions store name place

/-- The labels are right again after every deed. -/
theorem Labels.act (labels : ledger.Labels holds host.store) (kept : rules.Kept holds)
    (permissive : host.Permissive) (deed : Deed) :
    (ledger.act rules host deed).Labels holds (host.act deed).store := by
  cases deed with
  | asks operation =>
    rcases performed : host.perform operation.run with ⟨fault | reply, after⟩
    · have untouched := Operation.untouched_of_failed permissive performed
      rw [act_asks_of_error rules ledger performed, Host.act_asks performed, untouched.store_eq]
      exact labels
    · rw [act_asks_of_ok rules ledger performed, Host.act_asks performed]
      exact labels.asked kept permissive performed
  | tends chore => exact labels.tended kept chore

/-- Whatever a host goes through, the labels are right. -/
theorem Labels.through (labels : ledger.Labels holds host.store) (kept : rules.Kept holds)
    (permissive : host.Permissive) (deeds : List Deed) :
    (ledger.through rules host deeds).Labels holds (host.through deeds).store := by
  induction deeds generalizing ledger host with
  | nil => exact labels
  | cons deed deeds ih =>
    exact ih (labels.act kept permissive deed) (Host.permissive_act permissive deed)

end Ledger

/-- After a history that began without sessions, the relation holds of every state and the label
that the ledger has for it. -/
theorem Labelling.Kept.labels_ledger {α : Type} {rules : Labelling α}
    {holds : Store -> α -> SessionState -> Prop} (kept : rules.Kept holds) {host : Host}
    (permissive : host.Permissive) (bare : host.store.sessions = .empty) (deeds : List Deed) :
    (rules.ledger host deeds).Labels holds (host.through deeds).store :=
  (Ledger.labels_bare kept bare).through kept permissive deeds

end DoubleRatchet
