import DoubleRatchet.Proofs.Engine.FailClosed

namespace DoubleRatchet

/-!
# What an operation looks at

All peers of a party share one store, and an operation gets the whole of it.  It uses little.
The owner and the signed pre-keys never change while operations run, and of the rest an
operation looks up only a few cells: a pin, a session, a pre-key.  An operation is local to
some cells if stores that agree in those cells are the same to it.  It gives the same on them,
and leaves stores that still agree.

Agreement speaks of look-ups alone and says nothing of the other cells, so a write to any cell
keeps it, whether the cell is one of those or not.  That is why the writes of an operation need
no bookkeeping here: only its look-ups do.
-/

namespace Store

/-- A cell of a store, which operations may fill, change and empty. -/
inductive Cell where
  /-- The identity that is pinned to a name. -/
  | pin (name : String)
  /-- The session document of an address. -/
  | session (address : Address)
  /-- The pre-key with an id. -/
  | preKey (id : UInt32)

/-- Two stores hold the same in a cell. -/
def AgreesAt (first second : Store) : Cell -> Prop
  | .pin name => first.pins.get? name = second.pins.get? name
  | .session address => first.sessions.get? address = second.sessions.get? address
  | .preKey id => first.preKeys.get? id = second.preKeys.get? id

/-- Two stores of one owner, with the same signed pre-keys, hold the same in some cells. -/
structure Agrees (cells : Cell -> Prop) (first second : Store) : Prop where
  identity_eq : first.identity = second.identity
  registrationId_eq : first.registrationId = second.registrationId
  signedPreKeys_eq : first.signedPreKeys = second.signedPreKeys
  holds : ∀ cell, cells cell → first.AgreesAt second cell

variable {cells : Cell -> Prop} {first second third : Store}

theorem Agrees.symm (agrees : first.Agrees cells second) : second.Agrees cells first where
  identity_eq := agrees.identity_eq.symm
  registrationId_eq := agrees.registrationId_eq.symm
  signedPreKeys_eq := agrees.signedPreKeys_eq.symm
  holds cell member := by
    have same := agrees.holds cell member
    cases cell with
    | pin name => exact Eq.symm same
    | session address => exact Eq.symm same
    | preKey id => exact Eq.symm same

theorem Agrees.trans (early : first.Agrees cells second) (late : second.Agrees cells third) :
    first.Agrees cells third where
  identity_eq := early.identity_eq.trans late.identity_eq
  registrationId_eq := early.registrationId_eq.trans late.registrationId_eq
  signedPreKeys_eq := early.signedPreKeys_eq.trans late.signedPreKeys_eq
  holds cell member := by
    have left := early.holds cell member
    have right := late.holds cell member
    cases cell with
    | pin name => exact Eq.trans left right
    | session address => exact Eq.trans left right
    | preKey id => exact Eq.trans left right

theorem Agrees.mono {fewer : Cell -> Prop} (agrees : first.Agrees cells second)
    (within : ∀ cell, fewer cell → cells cell) : first.Agrees fewer second :=
  { agrees with holds := fun cell member => agrees.holds cell (within cell member) }

/-- Stores that agree in some cells and in some others agree in all of them. -/
theorem Agrees.union {others : Cell -> Prop} (here : first.Agrees cells second)
    (there : first.Agrees others second) :
    first.Agrees (fun cell => cells cell ∨ others cell) second :=
  { here with holds := fun cell member => member.elim (here.holds cell) (there.holds cell) }

/-- Stores that agree in all cells are equal. -/
theorem Agrees.eq (agrees : first.Agrees (fun _ => True) second) : first = second := by
  have everywhere : ∀ cell, first.AgreesAt second cell := fun cell => agrees.holds cell trivial
  have pins : first.pins = second.pins := Table.ext_get? fun name => everywhere (.pin name)
  have sessions : first.sessions = second.sessions :=
    Table.ext_get? fun address => everywhere (.session address)
  have preKeys : first.preKeys = second.preKeys := Table.ext_get? fun id => everywhere (.preKey id)
  have identity := agrees.identity_eq
  have registrationId := agrees.registrationId_eq
  have signedPreKeys := agrees.signedPreKeys_eq
  cases first
  cases second
  cases identity
  cases registrationId
  cases signedPreKeys
  cases pins
  cases sessions
  cases preKeys
  rfl

/-! ## Look-ups -/

theorem Agrees.trusts_eq {name : String} (agrees : first.Agrees cells second)
    (pinned : cells (.pin name)) (identity : IdentityKey) :
    first.trusts name identity = second.trusts name identity := by
  have same : first.pins.get? name = second.pins.get? name := agrees.holds _ pinned
  unfold trusts
  rw [same]

theorem Agrees.replacedByPin_eq {name : String} (agrees : first.Agrees cells second)
    (pinned : cells (.pin name)) (identity : IdentityKey) :
    first.replacedByPin name identity = second.replacedByPin name identity := by
  have same : first.pins.get? name = second.pins.get? name := agrees.holds _ pinned
  unfold replacedByPin
  rw [same]

theorem Agrees.loadSession_eq {address : Address} (agrees : first.Agrees cells second)
    (filed : cells (.session address)) :
    first.loadSession address = second.loadSession address := by
  have same : first.sessions.get? address = second.sessions.get? address := agrees.holds _ filed
  unfold loadSession
  rw [same]

theorem Agrees.containsSession_eq {address : Address} (agrees : first.Agrees cells second)
    (filed : cells (.session address)) :
    first.containsSession address = second.containsSession address := by
  have same : first.sessions.get? address = second.sessions.get? address := agrees.holds _ filed
  unfold containsSession
  rw [same]

theorem Agrees.loadPreKey_eq {id : UInt32} (agrees : first.Agrees cells second)
    (named : cells (.preKey id)) : first.loadPreKey id = second.loadPreKey id := by
  have same : first.preKeys.get? id = second.preKeys.get? id := agrees.holds _ named
  unfold loadPreKey
  rw [same]

theorem Agrees.contains_preKey_eq {id : UInt32} (agrees : first.Agrees cells second)
    (named : cells (.preKey id)) : first.preKeys.contains id = second.preKeys.contains id := by
  have same : first.preKeys.get? id = second.preKeys.get? id := agrees.holds _ named
  unfold Table.contains
  rw [same]

theorem Agrees.loadSignedPreKey_eq (agrees : first.Agrees cells second) (id : UInt32) :
    first.loadSignedPreKey id = second.loadSignedPreKey id := by
  unfold loadSignedPreKey
  rw [agrees.signedPreKeys_eq]

/-! ## Writes -/

section Table

variable {κ α : Type} [Ord κ] [Std.TransOrd κ] [Std.LawfulEqOrd κ] {left right : Table κ α}
  {other : κ}

omit [Std.TransOrd κ] in
theorem get?_filterKeys_congr (same : left.get? other = right.get? other) (keep : κ -> Bool) :
    (left.filterKeys keep).get? other = (right.filterKeys keep).get? other := by
  rw [Table.get?_filterKeys, Table.get?_filterKeys, same]

theorem get?_insert_congr (same : left.get? other = right.get? other) (key : κ) (value : α) :
    (left.insert key value).get? other = (right.insert key value).get? other := by
  by_cases here : other = key
  · rw [here, Table.get?_insert_self, Table.get?_insert_self]
  · rw [Table.get?_insert_of_ne _ here, Table.get?_insert_of_ne _ here, same]

end Table

/-- The change keeps whatever agreement there is. -/
def Steady (changed : Store -> Store) : Prop :=
  ∀ (cells : Cell -> Prop) (first second : Store), first.Agrees cells second →
    (changed first).Agrees cells (changed second)

theorem steady_pin (name : String) (identity : IdentityKey) :
    Steady fun store => store.pin name identity := by
  intro cells first second agrees
  refine { agrees with holds := fun cell member => ?_ }
  have same := agrees.holds cell member
  cases cell with
  | pin other => exact get?_insert_congr same name identity
  | session address => exact same
  | preKey id => exact same

theorem steady_storeSession (address : Address) (record : SessionRecord) :
    Steady fun store => store.storeSession address record := by
  intro cells first second agrees
  refine { agrees with holds := fun cell member => ?_ }
  have same := agrees.holds cell member
  cases cell with
  | pin name => exact same
  | session other => exact get?_insert_congr same address _
  | preKey id => exact same

theorem steady_deleteSessions (name : String) : Steady fun store => store.deleteSessions name := by
  intro cells first second agrees
  refine { agrees with holds := fun cell member => ?_ }
  have same := agrees.holds cell member
  cases cell with
  | pin other => exact same
  | session address => exact get?_filterKeys_congr same _
  | preKey id => exact same

theorem steady_removePreKey (id : UInt32) : Steady fun store => store.removePreKey id := by
  intro cells first second agrees
  refine { agrees with holds := fun cell member => ?_ }
  have same := agrees.holds cell member
  cases cell with
  | pin name => exact same
  | session address => exact same
  | preKey other => exact get?_filterKeys_congr same _

end Store

namespace Host

open Store

variable {α β : Type} {cells : Cell -> Prop}

/-- Two hosts hold the same in some cells, refuse the same and go on from the same trace. -/
structure Agrees (cells : Cell -> Prop) (first second : Host) : Prop where
  store : first.store.Agrees cells second.store
  refusal_eq : first.refusal = second.refusal
  trace_eq : first.trace = second.trace

/-- The operation looks up no other cells: on hosts that agree in them it gives the same, and
leaves hosts that agree. -/
def Local (cells : Cell -> Prop) (operation : Engine α) : Prop :=
  ∀ first second : Host, first.Agrees cells second →
    (first.perform operation).1 = (second.perform operation).1 ∧
      (first.perform operation).2.Agrees cells (second.perform operation).2

theorem Local.bind {operation : Engine α} {next : α -> Engine β}
    (early : Local cells operation) (late : ∀ value, Local cells (next value)) :
    Local cells (operation >>= next) := by
  intro first second agrees
  obtain ⟨gives, behind⟩ := early first second agrees
  rcases left : first.perform operation with ⟨result, middle⟩
  rcases right : second.perform operation with ⟨other, behindOther⟩
  rw [left, right] at gives behind
  cases gives
  cases result with
  | error fault =>
    rw [perform_bind_of_error left, perform_bind_of_error right]
    exact ⟨rfl, behind⟩
  | ok value =>
    rw [perform_bind_of_ok left, perform_bind_of_ok right]
    exact late value middle behindOther behind

theorem local_except (result : Except Fault α) : Local cells (monadLift result : Engine α) :=
  fun _ _ agrees => ⟨rfl, agrees⟩

theorem local_pure (value : α) : Local cells (pure value : Engine α) :=
  fun _ _ agrees => ⟨rfl, agrees⟩

theorem local_throw (fault : Fault) : Local cells (throw fault : Engine α) :=
  fun _ _ agrees => ⟨rfl, agrees⟩

theorem local_drawing (operation : Drawing α) : Local cells (monadLift operation : Engine α) := by
  intro first second agrees
  rw [perform_drawing, perform_drawing, agrees.trace_eq]
  exact ⟨rfl, { agrees with trace_eq := rfl }⟩

theorem local_traced (operation : Traced α) : Local cells (monadLift operation : Engine α) := by
  intro first second agrees
  rw [perform_traced, perform_traced, agrees.trace_eq]
  exact ⟨rfl, { agrees with trace_eq := rfl }⟩

theorem local_report (event : Event) :
    Local cells (monadLift (Trace.report event) : Engine Unit) :=
  local_drawing _

theorem local_offer (plaintext : Bytes) (callback : Bytes -> Except Fault Unit) :
    Local cells (offer plaintext callback) := by
  intro first second agrees
  rw [perform_offer, perform_offer]
  exact ⟨rfl, { agrees with }⟩

theorem Local.discard {operation : Engine α} (once : Local cells operation) :
    Local cells (discard operation) :=
  once.bind fun _ => local_pure ()

theorem local_permit (call : StoreCall) : Local cells (permit call) := by
  intro first second agrees
  simp only [perform, permit, ExceptT.run]
  rw [agrees.refusal_eq]
  split
  · exact ⟨rfl, agrees⟩
  · exact ⟨rfl, agrees⟩

/-- A call that reads the store is local to the cells that settle its answer. -/
theorem local_ask (call : StoreCall) {answer : Store -> Except Fault α}
    (settled : ∀ {first second : Store}, first.Agrees cells second →
      answer first = answer second) : Local cells (ask call answer) := by
  apply (local_permit call).bind
  intro _ first second agrees
  exact ⟨settled agrees.store, agrees⟩

/-- A call that writes to the store looks at nothing. -/
theorem local_change (call : StoreCall) {changed : Store -> Store} (steady : Steady changed) :
    Local cells (change call changed) := by
  apply (local_permit call).bind
  intro _ first second agrees
  exact ⟨rfl, { agrees with store := steady cells _ _ agrees.store }⟩

/-! ## The calls of the store -/

theorem local_identityKeyPair : Local cells identityKeyPair :=
  local_ask _ fun agrees => congrArg _ agrees.identity_eq

theorem local_localRegistrationId : Local cells localRegistrationId :=
  local_ask _ fun agrees => congrArg _ agrees.registrationId_eq

theorem local_isTrustedIdentity {name : String} (pinned : cells (.pin name))
    (identity : IdentityKey) : Local cells (isTrustedIdentity name identity) :=
  local_ask _ fun agrees => congrArg _ (agrees.trusts_eq pinned identity)

theorem local_loadPreKey {id : UInt32} (named : cells (.preKey id)) :
    Local cells (loadPreKey id) :=
  local_ask _ fun agrees => agrees.loadPreKey_eq named

theorem local_containsPreKey {id : UInt32} (named : cells (.preKey id)) :
    Local cells (containsPreKey id) :=
  local_ask _ fun agrees => congrArg _ (agrees.contains_preKey_eq named)

theorem local_loadSignedPreKey (id : UInt32) : Local cells (loadSignedPreKey id) :=
  local_ask _ fun agrees => agrees.loadSignedPreKey_eq id

theorem local_loadSession {address : Address} (filed : cells (.session address)) :
    Local cells (loadSession address) :=
  local_ask _ fun agrees => agrees.loadSession_eq filed

theorem local_containsSession {address : Address} (filed : cells (.session address)) :
    Local cells (containsSession address) :=
  local_ask _ fun agrees => agrees.containsSession_eq filed

theorem local_storeSession (address : Address) (record : SessionRecord) :
    Local cells (storeSession address record) :=
  local_change _ (steady_storeSession address record)

/-- Pinning looks at the pin that it replaces. -/
theorem local_saveIdentity {name : String} (pinned : cells (.pin name)) (identity : IdentityKey) :
    Local cells (saveIdentity name identity) := by
  apply (local_permit _).bind
  intro _ first second agrees
  have replaced := agrees.store.replacedByPin_eq pinned identity
  have behind : ({ first with store := first.store.pin name identity } : Host).Agrees cells
      { second with store := second.store.pin name identity } :=
    { agrees with store := steady_pin name identity cells _ _ agrees.store }
  rw [perform_bind_of_ok (perform_present first), perform_bind_of_ok (perform_present second)]
  dsimp only
  rw [perform_bind_of_ok (perform_update first _), perform_bind_of_ok (perform_update second _),
    replaced]
  cases second.store.replacedByPin name identity with
  | none => exact ⟨rfl, behind⟩
  | some old => exact ((local_report _).bind fun _ => local_pure true) _ _ behind

end Host

/-! ## The parts of the engine -/

open Host

section Parts

variable {cells : Store.Cell -> Prop} {address : Address} (pinned : cells (.pin address.name))

include pinned

theorem Establishment.local_checkTrusted (identity : IdentityKey) :
    Local cells (Establishment.checkTrusted address identity) := by
  unfold Establishment.checkTrusted
  apply (local_isTrustedIdentity pinned identity).bind
  intro trusted
  cases trusted with
  | true => exact local_pure ()
  | false => exact (local_report _).bind fun _ => local_throw _

theorem Transport.local_checkSessionTrusted (record : SessionRecord) :
    Local cells (Transport.checkSessionTrusted address record) := by
  unfold Transport.checkSessionTrusted
  apply (local_except _).bind
  intro remote
  apply (local_isTrustedIdentity pinned remote).bind
  intro trusted
  cases trusted with
  | true => exact local_pure ()
  | false => exact (local_report _).bind fun _ => local_throw _

end Parts

namespace Establishment

variable [Suite] {cells : Store.Cell -> Prop} {address : Address}

omit [Suite] in
theorem local_acceptHandshake (limits : Limits) (record : SessionRecord)
    (negotiated : SessionState) (message : PreKeyWhisperMessage) :
    Local cells (acceptHandshake address limits record negotiated message) := by
  unfold acceptHandshake
  apply local_localRegistrationId.bind
  intro registrationId
  apply (local_drawing _).bind
  intro promoted
  exact (local_report _).bind fun _ => local_pure _

theorem local_answerKeys (record : SessionRecord) : Local cells (answerKeys address record) := by
  unfold answerKeys
  cases record.current.pendingExchange with
  | some pending => exact (local_report _).bind fun _ => local_pure _
  | none =>
    apply (local_drawing _).bind
    intro baseKey
    exact (local_drawing _).bind fun _ => local_pure _

theorem local_respond {limits : Limits} {record : SessionRecord} {message : PreKeyWhisperMessage}
    {signedPreKey : KeyPair} {oneTimePreKey : Option KeyPair} {used : Option UInt32} :
    Local cells (respond address limits record message signedPreKey oneTimePreKey used) := by
  apply local_identityKeyPair.bind
  intro identity
  exact (local_acceptHandshake _ _ _ _).bind fun _ => local_pure _

theorem local_processSignedHandshake (limits : Limits) (record : SessionRecord)
    {message : PreKeyWhisperMessage}
    (named : ∀ id, message.preKeyId = some id → cells (.preKey id)) :
    Local cells (processSignedHandshake address limits record message) := by
  unfold processSignedHandshake
  split
  · exact (local_report _).bind fun _ => local_pure _
  · cases message.signedPreKeyId with
    | none => exact local_throw _
    | some signedPreKeyId =>
      apply (local_loadSignedPreKey signedPreKeyId).bind
      intro signedPreKey
      refine Local.bind ?_ fun oneTimePreKey => local_respond
      cases names : message.preKeyId with
      | none => exact local_pure none
      | some id => exact (local_loadPreKey (named id names)).bind fun _ => local_pure _

/-- The older handshake is the one that also asks whether there is a session. -/
theorem local_processUnsignedHandshake (filed : cells (.session address)) (limits : Limits)
    (record : SessionRecord) {message : PreKeyWhisperMessage}
    (named : ∀ id, message.preKeyId = some id → cells (.preKey id)) :
    Local cells (processUnsignedHandshake address limits record message) := by
  unfold processUnsignedHandshake
  cases names : message.preKeyId with
  | none => exact local_throw _
  | some preKeyId =>
    have responds : Local cells (respondByPreKey address limits record message preKeyId) :=
      (local_loadPreKey (named preKeyId names)).bind fun _ => local_respond
    apply (local_containsPreKey (named preKeyId names)).bind
    intro stored
    cases stored with
    | true => exact responds
    | false =>
      apply (local_containsSession filed).bind
      intro known
      cases known with
      | true => exact (local_report _).bind fun _ => local_pure _
      | false => exact responds

variable (pinned : cells (.pin address.name))

include pinned

omit [Suite] in
theorem local_concludeExchange (limits : Limits) (record : SessionRecord)
    (negotiated : SessionState) (identity : IdentityKey) :
    Local cells (concludeExchange address limits record negotiated identity) := by
  unfold concludeExchange
  apply local_localRegistrationId.bind
  intro registrationId
  apply (local_drawing _).bind
  intro promoted
  exact (local_saveIdentity pinned _).discard.bind fun _ => local_storeSession _ _

variable (filed : cells (.session address))

include filed

theorem local_processHandshake (limits : Limits) (record : SessionRecord)
    {message : PreKeyWhisperMessage}
    (named : ∀ id, message.preKeyId = some id → cells (.preKey id)) :
    Local cells (processHandshake address limits record message) := by
  unfold processHandshake
  apply (local_checkTrusted pinned message.identity).bind
  intro _
  split
  · exact (local_processSignedHandshake _ _ named).bind fun _ => local_pure _
  · split
    · exact (local_processUnsignedHandshake filed _ _ named).bind fun _ => local_pure _
    · exact (local_throw _).bind fun _ => local_pure _

theorem local_processBundle (limits : Limits) (bundle : Bundle) :
    Local cells (processBundle address limits bundle) := by
  unfold processBundle
  apply (local_checkTrusted pinned bundle.identity).bind
  intro _
  apply (local_except _).bind
  intro offer
  apply local_identityKeyPair.bind
  intro identity
  apply (local_drawing _).bind
  intro baseKey
  apply (local_loadSession filed).bind
  intro record
  apply (local_drawing _).bind
  intro ratchetKey
  apply local_localRegistrationId.bind
  intro registrationId
  apply (local_drawing _).bind
  intro promoted
  apply (local_saveIdentity pinned _).discard.bind
  intro _
  exact (local_storeSession _ _).bind fun _ => local_report _

omit pinned in
theorem local_initiate : Local cells (initiate address) := by
  unfold initiate
  apply local_identityKeyPair.bind
  intro identity
  apply (local_drawing _).bind
  intro sequence
  apply (local_drawing _).bind
  intro baseKey
  apply (local_drawing _).bind
  intro ratchetKey
  apply (local_loadSession filed).bind
  intro record
  apply (local_storeSession _ _).bind
  intro _
  exact (local_report _).bind fun _ => local_pure _

theorem local_processInitiate (limits : Limits) (message : KeyExchangeMessage) :
    Local cells (processInitiate address limits message) := by
  unfold processInitiate
  apply (local_except _).bind
  intro _
  apply local_identityKeyPair.bind
  intro identity
  apply (local_loadSession filed).bind
  intro record
  apply (local_answerKeys record).bind
  intro keys
  apply (local_drawing _).bind
  intro negotiated
  exact (local_concludeExchange pinned _ _ _ _).bind fun _ => local_pure _

theorem local_processResponse (limits : Limits) (message : KeyExchangeMessage) :
    Local cells (processResponse address limits message) := by
  unfold processResponse
  apply (local_loadSession filed).bind
  intro record
  split
  · apply local_identityKeyPair.bind
    intro identity
    apply (local_drawing _).bind
    intro negotiated
    apply (local_except _).bind
    intro _
    exact (local_concludeExchange pinned _ _ _ _).bind fun _ => local_report _
  · split
    · exact local_report _
    · exact (local_report _).bind fun _ => local_throw _

theorem local_processExchange (limits : Limits) (message : KeyExchangeMessage) :
    Local cells (processExchange address limits message) := by
  unfold processExchange
  apply (local_checkTrusted pinned message.identity).bind
  intro _
  split
  · exact (local_processInitiate pinned filed limits message).bind fun _ => local_pure _
  · split
    · exact (local_processResponse pinned filed limits message).bind fun _ => local_pure _
    · exact local_throw _

end Establishment

namespace Transport

variable [Suite] {cells : Store.Cell -> Prop} {address : Address}

omit [Suite] in
/-- Ending the sessions with a name looks at none of them. -/
theorem local_endSession : Local cells (endSession address) :=
  (local_change _ (Store.steady_deleteSessions address.name)).bind fun _ => local_report _

theorem local_encrypt (filed : cells (.session address)) (text : Bytes) :
    Local cells (encrypt address text) := by
  unfold encrypt
  apply (local_loadSession filed).bind
  intro record
  cases record.current.sender with
  | none => exact local_throw _
  | some sender =>
    apply (local_except _).bind
    intro outcome
    apply (local_storeSession _ _).bind
    intro _
    exact (local_report _).bind fun _ => local_pure _

variable (pinned : cells (.pin address.name)) (filed : cells (.session address))

include pinned filed

theorem local_decryptWhisper (limits : Limits) (callback : Bytes -> Except Fault Unit)
    (message : WhisperMessage) : Local cells (decryptWhisper address limits callback message) := by
  unfold decryptWhisper
  apply (local_loadSession filed).bind
  intro record
  split
  · exact local_throw _
  · apply (local_traced _).bind
    intro opened
    apply (local_checkSessionTrusted pinned opened.2).bind
    intro _
    apply (local_offer opened.1 callback).bind
    intro _
    exact (local_storeSession _ _).bind fun _ => local_pure _

theorem local_decryptPreKeyWhisper (limits : Limits) (callback : Bytes -> Except Fault Unit)
    {message : PreKeyWhisperMessage}
    (named : ∀ id, message.preKeyId = some id → cells (.preKey id)) :
    Local cells (decryptPreKeyWhisper address limits callback message) := by
  unfold decryptPreKeyWhisper
  apply (local_loadSession filed).bind
  intro record
  apply (Establishment.local_processHandshake pinned filed _ _ named).bind
  intro accepted
  apply (local_traced _).bind
  intro opened
  apply (local_checkSessionTrusted pinned opened.2).bind
  intro _
  apply (local_offer opened.1 callback).bind
  intro _
  have writes : Local cells (do
      discard <| Host.saveIdentity address.name message.identity
      Host.storeSession address opened.2
      return opened.1 : Engine Bytes) := by
    apply (local_saveIdentity pinned _).discard.bind
    intro _
    exact (local_storeSession _ _).bind fun _ => local_pure _
  cases accepted.2 with
  | none => exact writes
  | some id =>
    apply (local_change _ (Store.steady_removePreKey id)).bind
    intro _
    exact (local_report _).bind fun _ => writes

end Transport
end DoubleRatchet
