import DoubleRatchet.Proofs.Engine.Ledger

namespace DoubleRatchet

/-!
# The lives of states

What a state is made of, and whether it has opened a message since, is no part of the state.
It is told by a label here, a life for each state, and the ledger of a host follows the states
as the engine moves them: into the archive, out of it again, and away.

The handshake that a state sends along is then a matter of its life.  It is there as long as
the life of the state is that of a bundle that nobody has answered.
-/

/-- How a state began. -/
inductive Beginning where
  /-- The state of a device without sessions. -/
  | unset
  /-- This party has processed a bundle. -/
  | bundle (bundle : Bundle)
  /-- The other party has processed a bundle, and this one its first message. -/
  | handshake (message : PreKeyWhisperMessage)
  /-- Both parties have exchanged keys. -/
  | exchange (message : KeyExchangeMessage)
  deriving DecidableEq

/-- What a state has gone through. -/
structure Life where
  beginning : Beginning
  /-- Whether the state has opened a message. -/
  heard : Bool
  deriving DecidableEq

namespace Life

/-- The life of a state without a session. -/
def unset : Life :=
  ⟨.unset, false⟩

/-- The life goes on with a message that is opened. -/
def hear (life : Life) : Life :=
  { life with heard := true }

/-- The bundle that the state was made from, as long as it has opened no message. -/
def unanswered? : Life -> Option Bundle
  | ⟨.bundle bundle, false⟩ => some bundle
  | _ => none

@[simp] theorem unanswered?_hear (life : Life) : life.hear.unanswered? = none := by
  rcases life with ⟨_ | _ | _ | _, heard⟩ <;> rfl

/-- How lives begin and go on.  Sealing a text leaves a life as it is. -/
def labelling : Labelling Life where
  unset := unset
  bundle bundle := ⟨.bundle bundle, false⟩
  handshake message := ⟨.handshake message, false⟩
  exchange message := ⟨.exchange message, false⟩
  sealed := id
  opened _ _ := hear

end Life

/-! ## States that fit their lives -/

/-- The state marks that its messages carry a handshake exactly as long as its life is that of
a bundle without an answer, and then names the keys of that bundle and its own base key. -/
def Life.Marks (life : Life) (state : SessionState) : Prop :=
  match life.unanswered? with
  | none => state.pendingPreKey = none
  | some bundle => ∃ baseKey, state.initiatorBaseKey = some baseKey ∧
      state.pendingPreKey =
        some ⟨bundle.preKey.map (·.id), bundle.signedPreKey.map (·.id), baseKey⟩

variable [Suite]

/-- The state is marked as its life says, and belongs to the owner of the store. -/
structure Life.Fits (store : Store) (life : Life) (state : SessionState) : Prop where
  marks : life.Marks state
  owned : state.established = true →
    state.localRegistrationId = store.registrationId ∧
      state.localIdentity = some store.identity.identity ∧
      state.remoteIdentity.isSome = true

namespace Life.Fits

variable {store other : Store} {life : Life} {state next taken : SessionState}

theorem unset (store : Store) : Life.unset.Fits store .empty :=
  ⟨rfl, fun absent => nomatch absent⟩

theorem of_sameOwner (fits : life.Fits store state) (same : store.SameOwner other) :
    life.Fits other state := by
  refine ⟨fits.marks, fun established => ?_⟩
  rw [same.registrationId_eq, same.identity_eq]
  exact fits.owned established

/-- What a state awaits from a key exchange is nothing that its life tells. -/
theorem awaiting (fits : life.Fits store state) (pending : PendingExchange) :
    life.Fits store { state with pendingExchange := some pending } :=
  ⟨fits.marks, fits.owned⟩

/-- Sealing a text leaves a life as it is. -/
theorem sealed (fits : life.Fits store state) {sender : SenderChain} {text : Bytes}
    {envelope : Envelope} (sending : state.sender = some sender)
    (sealing : state.sealText sender text = .ok (envelope, next)) : life.Fits store next := by
  obtain ⟨_, _, _, _, _, _, _, rfl⟩ := SessionState.sealText_eq_ok sealing
  have established : state.established = true := (congrArg Option.isSome sending).trans rfl
  exact ⟨fits.marks, fun _ => fits.owned established⟩

/-- A state that has opened a message is marked no longer. -/
theorem hear (fits : life.Fits store state) {limits : Limits} {ours : KeyPair}
    {message : WhisperMessage} {text : Bytes}
    (takes : state.Takes limits ours message text taken) : life.hear.Fits store taken := by
  obtain ⟨chained, chain, served, _, _, opens, rfl⟩ := takes
  constructor
  · unfold Life.Marks
    rw [unanswered?_hear]
    rfl
  · intro _
    have owned := fits.owned opens.established
    cases opens.reached with
    | known present => exact owned
    | stepped root sender absent rooted sending => exact owned

theorem bundleState (store : Store) (bundle : Bundle) (offer : Establishment.Offer)
    (baseKey ratchetKey : KeyPair) :
    (Life.mk (.bundle bundle) false).Fits store
      (Establishment.bundleState store bundle offer baseKey ratchetKey) :=
  ⟨⟨baseKey.publicKey, rfl, rfl⟩, fun _ => ⟨rfl, rfl, rfl⟩⟩

theorem responderState (store : Store) (message : PreKeyWhisperMessage) (signedPreKey : KeyPair)
    (oneTimePreKey : Option KeyPair) :
    (Life.mk (.handshake message) false).Fits store
      (Establishment.responderState store message signedPreKey oneTimePreKey) :=
  ⟨rfl, fun _ => ⟨rfl, rfl, rfl⟩⟩

theorem exchangeState (store : Store) (message : KeyExchangeMessage)
    (baseKey ratchetKey fresh : KeyPair) :
    (Life.mk (.exchange message) false).Fits store
      (Establishment.exchangeState store message baseKey ratchetKey fresh) := by
  have idle := Establishment.idle_exchangeState store message baseKey ratchetKey fresh
  refine ⟨idle.2, fun _ => ?_⟩
  unfold Establishment.exchangeState
  dsimp only
  split
  · exact ⟨rfl, rfl, rfl⟩
  · exact ⟨rfl, rfl, rfl⟩

end Life.Fits

/-- That states fit their lives is kept by all that happens to them. -/
theorem Life.kept : Life.labelling.Kept Life.Fits where
  unset := Fits.unset
  owned := Fits.of_sameOwner
  awaiting pending fits := fits.awaiting pending
  sealed fits sending sealing := fits.sealed sending sealing
  opened fits takes := fits.hear takes
  bundle := Fits.bundleState
  handshake := Fits.responderState
  exchange := Fits.exchangeState

/-! ## When no handshake is sent along -/

namespace Life

omit [Suite] in
/-- The state in front has no bundle to be answered. -/
def Quiet (lives : List Life) : Prop :=
  ∀ life, lives.head? = some life → life.unanswered? = none

namespace Quiet

variable {ledger : Ledger Life} {lives : List Life} {address : Address}

omit [Suite] in
theorem cons {life : Life} (none : life.unanswered? = none) (lives : List Life) :
    Quiet (life :: lives) := by
  intro front same
  cases same
  exact none

/-- The state that opens a message comes to the front, and then its bundle is answered. -/
theorem after (quiet : Quiet lives) (record : SessionRecord) (limits : Limits)
    (message : WhisperMessage) : Quiet (labelling.after record limits message lives) := by
  unfold Labelling.after
  split
  · exact quiet
  · unfold SessionRecord.bringLabelForward
    split
    · exact quiet
    · exact cons (unanswered?_hear _) _
    · exact cons (unanswered?_hear _) _

omit [Suite] in
theorem goOn {store : Store} {place : Address} (quiet : Quiet (ledger address))
    {next : SessionRecord -> List Life -> List Life}
    (kept : place = address → ∀ record, Quiet (next record (ledger address))) :
    Quiet (ledger.goOn store place next address) := by
  unfold Ledger.goOn
  cases store.loadSession place with
  | error fault => exact quiet
  | ok record =>
    by_cases same : place = address
    · subst same
      dsimp only
      rw [Function.update_self]
      exact kept rfl record
    · dsimp only
      rw [Function.update_of_ne (Ne.symm same)]
      exact quiet

omit [Suite] in
theorem forget (quiet : Quiet (ledger address)) (gone : Address -> Bool) :
    Quiet (ledger.forget labelling gone address) := by
  unfold Ledger.forget
  split
  · exact cons rfl _
  · exact quiet

/-- Only a bundle that is processed brings a state to the front that waits to be answered. -/
theorem asked {operation : Operation} (quiet : Quiet (ledger address)) (host : Host)
    (other : ∀ limits bundle, operation ≠ .processBundle address limits bundle) :
    Quiet (ledger.asked labelling host operation address) := by
  cases operation with
  | processBundle place limits bundle =>
    apply quiet.goOn
    rintro rfl
    exact absurd rfl (other limits bundle)
  | initiate place => exact quiet
  | processExchange place limits message =>
    apply quiet.goOn
    intro _ record
    split
    · exact cons rfl _
    · exact quiet
  | encrypt place text =>
    apply quiet.goOn
    intro _ record
    have same : (ledger address).modifyHead labelling.sealed = ledger address :=
      congrFun List.modifyHead_id _
    rw [same]
    exact quiet
  | decrypt place limits callback message =>
    cases message with
    | whisper message =>
      apply quiet.goOn
      intro _ record
      exact quiet.after record limits message
    | preKeyWhisper message =>
      dsimp only [Ledger.asked]
      apply quiet.goOn
      intro _ record
      split
      · exact quiet
      · apply Quiet.after
        split
        · exact cons rfl _
        · exact quiet
    | keyExchange message => exact quiet
  | endSession place => exact quiet.forget fun other => other.name = place.name

theorem act {deed : Deed} (quiet : Quiet (ledger address)) (host : Host)
    (other : ∀ limits bundle, deed ≠ .asks (.processBundle address limits bundle)) :
    Quiet (ledger.act labelling host deed address) := by
  cases deed with
  | asks operation =>
    dsimp only [Ledger.act]
    cases (host.perform operation.run).1 with
    | error fault => exact quiet
    | ok reply =>
      exact quiet.asked host fun limits bundle same => other limits bundle (congrArg _ same)
  | tends chore =>
    cases chore with
    | deleteSession place => exact quiet.forget fun other => other = place
    | deleteSessions name => exact quiet.forget fun other => other.name = name
    | saveIdentity => exact quiet
    | storePreKey => exact quiet
    | removePreKey => exact quiet
    | storeSignedPreKey => exact quiet
    | removeSignedPreKey => exact quiet

/-- No handshake is sent along until another bundle is processed. -/
theorem through {deeds : List Deed} (quiet : Quiet (ledger address)) (host : Host)
    (others : ∀ limits bundle, .asks (.processBundle address limits bundle) ∉ deeds) :
    Quiet (ledger.through labelling host deeds address) := by
  induction deeds generalizing ledger host with
  | nil => exact quiet
  | cons deed deeds ih =>
    apply ih (quiet.act host fun limits bundle same => others limits bundle ?_)
    · exact fun limits bundle member => others limits bundle (List.mem_cons_of_mem _ member)
    · rw [same]
      exact List.mem_cons_self

end Quiet
end Life
end DoubleRatchet
