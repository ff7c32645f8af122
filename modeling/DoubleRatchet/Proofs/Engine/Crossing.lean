import Mathlib.Logic.Function.Basic
import Mathlib.Tactic.Choose
import DoubleRatchet.Proofs.Engine.Establishing
import DoubleRatchet.Proofs.Engine.Sessions
import DoubleRatchet.Proofs.Session.Agreement

namespace DoubleRatchet

/-!
# Key exchanges that cross

Two sides open a key exchange with each other before either has heard of the other's.  Four
messages result, the two openings and an answer to each, and the network decides on their
order.  An answer cannot arrive before the opening that it answers, because it does not exist
by then, but it may well overtake the opening of its own sender.

A side that gets the opening while its own exchange is pending answers from the pending keys,
and so does the other side, so that both negotiate from the same four pairs.  It no longer
waits for an answer then, and passes over the one that comes, since the flags of the answer
say that exchanges have crossed.
-/

/-- The two sides of a crossing. -/
inductive Side where
  | near
  | far
  deriving DecidableEq

namespace Side

/-- The side across. -/
def across : Side -> Side
  | near => far
  | far => near

theorem across_across (side : Side) : side.across.across = side := by
  cases side <;> rfl

theorem across_ne (side : Side) : side.across ≠ side := by
  cases side <;> decide

theorem eq_or_across (side one : Side) : side = one ∨ side = one.across := by
  cases side <;> cases one <;> decide

end Side

/-- The messages that are on their way in a crossing. -/
inductive Leg where
  /-- What a side has opened its key exchange with. -/
  | opening (sender : Side)
  /-- What a side has answered to the opening of the other one. -/
  | answer (sender : Side)
  deriving DecidableEq

namespace Leg

/-- The side that a leg comes from. -/
def sender : Leg -> Side
  | opening sender => sender
  | answer sender => sender

/-- All legs of a crossing. -/
def all : List Leg :=
  [opening .near, opening .far, answer .near, answer .far]

end Leg

/-- Two sides that are about to open a key exchange with each other. -/
structure Crossing where
  host : Side -> Host
  /-- Where a side finds the other one. -/
  address : Side -> Address
  limits : Side -> Limits

/-- How far a crossing has come: the sides as they are, and what they have sent. -/
structure Progress where
  host : Side -> Host
  opening : Side -> Option KeyExchangeMessage
  answer : Side -> Option KeyExchangeMessage

/-- The message of a leg, once it was sent. -/
def Progress.carried (progress : Progress) : Leg -> Option KeyExchangeMessage
  | .opening sender => progress.opening sender
  | .answer sender => progress.answer sender

namespace Crossing

section Course

variable [Suite]

/-- The sides have opened their exchanges, each unaware of the other's. -/
def begun (crossing : Crossing) : Progress where
  host side := ((crossing.host side).perform (Establishment.initiate (crossing.address side))).2
  opening side :=
    ((crossing.host side).perform (Establishment.initiate (crossing.address side))).1.toOption
  answer _ := none

/-- A leg that was sent arrives, and is answered if it asks for it. -/
def deliver (crossing : Crossing) (progress : Progress) (leg : Leg) : Progress :=
  match progress.carried leg with
  | none => progress
  | some message =>
    let side := leg.sender.across
    let outcome := (progress.host side).perform
      (Establishment.processExchange (crossing.address side) (crossing.limits side) message)
    { progress with
      host := Function.update progress.host side outcome.2
      answer := Function.update progress.answer side
        (outcome.1.toOption.join.or (progress.answer side)) }

/-- The crossing after its legs have arrived in some order. -/
def after (crossing : Crossing) (order : List Leg) : Progress :=
  order.foldl crossing.deliver crossing.begun

end Course

/-! ## Orders -/

/-- Every leg arrives once, and an answer after the opening that it answers. -/
structure Arrives (order : List Leg) : Prop where
  once : order.Perm Leg.all
  caused : ∀ side, order.idxOf (.opening side.across) < order.idxOf (.answer side)

/-- No answer overtakes the opening of its sender. -/
def InOrder (order : List Leg) : Prop :=
  ∀ side, order.idxOf (.opening side) < order.idxOf (.answer side)

/-- What comes before a leg in an order has arrived when the leg does. -/
theorem mem_of_idxOf_lt {first last : Leg} {before later : List Leg}
    (sooner : (before ++ last :: later).idxOf first < (before ++ last :: later).idxOf last) :
    first ∈ before := by
  by_contra absent
  rw [List.idxOf_append, if_neg absent, List.idxOf_append] at sooner
  split at sooner
  · next member =>
    have inside := List.idxOf_lt_length_of_mem member
    omega
  · rw [List.idxOf_cons_self] at sooner
    omega

/-! ## Sides on their own -/

variable [Suite] {crossing : Crossing} {side : Side} {host : Host} {record : SessionRecord}

/-- The identity of a side. -/
def identity (crossing : Crossing) (side : Side) : IdentityKey :=
  (crossing.host side).store.identity.identity

/-- The sides are ready: each can read what it has of the other one and trusts it, and keeps
receiver chains. -/
structure Ready (crossing : Crossing) : Prop where
  permissive : ∀ side, (crossing.host side).Permissive
  readable : ∀ side, ∃ record,
    (crossing.host side).store.loadSession (crossing.address side) = .ok record
  trusted : ∀ side, (crossing.host side).store.trusts (crossing.address side).name
    (crossing.identity side.across) = true
  room : ∀ side, 0 < (crossing.limits side).receiverChains

/-- The host is one of a side, with the record that it has of the other one. -/
structure Shows (crossing : Crossing) (side : Side) (host : Host) (record : SessionRecord) :
    Prop where
  permissive : host.Permissive
  identity_eq : host.store.identity = (crossing.host side).store.identity
  registrationId_eq : host.store.registrationId = (crossing.host side).store.registrationId
  trusted : host.store.trusts (crossing.address side).name (crossing.identity side.across) = true
  load : host.store.loadSession (crossing.address side) = .ok record

/-- The state that a side negotiates from a message, with the pairs that it brings. -/
def negotiated (crossing : Crossing) (side : Side) (message : KeyExchangeMessage)
    (baseKey ratchetKey fresh : KeyPair) : SessionState :=
  Establishment.exchangeState (crossing.host side).store message baseKey ratchetKey fresh

theorem Shows.exchangeState_eq (shows : crossing.Shows side host record)
    (message : KeyExchangeMessage) (baseKey ratchetKey fresh : KeyPair) :
    Establishment.exchangeState host.store message baseKey ratchetKey fresh =
      crossing.negotiated side message baseKey ratchetKey fresh := by
  unfold negotiated Establishment.exchangeState
  rw [shows.identity_eq, shows.registrationId_eq]

/-- A side that has stored a new state shows it. -/
theorem Shows.stored {after : Host} {next : SessionState} {bound draws : Nat}
    (shows : crossing.Shows side host record)
    (becomes : host.Becomes ((host.store.pin (crossing.address side).name
      (crossing.identity side.across)).storeSession (crossing.address side)
        (record.promote next bound)) draws after) :
    crossing.Shows side after (record.promote next bound).settled where
  permissive := becomes.permissive shows.permissive
  identity_eq := by
    rw [becomes.store_eq]
    exact shows.identity_eq
  registrationId_eq := by
    rw [becomes.store_eq]
    exact shows.registrationId_eq
  trusted := by
    rw [becomes.store_eq]
    exact Store.trusts_pin ..
  load := by
    rw [becomes.store_eq]
    exact Store.loadSession_storeSession_self ..

/-- A side whose store has not changed shows what it did. -/
theorem Shows.kept {after : Host} {draws : Nat} (shows : crossing.Shows side host record)
    (becomes : host.Becomes host.store draws after) : crossing.Shows side after record where
  permissive := becomes.permissive shows.permissive
  identity_eq := by
    rw [becomes.store_eq]
    exact shows.identity_eq
  registrationId_eq := by
    rw [becomes.store_eq]
    exact shows.registrationId_eq
  trusted := by
    rw [becomes.store_eq]
    exact shows.trusted
  load := by
    rw [becomes.store_eq]
    exact shows.load

/-! ## What a side does with a leg -/

/-- What is asked of a leg: that it comes from the other side, and that it is signed. -/
structure Genuine (crossing : Crossing) (side : Side) (message : KeyExchangeMessage) :
    Prop where
  identity_eq : message.identity = crossing.identity side.across
  signed : Establishment.checkSigned message = .ok ()

theorem genuine_exchangeMessage (signing : Suite.SigningFaithful ‹Suite›) (crossing : Crossing)
    (side : Side) (version : UInt8) (sequence flags : UInt32) (baseKey ratchetKey : PublicKey) :
    crossing.Genuine side.across (Establishment.exchangeMessage version sequence flags
      (crossing.host side).store.identity baseKey ratchetKey) where
  identity_eq := by
    rw [side.across_across]
    rfl
  signed := by
    unfold Establishment.checkSigned
    split
    · next unsigned =>
      obtain ⟨current, wrong⟩ := unsigned
      have signature : (Establishment.exchangeMessage version sequence flags
          (crossing.host side).store.identity baseKey ratchetKey).baseKeySignature =
            some ((crossing.host side).store.identity.sign baseKey.toBytes) := if_pos current
      have genuine : (Establishment.exchangeMessage version sequence flags
          (crossing.host side).store.identity baseKey ratchetKey).verifies = true := by
        unfold KeyExchangeMessage.verifies
        rw [signature]
        exact signing _ _
      rw [genuine] at wrong
      cases wrong
    · rfl

variable {message : KeyExchangeMessage}

theorem Shows.trusts (shows : crossing.Shows side host record)
    (genuine : crossing.Genuine side message) :
    host.store.trusts (crossing.address side).name message.identity = true := by
  rw [genuine.identity_eq]
  exact shows.trusted

/-- A side answers an opening, and negotiates from the pairs that it brings. -/
theorem Shows.answers (shows : crossing.Shows side host record)
    (genuine : crossing.Genuine side message) (opening : message.isInitiate = true) :
    ∃ baseKey ratchetKey drawn after,
      Establishment.broughtPairs record host.trace = (baseKey, ratchetKey, drawn) ∧
      host.perform (Establishment.processExchange (crossing.address side) (crossing.limits side)
          message) =
        (.ok (some (Establishment.exchangeMessage message.version message.sequence
          (Establishment.answerFlags record) (crossing.host side).store.identity
          baseKey.publicKey ratchetKey.publicKey)), after) ∧
      crossing.Shows side after (record.promote (crossing.negotiated side message baseKey
        ratchetKey (.drawnAt host.trace.entropy (host.trace.drawn + drawn)))
          (crossing.limits side).archivedStates).settled := by
  obtain ⟨answer, after, gives⟩ := Establishment.perform_processExchange shows.permissive
    (shows.trusts genuine) opening genuine.signed shows.load
  obtain ⟨_, store, draws, exchanged, becomes⟩ :=
    Establishment.processExchange_eq_ok shows.permissive gives
  have load := shows.load
  cases exchanged with
  | @answered found baseKey ratchetKey drawn _ also brought =>
    cases load.symm.trans also
    rw [shows.identity_eq] at gives
    rw [shows.exchangeState_eq, genuine.identity_eq] at becomes
    exact ⟨baseKey, ratchetKey, drawn, after, brought, gives, shows.stored becomes⟩
  | completed answering => cases opening.symm.trans answering
  | passed answering => cases opening.symm.trans answering

/-- A side whose own exchange is pending answers from the pending pairs, and says that the
exchanges have crossed. -/
theorem Shows.answers_pending {pending : PendingExchange}
    (shows : crossing.Shows side host record) (genuine : crossing.Genuine side message)
    (opening : message.isInitiate = true)
    (waiting : record.current.pendingExchange = some pending) :
    ∃ after, host.perform (Establishment.processExchange (crossing.address side)
        (crossing.limits side) message) =
        (.ok (some (Establishment.exchangeMessage message.version message.sequence
          (KeyExchangeMessage.responseFlag ||| KeyExchangeMessage.simultaneousFlag)
          (crossing.host side).store.identity pending.baseKey.publicKey
          pending.ratchetKey.publicKey)), after) ∧
      crossing.Shows side after (record.promote (crossing.negotiated side message
        pending.baseKey pending.ratchetKey host.trace.nextPair)
          (crossing.limits side).archivedStates).settled := by
  obtain ⟨baseKey, ratchetKey, drawn, after, brought, gives, next⟩ :=
    shows.answers genuine opening
  unfold Establishment.broughtPairs at brought
  unfold Establishment.answerFlags at gives
  rw [waiting] at brought gives
  cases brought
  exact ⟨after, gives, next⟩

/-- A side with nothing pending answers from two pairs that it draws. -/
theorem Shows.answers_fresh (shows : crossing.Shows side host record)
    (genuine : crossing.Genuine side message) (opening : message.isInitiate = true)
    (idle : record.current.pendingExchange = none) :
    ∃ after, host.perform (Establishment.processExchange (crossing.address side)
        (crossing.limits side) message) =
        (.ok (some (Establishment.exchangeMessage message.version message.sequence
          KeyExchangeMessage.responseFlag (crossing.host side).store.identity
          host.trace.nextPair.publicKey
          (KeyPair.drawnAt host.trace.entropy (host.trace.drawn + 1)).publicKey)), after) ∧
      crossing.Shows side after (record.promote (crossing.negotiated side message
        host.trace.nextPair (.drawnAt host.trace.entropy (host.trace.drawn + 1))
        (.drawnAt host.trace.entropy (host.trace.drawn + 2)))
          (crossing.limits side).archivedStates).settled := by
  obtain ⟨baseKey, ratchetKey, drawn, after, brought, gives, next⟩ :=
    shows.answers genuine opening
  unfold Establishment.broughtPairs at brought
  unfold Establishment.answerFlags at gives
  rw [idle] at brought gives
  cases brought
  exact ⟨after, gives, next⟩

/-- A side takes an answer that its own exchange is waiting for, and negotiates from the
pending pairs. -/
theorem Shows.completes {pending : PendingExchange} (shows : crossing.Shows side host record)
    (genuine : crossing.Genuine side message) (answering : message.isInitiate = false)
    (response : message.isResponse = true)
    (waiting : record.current.pendingExchange = some pending)
    (matching : pending.sequence = message.sequence) :
    ∃ after, host.perform (Establishment.processExchange (crossing.address side)
        (crossing.limits side) message) = (.ok none, after) ∧
      host.trace.Continues (Establishment.exchangeDraws pending.baseKey message) after.trace ∧
      crossing.Shows side after (record.promote (crossing.negotiated side message
        pending.baseKey pending.ratchetKey host.trace.nextPair)
          (crossing.limits side).archivedStates).settled := by
  obtain ⟨after, gives⟩ := Establishment.perform_completing (crossing.limits side)
    shows.permissive (shows.trusts genuine) answering response genuine.signed shows.load waiting
    matching
  obtain ⟨_, store, draws, exchanged, becomes⟩ :=
    Establishment.processExchange_eq_ok shows.permissive gives
  have load := shows.load
  cases exchanged with
  | @completed found other _ also wanted =>
    cases load.symm.trans also
    cases waiting.symm.trans wanted
    rw [shows.exchangeState_eq, genuine.identity_eq] at becomes
    exact ⟨after, gives, becomes.continues, shows.stored becomes⟩
  | @passed found _ also unmatched =>
    cases load.symm.trans also
    exact absurd matching (unmatched _ waiting)

/-- A side that is not waiting for an answer leaves everything as it is.  It passes the answer
over if the exchanges have crossed, and calls it stale otherwise. -/
theorem Shows.passes_over (shows : crossing.Shows side host record)
    (genuine : crossing.Genuine side message) (answering : message.isInitiate = false)
    (response : message.isResponse = true) (idle : record.current.pendingExchange = none) :
    ∃ after, host.perform (Establishment.processExchange (crossing.address side)
        (crossing.limits side) message) =
        (if message.isSimultaneous then .ok none else .error (.staleExchange message.sequence),
          after) ∧
      crossing.Shows side after record := by
  obtain ⟨after, gives, becomes⟩ := Establishment.perform_unmatched (crossing.limits side)
    shows.permissive answering response shows.load fun pending waiting =>
      nomatch idle.symm.trans waiting
  refine ⟨after, ?_, shows.kept becomes⟩
  rw [gives]
  unfold Establishment.refusal
  rw [if_pos (shows.trusts genuine)]

/-- The draw that a side makes its base key of, behind those for the sequence. -/
def place (crossing : Crossing) (side : Side) : Nat :=
  (generateSequence (crossing.host side).trace).2.drawn

/-- What a side leaves pending, with a sequence that it has drawn. -/
def pendingOf (crossing : Crossing) (sequence : Side -> UInt32) (side : Side) : PendingExchange :=
  ⟨sequence side, .drawnAt (crossing.host side).trace.entropy (crossing.place side),
    .drawnAt (crossing.host side).trace.entropy (crossing.place side + 1)⟩

theorem matched_pendingOf (crossing : Crossing) (sequence : Side -> UInt32) (side : Side) :
    (crossing.pendingOf sequence side).baseKey.Matched ∧
      (crossing.pendingOf sequence side).ratchetKey.Matched :=
  ⟨KeyPair.matched_drawnAt _ _, KeyPair.matched_drawnAt _ _⟩

/-- What a side opens its exchange with. -/
def openingOf (crossing : Crossing) (sequence : Side -> UInt32) (side : Side) :
    KeyExchangeMessage :=
  Establishment.exchangeMessage currentVersion (sequence side) KeyExchangeMessage.initiateFlag
    (crossing.host side).store.identity (crossing.pendingOf sequence side).baseKey.publicKey
    (crossing.pendingOf sequence side).ratchetKey.publicKey

/-- The record of a side that has opened an exchange. -/
def opened (crossing : Crossing) (sequence : Side -> UInt32) (side : Side)
    (record : SessionRecord) : SessionRecord :=
  { record with
    current := { record.current with pendingExchange := some (crossing.pendingOf sequence side) } }

/-- A side that is ready opens an exchange, and has its pairs pending. -/
theorem Ready.begins (ready : crossing.Ready)
    (load : (crossing.host side).store.loadSession (crossing.address side) = .ok record) :
    ∃ drawn host, (crossing.host side).perform (Establishment.initiate (crossing.address side)) =
        (.ok (crossing.openingOf (fun _ => drawn) side), host) ∧
      host.trace.entropy = (crossing.host side).trace.entropy ∧
      host.trace.drawn = crossing.place side + 2 ∧
      crossing.Shows side host (crossing.opened (fun _ => drawn) side record).settled := by
  obtain ⟨message, host, gives⟩ := Establishment.perform_initiate (ready.permissive side) load
  obtain ⟨found, drawn, skipped, also, rfl, count, becomes⟩ :=
    Establishment.initiate_eq_ok (ready.permissive side) gives
  cases load.symm.trans also
  have place : crossing.place side = (crossing.host side).trace.drawn + skipped := count
  rw [← place] at gives becomes
  refine ⟨drawn, host, gives, becomes.continues.entropy_eq, ?_, ?_⟩
  · rw [becomes.continues.drawn_eq, place, Nat.add_assoc]
  · constructor
    · exact becomes.permissive (ready.permissive side)
    · rw [becomes.store_eq]
      rfl
    · rw [becomes.store_eq]
      rfl
    · rw [becomes.store_eq]
      exact ready.trusted side
    · rw [becomes.store_eq]
      exact Store.loadSession_storeSession_self ..

/-- Both sides have begun: each has an opening on its way, and its pairs pending. -/
theorem Ready.begun {record : Side -> SessionRecord} (ready : crossing.Ready)
    (load : ∀ side, (crossing.host side).store.loadSession (crossing.address side) =
      .ok (record side)) :
    ∃ sequence : Side -> UInt32, ∀ side,
      crossing.begun.opening side = some (crossing.openingOf sequence side) ∧
      (crossing.begun.host side).trace.entropy = (crossing.host side).trace.entropy ∧
      (crossing.begun.host side).trace.drawn = crossing.place side + 2 ∧
      crossing.Shows side (crossing.begun.host side)
        (crossing.opened sequence side (record side)).settled := by
  choose sequence host gives entropy_eq drawn_eq shows using fun side => ready.begins (load side)
  refine ⟨sequence, fun side => ?_⟩
  have reached : crossing.begun.host side = host side := congrArg Prod.snd (gives side)
  rw [reached]
  exact ⟨congrArg (fun outcome => outcome.1.toOption) (gives side), entropy_eq side,
    drawn_eq side, shows side⟩

/-! ## Legs that arrive -/

variable {sequence : Side -> UInt32} {arrived : List Leg} {progress next : Progress}

/-- What a side answers to an opening while its own exchange is pending. -/
def answerOf (crossing : Crossing) (sequence : Side -> UInt32) (side : Side) :
    KeyExchangeMessage :=
  Establishment.exchangeMessage currentVersion (sequence side.across)
    (KeyExchangeMessage.responseFlag ||| KeyExchangeMessage.simultaneousFlag)
    (crossing.host side).store.identity (crossing.pendingOf sequence side).baseKey.publicKey
    (crossing.pendingOf sequence side).ratchetKey.publicKey

/-- The state of a side that has negotiated from what is pending on both. -/
def agreedState (crossing : Crossing) (sequence : Side -> UInt32) (side : Side)
    (fresh : KeyPair) : SessionState :=
  crossing.negotiated side (crossing.openingOf sequence side.across)
    (crossing.pendingOf sequence side).baseKey (crossing.pendingOf sequence side).ratchetKey fresh

theorem isInitiate_openingOf (crossing : Crossing) (sequence : Side -> UInt32) (side : Side) :
    (crossing.openingOf sequence side).isInitiate = true := by
  change decide (KeyExchangeMessage.initiateFlag &&& KeyExchangeMessage.initiateFlag ≠ 0) = true
  decide

theorem flags_answerOf (crossing : Crossing) (sequence : Side -> UInt32) (side : Side) :
    (crossing.answerOf sequence side).isInitiate = false ∧
      (crossing.answerOf sequence side).isResponse = true ∧
      (crossing.answerOf sequence side).isSimultaneous = true := by
  change decide ((KeyExchangeMessage.responseFlag ||| KeyExchangeMessage.simultaneousFlag) &&&
      KeyExchangeMessage.initiateFlag ≠ 0) = false ∧
    decide ((KeyExchangeMessage.responseFlag ||| KeyExchangeMessage.simultaneousFlag) &&&
      KeyExchangeMessage.responseFlag ≠ 0) = true ∧
    decide ((KeyExchangeMessage.responseFlag ||| KeyExchangeMessage.simultaneousFlag) &&&
      KeyExchangeMessage.simultaneousFlag ≠ 0) = true
  decide

theorem genuine_openingOf (signing : Suite.SigningFaithful ‹Suite›) (crossing : Crossing)
    (sequence : Side -> UInt32) (side : Side) :
    crossing.Genuine side.across (crossing.openingOf sequence side) :=
  genuine_exchangeMessage signing crossing side ..

theorem genuine_answerOf (signing : Suite.SigningFaithful ‹Suite›) (crossing : Crossing)
    (sequence : Side -> UInt32) (side : Side) :
    crossing.Genuine side.across (crossing.answerOf sequence side) :=
  genuine_exchangeMessage signing crossing side ..

omit [Suite] in
/-- What a side has sent has come to the other one, and nothing about the sender has changed. -/
structure Reaches (sender receiver : Side) (after : Host) (answer : Option KeyExchangeMessage)
    (progress next : Progress) : Prop where
  opening_eq : next.opening = progress.opening
  host_eq : next.host receiver = after
  answer_eq : next.answer receiver = answer.or (progress.answer receiver)
  host_kept : next.host sender = progress.host sender
  answer_kept : next.answer sender = progress.answer sender

theorem reaches_deliver (leg : Leg) {receiver : Side} {after : Host}
    {result : Except Fault (Option KeyExchangeMessage)} (toward : leg.sender.across = receiver)
    (carried : progress.carried leg = some message)
    (gives : (progress.host receiver).perform (Establishment.processExchange
      (crossing.address receiver) (crossing.limits receiver) message) = (result, after)) :
    Reaches leg.sender receiver after result.toOption.join progress
      (crossing.deliver progress leg) := by
  subst toward
  unfold deliver
  rw [carried]
  dsimp only
  rw [gives]
  have other := leg.sender.across_ne.symm
  exact ⟨rfl, Function.update_self .., Function.update_self .., Function.update_of_ne other ..,
    Function.update_of_ne other ..⟩

/-- Some legs have arrived in order.  A side waits for as long as the opening of the other one
has not come, and has negotiated and answered from its pending pairs once it has. -/
structure Underway (crossing : Crossing) (sequence : Side -> UInt32) (arrived : List Leg)
    (progress : Progress) : Prop where
  opening_eq : ∀ side, progress.opening side = some (crossing.openingOf sequence side)
  waiting : ∀ side, Leg.opening side.across ∉ arrived →
    ∃ record, crossing.Shows side (progress.host side) record ∧
      record.current.pendingExchange = some (crossing.pendingOf sequence side)
  agreed : ∀ side, Leg.opening side.across ∈ arrived →
    progress.answer side = some (crossing.answerOf sequence side) ∧
      ∃ fresh record, fresh.Matched ∧ crossing.Shows side (progress.host side) record ∧
        record.current = crossing.agreedState sequence side fresh

/-- The opening of a side arrives for the first time. -/
theorem Underway.opening (signing : Suite.SigningFaithful ‹Suite›)
    (underway : crossing.Underway sequence arrived progress) {sender : Side}
    (first : Leg.opening sender ∉ arrived) :
    crossing.Underway sequence (.opening sender :: arrived)
      (crossing.deliver progress (.opening sender)) := by
  rw [← sender.across_across] at first
  obtain ⟨record, shows, waiting⟩ := underway.waiting sender.across first
  obtain ⟨after, gives, answered⟩ := shows.answers_pending
    (crossing.genuine_openingOf signing sequence sender)
    (crossing.isInitiate_openingOf sequence sender) waiting
  have reaches : Reaches sender sender.across after _ progress
      (crossing.deliver progress (.opening sender)) :=
    reaches_deliver (.opening sender) rfl (underway.opening_eq sender) gives
  have other : Leg.opening sender.across ≠ .opening sender := fun same =>
    sender.across_ne (Leg.opening.inj same)
  constructor
  · intro side
    rw [reaches.opening_eq]
    exact underway.opening_eq side
  · intro side absent
    rcases side.eq_or_across sender with rfl | rfl
    · rw [reaches.host_kept]
      exact underway.waiting side fun member => absent (List.mem_cons_of_mem _ member)
    · rw [sender.across_across] at absent
      exact absurd List.mem_cons_self absent
  · intro side present
    rcases side.eq_or_across sender with rfl | rfl
    · rw [reaches.answer_kept, reaches.host_kept]
      exact underway.agreed side ((List.mem_cons.mp present).resolve_left other)
    · rw [reaches.answer_eq, reaches.host_eq]
      unfold agreedState answerOf
      rw [sender.across_across]
      exact ⟨rfl, _, _, KeyPair.matched_drawnAt _ _, answered, rfl⟩

/-- An answer arrives at a side that has answered itself, and changes nothing. -/
theorem Underway.answer (signing : Suite.SigningFaithful ‹Suite›)
    (underway : crossing.Underway sequence arrived progress) {sender : Side}
    (caused : Leg.opening sender.across ∈ arrived) (inOrder : Leg.opening sender ∈ arrived) :
    crossing.Underway sequence (.answer sender :: arrived)
      (crossing.deliver progress (.answer sender)) := by
  obtain ⟨carried, _⟩ := underway.agreed sender caused
  rw [← sender.across_across] at inOrder
  obtain ⟨answered, fresh, record, matched, shows, front⟩ :=
    underway.agreed sender.across inOrder
  obtain ⟨answering, response, simultaneous⟩ := crossing.flags_answerOf sequence sender
  have idle : record.current.pendingExchange = none := by
    rw [front]
    exact (Establishment.idle_exchangeState ..).1
  obtain ⟨after, gives, kept⟩ := shows.passes_over
    (crossing.genuine_answerOf signing sequence sender) answering response idle
  rw [if_pos simultaneous] at gives
  have reaches : Reaches sender sender.across after _ progress
      (crossing.deliver progress (.answer sender)) :=
    reaches_deliver (.answer sender) rfl carried gives
  constructor
  · intro side
    rw [reaches.opening_eq]
    exact underway.opening_eq side
  · intro side absent
    rcases side.eq_or_across sender with rfl | rfl
    · exact absurd (List.mem_cons_of_mem _ caused) absent
    · exact absurd (List.mem_cons_of_mem _ inOrder) absent
  · intro side _
    rcases side.eq_or_across sender with rfl | rfl
    · rw [reaches.answer_kept, reaches.host_kept]
      exact underway.agreed side caused
    · rw [reaches.answer_eq, reaches.host_eq]
      exact ⟨answered, fresh, record, matched, kept, front⟩

/-- Whatever part of an order has arrived, the rest of it arrives. -/
theorem Underway.arrive (signing : Suite.SigningFaithful ‹Suite›) {order rest : List Leg}
    (arrives : Arrives order) (inOrder : InOrder order)
    (underway : crossing.Underway sequence arrived progress)
    (split : order = arrived.reverse ++ rest) :
    crossing.Underway sequence order.reverse (rest.foldl crossing.deliver progress) := by
  induction rest generalizing arrived progress with
  | nil =>
    rw [split, List.append_nil, List.reverse_reverse]
    exact underway
  | cons leg rest ih =>
    have further : order = (leg :: arrived).reverse ++ rest := by
      rw [split, List.reverse_cons, List.append_assoc]
      rfl
    apply ih _ further
    cases leg with
    | opening sender =>
      apply underway.opening signing
      intro before
      have nodup : order.Nodup := arrives.once.nodup_iff.mpr (by decide)
      rw [split] at nodup
      exact (List.nodup_append.mp nodup).2.2 _ (List.mem_reverse.mpr before) _ List.mem_cons_self
        rfl
    | answer sender =>
      have caused := arrives.caused sender
      have ordered := inOrder sender
      rw [split] at caused ordered
      exact underway.answer signing (List.mem_reverse.mp (mem_of_idxOf_lt caused))
        (List.mem_reverse.mp (mem_of_idxOf_lt ordered))

/-- Once all legs have arrived in order, both sides have negotiated from what was pending. -/
theorem Ready.agrees (signing : Suite.SigningFaithful ‹Suite›) (ready : crossing.Ready)
    {order : List Leg} (arrives : Arrives order) (inOrder : InOrder order) :
    ∃ sequence : Side -> UInt32,
      (∀ side, crossing.begun.opening side = some (crossing.openingOf sequence side)) ∧
      ∀ side, (crossing.after order).opening side = some (crossing.openingOf sequence side) ∧
        (crossing.after order).answer side = some (crossing.answerOf sequence side) ∧
        ∃ fresh record, fresh.Matched ∧
          crossing.Shows side ((crossing.after order).host side) record ∧
          record.current = crossing.agreedState sequence side fresh := by
  choose record load using ready.readable
  obtain ⟨sequence, start⟩ := ready.begun load
  have begun : crossing.Underway sequence [] crossing.begun :=
    ⟨fun side => (start side).1, fun side _ => ⟨_, (start side).2.2.2, rfl⟩, fun _ present =>
      nomatch present⟩
  have arrived := begun.arrive signing arrives inOrder rfl
  refine ⟨sequence, fun side => (start side).1, fun side => ?_⟩
  have member : Leg.opening side.across ∈ order.reverse := by
    rw [List.mem_reverse, arrives.once.mem_iff]
    cases side <;> decide
  exact ⟨arrived.opening_eq side, arrived.agreed side member⟩

end Crossing
end DoubleRatchet
