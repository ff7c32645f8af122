import DoubleRatchet.Proofs.Engine.Awaiting
import DoubleRatchet.Proofs.Positions

namespace DoubleRatchet

/-!
# A response completes a key exchange once, unless its state is recalled

Whoever has opened a key exchange waits for the response, and the first one that comes puts
the negotiated state in front.  A response that comes again should find nothing that waits
for it.  What waits is not taken out, though: it stays in the state that was in front, and
goes into the archive with it if the two parties had a session before.

So the same response is refused from then on, or passed over, until a message of the old
session brings the old state back to the front, which nothing but a decryption does.  Right
after that the response completes its key exchange for a second time.  Where the parties had
no session, the old state is not archived and the response is spent for good.
-/

namespace Establishment

variable [Suite] {host after : Host} {address : Address} {limits : Limits}
  {message : KeyExchangeMessage}

/-- The message is a response with everything that a response needs. -/
structure Responds (message : KeyExchangeMessage) : Prop where
  answering : message.isInitiate = false
  response : message.isResponse = true
  signed : checkSigned message = .ok ()

/-- A response has changed the store exactly if the current state was waiting for it.  The
state that it puts in front is waiting for nothing. -/
theorem Exchanged.response_cases {store : Store} {draws : Nat}
    (exchanged : Exchanged host address limits message none store draws) :
    (Responds message ∧ ∃ record state, host.store.loadSession address = .ok record ∧
      record.current.awaits = some message.sequence ∧ state.awaits = none ∧
      store = (host.store.pin address.name message.identity).storeSession address
        (record.promote state limits.archivedStates)) ∨
    (store = host.store ∧ ¬ host.store.Fronts address message.sequence) := by
  cases exchanged with
  | @completed record pending answering load waiting matching signed response =>
    refine .inl ⟨⟨answering, response, signed⟩, record, _, load, ?_,
      Operation.awaits_exchangeState .., rfl⟩
    unfold SessionState.awaits
    rw [waiting, ← matching]
    rfl
  | @passed record answering load unmatched crossed =>
    refine .inr ⟨rfl, ?_⟩
    rintro ⟨found, also, awaits⟩
    cases load.symm.trans also
    obtain ⟨pending, waiting, same⟩ := Option.map_eq_some_iff.mp awaits
    exact unmatched pending waiting same

omit [Suite] in
/-- Nothing waits in front of a record for the response that has just come. -/
theorem not_fronts_of_promoted {store : Store} {record : SessionRecord} {state : SessionState}
    {identity : IdentityKey} {bound : Nat} (idle : state.awaits = none) (sequence : UInt32) :
    ¬ ((store.pin address.name identity).storeSession address
      (record.promote state bound)).Fronts address sequence := by
  rintro ⟨found, load, awaits⟩
  rw [Store.loadSession_storeSession_self] at load
  cases load
  cases idle.symm.trans awaits

variable (limits) in
/-- A response that the current state is waiting for is taken, and changes the store. -/
theorem perform_awaited (permissive : host.Permissive) (responds : Responds message)
    (trusted : host.store.trusts address.name message.identity = true)
    (fronts : host.store.Fronts address message.sequence) :
    ∃ after, host.perform (processExchange address limits message) = (.ok none, after) ∧
      after.store ≠ host.store := by
  obtain ⟨record, load, awaits⟩ := fronts
  obtain ⟨pending, waiting, matching⟩ := Option.map_eq_some_iff.mp awaits
  obtain ⟨after, gives⟩ := perform_completing limits permissive trusted
    responds.answering responds.response responds.signed load waiting matching
  obtain ⟨_, store, draws, exchanged, becomes⟩ := processExchange_eq_ok permissive gives
  refine ⟨after, gives, ?_⟩
  intro same
  rcases exchanged.response_cases with ⟨_, _, state, _, _, idle, rfl⟩ | ⟨_, behind⟩
  · apply not_fronts_of_promoted idle message.sequence
    rw [← becomes.store_eq, same]
    exact ⟨record, load, awaits⟩
  · exact behind ⟨record, load, awaits⟩

variable (limits) in
/-- A response that the current state is not waiting for leaves the store alone. -/
theorem perform_unawaited (permissive : host.Permissive) (responds : Responds message)
    (readable : host.store.Readable) (behind : ¬ host.store.Fronts address message.sequence) :
    ∃ after, host.perform (processExchange address limits message) =
        (refusal host.store address message, after) ∧ after.store = host.store := by
  obtain ⟨record, load⟩ := readable address
  obtain ⟨after, gives, becomes⟩ := perform_unmatched limits permissive
    responds.answering responds.response load fun pending waiting same =>
      behind ⟨record, load, Option.map_eq_some_iff.mpr ⟨pending, waiting, same⟩⟩
  exact ⟨after, gives, becomes.store_eq⟩

end Establishment

open Establishment

/-- Once a response was taken and a session stored from it, the same response is refused as
stale, or passed over if it says that both sides had opened an exchange, for as long as no
archived state that waits for it is brought back to the front.

As long as the host does nothing but make requests, the sender stays trusted, so that these
are the only two answers.  Nothing but a decryption brings such a state back, and right after
it the response is taken once more.  A state that was not established when the response came
never comes back. -/
theorem response_completes_once [Suite] {host done : Host} {before later : List Deed}
    {address : Address} {limits : Limits} {message : KeyExchangeMessage}
    (permissive : host.Permissive) (sessionless : host.store.sessions = .empty)
    (completes : (host.through before).perform (processExchange address limits message) =
      (.ok none, done))
    (stored : done.store ≠ (host.through before).store)
    (distinct : (host.sequences
      (before ++ .asks (.processExchange address limits message) :: later)).Nodup) :
    (¬ done.Recalled address message.sequence later → ∀ again, ∃ after,
      (done.through later).perform (processExchange address again message) =
          (refusal (done.through later).store address message, after) ∧
        after.store = (done.through later).store) ∧
    ((∀ deed ∈ later, ∃ operation, deed = .asks operation) →
      (done.through later).store.trusts address.name message.identity = true) ∧
    (∀ early deed late, later = early ++ deed :: late →
      deed.Recalls (done.through early) address message.sequence →
        (∃ chosen callback envelope, deed = .asks (.decrypt address chosen callback envelope)) ∧
        (((done.through early).act deed).store.trusts address.name message.identity = true →
          ∀ again, ∃ after, ((done.through early).act deed).perform
              (processExchange address again message) = (.ok none, after) ∧
            after.store ≠ ((done.through early).act deed).store)) ∧
    (∀ record, (host.through before).store.loadSession address = .ok record →
      record.current.established = false → ¬ done.Recalled address message.sequence later) := by
  have still := Host.permissive_through permissive before
  obtain ⟨_, store, draws, exchanged, becomes⟩ := processExchange_eq_ok still completes
  obtain ⟨responds, record, state, load, awaits, idle, rfl⟩ :=
    exchanged.response_cases.resolve_right fun same => stored (becomes.store_eq.trans same.1)
  have ready : done.Permissive := becomes.permissive still
  have behind : ¬ done.store.Fronts address message.sequence := by
    rw [becomes.store_eq]
    exact not_fronts_of_promoted idle _
  have held : done.store.pins.get? address.name = some message.identity := by
    rw [becomes.store_eq]
    exact Store.pins_pin_self ..
  have performed : (host.through before).perform
      (Operation.processExchange address limits message).run = (.ok (.answer none), done) :=
    Host.perform_bind_of_ok completes _
  have readable : done.store.Readable := by
    rw [← Host.act_asks performed, ← Host.through_concat]
    exact Host.readable_through permissive (Store.readable_of_empty sessionless) _
  -- Everything that the record awaits was opened before, and once each.
  have within := Host.awaitsWithin_through permissive
    (Host.awaitsWithin_of_sessionless sessionless address) before record load
  rw [List.nil_append, SessionRecord.awaited_eq, awaits] at within
  obtain ⟨known, unopened⟩ := Host.unopened_after performed distinct
  have fresh := unopened _ (within.subset List.mem_cons_self)
  refine ⟨?_, Host.trusts_through_asks ready held, ?_, ?_⟩
  · intro unrecalled again
    apply perform_unawaited again (Host.permissive_through ready later) responds
    · exact Host.readable_through ready readable later
    · exact Host.not_fronts_through ready behind fresh unrecalled
  · rintro early deed late rfl recalls
    have between := Host.permissive_through ready early
    refine ⟨Host.decrypt_of_recalls between recalls ?_, ?_⟩
    · rw [Host.sequences_append] at fresh
      exact fun member => fresh (List.mem_append_right _ (List.mem_append_left _ member))
    · intro trusted again
      exact perform_awaited again (Host.permissive_act between deed) responds trusted recalls.2.2
  · intro found also unestablished
    cases load.symm.trans also
    apply Host.not_recalled_of_forgotten ready _
      (List.nodup_cons.mp (SessionRecord.nodup_of_subperm within known)).1 fresh
    intro other loaded
    rw [becomes.store_eq, Store.loadSession_storeSession_self] at loaded
    cases loaded
    have forgotten : (record.promote state limits.archivedStates).awaited =
        record.previous.filterMap SessionState.awaits :=
      SessionRecord.awaited_promote_of_unestablished idle unestablished _
    exact forgotten ▸ List.Subperm.refl _

namespace Scene

attribute [local instance] plainSuite

/-- Bob's response to the key exchange that Alice has opened. -/
def response (sequence : UInt32) : KeyExchangeMessage :=
  { crossing with sequence, flags := KeyExchangeMessage.responseFlag }

variable {run : Run} {draws : Nat} {record : SessionRecord} {emitted : List Position}
  {drawn : List PublicKey}

theorem isSimultaneous_response (sequence : UInt32) :
    (response sequence).isSimultaneous = false := by
  change decide (KeyExchangeMessage.responseFlag &&& KeyExchangeMessage.simultaneousFlag ≠ 0) =
    false
  decide

theorem responds_response (sequence : UInt32) : Responds (response sequence) where
  answering := by
    change decide (KeyExchangeMessage.responseFlag &&& KeyExchangeMessage.initiateFlag ≠ 0) = false
    decide
  response := by
    change decide (KeyExchangeMessage.responseFlag &&& KeyExchangeMessage.responseFlag ≠ 0) = true
    decide
  signed := by
    have genuine : (response sequence).verifies = true := rfl
    unfold checkSigned
    rw [genuine]
    rfl

/-- Alice completes her key exchange with a response for as long as it is pending in front. -/
theorem Stage.completes (stage : Stage run draws record emitted drawn) {sequence : UInt32}
    (pending : record.current.pendingExchange = some (waiting sequence)) :
    run.host.perform (processExchange bobAddress .standard (response sequence)) =
        (.ok none, (run.next (.processExchange bobAddress .standard (response sequence))).host) ∧
      (run.next (.processExchange bobAddress .standard (response sequence))).host.store ≠
        run.host.store ∧
      Stage (run.next (.processExchange bobAddress .standard (response sequence))) draws
        (record.promote answering 40).settled emitted drawn := by
  have role : Negotiation.isInitiator (waiting sequence).baseKey.publicKey
      (response sequence).baseKey = false := by
    change Negotiation.isInitiator (KeyPair.drawnAt aliceDraws 3).publicKey crossing.baseKey = false
    decide
  have fronts : run.host.store.Fronts bobAddress (response sequence).sequence :=
    ⟨record, stage.load, by unfold SessionState.awaits; rw [pending]; rfl⟩
  obtain ⟨after, gives, changed⟩ := perform_awaited .standard stage.permissive
    (responds_response sequence) stage.trusted fronts
  obtain ⟨_, store, draws, exchanged, becomes⟩ := processExchange_eq_ok stage.permissive gives
  have performed : run.host.perform
      (Operation.processExchange bobAddress .standard (response sequence)).run =
        (.ok (.answer none), after) := Host.perform_bind_of_ok gives _
  have load := stage.load
  cases exchanged with
  | @completed found other answering also wanted =>
    cases load.symm.trans also
    cases pending.symm.trans wanted
    have none : exchangeDraws (waiting sequence).baseKey (response sequence) = 0 :=
      congrArg (fun ours : Bool => if ours then 1 else 0) role
    rw [exchangeState_of_responder _ _ role, none, stage.identity, stage.registered] at becomes
    have pairs : ∀ before last, (Operation.processExchange bobAddress .standard
        (response sequence)).keyPlaces before last = List.range' before (last - before) :=
      fun _ _ => rfl
    have next := stage.stored performed pairs becomes (.inr rfl)
    rw [Run.next_eq performed] at next ⊢
    exact ⟨gives, changed, by rw [← List.append_nil emitted]; exact next⟩
  | @passed found answering also unmatched =>
    cases load.symm.trans also
    exact absurd rfl (unmatched _ pending)

theorem host_next (run : Run) (operation : Operation) :
    (run.next operation).host = run.host.act (.asks operation) :=
  rfl

/-- Alice opens a session of the older version with Bob, and then a key exchange. -/
def renewing : List Deed :=
  [.asks (.processBundle bobAddress .standard olderBundle), .asks (.initiate bobAddress)]

/-- She then sends him something. -/
def speaking : List Deed :=
  [.asks (.encrypt bobAddress [0x68, 0x69])]

/-- Alice before she has met Bob. -/
def aliceHost : Host :=
  .start (.ofIdentity alice 7) aliceDraws

theorem stage_renewing :
    ∃ run sequence drawn, run.host = aliceHost.through renewing ∧ Stage run 5
      ⟨{ olderState with pendingExchange := some (waiting sequence) }, [], false⟩ [] drawn := by
  obtain ⟨sequence, waited⟩ := stage_opened.initiated
  refine ⟨_, sequence, _, ?_, waited⟩
  unfold Host.through renewing
  rw [host_next, host_next, List.foldl_cons, List.foldl_cons, List.foldl_nil]
  rfl

/-- Where later deeds open no key exchange, the sequence of this one is the only one. -/
theorem nodup_renewing (later : List Deed) (unopened : later.countP Deed.initiates = 0) :
    (aliceHost.sequences (renewing ++ later)).Nodup := by
  have permissive : aliceHost.Permissive := Host.permissive_start _ _
  have few := Host.length_sequences_le permissive (renewing ++ later)
  rw [List.countP_append, unopened] at few
  generalize aliceHost.sequences (renewing ++ later) = sequences at few
  rcases sequences with _ | ⟨sequence, _ | ⟨other, more⟩⟩
  · exact List.nodup_nil
  · exact List.pairwise_singleton _ _
  · change more.length + 2 ≤ 1 at few
    omega

/-- Alice has sent something in the new session when Bob's response comes once more.  It is
stale, and changes nothing. -/
theorem second_response_stale :
    ∃ (message : KeyExchangeMessage) (done after : Host),
      (aliceHost.through renewing).perform (processExchange bobAddress .standard message) =
          (.ok none, done) ∧
        done.store ≠ (aliceHost.through renewing).store ∧
        (aliceHost.sequences (renewing ++
          .asks (.processExchange bobAddress .standard message) :: speaking)).Nodup ∧
        (done.through speaking).perform (processExchange bobAddress .standard message) =
          (.error (.staleExchange message.sequence), after) ∧
        after.store = (done.through speaking).store := by
  obtain ⟨run, sequence, _, reached, stage⟩ := stage_renewing
  obtain ⟨gives, changed, _⟩ := stage.completes rfl
  rw [reached] at gives changed
  have distinct := nodup_renewing
    (.asks (.processExchange bobAddress .standard (response sequence)) :: speaking) rfl
  obtain ⟨refused, trusts, recalled, _⟩ := response_completes_once
    (Host.permissive_start _ _) rfl gives changed distinct
  have trusted := trusts fun deed member => ⟨_, List.mem_singleton.mp member⟩
  -- Only a decryption could recall the old session, and there is none.
  obtain ⟨after, answer, same⟩ := refused (by
    rintro ⟨early, deed, late, split, recalls⟩
    obtain ⟨⟨_, _, _, decrypts⟩, _⟩ := recalled early deed late split recalls
    have member : deed ∈ speaking := by
      rw [split]
      exact List.mem_append_right _ List.mem_cons_self
    rw [decrypts] at member
    cases List.mem_singleton.mp member) .standard
  refine ⟨response sequence, _, after, gives, changed, distinct, ?_, same⟩
  rw [answer]
  unfold refusal
  rw [if_pos trusted, isSimultaneous_response]
  rfl

/-- A late message of the old session comes between the two deliveries of the response.  It
puts the old state back in front, and Alice completes the same key exchange twice. -/
theorem response_completes_twice :
    ∃ (host done after : Host) (before later : List Deed) (address : Address) (limits : Limits)
      (message : KeyExchangeMessage),
      host.Permissive ∧ host.store.sessions = .empty ∧
        (host.through before).perform (processExchange address limits message) =
          (.ok none, done) ∧
        done.store ≠ (host.through before).store ∧
        (host.sequences
          (before ++ .asks (.processExchange address limits message) :: later)).Nodup ∧
        (done.through later).perform (processExchange address limits message) =
          (.ok none, after) ∧
        after.store ≠ (done.through later).store := by
  obtain ⟨run, sequence, _, reached, stage⟩ := stage_renewing
  obtain ⟨gives, changed, completed⟩ := stage.completes rfl
  obtain ⟨result, pending, late⟩ := completed.late rfl rfl rfl rfl
  obtain ⟨again, also, _⟩ := late.completes pending
  rw [host_next] at again also
  rw [reached] at gives changed
  exact ⟨aliceHost, _, _, renewing, [.asks (.decrypt bobAddress .standard (fun _ => .ok ())
    (.whisper Scene.late))], bobAddress, .standard, response sequence,
    Host.permissive_start _ _, rfl, gives, changed, nodup_renewing _ rfl, again, also⟩

end Scene
end DoubleRatchet
