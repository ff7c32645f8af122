import DoubleRatchet.Proofs.Completion
import DoubleRatchet.Proofs.Engine.Traffic

namespace DoubleRatchet

/-!
# A pending exchange survives traffic, unless an archived state steps in front of it

Between the opening of a key exchange and the response to it messages may go to and fro.
They do not lose the exchange: some state of the record holds its keys all the time.  But
a response is only compared with what the current state awaits.  As long as every message
is taken by the current state, the response is accepted, and a session of the pending keys
comes to the front.  A message that an archived state takes puts that state in front, which
awaits nothing, and the response that comes next is refused as stale.
-/

open Establishment

namespace Establishment

variable [Suite] {host : Host} {address : Address} {message : KeyExchangeMessage}

variable (address) in
/-- A response that is awaited in front makes a session of the pending keys current. -/
theorem perform_awaited_state (permissive : host.Permissive) (responds : Responds message)
    (trusted : host.store.trusts address.name message.identity = true) {record : SessionRecord}
    {pending : PendingExchange} (load : host.store.loadSession address = .ok record)
    (waiting : record.current.pendingExchange = some pending)
    (matching : pending.sequence = message.sequence) (limits : Limits) :
    ∃ after result, host.perform (processExchange address limits message) = (.ok none, after) ∧
      after.store.loadSession address = .ok result ∧
      result.current = exchangeState host.store message pending.baseKey pending.ratchetKey
        host.trace.nextPair := by
  obtain ⟨after, gives⟩ := perform_completing limits permissive trusted responds.answering
    responds.response responds.signed load waiting matching
  obtain ⟨_, store, draws, exchanged, becomes⟩ := processExchange_eq_ok permissive gives
  refine ⟨after, ?_⟩
  cases exchanged with
  | completed answering loaded wanted =>
    cases load.symm.trans loaded
    cases waiting.symm.trans wanted
    refine ⟨(record.promote (exchangeState host.store message pending.baseKey pending.ratchetKey
      host.trace.nextPair) limits.archivedStates).settled, gives, ?_, rfl⟩
    rw [becomes.store_eq]
    exact Store.loadSession_storeSession_self ..
  | passed answering loaded unmatched =>
    cases load.symm.trans loaded
    exact absurd matching (unmatched pending waiting)

end Establishment

/-- The party has opened a key exchange, and then exchanges messages with the device.

The record holds the pending keys all along.  If no message is taken by an archived state,
and in particular if nothing was archived, a response is accepted and makes a session of
these keys current.  If another state is in front when the response comes, it is refused
or passed over, and the store stays as it is. -/
theorem response_accepted_after_traffic [Suite] {limits : Limits} {host opened : Host}
    {address : Address} {opening : KeyExchangeMessage} {traffic : List Deed}
    (permissive : host.Permissive) (reachable : Store.Reachable limits host.store)
    (opens : host.perform (initiate address) = (.ok opening, opened))
    (talks : ∀ deed ∈ traffic, deed.Talks limits address) :
    ∃ pending : PendingExchange, pending.sequence = opening.sequence ∧
      pending.baseKey.publicKey = opening.baseKey ∧ pending.baseKey.Matched ∧
      pending.ratchetKey.publicKey = opening.ratchetKey ∧ pending.ratchetKey.Matched ∧
      (∃ record, (opened.through traffic).store.loadSession address = .ok record ∧
        record.Holds pending) ∧
      (∀ record, host.store.loadSession address = .ok record → record.previous = [] →
        ¬ opened.Switched address traffic) ∧
      ∀ response : KeyExchangeMessage, Responds response → response.sequence = opening.sequence →
        (opened.through traffic).store.trusts address.name response.identity = true →
        ∀ chosen,
          (¬ opened.Switched address traffic → ∃ after result,
            (opened.through traffic).perform (processExchange address chosen response) =
                (.ok none, after) ∧
              after.store.loadSession address = .ok result ∧
              result.current = exchangeState (opened.through traffic).store response
                pending.baseKey pending.ratchetKey (opened.through traffic).trace.nextPair) ∧
          (¬ (opened.through traffic).store.Fronts address opening.sequence → ∃ after,
            (opened.through traffic).perform (processExchange address chosen response) =
                (refusal (opened.through traffic).store address response, after) ∧
              after.store = (opened.through traffic).store) := by
  obtain ⟨record, sequence, skipped, load, rfl, _, becomes⟩ := initiate_eq_ok permissive opens
  let pending : PendingExchange := ⟨sequence,
    .drawnAt host.trace.entropy (host.trace.drawn + skipped),
    .drawnAt host.trace.entropy (host.trace.drawn + skipped + 1)⟩
  let awaiting : SessionRecord := { record with
    current := { record.current with pendingExchange := some pending } }
  have ready : opened.Permissive := becomes.permissive permissive
  have still : (opened.through traffic).Permissive := Host.permissive_through ready traffic
  have loaded : opened.store.loadSession address = .ok awaiting.settled := by
    rw [becomes.store_eq]
    exact Store.loadSession_storeSession_self ..
  have before : record.Filed limits :=
    reachable.every (SessionRecord.invariant_filed limits) address record load
  have filed : awaiting.settled.Filed limits := ⟨before.bounded, before.headed⟩
  obtain ⟨last, found, holds⟩ := Host.holds_through ready loaded filed
    ⟨awaiting.current, List.mem_cons_self, rfl⟩ talks
  refine ⟨pending, rfl, rfl, rfl, rfl, rfl, ⟨last, found, holds⟩, ?_, ?_⟩
  · intro other also alone
    cases load.symm.trans also
    exact Host.not_switched_of_unarchived ready loaded alone talks
  · intro response responds same trusted chosen
    constructor
    · intro unswitched
      obtain ⟨result, final, keeps⟩ := Host.keeps_through ready loaded talks unswitched
      exact perform_awaited_state address still responds trusted final keeps.pending_eq same.symm
        chosen
    · intro behind
      obtain ⟨after, gives, unchanged⟩ := perform_unmatched chosen still responds.answering
        responds.response found fun other waiting matching => behind
          ⟨last, found, Option.map_eq_some_iff.mpr ⟨other, waiting, matching.trans same⟩⟩
      exact ⟨after, gives, unchanged.store_eq⟩

namespace Scene

attribute [local instance] plainSuite

/-- The bundle of the newer version that Bob has published as well. -/
def newerBundle : Bundle :=
  .ofKeys 8 1 bob (some signedPreKey) none

/-- What it offers. -/
def newerOffer : Offer :=
  ⟨currentVersion, signedPreKey.pair.publicKey, none⟩

/-- Alice after she has opened a session of the older version. -/
def acquainted : Host :=
  aliceHost.act (.asks (.processBundle bobAddress .standard olderBundle))

/-- Alice after she has opened one of the newer version on top of it. -/
def reacquainted : Host :=
  acquainted.act (.asks (.processBundle bobAddress .standard newerBundle))

/-- Alice knows Bob, and has a record of him. -/
structure Knows (host : Host) (record : SessionRecord) : Prop where
  permissive : host.Permissive
  reachable : Store.Reachable .standard host.store
  pinned : host.store.pins.get? "bob" = some bob.identity
  load : host.store.loadSession bobAddress = .ok record

/-- A session that is opened from a bundle of Bob comes to the front. -/
theorem knows_of_processBundle {host : Host} {record : SessionRecord} {bundle : Bundle}
    {offer : Offer} (permissive : host.Permissive)
    (reachable : Store.Reachable .standard host.store)
    (load : host.store.loadSession bobAddress = .ok record)
    (theirs : bundle.identity = bob.identity)
    (trusted : host.store.trusts "bob" bob.identity = true)
    (offered : Offer.ofBundle bundle = .ok offer) :
    Knows (host.act (.asks (.processBundle bobAddress .standard bundle)))
      (record.promote (bundleState host.store bundle offer host.trace.nextPair
        (.drawnAt host.trace.entropy (host.trace.drawn + 1))) 40).settled := by
  have accepted : host.store.trusts bobAddress.name bundle.identity = true := by
    rw [theirs]
    exact trusted
  obtain ⟨after, gives, becomes⟩ := perform_processBundle .standard permissive accepted offered load
  have performed : host.perform (Operation.processBundle bobAddress .standard bundle).run =
      (.ok .done, after) := Host.perform_bind_of_ok gives _
  have under : (Operation.processBundle bobAddress .standard bundle).Under .standard := rfl
  rw [Host.act_asks performed]
  refine ⟨becomes.permissive permissive, .operated reachable permissive under performed, ?_, ?_⟩
  · rw [becomes.store_eq, theirs]
    exact Store.pins_pin_self ..
  · rw [becomes.store_eq]
    exact Store.loadSession_storeSession_self ..

theorem knows_acquainted : Knows acquainted ⟨olderState, [], false⟩ := by
  have offered : Offer.ofBundle olderBundle = .ok olderOffer := rfl
  exact knows_of_processBundle (Host.permissive_start _ _) (.bare rfl)
    (Store.loadSession_eq_new rfl) rfl (Store.trusts_of_unpinned rfl _) offered

theorem Knows.trusts {host : Host} {record : SessionRecord} (knows : Knows host record) :
    host.store.trusts "bob" bob.identity = true := by
  unfold Store.trusts
  rw [knows.pinned]
  simp

theorem knows_reacquainted : ∃ newer, newer.established = true ∧ newer.version = currentVersion ∧
    Knows reacquainted ⟨newer, [olderState], false⟩ := by
  have offered : Offer.ofBundle newerBundle = .ok newerOffer := rfl
  refine ⟨_, ?_, ?_, knows_of_processBundle knows_acquainted.permissive knows_acquainted.reachable
    knows_acquainted.load rfl knows_acquainted.trusts offered⟩
  · rfl
  · rfl

/-- Alice opens a key exchange with Bob, and awaits his response in front. -/
theorem Knows.initiated {host : Host} {record : SessionRecord} (knows : Knows host record) :
    ∃ opening opened pending, host.perform (initiate bobAddress) = (.ok opening, opened) ∧
      Knows opened ⟨{ record.current with pendingExchange := some pending }, record.previous,
        false⟩ := by
  obtain ⟨opening, opened, opens⟩ := perform_initiate knows.permissive knows.load
  obtain ⟨found, sequence, skipped, load, _, _, becomes⟩ :=
    initiate_eq_ok knows.permissive opens
  cases knows.load.symm.trans load
  have performed : host.perform (Operation.initiate bobAddress).run =
      (.ok (.opening opening), opened) := Host.perform_bind_of_ok opens _
  have under : (Operation.initiate bobAddress).Under .standard := trivial
  refine ⟨opening, opened, ⟨sequence,
    .drawnAt host.trace.entropy (host.trace.drawn + skipped),
    .drawnAt host.trace.entropy (host.trace.drawn + skipped + 1)⟩, opens,
    becomes.permissive knows.permissive,
    .operated knows.reachable knows.permissive under performed, ?_, ?_⟩
  · rw [becomes.store_eq]
    exact knows.pinned
  · rw [becomes.store_eq]
    exact Store.loadSession_storeSession_self ..

/-- Traffic does not make Alice distrust Bob. -/
theorem Knows.trusts_through {host : Host} {record : SessionRecord} {deeds : List Deed}
    (knows : Knows host record) (talks : ∀ deed ∈ deeds, deed.Talks .standard bobAddress) :
    (host.through deeds).store.trusts "bob" bob.identity = true :=
  Host.trusts_through_asks knows.permissive knows.pinned
    fun deed member => (talks deed member).asks

/-- Bob's late message comes. -/
def listening : Deed :=
  .asks (.decrypt bobAddress .standard (fun _ => .ok ()) (.whisper late))

theorem talks_listening : listening.Talks .standard bobAddress :=
  ⟨rfl, rfl⟩

/-- Alice sends Bob something, and opens what he has sent her before. -/
def chatting : List Deed :=
  [.asks (.encrypt bobAddress [0x68, 0x69]), listening]

theorem talks_chatting : ∀ deed ∈ chatting, deed.Talks .standard bobAddress := by
  intro deed member
  rcases List.mem_cons.mp member with rfl | member
  · exact rfl
  · rw [List.mem_singleton.mp member]
    exact talks_listening

/-- Alice has one session with Bob and opens a key exchange.  Whatever they say to each other
before his response comes, she accepts it. -/
theorem response_accepted_after_chatting :
    ∃ (opening : KeyExchangeMessage) (opened after : Host) (pending : PendingExchange)
      (result : SessionRecord),
      acquainted.perform (initiate bobAddress) = (.ok opening, opened) ∧
        pending.baseKey.publicKey = opening.baseKey ∧
        pending.ratchetKey.publicKey = opening.ratchetKey ∧
        (opened.through chatting).perform
            (processExchange bobAddress .standard (response opening.sequence)) =
          (.ok none, after) ∧
        after.store.loadSession bobAddress = .ok result ∧
        result.current = exchangeState (opened.through chatting).store
          (response opening.sequence) pending.baseKey pending.ratchetKey
          (opened.through chatting).trace.nextPair := by
  obtain ⟨opening, opened, _, opens, knows⟩ := knows_acquainted.initiated
  obtain ⟨pending, _, base, _, ratchet, _, _, alone, responses⟩ := response_accepted_after_traffic
    knows_acquainted.permissive knows_acquainted.reachable opens talks_chatting
  obtain ⟨accepted, _⟩ := responses (response opening.sequence) (responds_response _) rfl
    (knows.trusts_through talks_chatting) .standard
  obtain ⟨after, result, gives, load, front⟩ := accepted (alone _ knows_acquainted.load rfl)
  exact ⟨opening, opened, after, pending, result, opens, base, ratchet, gives, load, front⟩

/-- Where a state of the newer version is in front, the late message puts the older session
back in its place, which awaits nothing. -/
theorem Knows.hears {host : Host} {newer : SessionState} (established : newer.established = true)
    (version : newer.version = currentVersion)
    (knows : Knows host ⟨newer, [olderState], false⟩) :
    ∃ result, (host.act listening).store.loadSession bobAddress = .ok result ∧
      result.current.pendingExchange = none := by
  let record : SessionRecord := ⟨newer, [olderState], false⟩
  have refused : record.current.openMessage .standard bobAddress late host.trace =
      (.error (.invalid (.otherVersion oldestVersion currentVersion)), host.trace) := by
    have different : late.version ≠ newer.version := by
      rw [version]
      decide
    change newer.openMessage .standard bobAddress late host.trace = _
    unfold SessionState.openMessage
    rw [established, if_pos different, version]
    rfl
  obtain ⟨taken, takes, known, pending⟩ := late_taken none host.trace.nextPair
  have older : olderState.Takes .standard host.trace.nextPair late [0x6c, 0x61, 0x74, 0x65] taken :=
    takes
  have archive : record.previous = [olderState] := rfl
  obtain ⟨later, opening, continues⟩ :=
    SessionRecord.openMessage_of_archived_takes refused archive older
  obtain ⟨after, gives, becomes⟩ := Transport.perform_decryptWhisper_of_openMessage
    knows.permissive knows.load established opening continues known knows.trusts
  have performed : host.perform (Operation.decrypt bobAddress .standard (fun _ => .ok ())
      (.whisper late)).run = (.ok (.plaintext [0x6c, 0x61, 0x74, 0x65]), after) :=
    Host.perform_bind_of_ok gives _
  refine ⟨((record.removePrevious 0).promote taken 40).settled, ?_, pending⟩
  unfold listening
  rw [Host.act_asks performed, becomes.store_eq]
  exact Store.loadSession_storeSession_self ..

/-- Alice has a session on top of an older one and opens a key exchange.  A late message of
the older session comes before Bob's response, and she refuses the response as stale. -/
theorem late_message_hides_exchange :
    ∃ (host opened after : Host) (opening answer : KeyExchangeMessage) (traffic : List Deed)
      (address : Address) (limits : Limits),
      host.Permissive ∧ Store.Reachable limits host.store ∧
        host.perform (initiate address) = (.ok opening, opened) ∧
        (∀ deed ∈ traffic, deed.Talks limits address) ∧ Responds answer ∧
        answer.sequence = opening.sequence ∧
        (opened.through traffic).store.trusts address.name answer.identity = true ∧
        (opened.through traffic).perform (processExchange address limits answer) =
          (.error (.staleExchange answer.sequence), after) ∧
        after.store = (opened.through traffic).store := by
  obtain ⟨newer, established, version, knows⟩ := knows_reacquainted
  obtain ⟨opening, opened, pending, opens, waits⟩ := knows.initiated
  let waiting : SessionState := { newer with pendingExchange := some pending }
  have still : waiting.established = true ∧ waiting.version = currentVersion :=
    ⟨established, version⟩
  obtain ⟨result, load, idle⟩ := Knows.hears still.1 still.2 waits
  have talks : ∀ deed ∈ [listening], deed.Talks .standard bobAddress := by
    intro deed member
    rw [List.mem_singleton.mp member]
    exact talks_listening
  have trusted : (opened.through [listening]).store.trusts bobAddress.name
      (response opening.sequence).identity = true := waits.trusts_through talks
  obtain ⟨after, gives, becomes⟩ := perform_unmatched .standard
    (Host.permissive_through waits.permissive [listening])
    (responds_response opening.sequence).answering (responds_response opening.sequence).response
    load fun _ waiting => nomatch idle.symm.trans waiting
  refine ⟨reacquainted, opened, after, opening, response opening.sequence, [listening], bobAddress,
    .standard, knows.permissive, knows.reachable, opens, talks, responds_response _, rfl, trusted,
    ?_, becomes.store_eq⟩
  have refuses : refusal (opened.through [listening]).store bobAddress (response opening.sequence) =
      .error (.staleExchange (response opening.sequence).sequence) := by
    unfold refusal
    rw [if_pos trusted, isSimultaneous_response]
    rfl
  rw [← refuses]
  exact gives

end Scene
end DoubleRatchet
