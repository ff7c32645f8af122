import Mathlib.Data.List.Nodup
import DoubleRatchet.Proofs.Message.Reading
import DoubleRatchet.Proofs.Ratchet.Tracking
import DoubleRatchet.Proofs.Session.Agreement
import DoubleRatchet.Proofs.Session.Receivers
import DoubleRatchet.Proofs.Session.Sealing

namespace DoubleRatchet

/-!
# The ladder of a session

The agreement ratchet climbs one ladder that both parties share.  On every rung stands
one ratchet pair, and the parties take turns: the pair at the bottom is the pre-key of
the responder, the next one was drawn by the initiator, and so on.  Each rung has a
root and a chain, made from the root below it and from the pairs of both rungs, which
either party can compute from its own half.

A party stands on one rung.  It sends on the chain of that rung and receives on the
chains of the rungs below that belong to the other party, of which it keeps the newest.
`Stands` says so of a state.  Taking a message of a rung below leaves the party where
it is, and taking one of the rung above lifts it over that rung to the one after.
-/

/-- The pairs of both parties in turn, and the secrets that the session started from. -/
structure Ladder where
  pair : Nat -> KeyPair
  secrets : Bytes

namespace Ladder

variable [Suite]

/-- The root and the chain of a rung. -/
def link (ladder : Ladder) : Nat -> RootKey × ChainKey
  | 0 => RootKey.initial ladder.secrets
  | rung + 1 =>
    (ladder.link rung).1.createChain (ladder.pair rung).publicKey (ladder.pair (rung + 1))

/-- The root of a rung. -/
def root (ladder : Ladder) (rung : Nat) : RootKey :=
  (ladder.link rung).1

/-- The chain of a rung, before its first message. -/
def chain (ladder : Ladder) (rung : Nat) : ChainKey :=
  (ladder.link rung).2

omit [Suite] in
/-- The public ratchet key of a rung. -/
def key (ladder : Ladder) (rung : Nat) : PublicKey :=
  (ladder.pair rung).publicKey

/-- Every pair of the ladder is matched. -/
def Matched (ladder : Ladder) : Prop :=
  ∀ rung, (ladder.pair rung).Matched

omit [Suite] in
/-- Up to a rung, the keys of each party differ. -/
def Distinct (ladder : Ladder) (top : Nat) : Prop :=
  ∀ first second, first ≤ top → second ≤ top → first % 2 = second % 2 →
    ladder.key first = ladder.key second → first = second

omit [Suite] in
/-- Two rungs higher, the keys of the other party below are those below and the one above. -/
theorem map_key_range_succ (ladder : Ladder) (rung count : Nat) :
    ((List.range (count + 1)).map fun place => ladder.key (rung + 2 - 1 - 2 * place)) =
      ladder.key (rung + 1) ::
        (List.range count).map fun place => ladder.key (rung - 1 - 2 * place) := by
  rw [List.range_succ_eq_map, List.map_cons, List.map_map]
  congr 1
  apply List.map_congr_left
  intro place _
  have same : rung + 2 - 1 - 2 * place.succ = rung - 1 - 2 * place := by omega
  exact congrArg ladder.key same

theorem index_chain (ladder : Ladder) (rung : Nat) : (ladder.chain rung).index = 0 := by
  cases rung with
  | zero => rfl
  | succ rung => rfl

end Ladder

/-- The rung above is reached from the key above and the own pair as well. -/
theorem Ladder.createChain_above [Suite] {ladder : Ladder}
    (symmetric : Suite.AgreementSymmetric ‹Suite›) (matched : ladder.Matched) (rung : Nat) :
    (ladder.root rung).createChain (ladder.key (rung + 1)) (ladder.pair rung) =
      (ladder.root (rung + 1), ladder.chain (rung + 1)) :=
  RootKey.createChain_comm symmetric (matched (rung + 1)) (matched rung) (ladder.root rung)

namespace SessionState

variable [Suite]

omit [Suite] in
/-- The state is under the terms. -/
structure Under (terms : Terms) (state : SessionState) : Prop where
  version_eq : state.version = terms.version
  local_eq : state.localIdentity = some terms.ours
  remote_eq : state.remoteIdentity = some terms.theirs

/-- The state of a party that stands on a rung, has sent a number of messages on it, and
was served the given counters on each rung below that belongs to the other party.  Of the
chains of those rungs it keeps at least as many as it may, the newest ones. -/
structure Stands (ladder : Ladder) (bound rung sent : Nat) (counters : Nat -> List Nat)
    (state : SessionState) : Prop where
  root_eq : state.rootKey = some (ladder.root rung)
  sender_eq : state.sender = some ⟨ladder.pair rung, (ladder.chain rung).advance sent⟩
  keys_eq : ∃ kept, (∀ place < bound, 2 * place < rung → place < kept) ∧ 2 * kept ≤ rung + 1 ∧
    state.receivers.map (·.ratchetKey) =
      ((List.range kept).map fun place => ladder.key (rung - 1 - 2 * place)).reverse
  tracks : ∀ place chain, 2 * place < rung →
    state.receiver? (ladder.key (rung - 1 - 2 * place)) = some chain →
      chain.Tracks (ladder.chain (rung - 1 - 2 * place)) (counters (rung - 1 - 2 * place))

end SessionState

/-- The message was sealed for a text on a rung of the ladder, by the party that the
terms are those of. -/
def Ladder.Seals [Suite] (ladder : Ladder) (terms : Terms) (rung : Nat) (counter : UInt32)
    (text : Bytes) (message : WhisperMessage) : Prop :=
  ∃ previousCounter body,
    ((ladder.chain rung).advance counter.toNat).messageKeys.seal? text = some body ∧
    message = WhisperMessage.create terms.version
      ((ladder.chain rung).advance counter.toNat).messageKeys.macKey (ladder.key rung) counter
      previousCounter body terms.ours terms.theirs

/-- The message names its place. -/
theorem Ladder.Seals.position [Suite] {ladder : Ladder} {terms : Terms} {rung : Nat}
    {counter : UInt32} {text : Bytes} {message : WhisperMessage}
    (seals : ladder.Seals terms rung counter text message) :
    message.ratchetKey = ladder.key rung ∧ message.counter = counter := by
  obtain ⟨previousCounter, body, _, rfl⟩ := seals
  exact ⟨rfl, rfl⟩

namespace SessionState

variable [Suite] {ladder : Ladder} {bound rung count top : Nat} {counters after : Nat -> List Nat}
  {state taken : SessionState} {terms : Terms} {limits : Limits} {message : WhisperMessage}
  {text : Bytes} {counter : UInt32}

/-! ## Which chains a state keeps -/

theorem Stands.mem_keys (stands : state.Stands ladder bound rung count counters) {key : PublicKey}
    (member : key ∈ state.receivers.map (·.ratchetKey)) :
    ∃ place, 2 * place < rung ∧ key = ladder.key (rung - 1 - 2 * place) := by
  obtain ⟨kept, _, within, keys⟩ := stands.keys_eq
  rw [keys, List.mem_reverse, List.mem_map] at member
  obtain ⟨place, inside, same⟩ := member
  have below := List.mem_range.mp inside
  exact ⟨place, by omega, same.symm⟩

/-- The chains that are kept are for different keys. -/
theorem Stands.distinct (stands : state.Stands ladder bound rung count counters)
    (distinct : ladder.Distinct top) (reached : rung ≤ top + 1) :
    (state.receivers.map (·.ratchetKey)).Nodup := by
  obtain ⟨kept, _, within, keys⟩ := stands.keys_eq
  rw [keys, List.nodup_reverse]
  apply List.Nodup.map_on
  · intro first inside second also same
    have here := List.mem_range.mp inside
    have there := List.mem_range.mp also
    have equal := distinct _ _ (by omega) (by omega) (by omega) same
    omega
  · exact List.nodup_range

/-- A chain that is new enough is kept. -/
theorem Stands.receiver?_of_recent (stands : state.Stands ladder bound rung count counters)
    {place : Nat} (below : 2 * place < rung) (recent : place < bound) :
    ∃ chain, state.receiver? (ladder.key (rung - 1 - 2 * place)) = some chain := by
  obtain ⟨kept, room, _, keys⟩ := stands.keys_eq
  have member : ladder.key (rung - 1 - 2 * place) ∈ state.receivers.map (·.ratchetKey) := by
    rw [keys, List.mem_reverse]
    exact List.mem_map.mpr ⟨place, List.mem_range.mpr (room place recent below), rfl⟩
  apply Option.isSome_iff_exists.mp
  rw [Option.isSome_iff_ne_none]
  intro absent
  exact receiver?_eq_none_iff.mp absent member

/-- A state has no chain yet for the key above. -/
theorem Stands.receiver?_above (stands : state.Stands ladder bound rung count counters)
    (distinct : ladder.Distinct top) (above : rung + 1 ≤ top) :
    state.receiver? (ladder.key (rung + 1)) = none := by
  rw [receiver?_eq_none_iff]
  intro member
  obtain ⟨place, below, same⟩ := stands.mem_keys member
  have equal := distinct _ _ above (by omega) (by omega) same
  omega

theorem Stands.established (stands : state.Stands ladder bound rung count counters) :
    state.established = true := by
  change state.sender.isSome = true
  rw [stands.sender_eq]
  rfl

/-- Only the counters of the rungs of the other party below matter. -/
theorem Stands.congr (stands : state.Stands ladder bound rung count counters)
    (same : ∀ place, 2 * place < rung →
      after (rung - 1 - 2 * place) = counters (rung - 1 - 2 * place)) :
    state.Stands ladder bound rung count after := by
  refine ⟨stands.root_eq, stands.sender_eq, stands.keys_eq, ?_⟩
  intro place chain below found
  rw [same place below]
  exact stands.tracks place chain below found

/-- One more message is sent. -/
theorem Stands.sent (stands : state.Stands ladder bound rung count counters) {sender : SenderChain}
    (sending : state.sender = some sender) :
    (state.sent sender).Stands ladder bound rung (count + 1) counters := by
  cases sending.symm.trans stands.sender_eq
  refine ⟨stands.root_eq, ?_, stands.keys_eq, stands.tracks⟩
  rw [ChainKey.advance_succ]
  rfl

/-! ## Climbing -/

omit [Suite] in
/-- The newest entries of a list that is read from its end. -/
theorem drop_reverse_eq {α : Type} (entries : List α) (bound : Nat) :
    entries.reverse.drop (entries.reverse.length - bound) =
      (entries.take (min bound entries.length)).reverse := by
  rw [List.drop_reverse, List.length_reverse]
  congr 2
  omega

/-- Behind the addition of a chain for the key above, the newest chains are kept. -/
theorem Stands.keys_addReceiver (stands : state.Stands ladder bound rung count counters)
    (chainKey : ChainKey) :
    ∃ kept, (∀ place < bound, 2 * place < rung + 2 → place < kept) ∧ 2 * kept ≤ rung + 2 + 1 ∧
      (state.addReceiver (ladder.key (rung + 1)) chainKey bound).receivers.map (·.ratchetKey) =
        ((List.range kept).map fun place => ladder.key (rung + 2 - 1 - 2 * place)).reverse := by
  obtain ⟨kept, room, within, keys⟩ := stands.keys_eq
  refine ⟨min bound (kept + 1), ?_, by omega, ?_⟩
  · intro place recent below
    cases place with
    | zero => omega
    | succ place =>
      have before := room place (by omega) (by omega)
      omega
  · let all := state.receivers ++ [⟨ladder.key (rung + 1), chainKey, .empty⟩]
    let newest := (List.range (kept + 1)).map fun place => ladder.key (rung + 2 - 1 - 2 * place)
    have total : newest.length = kept + 1 := by
      rw [List.length_map, List.length_range]
    have shifted : all.map (·.ratchetKey) = newest.reverse := by
      have step : newest = ladder.key (rung + 1) :: _ := ladder.map_key_range_succ rung kept
      rw [step, List.map_append, keys, List.reverse_cons]
      rfl
    have size : all.length = newest.reverse.length := by
      rw [← shifted, List.length_map]
    change (all.drop (all.length - bound)).map (·.ratchetKey) = _
    rw [List.map_drop, shifted, size, drop_reverse_eq, ← List.map_take, List.take_range, total,
      Nat.min_assoc, Nat.min_self]

/-- A step of the agreement ratchet on the key above lifts the party over that rung. -/
theorem Stands.climb (symmetric : Suite.AgreementSymmetric ‹Suite›) (matched : ladder.Matched)
    (stands : state.Stands ladder bound rung count counters) (distinct : ladder.Distinct top)
    (above : rung + 1 ≤ top) (unheard : counters (rung + 1) = []) {sender : SenderChain}
    (sending : state.sender = some sender) :
    (state.ratchet (ladder.root rung) sender (ladder.key (rung + 1)) (ladder.pair (rung + 2))
      bound).Stands ladder bound (rung + 2) 0 counters := by
  cases sending.symm.trans stands.sender_eq
  have received := Ladder.createChain_above symmetric matched rung
  have link : (ladder.root (rung + 1)).createChain (ladder.key (rung + 1))
      (ladder.pair (rung + 2)) = (ladder.root (rung + 2), ladder.chain (rung + 2)) := rfl
  have absent := stands.receiver?_above distinct above
  have apart := stands.distinct distinct (by omega)
  constructor
  · change some (((ladder.root rung).createChain (ladder.key (rung + 1))
      (ladder.pair rung)).1.createChain (ladder.key (rung + 1)) (ladder.pair (rung + 2))).1 = _
    rw [received, link]
  · change some (SenderChain.mk (ladder.pair (rung + 2)) (((ladder.root rung).createChain
      (ladder.key (rung + 1)) (ladder.pair rung)).1.createChain (ladder.key (rung + 1))
        (ladder.pair (rung + 2))).2) = _
    rw [received, link]
    rfl
  · exact stands.keys_addReceiver _
  · intro place chain below found
    change (state.addReceiver _ ((ladder.root rung).createChain (ladder.key (rung + 1))
      (ladder.pair rung)).2 bound).receiver? _ = some chain at found
    rw [received] at found
    rcases receiver?_of_addReceiver apart found with before | ⟨keyed, rfl⟩
    · cases place with
      | zero => cases absent.symm.trans before
      | succ place =>
        have same : rung + 2 - 1 - 2 * (place + 1) = rung - 1 - 2 * place := by omega
        rw [same] at before ⊢
        exact stands.tracks place chain (by omega) before
    · have here := distinct _ _ (by omega) above (by omega) keyed
      rw [here, unheard]
      exact ReceiverChain.tracks_fresh _ _

/-! ## Taking a message -/

/-- What taking a message leaves alone, and that it ends the handshake. -/
structure Follows (state taken : SessionState) : Prop where
  storedVersion_eq : taken.storedVersion = state.storedVersion
  local_eq : taken.localIdentity = state.localIdentity
  remote_eq : taken.remoteIdentity = state.remoteIdentity
  base_eq : taken.initiatorBaseKey = state.initiatorBaseKey
  settled : taken.pendingPreKey = none

theorem Takes.follows {ours : KeyPair} (takes : state.Takes limits ours message text taken) :
    state.Follows taken := by
  obtain ⟨chained, chain, served, _, _, opens, rfl⟩ := takes
  cases opens.reached with
  | known present => exact ⟨rfl, rfl, rfl, rfl, rfl⟩
  | stepped root sender absent rooted sending => exact ⟨rfl, rfl, rfl, rfl, rfl⟩

omit [Suite] in
theorem Under.follows (under : state.Under terms) (follows : state.Follows taken) :
    taken.Under terms where
  version_eq := by
    have same : taken.version = state.version := by
      unfold version
      rw [follows.storedVersion_eq]
    rw [same]
    exact under.version_eq
  local_eq := follows.local_eq.trans under.local_eq
  remote_eq := follows.remote_eq.trans under.remote_eq

/-- A message of the other party is opened by the keys of its place on the ladder. -/
theorem opens_of_seals (faithful : Suite.SealingFaithful ‹Suite›) {chained : SessionState}
    {ours : KeyPair} {chain : ReceiverChain} {served : Served}
    (seals : ladder.Seals terms.swap rung counter text message)
    (established : state.established = true) (under : state.Under terms)
    (reached : state.Chained limits ours message.ratchetKey chained)
    (found : chained.receiver? message.ratchetKey = some chain)
    (serves : chain.serve limits.forwardJumps limits.messageKeys message.counter = .ok served)
    (keys_eq : served.keys = ((ladder.chain rung).advance counter.toNat).messageKeys) :
    state.Opens limits ours message text chained chain served terms.ours terms.theirs := by
  obtain ⟨previousCounter, body, closed, rfl⟩ := seals
  have identities : chained.localIdentity = state.localIdentity ∧
      chained.remoteIdentity = state.remoteIdentity := by
    cases reached with
    | known present => exact ⟨rfl, rfl⟩
    | stepped root sender absent rooted sending => exact ⟨rfl, rfl⟩
  constructor
  · exact established
  · exact under.version_eq.symm
  · exact reached
  · exact found
  · exact serves
  · exact identities.2.trans under.remote_eq
  · exact identities.1.trans under.local_eq
  · rw [keys_eq]
    exact WhisperMessage.verifies_create
  · rw [keys_eq]
    exact faithful _ _ _ _ closed

/-- A party that stands on a rung is served on every chain that it keeps, and stands there
afterwards with one more counter served. -/
theorem Stands.served (stands : state.Stands ladder bound rung count counters)
    (distinct : ladder.Distinct top) (reached : rung ≤ top + 1) {place : Nat}
    (below : 2 * place < rung) (recent : place < bound)
    (ready : Counters.Ready limits (counters (rung - 1 - 2 * place)) counter) :
    ∃ chain served, state.receiver? (ladder.key (rung - 1 - 2 * place)) = some chain ∧
      chain.serve limits.forwardJumps limits.messageKeys counter = .ok served ∧
      served.keys =
        ((ladder.chain (rung - 1 - 2 * place)).advance counter.toNat).messageKeys ∧
      ∀ after : Nat -> List Nat,
        after (rung - 1 - 2 * place) = counter.toNat :: counters (rung - 1 - 2 * place) →
        (∀ other, 2 * other < rung → other ≠ place →
          after (rung - 1 - 2 * other) = counters (rung - 1 - 2 * other)) →
        (state.taken served.chain).Stands ladder bound rung count after := by
  obtain ⟨chain, found⟩ := stands.receiver?_of_recent below recent
  have tracks := stands.tracks place chain below found
  obtain ⟨served, serves, keys_eq, kept, tracked⟩ :=
    tracks.serve (ladder.index_chain _) ready
  refine ⟨chain, served, found, serves, keys_eq, ?_⟩
  intro after here others
  obtain ⟨_, keyed⟩ := mem_of_receiver?_eq_some found
  have own : served.chain.ratchetKey = ladder.key (rung - 1 - 2 * place) := kept.trans keyed
  refine ⟨stands.root_eq, stands.sender_eq, ?_, ?_⟩
  · obtain ⟨size, room, within, keys⟩ := stands.keys_eq
    refine ⟨size, room, within, ?_⟩
    change (served.chain.replaceIn state.receivers).map (·.ratchetKey) = _
    rw [ReceiverChain.map_ratchetKey_replaceIn]
    exact keys
  · intro other last lower stands_on
    by_cases same : other = place
    · subst same
      have placed : (state.putReceiver served.chain).receiver? served.chain.ratchetKey =
          some served.chain := receiver?_putReceiver_self (by
        rw [own, found]
        rfl)
      rw [own] at placed
      cases placed.symm.trans stands_on
      rw [here]
      exact tracked
    · have different : served.chain.ratchetKey ≠ ladder.key (rung - 1 - 2 * other) := by
        intro equal
        have rungs := distinct _ _ (by omega) (by omega) (by omega) (own.symm.trans equal)
        omega
      have untouched : (state.putReceiver served.chain).receiver?
          (ladder.key (rung - 1 - 2 * other)) =
            state.receiver? (ladder.key (rung - 1 - 2 * other)) :=
        receiver?_putReceiver_of_ne different
      rw [others other lower same]
      exact stands.tracks other last lower (untouched.symm.trans stands_on)

/-- A message of a rung below is taken from the chain that is kept for it. -/
theorem Stands.takes_below (faithful : Suite.SealingFaithful ‹Suite›)
    (stands : state.Stands ladder limits.receiverChains rung count counters)
    (under : state.Under terms) (distinct : ladder.Distinct top) (reached : rung ≤ top + 1)
    {place : Nat} (below : 2 * place < rung) (recent : place < limits.receiverChains)
    (ready : Counters.Ready limits (counters (rung - 1 - 2 * place)) counter)
    (seals : ladder.Seals terms.swap (rung - 1 - 2 * place) counter text message)
    (ours : KeyPair) :
    ∃ taken, state.Takes limits ours message text taken ∧
      state.drawsFor message.ratchetKey = 0 ∧
      ∀ after : Nat -> List Nat,
        after (rung - 1 - 2 * place) = counter.toNat :: counters (rung - 1 - 2 * place) →
        (∀ other, 2 * other < rung → other ≠ place →
          after (rung - 1 - 2 * other) = counters (rung - 1 - 2 * other)) →
        taken.Stands ladder limits.receiverChains rung count after := by
  obtain ⟨chain, served, found, serves, keys_eq, moved⟩ :=
    stands.served distinct reached below recent ready
  obtain ⟨key_eq, counter_eq⟩ := seals.position
  rw [← key_eq] at found
  have present : (state.receiver? message.ratchetKey).isSome := by
    rw [found]
    rfl
  rw [← counter_eq] at serves
  have opens : state.Opens limits ours message text state chain served terms.ours terms.theirs :=
    opens_of_seals faithful seals stands.established under (.known present) found serves keys_eq
  exact ⟨_, ⟨state, chain, served, _, _, opens, rfl⟩, if_pos present, moved⟩

/-- A message of the rung above is taken from the chain that it opens. -/
theorem Stands.takes_above (symmetric : Suite.AgreementSymmetric ‹Suite›)
    (faithful : Suite.SealingFaithful ‹Suite›) (matched : ladder.Matched)
    (stands : state.Stands ladder limits.receiverChains rung count counters)
    (under : state.Under terms) (distinct : ladder.Distinct top) (above : rung + 1 ≤ top)
    (unheard : counters (rung + 1) = []) (keeping : 0 < limits.receiverChains)
    (ready : Counters.Ready limits (counters (rung + 1)) counter)
    (seals : ladder.Seals terms.swap (rung + 1) counter text message) :
    ∃ taken, state.Takes limits (ladder.pair (rung + 2)) message text taken ∧
      state.drawsFor message.ratchetKey = 1 ∧
      ∀ after : Nat -> List Nat, after (rung + 1) = [counter.toNat] →
        (∀ other, 2 * other < rung →
          after (rung - 1 - 2 * other) = counters (rung - 1 - 2 * other)) →
        taken.Stands ladder limits.receiverChains (rung + 2) 0 after := by
  have lifted := stands.climb symmetric matched distinct above unheard stands.sender_eq
  have first : rung + 2 - 1 - 2 * 0 = rung + 1 := by omega
  rw [← first] at ready
  obtain ⟨chain, served, found, serves, keys_eq, moved⟩ :=
    lifted.served distinct (by omega) (by omega) keeping ready
  rw [first] at found keys_eq moved
  obtain ⟨key_eq, counter_eq⟩ := seals.position
  have absent := stands.receiver?_above distinct above
  rw [← key_eq] at found absent moved
  rw [← counter_eq] at serves
  have missing : ¬ (state.receiver? message.ratchetKey).isSome = true := by
    rw [absent]
    exact Bool.false_ne_true
  have opens := opens_of_seals faithful seals stands.established under
    (.stepped _ _ absent stands.root_eq stands.sender_eq) found serves keys_eq
  refine ⟨_, ⟨_, chain, served, _, _, opens, rfl⟩, if_neg missing, ?_⟩
  intro after here others
  apply moved after
  · rw [here, unheard]
  · intro other lower different
    cases other with
    | zero => exact absurd rfl different
    | succ other =>
      have same : rung + 2 - 1 - 2 * (other + 1) = rung - 1 - 2 * other := by omega
      rw [same]
      exact others other (by omega)

end SessionState
end DoubleRatchet
