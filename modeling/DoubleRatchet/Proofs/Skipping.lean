import Mathlib.Data.List.Infix
import DoubleRatchet.Proofs.Ratchet.Descent
import DoubleRatchet.Proofs.Session.InPlace
import DoubleRatchet.Proofs.Suite.Plain

namespace DoubleRatchet

/-!
# Skipped keys and derived keys

The keys of a message come on one of three ways: from where the chain stands, from
further on, or from what was filed when the chain went by.  Here it is shown that the
way makes no difference.  Whatever counters are asked for in whatever order, and
whatever was given up in between, the keys that are served are those that the chain had
for the counter when it began.

The requests are made of a state that is changed in place, so that a refusal has
something to spoil.
-/

/-- The keys that a state has served, the latest first, and the state after that. -/
structure Answers where
  served : List (UInt32 × MessageKeys)
  state : SessionState

namespace Answers

/-- The counters that were served. -/
def counters (answers : Answers) : List UInt32 :=
  answers.served.map (·.1)

/-- How far from the origin of the chain the counters are that were served. -/
def distances (answers : Answers) (origin : ChainKey) : List Nat :=
  answers.counters.map origin.distance

/-- The counters that the chain has passed and not served. -/
def outstanding (answers : Answers) (origin : ChainKey) : Nat :=
  Counters.outstanding (answers.distances origin)

variable [Suite]

/-- One more request, whether it is granted or not. -/
def ask (limits : Limits) (theirs : PublicKey) (answers : Answers) (counter : UInt32) : Answers :=
  match InPlace.request limits theirs counter answers.state with
  | (.ok keys, state) => ⟨(counter, keys) :: answers.served, state⟩
  | (.error _, state) => ⟨answers.served, state⟩

/-- Requests for counters, one after the other. -/
def askAll (limits : Limits) (theirs : PublicKey) (state : SessionState)
    (counters : List UInt32) : Answers :=
  counters.foldl (ask limits theirs) ⟨[], state⟩

/-- After no request there are more counters outstanding than the cache has room for. -/
def Roomy (limits : Limits) (theirs : PublicKey) (state : SessionState) (origin : ChainKey)
    (counters : List UInt32) : Prop :=
  ∀ earlier, earlier <+: counters →
    (askAll limits theirs state earlier).outstanding origin ≤ limits.messageKeys

variable {limits : Limits} {theirs : PublicKey} {state : SessionState} {origin : ChainKey}
  {answers : Answers} {chain : ReceiverChain} {counter : UInt32}

theorem askAll_snoc (limits : Limits) (theirs : PublicKey) (state : SessionState)
    (counters : List UInt32) (counter : UInt32) :
    askAll limits theirs state (counters ++ [counter]) =
      (askAll limits theirs state counters).ask limits theirs counter := by
  unfold askAll
  rw [List.foldl_append]
  rfl

theorem Roomy.before {counters : List UInt32}
    (roomy : Roomy limits theirs state origin (counters ++ [counter])) :
    Roomy limits theirs state origin counters :=
  fun earlier before => roomy earlier (before.trans (List.prefix_append counters [counter]))

theorem roomy_of_inits {counters : List UInt32}
    (room : ∀ earlier ∈ counters.inits,
      (askAll limits theirs state earlier).outstanding origin ≤ limits.messageKeys) :
    Roomy limits theirs state origin counters :=
  fun earlier before => room earlier ((List.mem_inits _ _).mpr before)

/-- A request is refused and changes nothing, or is granted as the chain serves it. -/
theorem ask_cases (found : answers.state.receiver? theirs = some chain) (limits : Limits)
    (counter : UInt32) :
    answers.ask limits theirs counter = answers ∨
      ∃ served, chain.serve limits.forwardJumps limits.messageKeys counter = .ok served ∧
        answers.ask limits theirs counter =
          ⟨(counter, served.keys) :: answers.served, answers.state.putReceiver served.chain⟩ := by
  unfold ask
  rw [InPlace.request_eq found]
  cases serves : chain.serve limits.forwardJumps limits.messageKeys counter with
  | error fault => exact .inl rfl
  | ok served => exact .inr ⟨served, rfl, rfl⟩

/-- What is true of the answers so far, where `chain` has taken the place of the fresh one. -/
structure Derived (theirs : PublicKey) (state : SessionState) (origin : ChainKey)
    (answers : Answers) (chain : ReceiverChain) : Prop where
  keys : ∀ entry ∈ answers.served, origin.index ≤ entry.1 ∧
    entry.2 = (origin.advance (origin.distance entry.1)).messageKeys
  nodup : answers.counters.Nodup
  keyed : chain.ratchetKey = theirs
  state_eq : answers.state = state.putReceiver chain
  found : answers.state.receiver? theirs = some chain
  descends : chain.Descends origin (answers.distances origin)

theorem derived_fresh (fresh : state.receiver? theirs = some ⟨theirs, origin, .empty⟩) :
    Derived theirs state origin ⟨[], state⟩ ⟨theirs, origin, .empty⟩ where
  keys := fun _ member => nomatch member
  nodup := List.nodup_nil
  keyed := rfl
  state_eq := (SessionState.putReceiver_self fresh).symm
  found := fresh
  descends := ReceiverChain.descends_fresh theirs origin

/-- A request keeps what is true of the answers, and what the chain has retained if there is
room for it. -/
theorem Derived.ask (derived : Derived theirs state origin answers chain)
    (notLast : counter < lastCounter) (limits : Limits) :
    ∃ next, Derived theirs state origin (answers.ask limits theirs counter) next ∧
      (chain.Retains origin (answers.distances origin) →
        (answers.ask limits theirs counter).outstanding origin ≤ limits.messageKeys →
          next.Retains origin ((answers.ask limits theirs counter).distances origin)) := by
  rcases ask_cases derived.found limits counter with refused | ⟨served, serves, granted⟩
  · rw [refused]
    exact ⟨chain, derived, fun retains _ => retains⟩
  · obtain ⟨starts, unserved, keys_eq, descends⟩ := derived.descends.served notLast serves
    have keyed : served.chain.ratchetKey = theirs :=
      (ReceiverChain.ratchetKey_served serves).trans derived.keyed
    rw [granted]
    refine ⟨served.chain, ⟨?_, ?_, keyed, ?_, ?_, descends⟩, ?_⟩
    · intro entry member
      rcases List.mem_cons.mp member with rfl | before
      · exact ⟨starts, keys_eq⟩
      · exact derived.keys entry before
    · apply List.nodup_cons.mpr
      exact ⟨fun member => unserved (List.mem_map_of_mem member), derived.nodup⟩
    · rw [derived.state_eq]
      exact state.putReceiver_putReceiver (derived.keyed.trans keyed.symm)
    · exact SessionState.receiver?_putReceiver derived.found keyed
    · intro retains room
      exact retains.served derived.descends notLast room serves

/-- All requests together keep it. -/
theorem derived_askAll (fresh : state.receiver? theirs = some ⟨theirs, origin, .empty⟩)
    (limits : Limits) {counters : List UInt32}
    (below : ∀ counter ∈ counters, counter < lastCounter) :
    ∃ chain, Derived theirs state origin (askAll limits theirs state counters) chain ∧
      (Roomy limits theirs state origin counters →
        chain.Retains origin ((askAll limits theirs state counters).distances origin)) := by
  induction counters using List.reverseRecOn with
  | nil =>
    exact ⟨_, derived_fresh fresh, fun _ => ReceiverChain.retains_fresh theirs origin⟩
  | append_singleton counters counter ih =>
    obtain ⟨chain, derived, retains⟩ := ih fun earlier member =>
      below earlier (List.mem_append_left _ member)
    obtain ⟨next, stays, keeps⟩ := derived.ask (below counter (by simp)) limits
    rw [askAll_snoc]
    refine ⟨next, stays, ?_⟩
    intro roomy
    apply keeps (retains roomy.before)
    rw [← askAll_snoc]
    exact roomy _ (List.prefix_refl _)

/-- The chain key is the one past the highest counter that was served. -/
theorem Derived.chainKey_eq (derived : Derived theirs state origin answers chain) {top : UInt32}
    (member : top ∈ answers.counters) (highest : ∀ counter ∈ answers.counters, counter ≤ top) :
    chain.chainKey = origin.advance (origin.distance top + 1) ∧ chain.chainKey.index = top + 1 := by
  have starts {counter : UInt32} (there : counter ∈ answers.counters) :
      origin.index.toNat + origin.distance counter = counter.toNat := by
    obtain ⟨entry, served, rfl⟩ := List.mem_map.mp there
    exact ChainKey.index_add_distance (derived.keys entry served).1
  have reach : Counters.reach (answers.distances origin) = origin.distance top + 1 := by
    apply Nat.le_antisymm
    · apply Counters.reach_le
      intro distance there
      obtain ⟨counter, served, rfl⟩ := List.mem_map.mp there
      have lower := UInt32.le_iff_toNat_le.mp (highest counter served)
      have place := starts served
      have limit := starts member
      omega
    · exact Counters.lt_reach (List.mem_map_of_mem member)
  have bound := derived.descends.bounded _ (List.mem_map_of_mem member)
  have last : lastCounter.toNat = 2 ^ 32 - 1 := rfl
  have index := derived.descends.toNat_index
  have limit := starts member
  refine ⟨reach ▸ derived.descends.chainKey_eq, ?_⟩
  rw [← UInt32.toNat_inj, UInt32.toNat_add, index, reach]
  change _ = (top.toNat + 1) % 2 ^ 32
  omega

/-- A request in place is answered as a request to a state that is left alone. -/
theorem request_eq_serve (found : state.receiver? theirs = some chain) (limits : Limits)
    (counter : UInt32) (trace : Trace) :
    match InPlace.request limits theirs counter state with
    | (.ok keys, after) =>
      ∃ later, state.serve limits theirs counter trace = (.ok (keys, after), later)
    | (.error fault, after) =>
      after = state ∧ state.serve limits theirs counter trace = (.error fault, trace) := by
  have serves : state.serve limits theirs counter trace =
      (do
        let served ← (monadLift (chain.serve limits.forwardJumps limits.messageKeys counter) :
          Traced Served)
        Trace.reportAll served.events
        return (served.keys, state.putReceiver served.chain)) trace := by
    unfold SessionState.serve
    rw [found]
  rw [InPlace.request_eq found, serves]
  cases chain.serve limits.forwardJumps limits.messageKeys counter with
  | error fault => exact ⟨rfl, rfl⟩
  | ok served => exact ⟨_, rfl⟩

end Answers

/-- Requests for the keys of a chain that begins with an empty cache, in any order.  Keys that
are served are those that the chain had for the counter when it began, and no counter is served
twice.  A refusal leaves the state alone.  The chain ends one past the highest counter that was
served; where the cache had room, it keeps the keys of exactly the counters that were passed and
not served, and is the same in whatever order these were asked for. -/
theorem requests_agree_with_derivation [Suite] (limits : Limits) {theirs : PublicKey}
    {state : SessionState} {origin : ChainKey}
    (fresh : state.receiver? theirs = some ⟨theirs, origin, .empty⟩) {counters : List UInt32}
    (below : ∀ counter ∈ counters, counter < lastCounter) :
    let answers := Answers.askAll limits theirs state counters
    (∀ entry ∈ answers.served, origin.index ≤ entry.1 ∧
      entry.2 = (origin.advance (entry.1.toNat - origin.index.toNat)).messageKeys) ∧
    answers.counters.Nodup ∧
    (∀ counter trace,
      match InPlace.request limits theirs counter answers.state with
      | (.ok keys, after) =>
        ∃ later, answers.state.serve limits theirs counter trace = (.ok (keys, after), later)
      | (.error fault, after) => after = answers.state ∧
        answers.state.serve limits theirs counter trace = (.error fault, trace)) ∧
    ∃ chain, answers.state = state.putReceiver chain ∧
      answers.state.receiver? theirs = some chain ∧
      (answers.counters = [] → chain.chainKey = origin) ∧
      (∀ top ∈ answers.counters, (∀ counter ∈ answers.counters, counter ≤ top) →
        chain.chainKey = origin.advance (top.toNat - origin.index.toNat + 1) ∧
          chain.chainKey.index = top + 1) ∧
      (Answers.Roomy limits theirs state origin counters →
        (∀ counter, chain.skipped.get? counter =
          if origin.index ≤ counter ∧ counter < chain.chainKey.index ∧
              counter ∉ answers.counters then
            some (origin.advance (counter.toNat - origin.index.toNat)).messageKeys
          else none) ∧
        ∀ others : List UInt32, (∀ counter ∈ others, counter < lastCounter) →
          ∀ more, Answers.Roomy more theirs state origin others →
            (∀ counter, counter ∈ (Answers.askAll more theirs state others).counters ↔
              counter ∈ answers.counters) →
            (Answers.askAll more theirs state others).state = answers.state) := by
  intro answers
  obtain ⟨chain, derived, retains⟩ := Answers.derived_askAll fresh limits below
  refine ⟨derived.keys, derived.nodup, Answers.request_eq_serve derived.found limits, chain,
    derived.state_eq, derived.found, ?_, fun top => derived.chainKey_eq, ?_⟩
  · intro none
    have nowhere : answers.distances origin = [] := congrArg (List.map origin.distance) none
    have stands := derived.descends.chainKey_eq
    rw [nowhere] at stands
    exact stands
  · intro roomy
    refine ⟨?_, ?_⟩
    · intro counter
      have distance_mem (starts : origin.index ≤ counter) :
          origin.distance counter ∈ answers.distances origin ↔ counter ∈ answers.counters := by
        constructor
        · intro member
          obtain ⟨other, served, same⟩ := List.mem_map.mp member
          obtain ⟨entry, there, rfl⟩ := List.mem_map.mp served
          rw [← (ChainKey.distance_inj (derived.keys entry there).1 starts).mp same]
          exact served
        · exact List.mem_map_of_mem
      rw [derived.descends.get?_eq (retains roomy)]
      apply if_congr _ rfl rfl
      exact and_congr_right fun starts => and_congr_right fun _ => not_congr (distance_mem starts)
    · intro others lower more spacious same
      obtain ⟨other, derivedToo, retainsToo⟩ := Answers.derived_askAll fresh more lower
      have sameDistances : ∀ distance,
          distance ∈ (Answers.askAll more theirs state others).distances origin ↔
            distance ∈ answers.distances origin := by
        intro distance
        unfold Answers.distances
        simp only [List.mem_map, same]
      rw [derivedToo.state_eq, derivedToo.descends.eq_of_same (retainsToo spacious)
        derived.descends (retains roomy) (derivedToo.keyed.trans derived.keyed.symm)
        sameDistances]
      exact derived.state_eq.symm

section Scene

open Scene

attribute [local instance] plainSuite

/-- A chain that stands at five when it is opened. -/
def Scene.openedChain : ReceiverChain :=
  ⟨signedPreKey.pair.publicKey, ⟨.replicate 32 9, 5⟩, .empty⟩

/-- A state with that chain. -/
def Scene.expecting : SessionState :=
  { SessionState.empty with receivers := [openedChain] }

/-- Two keys are kept, and no message may be more than three ahead. -/
def Scene.narrow : Limits :=
  { Limits.standard with forwardJumps := 3, messageKeys := 2 }

/-- Five is asked for twice and twenty is too far ahead, and the chain ends as it does when
five, six and seven are asked for in order. -/
theorem overtaken_requests_agree :
    expecting.receiver? openedChain.ratchetKey = some openedChain ∧
    (Answers.askAll narrow openedChain.ratchetKey expecting [7, 5, 5, 20, 6]).counters =
      [6, 5, 7] ∧
    (Answers.askAll narrow openedChain.ratchetKey expecting [5, 6, 7]).state =
      (Answers.askAll narrow openedChain.ratchetKey expecting [7, 5, 5, 20, 6]).state := by
  have fresh : expecting.receiver? openedChain.ratchetKey = some openedChain := by decide +kernel
  have served : (Answers.askAll narrow openedChain.ratchetKey expecting [7, 5, 5, 20, 6]).counters =
      [6, 5, 7] := by decide +kernel
  have inOrder : (Answers.askAll narrow openedChain.ratchetKey expecting [5, 6, 7]).counters =
      [7, 6, 5] := by decide +kernel
  have below : ∀ counter ∈ ([7, 5, 5, 20, 6] : List UInt32), counter < lastCounter := by
    simp [lastCounter]
  have lower : ∀ counter ∈ ([5, 6, 7] : List UInt32), counter < lastCounter := by
    simp [lastCounter]
  have room : Answers.Roomy narrow openedChain.ratchetKey expecting openedChain.chainKey
      [7, 5, 5, 20, 6] := Answers.roomy_of_inits (by decide +kernel)
  have enough : Answers.Roomy narrow openedChain.ratchetKey expecting openedChain.chainKey
      [5, 6, 7] := Answers.roomy_of_inits (by decide +kernel)
  obtain ⟨_, _, _, _, _, _, _, _, roomy⟩ :=
    requests_agree_with_derivation narrow fresh below
  have same : ([7, 6, 5] : List UInt32).Perm [6, 5, 7] := by decide
  refine ⟨fresh, served, (roomy room).2 _ lower narrow enough ?_⟩
  intro counter
  rw [served, inOrder]
  exact same.mem_iff

end Scene
end DoubleRatchet
