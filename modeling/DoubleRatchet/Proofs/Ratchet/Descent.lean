import DoubleRatchet.Proofs.Ratchet.Tracking

namespace DoubleRatchet

/-!
# Where the keys of a chain come from

A chain that has given keys up no longer answers for every counter, but what it does
answer is still right.  `Descends` is the half of the relation to the origin that no
capacity can break: the chain key is the one past the highest counter, and keys are
filed only where they belong and only for counters that were not served.

Where nothing was given up, both halves together determine the chain.
-/

namespace Counters

theorem reach_congr {counters others : List Nat}
    (same : ∀ counter, counter ∈ counters ↔ counter ∈ others) : reach counters = reach others :=
  Nat.le_antisymm
    (reach_le fun _ member => lt_reach ((same _).mp member))
    (reach_le fun _ member => lt_reach ((same _).mpr member))

end Counters

namespace ChainKey

theorem distance_inj {origin : ChainKey} {counter other : UInt32}
    (starts : origin.index ≤ counter) (startsToo : origin.index ≤ other) :
    origin.distance counter = origin.distance other ↔ counter = other := by
  have place : origin.index.toNat + origin.distance counter = counter.toNat :=
    index_add_distance starts
  have placeToo : origin.index.toNat + origin.distance other = other.toNat :=
    index_add_distance startsToo
  rw [← UInt32.toNat_inj]
  omega

end ChainKey

namespace ReceiverChain

variable [Suite] {chain : ReceiverChain} {forwardJumps capacity : Nat} {counter : UInt32}
  {origin : ChainKey} {distances : List Nat} {answer : Served}

/-- The chain began at an origin and has served the counters at the given distances from it.
Some of the keys that it has passed may be given up. -/
structure Descends (origin : ChainKey) (distances : List Nat) (chain : ReceiverChain) : Prop where
  bounded : ∀ distance ∈ distances, origin.index.toNat + distance < lastCounter.toNat
  chainKey_eq : chain.chainKey = origin.advance (Counters.reach distances)
  filed : ∀ counter keys, chain.skipped.get? counter = some keys →
    origin.index ≤ counter ∧ origin.distance counter < Counters.reach distances ∧
      origin.distance counter ∉ distances ∧
      keys = (origin.advance (origin.distance counter)).messageKeys

theorem descends_fresh (ratchetKey : PublicKey) (origin : ChainKey) :
    Descends origin [] ⟨ratchetKey, origin, .empty⟩ where
  bounded := by
    intro distance member
    cases member
  chainKey_eq := rfl
  filed := by
    intro counter keys found
    cases found

theorem retains_fresh (ratchetKey : PublicKey) (origin : ChainKey) :
    Retains origin [] ⟨ratchetKey, origin, .empty⟩ where
  chainKey_eq := rfl
  filed := by
    intro counter _ below
    exact absurd below (Nat.not_lt_zero _)
  size_le := Nat.le_refl 0

/-- The index is as far from the origin as the highest counter that was served, and one more. -/
theorem Descends.toNat_index (descends : chain.Descends origin distances) :
    chain.chainKey.index.toNat = origin.index.toNat + Counters.reach distances := by
  rw [descends.chainKey_eq, ChainKey.toNat_index_advance_reach descends.bounded]

theorem Descends.bounded_cons (descends : chain.Descends origin distances)
    (starts : origin.index ≤ counter) (notLast : counter < lastCounter) :
    ∀ distance ∈ origin.distance counter :: distances,
      origin.index.toNat + distance < lastCounter.toNat := by
  intro distance member
  rcases List.mem_cons.mp member with rfl | before
  · rw [ChainKey.index_add_distance starts]
    exact UInt32.lt_iff_toNat_lt.mp notLast
  · exact descends.bounded distance before

/-- What is filed stays where it belongs when a key is taken out. -/
theorem Descends.late (descends : chain.Descends origin distances)
    (starts : origin.index ≤ counter) (notLast : counter < lastCounter)
    (behind : origin.distance counter < Counters.reach distances) :
    Descends origin (origin.distance counter :: distances)
      { chain with skipped := chain.skipped.erase counter } where
  bounded := descends.bounded_cons starts notLast
  chainKey_eq := by
    rw [Counters.reach_cons_of_lt behind]
    exact descends.chainKey_eq
  filed := by
    intro other keys filed
    have different : other ≠ counter := by
      rintro rfl
      rw [SkippedKeys.get?_erase_self] at filed
      cases filed
    rw [SkippedKeys.get?_erase_of_ne different] at filed
    obtain ⟨later, passed, absent, right⟩ := descends.filed other keys filed
    refine ⟨later, ?_, ?_, right⟩
    · rw [Counters.reach_cons_of_lt behind]
      exact passed
    · intro member
      rcases List.mem_cons.mp member with same | before
      · exact different ((ChainKey.distance_inj later starts).mp same)
      · exact absent before

/-- What is filed on the way to a counter ahead belongs where it is filed, whatever is given up
for it. -/
theorem Descends.ahead (descends : chain.Descends origin distances)
    (higher : chain.chainKey.index ≤ counter) (notLast : counter < lastCounter) :
    Descends origin (origin.distance counter :: distances)
      { chain with
        chainKey := chain.chainKey.advance (counter.toNat - chain.chainKey.index.toNat + 1)
        skipped := (chain.skip capacity
          (counter.toNat - chain.chainKey.index.toNat)).1.skipped } := by
  have last : lastCounter.toNat = 2 ^ 32 - 1 := rfl
  have below : counter.toNat < lastCounter.toNat := UInt32.lt_iff_toNat_lt.mp notLast
  have upper : chain.chainKey.index.toNat ≤ counter.toNat := UInt32.le_iff_toNat_le.mp higher
  have index := descends.toNat_index
  have starts : origin.index ≤ counter := by
    rw [UInt32.le_iff_toNat_le]
    omega
  have place : origin.index.toNat + origin.distance counter = counter.toNat :=
    ChainKey.index_add_distance starts
  have beyond : Counters.reach distances ≤ origin.distance counter := by omega
  refine ⟨descends.bounded_cons starts notLast, ?_, ?_⟩
  · rw [Counters.reach_cons_of_le beyond, ChainKey.advance_succ, ChainKey.advance_succ,
      ← ChainKey.advance_sub_index descends.chainKey_eq index upper]
  · intro other keys filed
    rw [Counters.reach_cons_of_le beyond]
    rcases get?_of_skip (by omega) filed with before | ⟨lower, passed, right⟩
    · obtain ⟨later, passed, absent, right⟩ := descends.filed other keys before
      refine ⟨later, by omega, ?_, right⟩
      intro member
      rcases List.mem_cons.mp member with same | earlier
      · omega
      · exact absent earlier
    · have later : origin.index ≤ other := by
        rw [UInt32.le_iff_toNat_le]
        omega
      have spot : origin.index.toNat + origin.distance other = other.toNat :=
        ChainKey.index_add_distance later
      refine ⟨later, by omega, ?_, ?_⟩
      · intro member
        rcases List.mem_cons.mp member with same | earlier
        · omega
        · have reached := Counters.lt_reach earlier
          omega
      · rw [right, ChainKey.advance_sub_index descends.chainKey_eq index lower]

/-- Serving gives the keys that the origin has for a counter that was not served before, and
leads to a chain that has served this one too. -/
theorem Descends.served (descends : chain.Descends origin distances)
    (notLast : counter < lastCounter)
    (serves : chain.serve forwardJumps capacity counter = .ok answer) :
    origin.index ≤ counter ∧ origin.distance counter ∉ distances ∧
      answer.keys = (origin.advance (origin.distance counter)).messageKeys ∧
      answer.chain.Descends origin (origin.distance counter :: distances) := by
  rcases serve_eq_ok serves with ⟨_, found, result⟩ | ⟨higher, _, keys_eq, result⟩
  · obtain ⟨starts, behind, unserved, right⟩ := descends.filed counter _ found
    rw [result]
    exact ⟨starts, unserved, right, descends.late starts notLast behind⟩
  · have upper : chain.chainKey.index.toNat ≤ counter.toNat := UInt32.le_iff_toNat_le.mp higher
    have index := descends.toNat_index
    have starts : origin.index ≤ counter := by
      rw [UInt32.le_iff_toNat_le]
      omega
    have place : origin.index.toNat + origin.distance counter = counter.toNat :=
      ChainKey.index_add_distance starts
    rw [result, keys_eq, ChainKey.advance_sub_index descends.chainKey_eq index upper]
    refine ⟨starts, ?_, rfl, descends.ahead higher notLast⟩
    intro member
    have reached := Counters.lt_reach member
    omega

/-- A chain that has given nothing up serves within its capacity without giving anything up. -/
theorem Retains.served (retains : chain.Retains origin distances)
    (descends : chain.Descends origin distances) (notLast : counter < lastCounter)
    (room : Counters.outstanding (origin.distance counter :: distances) ≤ capacity)
    (serves : chain.serve forwardJumps capacity counter = .ok answer) :
    answer.chain.Retains origin (origin.distance counter :: distances) := by
  obtain ⟨starts, unserved, _, _⟩ := descends.served notLast serves
  have near : origin.distance counter ≤ Counters.reach distances + forwardJumps := by
    have index := descends.toNat_index
    have place : origin.index.toNat + origin.distance counter = counter.toNat :=
      ChainKey.index_add_distance starts
    rcases serve_eq_ok serves with ⟨below, _, _⟩ | ⟨_, jump, _, _⟩
    · have lower := UInt32.lt_iff_toNat_lt.mp below
      omega
    · omega
  obtain ⟨other, gives, _, _, next⟩ :=
    retains.serve descends.bounded starts notLast unserved near room
  rw [serves] at gives
  cases gives
  exact next

/-- A chain that has given nothing up keeps exactly the keys of the counters that it has passed
and not served. -/
theorem Descends.get?_eq (descends : chain.Descends origin distances)
    (retains : chain.Retains origin distances) (counter : UInt32) :
    chain.skipped.get? counter =
      if origin.index ≤ counter ∧ counter < chain.chainKey.index ∧
          origin.distance counter ∉ distances then
        some (origin.advance (origin.distance counter)).messageKeys
      else none := by
  have index := descends.toNat_index
  have passed (starts : origin.index ≤ counter) :
      counter < chain.chainKey.index ↔ origin.distance counter < Counters.reach distances := by
    have place : origin.index.toNat + origin.distance counter = counter.toNat :=
      ChainKey.index_add_distance starts
    rw [UInt32.lt_iff_toNat_lt]
    omega
  split
  · next outstanding =>
    obtain ⟨starts, below, unserved⟩ := outstanding
    exact retains.filed counter starts ((passed starts).mp below) unserved
  · next absent =>
    cases found : chain.skipped.get? counter with
    | none => rfl
    | some keys =>
      obtain ⟨starts, below, unserved, _⟩ := descends.filed counter keys found
      exact absurd ⟨starts, (passed starts).mpr below, unserved⟩ absent

/-- Chains for one key that began at one origin and have given nothing up are the same as soon
as they have served the same counters. -/
theorem Descends.eq_of_same {other : ReceiverChain} {others : List Nat}
    (descends : chain.Descends origin distances) (retains : chain.Retains origin distances)
    (descendsToo : other.Descends origin others) (retainsToo : other.Retains origin others)
    (keyed : chain.ratchetKey = other.ratchetKey)
    (same : ∀ distance, distance ∈ distances ↔ distance ∈ others) : chain = other := by
  have chainKey : chain.chainKey = other.chainKey := by
    rw [descends.chainKey_eq, descendsToo.chainKey_eq, Counters.reach_congr same]
  have table : chain.skipped.table = other.skipped.table := by
    apply Table.ext_get?
    intro counter
    change chain.skipped.get? counter = other.skipped.get? counter
    rw [descends.get?_eq retains, descendsToo.get?_eq retainsToo, chainKey]
    simp only [same]
  have skipped : chain.skipped = other.skipped := congrArg SkippedKeys.mk table
  rcases chain with ⟨_, _, _⟩
  rcases other with ⟨_, _, _⟩
  cases keyed
  cases chainKey
  cases skipped
  rfl

end ReceiverChain
end DoubleRatchet
