import DoubleRatchet.Limits
import DoubleRatchet.Proofs.Ratchet.Serving

namespace DoubleRatchet

/-!
# Chains that have lost nothing

A receiver chain is determined by where it began and by the counters that it has
served, as long as its cache never overflows: it stands one past the highest counter,
and below that it keeps exactly the keys that were not asked for yet.  `Tracks` states
this relation, and `Tracks.serve` is the step that keeps it.

The counters that a chain has passed and not served are outstanding.  Their number
bounds the cache, so a capacity that has room for the outstanding counters gives
nothing up, and every outstanding counter can still be served.
-/

namespace Counters

/-- The number past all counters. -/
def reach : List Nat -> Nat
  | [] => 0
  | counter :: counters => max (counter + 1) (reach counters)

/-- How many lower counters were passed over. -/
def outstanding (counters : List Nat) : Nat :=
  (List.range (reach counters)).countP fun counter => counter ∉ counters

variable {counters : List Nat} {counter : Nat}

theorem lt_reach (member : counter ∈ counters) : counter < reach counters := by
  induction counters with
  | nil => cases member
  | cons first rest ih =>
    rcases List.mem_cons.mp member with rfl | later
    · exact Nat.le_max_left _ _
    · exact Nat.lt_of_lt_of_le (ih later) (Nat.le_max_right _ _)

theorem reach_le {bound : Nat} (below : ∀ counter ∈ counters, counter < bound) :
    reach counters ≤ bound := by
  induction counters with
  | nil => exact Nat.zero_le bound
  | cons first rest ih =>
    have here := below first List.mem_cons_self
    have later := ih fun counter member => below counter (List.mem_cons_of_mem _ member)
    exact Nat.max_le.mpr ⟨here, later⟩

theorem reach_cons_of_lt (below : counter < reach counters) :
    reach (counter :: counters) = reach counters :=
  Nat.max_eq_right below

theorem reach_cons_of_le (ahead : reach counters ≤ counter) :
    reach (counter :: counters) = counter + 1 :=
  Nat.max_eq_left (Nat.le_succ_of_le ahead)

/-- One counter fewer is outstanding if one of a range is struck out. -/
theorem countP_range_cons (fresh : counter ∉ counters) (bound : Nat) :
    ((List.range bound).countP fun other => other ∉ counter :: counters) +
        (if counter < bound then 1 else 0) =
      (List.range bound).countP fun other => other ∉ counters := by
  induction bound with
  | zero => rfl
  | succ bound ih =>
    rw [List.range_succ, List.countP_append, List.countP_append, ← ih, List.countP_singleton,
      List.countP_singleton]
    rcases Nat.lt_trichotomy counter bound with below | same | above
    · have different : bound ≠ counter := by omega
      have here : counter < bound + 1 := by omega
      rw [if_pos below, if_pos here]
      simp only [List.mem_cons, different, false_or]
      omega
    · subst same
      rw [if_neg (Nat.lt_irrefl counter), if_pos (Nat.lt_succ_self counter)]
      simp [fresh]
    · have different : bound ≠ counter := by omega
      have beyond : ¬ counter < bound + 1 := by omega
      have before : ¬ counter < bound := by omega
      rw [if_neg before, if_neg beyond]
      simp only [List.mem_cons, different, false_or]
      omega

/-- Everything past the reach is outstanding once it is passed. -/
theorem countP_range_of_reach_le {bound : Nat} (beyond : reach counters ≤ bound) :
    ((List.range bound).countP fun other => other ∉ counters) =
      outstanding counters + (bound - reach counters) := by
  induction bound with
  | zero =>
    have none : reach counters = 0 := Nat.le_zero.mp beyond
    unfold outstanding
    rw [none]
    rfl
  | succ bound ih =>
    rcases Nat.lt_or_ge bound (reach counters) with last | further
    · have same : reach counters = bound + 1 := by omega
      unfold outstanding
      rw [same, Nat.sub_self]
      rfl
    · have absent : bound ∉ counters := fun member =>
        absurd (lt_reach member) (Nat.not_lt.mpr further)
      rw [List.range_succ, List.countP_append, ih further, List.countP_singleton]
      simp only [absent, not_false_eq_true, decide_true, if_true]
      omega

/-- A counter that is served late is no longer outstanding. -/
theorem outstanding_cons_of_lt (fresh : counter ∉ counters) (below : counter < reach counters) :
    outstanding (counter :: counters) + 1 = outstanding counters := by
  have count := countP_range_cons fresh (reach counters)
  rw [if_pos below] at count
  unfold outstanding
  rw [reach_cons_of_lt below]
  exact count

/-- A counter that is served ahead leaves those that it passes outstanding. -/
theorem outstanding_cons_of_le (ahead : reach counters ≤ counter) :
    outstanding (counter :: counters) = outstanding counters + (counter - reach counters) := by
  have fresh : counter ∉ counters := fun member =>
    absurd (lt_reach member) (Nat.not_lt.mpr ahead)
  have count := countP_range_cons fresh (counter + 1)
  have passed : ((List.range (counter + 1)).countP fun other => other ∉ counters) =
      outstanding counters + (counter + 1 - reach counters) :=
    countP_range_of_reach_le (Nat.le_succ_of_le ahead)
  rw [if_pos (Nat.lt_succ_self counter), passed] at count
  have whole : outstanding (counter :: counters) =
      (List.range (counter + 1)).countP fun other => other ∉ counter :: counters := by
    unfold outstanding
    rw [reach_cons_of_le ahead]
  omega

/-- The counter may be served within the limits after the given ones: it is new, not too
far ahead, and leaves no more outstanding than there is room for. -/
structure Ready (limits : Limits) (counters : List Nat) (counter : UInt32) : Prop where
  bounded : ∀ served ∈ counters, served < lastCounter.toNat
  notLast : counter < lastCounter
  unserved : counter.toNat ∉ counters
  near : counter.toNat ≤ reach counters + limits.forwardJumps
  room : outstanding (counter.toNat :: counters) ≤ limits.messageKeys

end Counters

/-! ## The cache without surplus -/

theorem Table.size_erase_lt {κ α : Type} [Ord κ] [Std.LawfulEqOrd κ] {table : Table κ α}
    {key : κ} (bound : table.contains key = true) : (table.erase key).size < table.size := by
  obtain ⟨entry, member, keyed⟩ := List.mem_map.mp (Table.contains_iff.mp bound)
  have same : compare key entry.1 = .eq := Std.LawfulEqCmp.compare_eq_iff_eq.mpr keyed.symm
  unfold Table.size Table.erase Table.filterKeys
  rw [List.length_filter_lt_length_iff_exists]
  refine ⟨entry, member, ?_⟩
  dsimp only
  rw [same]
  decide

theorem SkippedKeys.size_erase_lt {cache : SkippedKeys} {counter : UInt32} {keys : MessageKeys}
    (filed : cache.get? counter = some keys) : (cache.erase counter).size < cache.size := by
  apply Table.size_erase_lt
  unfold Table.contains
  unfold get? at filed
  rw [filed]
  rfl

/-! ## Distances from the origin of a chain -/

namespace ChainKey

/-- How many steps a chain has to make until it is at a counter. -/
def distance (origin : ChainKey) (counter : UInt32) : Nat :=
  counter.toNat - origin.index.toNat

variable {origin : ChainKey} {counter : UInt32}

theorem index_add_distance (starts : origin.index ≤ counter) :
    origin.index.toNat + origin.distance counter = counter.toNat :=
  Nat.add_sub_cancel' (UInt32.le_iff_toNat_le.mp starts)

theorem distance_of_zero (zero : origin.index = 0) (counter : UInt32) :
    origin.distance counter = counter.toNat := by
  unfold distance
  rw [zero]
  rfl

variable [Suite]

/-- As long as no counter is the last one, the place past all counters has an index. -/
theorem toNat_index_advance_reach {distances : List Nat}
    (bounded : ∀ distance ∈ distances, origin.index.toNat + distance < lastCounter.toNat) :
    (origin.advance (Counters.reach distances)).index.toNat =
      origin.index.toNat + Counters.reach distances := by
  have last : lastCounter.toNat = 2 ^ 32 - 1 := rfl
  have start := origin.index.toNat_lt
  have reached : Counters.reach distances ≤ lastCounter.toNat - origin.index.toNat := by
    apply Counters.reach_le
    intro distance member
    have fits := bounded distance member
    omega
  exact toNat_index_advance (by omega)

/-- From every place of a chain the steps that are left to a counter lead to where the origin
has it. -/
theorem advance_sub_index {place : ChainKey} {passed : Nat}
    (comes : place = origin.advance passed)
    (index : place.index.toNat = origin.index.toNat + passed)
    (ahead : place.index.toNat ≤ counter.toNat) :
    place.advance (counter.toNat - place.index.toNat) =
      origin.advance (origin.distance counter) := by
  have whole : passed + (counter.toNat - place.index.toNat) = origin.distance counter := by
    unfold distance
    omega
  rw [← whole, advance_add, ← comes]

end ChainKey

namespace ReceiverChain

variable [Suite] {chain : ReceiverChain} {forwardJumps capacity : Nat} {counter : UInt32}

/-- Within the capacity, moving on files every key that is passed and gives none up. -/
theorem get?_skip {count : Nat} (fits : chain.chainKey.index.toNat + count < 2 ^ 32)
    (room : chain.skipped.size + count ≤ capacity) :
    (chain.skip capacity count).1.skipped.size ≤ chain.skipped.size + count ∧
      ∀ counter, (chain.skip capacity count).1.skipped.get? counter =
        if chain.chainKey.index.toNat ≤ counter.toNat ∧
            counter.toNat < chain.chainKey.index.toNat + count then
          some (chain.chainKey.advance
            (counter.toNat - chain.chainKey.index.toNat)).messageKeys
        else chain.skipped.get? counter := by
  induction count generalizing chain with
  | zero =>
    refine ⟨Nat.le_refl _, ?_⟩
    intro counter
    rw [if_neg (by omega)]
    rfl
  | succ count ih =>
    let filed := chain.skipped.file chain.chainKey.messageKeys
    let moved : ReceiverChain := { chain with chainKey := chain.chainKey.next, skipped := filed }
    have grown : filed.size ≤ chain.skipped.size + 1 := SkippedKeys.size_file_le _ _
    have whole : filed.trim capacity = filed := SkippedKeys.trim_of_size_le (by omega)
    have index : chain.chainKey.next.index.toNat = chain.chainKey.index.toNat + 1 :=
      ChainKey.toNat_index_next (by omega)
    have step : (chain.skip capacity (count + 1)).1 = (moved.skip capacity count).1 := by
      change (skip capacity count { chain with
        chainKey := chain.chainKey.next
        skipped := filed.trim capacity }).1 = _
      rw [whole]
    have fitsMoved : moved.chainKey.index.toNat + count < 2 ^ 32 := by
      change chain.chainKey.next.index.toNat + count < _
      omega
    have roomMoved : moved.skipped.size + count ≤ capacity := by
      change filed.size + count ≤ _
      omega
    obtain ⟨size, found⟩ := ih fitsMoved roomMoved
    rw [step]
    refine ⟨?_, ?_⟩
    · change _ ≤ filed.size + count at size
      omega
    · intro counter
      rw [found counter]
      change (if chain.chainKey.next.index.toNat ≤ _ ∧ _ < chain.chainKey.next.index.toNat + count
        then some (chain.chainKey.next.advance (_ - chain.chainKey.next.index.toNat)).messageKeys
        else filed.get? counter) = _
      rw [index]
      by_cases first : counter = chain.chainKey.index
      · subst first
        rw [if_neg (by omega), if_pos (by omega), Nat.sub_self]
        exact SkippedKeys.get?_file_self _ chain.chainKey.messageKeys
      · have apart : counter.toNat ≠ chain.chainKey.index.toNat := fun same =>
          first (UInt32.toNat_inj.mp same)
        by_cases later : chain.chainKey.index.toNat + 1 ≤ counter.toNat ∧
            counter.toNat < chain.chainKey.index.toNat + 1 + count
        · have steps : counter.toNat - chain.chainKey.index.toNat =
              counter.toNat - (chain.chainKey.index.toNat + 1) + 1 := by omega
          rw [if_pos later, if_pos (by omega), steps]
          rfl
        · rw [if_neg later, if_neg (by omega)]
          exact SkippedKeys.get?_file_of_ne first

/-- The chain began at an origin and has served the counters at the given distances from it,
and has given nothing up. -/
structure Retains (origin : ChainKey) (distances : List Nat) (chain : ReceiverChain) : Prop where
  chainKey_eq : chain.chainKey = origin.advance (Counters.reach distances)
  filed : ∀ counter : UInt32, origin.index ≤ counter →
    origin.distance counter < Counters.reach distances → origin.distance counter ∉ distances →
      chain.skipped.get? counter = some (origin.advance (origin.distance counter)).messageKeys
  size_le : chain.skipped.size ≤ Counters.outstanding distances

section Retains

variable {origin : ChainKey} {distances : List Nat}

/-- A counter that the chain has passed takes its own key out of the cache, and no other. -/
theorem Retains.late (retains : chain.Retains origin distances) (starts : origin.index ≤ counter)
    (unserved : origin.distance counter ∉ distances)
    (behind : origin.distance counter < Counters.reach distances) :
    Retains origin (origin.distance counter :: distances)
      { chain with skipped := chain.skipped.erase counter } where
  chainKey_eq := by
    rw [Counters.reach_cons_of_lt behind]
    exact retains.chainKey_eq
  filed := by
    intro other later passed absent
    rw [Counters.reach_cons_of_lt behind] at passed
    have different : other ≠ counter := by
      rintro rfl
      exact absent List.mem_cons_self
    rw [SkippedKeys.get?_erase_of_ne different]
    exact retains.filed other later passed fun member => absent (List.mem_cons_of_mem _ member)
  size_le := by
    have fewer := SkippedKeys.size_erase_lt (retains.filed counter starts behind unserved)
    have count := Counters.outstanding_cons_of_lt unserved behind
    have before := retains.size_le
    change (chain.skipped.erase counter).size ≤ _
    omega

/-- A counter ahead of the chain has the keys on the way to it filed, where there is room for
all of them. -/
theorem Retains.ahead (retains : chain.Retains origin distances)
    (index : chain.chainKey.index.toNat = origin.index.toNat + Counters.reach distances)
    (higher : chain.chainKey.index ≤ counter) (notLast : counter < lastCounter)
    (room : Counters.outstanding (origin.distance counter :: distances) ≤ capacity) :
    Retains origin (origin.distance counter :: distances)
      { chain with
        chainKey := chain.chainKey.advance (counter.toNat - chain.chainKey.index.toNat + 1)
        skipped := (chain.skip capacity
          (counter.toNat - chain.chainKey.index.toNat)).1.skipped } := by
  have last : lastCounter.toNat = 2 ^ 32 - 1 := rfl
  have below : counter.toNat < lastCounter.toNat := UInt32.lt_iff_toNat_lt.mp notLast
  have upper : chain.chainKey.index.toNat ≤ counter.toNat := UInt32.le_iff_toNat_le.mp higher
  have starts : origin.index ≤ counter := by
    rw [UInt32.le_iff_toNat_le]
    omega
  have place : origin.index.toNat + origin.distance counter = counter.toNat :=
    ChainKey.index_add_distance starts
  have beyond : Counters.reach distances ≤ origin.distance counter := by omega
  have count := Counters.outstanding_cons_of_le beyond
  have before := retains.size_le
  have fits : chain.chainKey.index.toNat + (counter.toNat - chain.chainKey.index.toNat) <
      2 ^ 32 := by omega
  have cached : chain.skipped.size + (counter.toNat - chain.chainKey.index.toNat) ≤ capacity := by
    omega
  obtain ⟨size, found⟩ := get?_skip fits cached
  constructor
  · rw [Counters.reach_cons_of_le beyond, ChainKey.advance_succ, ChainKey.advance_succ,
      ← ChainKey.advance_sub_index retains.chainKey_eq index upper]
  · intro other later passed absent
    rw [Counters.reach_cons_of_le beyond] at passed
    have spot : origin.index.toNat + origin.distance other = other.toNat :=
      ChainKey.index_add_distance later
    have different : origin.distance other ≠ origin.distance counter := fun same =>
      absent (same ▸ List.mem_cons_self)
    change (chain.skip capacity _).1.skipped.get? other = _
    rw [found other]
    by_cases older : origin.distance other < Counters.reach distances
    · rw [if_neg (by omega)]
      exact retains.filed other later older fun member =>
        absent (List.mem_cons_of_mem _ member)
    · rw [if_pos (by omega),
        ChainKey.advance_sub_index retains.chainKey_eq index (by omega)]
  · change (chain.skip capacity _).1.skipped.size ≤ _
    omega

/-- A chain that has given nothing up serves every other counter within the limits, by the keys
that the origin has for it. -/
theorem Retains.serve (retains : chain.Retains origin distances)
    (bounded : ∀ distance ∈ distances, origin.index.toNat + distance < lastCounter.toNat)
    (starts : origin.index ≤ counter) (notLast : counter < lastCounter)
    (unserved : origin.distance counter ∉ distances)
    (near : origin.distance counter ≤ Counters.reach distances + forwardJumps)
    (room : Counters.outstanding (origin.distance counter :: distances) ≤ capacity) :
    ∃ served, chain.serve forwardJumps capacity counter = .ok served ∧
      served.keys = (origin.advance (origin.distance counter)).messageKeys ∧
      served.chain.ratchetKey = chain.ratchetKey ∧
      served.chain.Retains origin (origin.distance counter :: distances) := by
  have place : origin.index.toNat + origin.distance counter = counter.toNat :=
    ChainKey.index_add_distance starts
  have index : chain.chainKey.index.toNat = origin.index.toNat + Counters.reach distances := by
    rw [retains.chainKey_eq, ChainKey.toNat_index_advance_reach bounded]
  rcases Nat.lt_or_ge (origin.distance counter) (Counters.reach distances) with behind | beyond
  · have lower : counter < chain.chainKey.index := by
      rw [UInt32.lt_iff_toNat_lt, index]
      omega
    obtain ⟨events, serves⟩ : ∃ events,
        chain.serve forwardJumps capacity counter = .ok ⟨_, _, events⟩ :=
      serve_of_filed lower (retains.filed counter starts behind unserved)
    exact ⟨_, serves, rfl, rfl, retains.late starts unserved behind⟩
  · have higher : chain.chainKey.index ≤ counter := by
      rw [UInt32.le_iff_toNat_le, index]
      omega
    obtain ⟨events, serves⟩ : ∃ events,
        chain.serve forwardJumps capacity counter = .ok ⟨_, _, events⟩ :=
      serve_of_ahead higher (by omega)
    refine ⟨_, serves, ?_, rfl, retains.ahead index higher notLast room⟩
    have leads := ChainKey.advance_sub_index retains.chainKey_eq index
      (UInt32.le_iff_toNat_le.mp higher)
    exact congrArg ChainKey.messageKeys leads

end Retains

/-- The chain began at an origin and has served the counters, and has given nothing up. -/
structure Tracks (origin : ChainKey) (counters : List Nat) (chain : ReceiverChain) : Prop where
  chainKey_eq : chain.chainKey = origin.advance (Counters.reach counters)
  filed : ∀ counter : UInt32, counter.toNat < Counters.reach counters →
    counter.toNat ∉ counters →
      chain.skipped.get? counter = some (origin.advance counter.toNat).messageKeys
  size_le : chain.skipped.size ≤ Counters.outstanding counters

theorem tracks_fresh (ratchetKey : PublicKey) (origin : ChainKey) :
    Tracks origin [] ⟨ratchetKey, origin, .empty⟩ where
  chainKey_eq := rfl
  filed := by
    intro counter below
    exact absurd below (Nat.not_lt_zero _)
  size_le := Nat.le_refl 0

/-- From an origin at index zero the distances are the counters themselves. -/
theorem tracks_iff_retains {origin : ChainKey} {counters : List Nat} (zero : origin.index = 0) :
    chain.Tracks origin counters ↔ chain.Retains origin counters := by
  have distance := ChainKey.distance_of_zero zero
  constructor
  · intro tracks
    refine ⟨tracks.chainKey_eq, ?_, tracks.size_le⟩
    intro counter _ passed absent
    rw [distance] at passed absent ⊢
    exact tracks.filed counter passed absent
  · intro retains
    refine ⟨retains.chainKey_eq, ?_, retains.size_le⟩
    intro counter passed absent
    have starts : origin.index ≤ counter := by
      rw [zero]
      exact UInt32.zero_le
    rw [← distance] at passed absent ⊢
    exact retains.filed counter starts passed absent

/-- A chain that tracks its counters serves every other one within the limits, by the keys
that the origin has for it. -/
theorem Tracks.serve {limits : Limits} {origin : ChainKey} {counters : List Nat}
    (tracks : chain.Tracks origin counters) (zero : origin.index = 0)
    (ready : Counters.Ready limits counters counter) :
    ∃ served, chain.serve limits.forwardJumps limits.messageKeys counter = .ok served ∧
      served.keys = (origin.advance counter.toNat).messageKeys ∧
      served.chain.ratchetKey = chain.ratchetKey ∧
      served.chain.Tracks origin (counter.toNat :: counters) := by
  obtain ⟨bounded, notLast, unserved, near, room⟩ := ready
  have started : origin.index.toNat = 0 := by
    rw [zero]
    rfl
  have starts : origin.index ≤ counter := by
    rw [zero]
    exact UInt32.zero_le
  rw [← ChainKey.distance_of_zero zero counter] at unserved near room ⊢
  rw [tracks_iff_retains zero] at tracks
  simp only [tracks_iff_retains zero]
  apply tracks.serve _ starts notLast unserved near room
  intro served member
  rw [started, Nat.zero_add]
  exact bounded served member

end ReceiverChain
end DoubleRatchet
