import Mathlib.Algebra.Group.Nat.Defs
import DoubleRatchet.Proofs.Ratchet.Cache
import DoubleRatchet.Session.Chains

namespace DoubleRatchet

/-!
# What a receiver chain serves, and what it never serves again

The index of a chain is a 32-bit number, and moving on past the last one starts
over.  No chain gets that far in practice, and everything here is about chains
that do not: the counter of a message that is served is below the last one.

A chain in order files only counters below its index.  Of such a chain a counter
is used up when it is below the index and not filed, and the central fact is that
serving uses the counter up and leaves every used-up counter used up.  That is all
that the protection against replays rests on.
-/

/-- The counter after which an index starts over. -/
def lastCounter : UInt32 :=
  0xFFFFFFFF

/-- One less than a number, where zero stays zero. -/
theorem toNat_decremented (number : UInt32) :
    (if number = 0 then 0 else number - 1).toNat = number.toNat - 1 := by
  split
  · next zero =>
    rw [zero]
    rfl
  · next nonzero =>
    apply UInt32.toNat_sub_of_le
    rw [UInt32.le_iff_toNat_le]
    exact Nat.pos_of_ne_zero fun zero => nonzero (UInt32.toNat_inj.mp zero)

namespace ChainKey

variable [Suite]

theorem advance_add (chain : ChainKey) (count more : Nat) :
    chain.advance (count + more) = (chain.advance count).advance more := by
  induction count generalizing chain with
  | zero => rw [Nat.zero_add]; rfl
  | succ count ih =>
    rw [Nat.succ_add]
    exact ih chain.next

theorem advance_succ (chain : ChainKey) (count : Nat) :
    chain.advance (count + 1) = (chain.advance count).next :=
  advance_add chain count 1

theorem toNat_index_next {chain : ChainKey} (fits : chain.index.toNat + 1 < 2 ^ 32) :
    chain.next.index.toNat = chain.index.toNat + 1 := by
  change (chain.index + 1).toNat = _
  rw [UInt32.toNat_add]
  exact Nat.mod_eq_of_lt fits

/-- The index counts the steps, as long as it has not started over. -/
theorem toNat_index_advance {chain : ChainKey} {count : Nat}
    (fits : chain.index.toNat + count < 2 ^ 32) :
    (chain.advance count).index.toNat = chain.index.toNat + count := by
  induction count with
  | zero => rfl
  | succ count ih =>
    have reached := ih (by omega)
    rw [advance_succ, toNat_index_next (by omega), reached]
    omega

end ChainKey

namespace ReceiverChain

variable [Suite] {chain : ReceiverChain} {forwardJumps capacity : Nat} {counter other : UInt32}
  {served : Served}

/-! ## Moving on -/

theorem chainKey_skip (capacity count : Nat) (chain : ReceiverChain) :
    (chain.skip capacity count).1.chainKey = chain.chainKey.advance count := by
  induction count generalizing chain with
  | zero => rfl
  | succ count ih => exact ih _

theorem ratchetKey_skip (capacity count : Nat) (chain : ReceiverChain) :
    (chain.skip capacity count).1.ratchetKey = chain.ratchetKey := by
  induction count generalizing chain with
  | zero => rfl
  | succ count ih => exact ih _

/-- Keys that are filed after moving on were filed before, or are those of a counter that was
passed. -/
theorem get?_of_skip {count : Nat} {keys : MessageKeys}
    (fits : chain.chainKey.index.toNat + count < 2 ^ 32)
    (filed : (chain.skip capacity count).1.skipped.get? other = some keys) :
    chain.skipped.get? other = some keys ∨
      (chain.chainKey.index.toNat ≤ other.toNat ∧
        other.toNat < chain.chainKey.index.toNat + count ∧
        keys = (chain.chainKey.advance
          (other.toNat - chain.chainKey.index.toNat)).messageKeys) := by
  induction count generalizing chain with
  | zero => exact .inl filed
  | succ count ih =>
    have next : chain.chainKey.next.index.toNat = chain.chainKey.index.toNat + 1 :=
      ChainKey.toNat_index_next (by omega)
    unfold skip at filed
    rcases ih (by rw [next]; omega) filed with before | ⟨lower, upper, keys_eq⟩
    · rcases SkippedKeys.get?_of_file (SkippedKeys.get?_of_trim before) with ⟨here, same⟩ | older
      · right
        have index : other = chain.chainKey.index := here
        rw [index, Nat.sub_self]
        exact ⟨Nat.le_refl _, by omega, same⟩
      · exact .inl older
    · right
      rw [next] at lower upper keys_eq
      have steps : other.toNat - chain.chainKey.index.toNat =
          other.toNat - (chain.chainKey.index.toNat + 1) + 1 := by omega
      refine ⟨by omega, by omega, ?_⟩
      rw [keys_eq, steps]
      rfl

/-- A counter that is filed after moving on was filed before, or was passed. -/
theorem contains_of_skip {count : Nat} (fits : chain.chainKey.index.toNat + count < 2 ^ 32)
    (filed : (chain.skip capacity count).1.skipped.contains other = true) :
    chain.skipped.contains other = true ∨
      (chain.chainKey.index.toNat ≤ other.toNat ∧
        other.toNat < chain.chainKey.index.toNat + count) := by
  obtain ⟨keys, found⟩ := SkippedKeys.contains_iff.mp filed
  rcases get?_of_skip fits found with before | ⟨lower, upper, _⟩
  · exact .inl (SkippedKeys.contains_iff.mpr ⟨keys, before⟩)
  · exact .inr ⟨lower, upper⟩

/-! ## Serving -/

/-- A counter is served from the cache or by moving on. -/
theorem serve_eq_ok (serves : chain.serve forwardJumps capacity counter = .ok served) :
    (counter < chain.chainKey.index ∧ chain.skipped.get? counter = some served.keys ∧
      served.chain = { chain with skipped := chain.skipped.erase counter }) ∨
    (chain.chainKey.index ≤ counter ∧
      counter.toNat - chain.chainKey.index.toNat ≤ forwardJumps ∧
      served.keys =
        (chain.chainKey.advance (counter.toNat - chain.chainKey.index.toNat)).messageKeys ∧
      served.chain =
        { chain with
          chainKey := chain.chainKey.advance (counter.toNat - chain.chainKey.index.toNat + 1)
          skipped := (chain.skip capacity
            (counter.toNat - chain.chainKey.index.toNat)).1.skipped }) := by
  unfold serve at serves
  by_cases below : counter < chain.chainKey.index
  · rw [if_pos below] at serves
    unfold SkippedKeys.take? at serves
    cases found : chain.skipped.get? counter with
    | none =>
      rw [found] at serves
      cases serves
    | some keys =>
      rw [found] at serves
      cases serves
      exact .inl ⟨below, rfl, rfl⟩
  · rw [if_neg below] at serves
    dsimp only at serves
    split at serves
    · cases serves
    · next near =>
      cases serves
      refine .inr ⟨UInt32.not_lt.mp below, Nat.not_lt.mp near, ?_, ?_⟩
      · change (chain.skip capacity _).1.chainKey.messageKeys = _
        rw [chainKey_skip]
      · unfold serveNext
        dsimp only
        rw [chainKey_skip, ratchetKey_skip, ← ChainKey.advance_succ]

theorem serve_of_filed {keys : MessageKeys} (below : counter < chain.chainKey.index)
    (filed : chain.skipped.get? counter = some keys) :
    ∃ events, chain.serve forwardJumps capacity counter =
      .ok ⟨keys, { chain with skipped := chain.skipped.erase counter }, events⟩ := by
  unfold serve SkippedKeys.take?
  rw [if_pos below, filed]
  exact ⟨_, rfl⟩

theorem serve_of_ahead (ahead : chain.chainKey.index ≤ counter)
    (near : counter.toNat - chain.chainKey.index.toNat ≤ forwardJumps) :
    ∃ events, chain.serve forwardJumps capacity counter =
      .ok ⟨(chain.chainKey.advance (counter.toNat - chain.chainKey.index.toNat)).messageKeys,
        { chain with
          chainKey := chain.chainKey.advance (counter.toNat - chain.chainKey.index.toNat + 1)
          skipped := (chain.skip capacity
            (counter.toNat - chain.chainKey.index.toNat)).1.skipped }, events⟩ := by
  unfold serve serveNext
  rw [if_neg (UInt32.not_lt.mpr ahead), if_neg (Nat.not_lt.mpr near)]
  dsimp only
  rw [chainKey_skip, ratchetKey_skip, ← ChainKey.advance_succ]
  exact ⟨_, rfl⟩

/-- The chain files only counters that it has passed. -/
def InOrder (chain : ReceiverChain) : Prop :=
  ∀ counter, chain.skipped.contains counter = true → counter < chain.chainKey.index

/-- The counter was served or given up. -/
def UsedUp (chain : ReceiverChain) (counter : UInt32) : Prop :=
  counter < chain.chainKey.index ∧ chain.skipped.contains counter = false

omit [Suite] in
theorem inOrder_fresh (ratchetKey : PublicKey) (chainKey : ChainKey) :
    InOrder ⟨ratchetKey, chainKey, .empty⟩ := by
  intro counter filed
  cases filed

theorem ratchetKey_served (serves : chain.serve forwardJumps capacity counter = .ok served) :
    served.chain.ratchetKey = chain.ratchetKey := by
  rcases serve_eq_ok serves with ⟨_, _, result⟩ | ⟨_, _, _, result⟩
  · rw [result]
  · rw [result]

/-- How far a chain is after it has moved on to serve a counter. -/
theorem toNat_index_served (ahead : chain.chainKey.index ≤ counter)
    (notLast : counter < lastCounter) :
    (chain.chainKey.advance (counter.toNat - chain.chainKey.index.toNat + 1)).index.toNat =
      counter.toNat + 1 := by
  have reach : chain.chainKey.index.toNat ≤ counter.toNat := UInt32.le_iff_toNat_le.mp ahead
  have bound : counter.toNat < 0xFFFFFFFF := UInt32.lt_iff_toNat_lt.mp notLast
  rw [ChainKey.toNat_index_advance (by omega)]
  omega

/-- A chain in order stays in order, and serving uses its counter up. -/
theorem inOrder_served (inOrder : chain.InOrder) (notLast : counter < lastCounter)
    (serves : chain.serve forwardJumps capacity counter = .ok served) :
    served.chain.InOrder ∧ served.chain.UsedUp counter := by
  rcases serve_eq_ok serves with ⟨below, found, result⟩ | ⟨ahead, _, _, result⟩
  · rw [result]
    refine ⟨?_, below, ?_⟩
    · intro other filed
      exact inOrder other (SkippedKeys.contains_of_erase filed).2
    · exact SkippedKeys.contains_eq_false_iff.mpr (SkippedKeys.get?_erase_self _ _)
  · have reach : chain.chainKey.index.toNat ≤ counter.toNat := UInt32.le_iff_toNat_le.mp ahead
    have bound : counter.toNat < 0xFFFFFFFF := UInt32.lt_iff_toNat_lt.mp notLast
    have index := toNat_index_served ahead notLast
    -- What is filed afterwards was passed on the way, or was filed before and so is below.
    have filedBelow : ∀ other, served.chain.skipped.contains other = true →
        other.toNat < counter.toNat := by
      intro other filed
      rw [result] at filed
      rcases contains_of_skip (by omega) filed with before | passed
      · have lower := UInt32.lt_iff_toNat_lt.mp (inOrder other before)
        omega
      · omega
    refine ⟨?_, ?_, ?_⟩
    · intro other filed
      have lower := filedBelow other filed
      rw [result, UInt32.lt_iff_toNat_lt, index]
      omega
    · rw [result, UInt32.lt_iff_toNat_lt, index]
      omega
    · cases filed : served.chain.skipped.contains counter with
      | false => rfl
      | true => exact absurd (filedBelow counter filed) (Nat.lt_irrefl _)

/-- What is used up stays used up. -/
theorem usedUp_served (notLast : counter < lastCounter)
    (serves : chain.serve forwardJumps capacity counter = .ok served)
    (used : chain.UsedUp other) : served.chain.UsedUp other := by
  obtain ⟨lower, unfiled⟩ := used
  rcases serve_eq_ok serves with ⟨below, found, result⟩ | ⟨ahead, _, _, result⟩
  · rw [result]
    refine ⟨lower, ?_⟩
    cases filed : (chain.skipped.erase counter).contains other with
    | false => rfl
    | true =>
      rw [(SkippedKeys.contains_of_erase filed).2] at unfiled
      cases unfiled
  · have reach : chain.chainKey.index.toNat ≤ counter.toNat := UInt32.le_iff_toNat_le.mp ahead
    have bound : counter.toNat < 0xFFFFFFFF := UInt32.lt_iff_toNat_lt.mp notLast
    have index := toNat_index_served ahead notLast
    have before := UInt32.lt_iff_toNat_lt.mp lower
    refine ⟨?_, ?_⟩
    · rw [result, UInt32.lt_iff_toNat_lt, index]
      omega
    · cases filed : served.chain.skipped.contains other with
      | false => rfl
      | true =>
        rw [result] at filed
        rcases contains_of_skip (by omega) filed with older | passed
        · rw [older] at unfiled
          cases unfiled
        · omega

/-- A used-up counter is refused as a duplicate. -/
theorem serve_of_usedUp (used : chain.UsedUp counter) (forwardJumps capacity : Nat) :
    chain.serve forwardJumps capacity counter =
      .error (.duplicate chain.chainKey.index counter) := by
  unfold serve SkippedKeys.take?
  rw [if_pos used.1, SkippedKeys.contains_eq_false_iff.mp used.2]
  rfl

end ReceiverChain
end DoubleRatchet
