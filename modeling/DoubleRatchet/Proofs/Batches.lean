import Mathlib.Data.List.Nodup
import DoubleRatchet.Key.Generation
import DoubleRatchet.Proofs.Suite.Plain

namespace DoubleRatchet

/-!
# The ids of a batch

A batch counts up from the id that it starts at, and the ids are the numbers that it
counts through, cut to the ids there are.  The count is one of 32-bit words.  The number
of ids does not divide the number of words, so where the count starts over at zero, the
ids do not go on but jump: the word before is cut to the id 512 and zero to the id one.
Up to that place each id follows on the one before, and a batch that does not reach it
has no id twice.  A batch that goes past it comes back, after 512 steps, to ids that it
gave before.
-/

namespace PreKey

/-- How many ids there are for a batch. -/
def idCount : Nat :=
  16777214

/-- The id that is to follow an id. -/
def idAfter (id : UInt32) : UInt32 :=
  if id = lastResortId - 1 then 1 else id + 1

variable {start : UInt32} {step other : Nat}

/-! ## Single ids -/

/-- What is left of a number that is cut to a word and then to an id. -/
def cut (number : Nat) : Nat :=
  number % 2 ^ 32 % idCount

theorem cut_lt (number : Nat) : cut number < idCount :=
  Nat.mod_lt _ (by decide)

theorem cut_of_lt {number : Nat} (word : number < 2 ^ 32) : cut number = number % 16777214 := by
  unfold cut
  rw [Nat.mod_eq_of_lt word]
  rfl

theorem cut_of_ge {number : Nat} (above : 2 ^ 32 ≤ number) (near : number < 2 ^ 32 + idCount) :
    cut number = number - 2 ^ 32 := by
  have small : number - 2 ^ 32 < idCount := Nat.sub_lt_left_of_lt_add above near
  unfold cut
  rw [Nat.mod_eq_sub_mod above, Nat.mod_eq_of_lt (Nat.lt_trans small (by decide)),
    Nat.mod_eq_of_lt small]

theorem toNat_idAt (start place : UInt32) :
    (idAt start place).toNat = cut (start.toNat - 1 + place.toNat) + 1 := by
  have small := cut_lt (start.toNat - 1 + place.toNat)
  unfold idAt
  rw [UInt32.toNat_add, UInt32.toNat_mod, UInt32.toNat_add, toNat_decremented]
  change (cut (start.toNat - 1 + place.toNat) + 1) % 2 ^ 32 = _
  exact Nat.mod_eq_of_lt (Nat.lt_of_le_of_lt small (by decide))

/-- The ids of a batch by the number of steps that were made before. -/
theorem toNat_idAt_ofNat (start : UInt32) (near : step < idCount) :
    (idAt start (UInt32.ofNat step)).toNat = cut (start.toNat - 1 + step) + 1 := by
  have word : step < UInt32.size := Nat.lt_trans near (by decide)
  rw [toNat_idAt, UInt32.toNat_ofNat_of_lt' word]

/-- No id is zero, and none is that of the last resort. -/
theorem idAt_between (start place : UInt32) :
    1 ≤ idAt start place ∧ idAt start place < lastResortId := by
  rw [UInt32.le_iff_toNat_le, UInt32.lt_iff_toNat_lt, toNat_idAt]
  exact ⟨Nat.le_add_left _ _, Nat.succ_lt_succ (cut_lt _)⟩

theorem idAt_zero (positive : 1 ≤ start) (below : start < lastResortId) :
    idAt start 0 = start := by
  have least : 1 ≤ start.toNat := UInt32.le_iff_toNat_le.mp positive
  have most : start.toNat < 16777215 := UInt32.lt_iff_toNat_lt.mp below
  have uncut : (start.toNat - 1) % 16777214 = start.toNat - 1 := Nat.mod_eq_of_lt (by omega)
  rw [← UInt32.toNat_inj, toNat_idAt]
  change cut (start.toNat - 1) + 1 = _
  rw [cut_of_lt (by omega), uncut, Nat.sub_add_cancel least]

theorem toNat_idAfter {id : UInt32} (below : id < lastResortId) :
    (idAfter id).toNat = if id.toNat = 16777214 then 1 else id.toNat + 1 := by
  have most : id.toNat < 16777215 := UInt32.lt_iff_toNat_lt.mp below
  unfold idAfter
  by_cases last : id = lastResortId - 1
  · subst last
    rfl
  · have different : id.toNat ≠ 16777214 := fun same => last (UInt32.toNat_inj.mp same)
    rw [if_neg last, if_neg different, UInt32.toNat_add]
    exact Nat.mod_eq_of_lt (Nat.lt_of_le_of_lt most (by decide))

/-- Counting on leads to the id that follows, except from the last word on. -/
theorem cut_succ_iff {number : Nat} (near : number + 1 < 2 ^ 32 + idCount) :
    cut (number + 1) + 1 =
        (if cut number + 1 = 16777214 then 1 else cut number + 1 + 1) ↔
      number + 1 ≠ 2 ^ 32 := by
  have limit : number + 1 < 2 ^ 32 + 16777214 := near
  rcases Nat.lt_trichotomy (number + 1) (2 ^ 32) with below | last | above
  · rw [cut_of_lt below, cut_of_lt (by omega)]
    refine iff_of_true ?_ (Nat.ne_of_lt below)
    split <;> omega
  · obtain rfl : number = 2 ^ 32 - 1 := Nat.eq_sub_of_add_eq last
    decide
  · have word : 2 ^ 32 ≤ number := by omega
    have room : number < 2 ^ 32 + idCount := by omega
    have notLast : number - 2 ^ 32 + 1 ≠ 16777214 := by omega
    rw [cut_of_ge (Nat.le_of_lt above) near, cut_of_ge word room, if_neg notLast,
      Nat.sub_add_comm word]
    exact iff_of_true rfl (Nat.ne_of_gt above)

/-- Two numbers that are less than a round of ids apart are cut to the same id exactly if they
are 512 apart and the count starts over between them. -/
theorem cut_eq_iff {number later : Nat} (order : number < later) (near : later < number + idCount)
    (limit : later < 2 ^ 32 + idCount) :
    cut number = cut later ↔
      later = number + 512 ∧ number < 2 ^ 32 ∧ 2 ^ 32 ≤ later := by
  have round : later < number + 16777214 := near
  rcases Nat.lt_or_ge later (2 ^ 32) with below | above
  · rw [cut_of_lt below, cut_of_lt (Nat.lt_trans order below)]
    omega
  · rcases Nat.lt_or_ge number (2 ^ 32) with before | after
    · rw [cut_of_ge above limit, cut_of_lt before]
      omega
    · rw [cut_of_ge above limit, cut_of_ge after (Nat.lt_trans order limit)]
      omega

/-- Each id follows on the one before, except where the count starts over. -/
theorem idAt_succ_iff (near : step + 1 < idCount) :
    idAt start (UInt32.ofNat (step + 1)) = idAfter (idAt start (UInt32.ofNat step)) ↔
      start.toNat - 1 + step + 1 ≠ 2 ^ 32 := by
  have start_lt := start.toNat_lt
  rw [← UInt32.toNat_inj, toNat_idAfter (idAt_between _ _).2, toNat_idAt_ofNat _ near,
    toNat_idAt_ofNat _ (Nat.lt_of_succ_lt near), ← Nat.add_assoc]
  exact cut_succ_iff (by omega)

/-- An id comes back after 512 steps, if the count starts over in between, and only then. -/
theorem idAt_eq_iff (order : step < other) (near : other < idCount) :
    idAt start (UInt32.ofNat step) = idAt start (UInt32.ofNat other) ↔
      other = step + 512 ∧ start.toNat - 1 + step < 2 ^ 32 ∧ 2 ^ 32 ≤ start.toNat - 1 + other := by
  have start_lt := start.toNat_lt
  rw [← UInt32.toNat_inj, toNat_idAt_ofNat _ near, toNat_idAt_ofNat _ (Nat.lt_trans order near),
    Nat.add_right_cancel_iff, cut_eq_iff (by omega) (by omega) (by omega)]
  omega

/-! ## Whole batches -/

/-- The ids of a batch, in order. -/
def batchIds (start count : UInt32) : List UInt32 :=
  (List.range count.toNat).map fun step => idAt start (UInt32.ofNat step)

theorem ids_generateFrom [Suite] (start : UInt32) (count : Nat) (place : UInt32) (trace : Trace) :
    (generateFrom start count place trace).1.map (·.id) =
      (List.range count).map fun step => idAt start (place + UInt32.ofNat step) := by
  induction count generalizing place trace with
  | zero => rfl
  | succ count ih =>
    rw [List.range_succ_eq_map, List.map_cons, List.map_map]
    change idAt start place :: (generateFrom start count (place + 1) _).1.map (·.id) = _
    rw [ih]
    congr 1
    · congr 1
      exact (UInt32.add_zero place).symm
    · apply List.map_congr_left
      intro step _
      change idAt start (place + 1 + UInt32.ofNat step) =
        idAt start (place + UInt32.ofNat (step + 1))
      rw [UInt32.ofNat_add, UInt32.add_assoc, UInt32.add_comm 1]
      rfl

theorem ids_generateBatch [Suite] (start count : UInt32) (trace : Trace) :
    (generateBatch start count trace).1.map (·.id) = batchIds start count := by
  unfold generateBatch batchIds
  rw [ids_generateFrom]
  simp only [UInt32.zero_add]

variable {count : UInt32}

/-- A batch counts up without a break exactly if the count does not start over. -/
theorem consecutive_batchIds_iff (fits : count < lastResortId) :
    (batchIds start count).IsChain (fun id next => next = idAfter id) ↔
      start.toNat - 1 + count.toNat ≤ 2 ^ 32 := by
  have limit : count.toNat < 16777215 := UInt32.lt_iff_toNat_lt.mp fits
  have start_lt := start.toNat_lt
  have step_iff {step : Nat} (inside : step + 1 < count.toNat) :
      idAt start (UInt32.ofNat (step + 1)) = idAfter (idAt start (UInt32.ofNat step)) ↔
        start.toNat - 1 + step + 1 ≠ 2 ^ 32 :=
    idAt_succ_iff (Nat.lt_of_lt_of_le inside (Nat.le_of_lt_succ limit))
  rw [List.isChain_iff_getElem]
  simp only [batchIds, List.length_map, List.length_range, List.getElem_map, List.getElem_range]
  constructor
  · intro follows
    by_contra beyond
    have inside : 2 ^ 32 - 1 - (start.toNat - 1) + 1 < count.toNat := by omega
    exact (step_iff inside).mp (follows _ inside) (by omega)
  · intro room step inside
    exact (step_iff inside).mpr (by omega)

/-- A batch has no id twice exactly if the count does not start over, or there are too few ids
for any to come back. -/
theorem nodup_batchIds_iff (fits : count < lastResortId) :
    (batchIds start count).Nodup ↔
      start.toNat - 1 + count.toNat ≤ 2 ^ 32 ∨ count.toNat ≤ 512 := by
  have limit : count.toNat < 16777215 := UInt32.lt_iff_toNat_lt.mp fits
  have start_lt := start.toNat_lt
  have same_iff {step other : Nat} (order : step < other) (inside : other < count.toNat) :
      idAt start (UInt32.ofNat step) = idAt start (UInt32.ofNat other) ↔
        other = step + 512 ∧ start.toNat - 1 + step < 2 ^ 32 ∧
          2 ^ 32 ≤ start.toNat - 1 + other :=
    idAt_eq_iff order (Nat.lt_of_lt_of_le inside (Nat.le_of_lt_succ limit))
  unfold batchIds
  rw [List.nodup_map_iff_inj_on List.nodup_range]
  simp only [List.mem_range]
  constructor
  · intro injective
    by_contra beyond
    -- The last word that is counted within 512 steps, or the first one if that comes later.
    let step := 2 ^ 32 - 512 - (start.toNat - 1)
    have inside : step + 512 < count.toNat := by omega
    have back : idAt start (UInt32.ofNat step) = idAt start (UInt32.ofNat (step + 512)) :=
      (same_iff (by omega) inside).mpr (by omega)
    have same := injective step (by omega) (step + 512) inside back
    omega
  · intro room step inside other insideToo same
    rcases Nat.lt_trichotomy step other with before | equal | after
    · have back := (same_iff before insideToo).mp same
      omega
    · exact equal
    · have back := (same_iff after inside).mp same.symm
      omega

end PreKey

/-- A batch of any size up to the number of ids, from any start.  It has as many pre-keys as
were asked for, with ids that are neither zero nor that of the last resort, and begins at the
start if that is an id.  If the count stays within 32-bit words, each id follows on the one
before and none comes twice.  If it does not, there is a place where the ids do not follow,
and more than 512 of them are not all different. -/
theorem batch_ids_follow_within_words [Suite] (start : UInt32) {count : UInt32}
    (fits : count < lastResortId) (trace : Trace) :
    let ids := (PreKey.generateBatch start count trace).1.map (·.id)
    ids.length = count.toNat ∧
    (∀ id ∈ ids, 1 ≤ id ∧ id < lastResortId) ∧
    (1 ≤ start → start < lastResortId → 0 < count → ids.head? = some start) ∧
    (ids.IsChain (fun id next => next = PreKey.idAfter id) ↔
      start.toNat - 1 + count.toNat ≤ 2 ^ 32) ∧
    (ids.Nodup ↔ start.toNat - 1 + count.toNat ≤ 2 ^ 32 ∨ count.toNat ≤ 512) := by
  intro ids
  have same : ids = PreKey.batchIds start count := PreKey.ids_generateBatch start count trace
  rw [same]
  refine ⟨?_, ?_, ?_, PreKey.consecutive_batchIds_iff fits, PreKey.nodup_batchIds_iff fits⟩
  · unfold PreKey.batchIds
    rw [List.length_map, List.length_range]
  · intro id member
    obtain ⟨step, _, rfl⟩ := List.mem_map.mp member
    exact PreKey.idAt_between start _
  · intro positive below some
    have positiveCount : count.toNat ≠ 0 := Nat.ne_of_gt (UInt32.lt_iff_toNat_lt.mp some)
    obtain ⟨more, next⟩ := Nat.exists_eq_succ_of_ne_zero positiveCount
    unfold PreKey.batchIds
    rw [next, List.range_succ_eq_map, List.map_cons, List.head?_cons]
    exact congrArg Option.some (PreKey.idAt_zero positive below)

namespace Scene

attribute [local instance] plainSuite

/-- Three ids around the end of the numbers of 24 bits. -/
theorem batch_starts_over_at_one :
    let ids := (PreKey.generateBatch 0xFFFFFD 3 (.start aliceDraws)).1.map (·.id)
    ids = [0xFFFFFD, 0xFFFFFE, 1] ∧ ids.head? = some 0xFFFFFD ∧
      ids.IsChain (fun id next => next = PreKey.idAfter id) ∧ ids.Nodup := by
  intro ids
  have fits : (3 : UInt32) < lastResortId := by decide
  obtain ⟨_, _, head, consecutive, nodup⟩ :=
    batch_ids_follow_within_words 0xFFFFFD fits (.start aliceDraws)
  exact ⟨by decide +kernel, head (by decide) (by decide) (by decide),
    consecutive.mpr (by decide), nodup.mpr (.inl (by decide))⟩

/-- Three ids around the end of the words do not follow one another, and of 513 ids one comes
twice. -/
theorem batch_breaks_at_last_word :
    let ids := fun count => (PreKey.generateBatch 0xFFFFFFFF count (.start aliceDraws)).1.map (·.id)
    ids 3 = [511, 512, 1] ∧
      ¬ (ids 3).IsChain (fun id next => next = PreKey.idAfter id) ∧ ¬ (ids 513).Nodup := by
  intro ids
  have same : ∀ count, ids count = PreKey.batchIds 0xFFFFFFFF count := fun count =>
    PreKey.ids_generateBatch 0xFFFFFFFF count (.start aliceDraws)
  rw [same, same, PreKey.consecutive_batchIds_iff (by decide),
    PreKey.nodup_batchIds_iff (by decide)]
  decide

end Scene
end DoubleRatchet
