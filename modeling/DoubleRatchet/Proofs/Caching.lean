import Mathlib.Data.List.Induction
import DoubleRatchet.Proofs.Ratchet.Selection

namespace DoubleRatchet

/-!
# The newest skipped keys are kept

The cache of skipped keys is bounded at every step: each insertion gives up the lowest
counters beyond the capacity.  What is left after many insertions is nevertheless a
function of the insertions as a whole.  It is what an unbounded cache would hold, less
all but the highest counters, whatever the order in which they came.

When keys are also taken out, the order counts, since a place that becomes free goes to
whatever comes next.  What holds in every order is that keys are returned only for an
insertion that nothing has used up, and that the bound is kept.
-/

/-- What is asked of a cache: to file keys, or to hand out those of a counter. -/
inductive CacheRequest
  | insert (keys : MessageKeys)
  | take (counter : UInt32)
  deriving DecidableEq

/-- The counter that a request is about. -/
def CacheRequest.counter : CacheRequest -> UInt32
  | insert keys => keys.counter
  | take counter => counter

namespace SkippedKeys

/-- The cache after a request.  Where there are no keys to hand out, it stays as it is. -/
def grant (capacity : Nat) (cache : SkippedKeys) : CacheRequest -> SkippedKeys
  | .insert keys => cache.insert keys capacity
  | .take counter => ((cache.take? counter).map (·.2)).getD cache

/-- The cache after requests that were made one after the other, from the empty cache on. -/
def grantAll (capacity : Nat) (requests : List CacheRequest) : SkippedKeys :=
  requests.foldl (grant capacity) empty

theorem grantAll_append (capacity : Nat) (before later : List CacheRequest) :
    grantAll capacity (before ++ later) = later.foldl (grant capacity) (grantAll capacity before) :=
  List.foldl_append

/-- The keys among those inserted that came last for a counter. -/
def last? (inserted : List MessageKeys) (counter : UInt32) : Option MessageKeys :=
  inserted.reverse.find? fun keys => keys.counter == counter

/-- The counters of what was inserted, each of them once. -/
def counters (inserted : List MessageKeys) : List UInt32 :=
  (inserted.map (·.counter)).dedup

/-- The cache that gives nothing up. -/
def fileAll (inserted : List MessageKeys) : SkippedKeys :=
  inserted.foldl file empty

variable {capacity : Nat} {cache : SkippedKeys} {counter : UInt32} {keys : MessageKeys}
  {inserted : List MessageKeys} {request : CacheRequest} {requests : List CacheRequest}

/-! ## Insertions alone -/

/-- Giving up surplus keys after each insertion comes to the same as doing so at the end. -/
theorem grantAll_inserts (capacity : Nat) (inserted : List MessageKeys) :
    grantAll capacity (inserted.map .insert) = (fileAll inserted).trim capacity := by
  induction inserted using List.reverseRecOn with
  | nil => exact (trim_of_size_le (Nat.zero_le capacity)).symm
  | append_singleton inserted keys ih =>
    unfold grantAll fileAll at ih ⊢
    rw [List.map_append, List.foldl_append, List.foldl_append, ih]
    exact insert_trim _ keys capacity

theorem get?_fileAll (inserted : List MessageKeys) (counter : UInt32) :
    (fileAll inserted).get? counter = last? inserted counter := by
  induction inserted using List.reverseRecOn with
  | nil => rfl
  | append_singleton inserted keys ih =>
    unfold fileAll last? at ih ⊢
    rw [List.foldl_append, List.reverse_append, List.reverse_singleton, List.singleton_append]
    change (file _ keys).get? counter = _
    by_cases same : keys.counter = counter
    · subst same
      rw [get?_file_self, List.find?_cons, beq_self_eq_true]
    · rw [get?_file_of_ne (Ne.symm same), ih, List.find?_cons_of_neg]
      rw [beq_iff_eq]
      exact same

/-- Without a bound the cache holds the counters that were inserted. -/
theorem keys_fileAll (inserted : List MessageKeys) :
    (fileAll inserted).table.keys.Perm (counters inserted) := by
  apply Table.keys_perm_dedup
  intro counter
  have found := get?_fileAll inserted counter
  unfold get? last? at found
  unfold Table.contains
  rw [found, List.find?_isSome, List.mem_map]
  simp only [List.mem_reverse, beq_iff_eq]

theorem above_fileAll (inserted : List MessageKeys) (counter : UInt32) :
    Table.above counter (fileAll inserted).table.keys =
      (counters inserted).countP fun other => counter < other := by
  unfold Table.above
  rw [(keys_fileAll inserted).countP_eq]
  congr 1
  funext other
  rw [Bool.eq_iff_iff, beq_iff_eq, decide_eq_true_iff]
  exact Std.compare_eq_lt

theorem size_fileAll (inserted : List MessageKeys) :
    (fileAll inserted).size = (counters inserted).length := by
  rw [← (keys_fileAll inserted).length_eq]
  exact (List.length_map _).symm

/-- The order of insertions does not count beyond which keys come last for each counter. -/
theorem grantAll_inserts_congr {others : List MessageKeys}
    (same : ∀ counter, last? inserted counter = last? others counter) (capacity : Nat) :
    grantAll capacity (inserted.map .insert) = grantAll capacity (others.map .insert) := by
  have whole : fileAll inserted = fileAll others := by
    suffices tables : (fileAll inserted).table = (fileAll others).table from
      congrArg SkippedKeys.mk tables
    apply Table.ext_get?
    intro counter
    change (fileAll inserted).get? counter = (fileAll others).get? counter
    rw [get?_fileAll, get?_fileAll, same]
  rw [grantAll_inserts, grantAll_inserts, whole]

/-! ## Insertions and requests for keys -/

theorem grant_take (capacity : Nat) (cache : SkippedKeys) (counter : UInt32) :
    cache.grant capacity (.take counter) = cache ∧ cache.get? counter = none ∨
      cache.grant capacity (.take counter) = cache.erase counter := by
  cases found : cache.get? counter with
  | none =>
    refine .inl ⟨?_, rfl⟩
    simp only [grant, take?, found, Option.map_none, Option.getD_none]
  | some keys =>
    refine .inr ?_
    simp only [grant, take?, found, Option.map_some, Option.getD_some]

theorem get?_grant_take (capacity : Nat) (cache : SkippedKeys) (counter : UInt32) :
    (cache.grant capacity (.take counter)).get? counter = none := by
  rcases grant_take capacity cache counter with ⟨stays, absent⟩ | erased
  · rw [stays, absent]
  · rw [erased, get?_erase_self]

theorem Sound.grant (sound : cache.Sound capacity) (request : CacheRequest) :
    (cache.grant capacity request).Sound capacity := by
  cases request with
  | insert keys => exact sound.insert keys
  | take counter =>
    rcases grant_take capacity cache counter with ⟨stays, _⟩ | erased
    · rw [stays]
      exact sound
    · rw [erased]
      exact sound.erase counter

theorem sound_grantAll (capacity : Nat) (requests : List CacheRequest) :
    (grantAll capacity requests).Sound capacity :=
  List.foldlRecOn requests (SkippedKeys.grant capacity) (sound_empty capacity)
    fun _ sound request _ => sound.grant request

/-- What a cache holds after a request was just inserted, or was there and is not what the
request is about. -/
theorem get?_of_grant (found : (cache.grant capacity request).get? counter = some keys) :
    (request = .insert keys ∧ keys.counter = counter) ∨
      (request.counter ≠ counter ∧ cache.get? counter = some keys) := by
  cases request with
  | insert filed =>
    have before : (cache.file filed).get? counter = some keys := get?_of_trim found
    by_cases same : filed.counter = counter
    · subst same
      rw [get?_file_self, Option.some.injEq] at before
      subst before
      exact .inl ⟨rfl, rfl⟩
    · rw [get?_file_of_ne (Ne.symm same)] at before
      exact .inr ⟨same, before⟩
  | take asked =>
    by_cases same : asked = counter
    · subst same
      rw [get?_grant_take] at found
      cases found
    · refine .inr ⟨same, ?_⟩
      rcases grant_take capacity cache asked with ⟨stays, _⟩ | erased
      · rw [stays] at found
        exact found
      · rw [erased, get?_erase_of_ne (Ne.symm same)] at found
        exact found

/-- What a cache holds after requests was there and none of them is about it, or the last of
them that is about it has inserted it. -/
theorem get?_of_foldl_grant
    (found : (requests.foldl (grant capacity) cache).get? counter = some keys) :
    (cache.get? counter = some keys ∧ ∀ request ∈ requests, request.counter ≠ counter) ∨
      ∃ before later, requests = before ++ .insert keys :: later ∧ keys.counter = counter ∧
        ∀ request ∈ later, request.counter ≠ counter := by
  induction requests generalizing cache with
  | nil => exact .inl ⟨found, fun _ member => nomatch member⟩
  | cons request requests ih =>
    rcases ih found with ⟨held, others⟩ | ⟨before, later, split, filed, others⟩
    · rcases get?_of_grant held with ⟨rfl, filed⟩ | ⟨apart, before⟩
      · exact .inr ⟨[], requests, rfl, filed, others⟩
      · exact .inl ⟨before, List.forall_mem_cons.mpr ⟨apart, others⟩⟩
    · exact .inr ⟨request :: before, later, congrArg _ split, filed, others⟩

end SkippedKeys

open SkippedKeys in
/-- After insertions in any order, with repetitions, the cache holds the highest of the
counters that were inserted, as many as the capacity allows, each with the keys that came
last for it.  If keys are also taken out, the capacity is never exceeded.  Keys that
are handed out were inserted by the last earlier request about their counter, so
that no keys are handed out for a counter twice without a new insertion. -/
theorem cache_keeps_highest_counters (capacity : Nat) :
    (∀ inserted : List MessageKeys,
      let cache := grantAll capacity (inserted.map .insert)
      cache.size = min capacity (counters inserted).length ∧
      ∀ counter keys, cache.get? counter = some keys ↔
        last? inserted counter = some keys ∧
          ((counters inserted).countP fun other => counter < other) < capacity) ∧
    ∀ requests : List CacheRequest,
      let cache := grantAll capacity requests
      cache.size ≤ capacity ∧
      ∀ counter keys rest, cache.take? counter = some (keys, rest) →
        (∃ before later, requests = before ++ .insert keys :: later ∧ keys.counter = counter ∧
          ∀ request ∈ later, request.counter ≠ counter) ∧
        ∀ before later, requests = before ++ .take counter :: later → .insert keys ∈ later := by
  refine ⟨?_, ?_⟩
  · intro inserted cache
    have whole : cache = (fileAll inserted).trim capacity := grantAll_inserts capacity inserted
    refine ⟨?_, ?_⟩
    · rw [whole, size_trim, size_fileAll]
    · intro counter keys
      rw [whole, get?_trim_eq_some_iff, get?_fileAll, above_fileAll]
  · intro requests cache
    refine ⟨(sound_grantAll capacity requests).bounded, ?_⟩
    intro counter keys rest taken
    have held : cache.get? counter = some keys := by
      obtain ⟨found, there, same⟩ := Option.map_eq_some_iff.mp taken
      cases same
      exact there
    refine ⟨?_, ?_⟩
    · rcases get?_of_foldl_grant held with ⟨never, _⟩ | inserted
      · cases never
      · exact inserted
    · rintro before later rfl
      unfold cache at held
      rw [grantAll_append, List.foldl_cons] at held
      rcases get?_of_foldl_grant held with ⟨kept, _⟩ | ⟨_, _, split, _, _⟩
      · rw [get?_grant_take] at kept
        cases kept
      · rw [split]
        exact List.mem_append_right _ List.mem_cons_self

section Scene

/-- Keys for a counter, which may be told from others for the same counter. -/
def Scene.keysFor (counter : UInt32) (mark : UInt8) : MessageKeys :=
  ⟨.replicate 32 mark, .replicate 32 mark, .replicate 16 mark, counter⟩

open Scene SkippedKeys

/-- With room for two, the keys of three are given up for those of five and nine.  Taken out in
time, they can be taken out once more because they were inserted once more. -/
theorem highest_two_counters_kept :
    let inserted := [keysFor 9 1, keysFor 3 1, keysFor 5 1, keysFor 9 2]
    let again : List CacheRequest := [.insert (keysFor 9 1), .insert (keysFor 3 2)]
    let requests := .insert (keysFor 3 1) :: .take 3 :: again
    (grantAll 2 (inserted.map .insert)).get? 9 = some (keysFor 9 2) ∧
      (grantAll 2 (inserted.map .insert)).get? 3 ≠ some (keysFor 3 1) ∧
      (grantAll 2 requests).take? 3 = some (keysFor 3 2, (grantAll 2 requests).erase 3) ∧
      .insert (keysFor 3 2) ∈ again := by
  intro inserted again requests
  obtain ⟨insertions, interleaved⟩ := cache_keeps_highest_counters 2
  have kept := (insertions inserted).2
  have taken : (grantAll 2 requests).take? 3 =
      some (keysFor 3 2, (grantAll 2 requests).erase 3) := by decide +kernel
  refine ⟨?_, ?_, taken, ?_⟩
  · exact (kept 9 (keysFor 9 2)).mpr (by decide +kernel)
  · exact fun found => absurd ((kept 3 (keysFor 3 1)).mp found).2 (by decide +kernel)
  · exact ((interleaved requests).2 3 _ _ taken).2 [.insert (keysFor 3 1)] again rfl

end Scene
end DoubleRatchet
