import DoubleRatchet.Ratchet.Skipped

namespace DoubleRatchet

/-!
# What the cache of skipped keys holds

The bound of a cache is kept by giving up the lowest counters, so filing keys can
take other keys away but never puts back what was taken.  Where the bound is not
reached nothing is given up, and the cache answers exactly as an unbounded one.
Both facts are stated about the look-up, which is the view of a table.
-/

namespace Table

variable {κ α : Type} [Ord κ]

theorem lookup?_cons_of_ne [Std.LawfulEqOrd κ] {key other : κ} (different : key ≠ other)
    (value : α) (rest : List (κ × α)) :
    lookup? key ((other, value) :: rest) = lookup? key rest := by
  have apart : compare key other ≠ .eq := fun equal =>
    different (Std.LawfulEqCmp.compare_eq_iff_eq.mp equal)
  cases order : compare key other <;> simp_all [lookup?]

theorem lookup?_eq_none_iff [Std.LawfulEqOrd κ] {key : κ} {entries : List (κ × α)} :
    lookup? key entries = none ↔ key ∉ entries.map (·.1) := by
  induction entries with
  | nil => simp [lookup?]
  | cons entry rest ih =>
    obtain ⟨other, value⟩ := entry
    by_cases same : key = other
    · subst same
      simp [lookup?]
    · rw [lookup?_cons_of_ne same, ih]
      simp [same]

/-- In ascending order the look-up finds every entry. -/
theorem lookup?_eq_some_iff [Std.LawfulEqOrd κ] {key : κ} {value : α} {entries : List (κ × α)}
    (ascending : Ascending entries) :
    lookup? key entries = some value ↔ (key, value) ∈ entries := by
  induction entries with
  | nil => simp [lookup?]
  | cons entry rest ih =>
    obtain ⟨other, found⟩ := entry
    obtain ⟨above, restAscending⟩ := List.pairwise_cons.mp ascending
    by_cases same : key = other
    · subst same
      have absent : (key, value) ∉ rest := by
        intro member
        have lower : compare key key = .lt := above _ member
        have level : compare key key = .eq := Std.ReflCmp.compare_self
        cases lower.symm.trans level
      simp [lookup?, absent, eq_comm]
    · rw [lookup?_cons_of_ne same, ih restAscending]
      simp [same]

/-- A key is bound exactly if it is one of the keys. -/
theorem contains_iff [Std.LawfulEqOrd κ] {table : Table κ α} {key : κ} :
    table.contains key = true ↔ key ∈ table.keys := by
  unfold contains get? keys
  rw [Option.isSome_iff_ne_none, ne_eq, lookup?_eq_none_iff, Classical.not_not]

/-- What is bound without the lowest entries was bound before. -/
theorem get?_of_dropLowest [Std.LawfulEqOrd κ] {table : Table κ α} {key : κ} {value : α}
    {count : Nat} (found : (table.dropLowest count).get? key = some value) :
    table.get? key = some value := by
  unfold get? at found ⊢
  rw [lookup?_eq_some_iff (table.dropLowest count).ascending] at found
  exact (lookup?_eq_some_iff table.ascending).mpr (List.mem_of_mem_drop found)

theorem dropLowest_zero (table : Table κ α) : table.dropLowest 0 = table :=
  rfl

theorem length_insertEntry_le (key : κ) (value : α) (entries : List (κ × α)) :
    (insertEntry key value entries).length ≤ entries.length + 1 := by
  induction entries with
  | nil => exact Nat.le_refl 1
  | cons entry rest ih =>
    obtain ⟨other, old⟩ := entry
    unfold insertEntry
    split
    · exact Nat.le_refl _
    · exact Nat.le_succ _
    · exact Nat.succ_le_succ ih

theorem size_insert_le [Std.TransOrd κ] (table : Table κ α) (key : κ) (value : α) :
    (table.insert key value).size ≤ table.size + 1 :=
  length_insertEntry_le key value table.entries

theorem size_dropLowest (table : Table κ α) (count : Nat) :
    (table.dropLowest count).size = table.size - count :=
  List.length_drop

theorem size_erase_le (table : Table κ α) (key : κ) : (table.erase key).size ≤ table.size :=
  List.length_filter_le ..

end Table

namespace SkippedKeys

variable {cache : SkippedKeys} {counter other : UInt32} {keys : MessageKeys} {capacity : Nat}

theorem contains_eq_false_iff : cache.contains counter = false ↔ cache.get? counter = none := by
  unfold contains Table.contains get?
  rw [Option.isSome_eq_false_iff, Option.isNone_iff_eq_none]

theorem contains_iff : cache.contains counter = true ↔ ∃ keys, cache.get? counter = some keys := by
  unfold contains Table.contains get?
  exact Option.isSome_iff_exists

/-- Trimming only gives keys up. -/
theorem get?_of_trim (found : (cache.trim capacity).get? counter = some keys) :
    cache.get? counter = some keys :=
  Table.get?_of_dropLowest found

/-- Within the capacity nothing is given up. -/
theorem trim_of_size_le (fits : cache.size ≤ capacity) : cache.trim capacity = cache := by
  unfold trim
  rw [Nat.sub_eq_zero_of_le fits, Table.dropLowest_zero]

theorem size_file_le (cache : SkippedKeys) (keys : MessageKeys) :
    (cache.file keys).size ≤ cache.size + 1 :=
  Table.size_insert_le cache.table keys.counter keys

theorem get?_file_self (cache : SkippedKeys) (keys : MessageKeys) :
    (cache.file keys).get? keys.counter = some keys :=
  Table.get?_insert_self ..

theorem get?_file_of_ne (different : counter ≠ keys.counter) :
    (cache.file keys).get? counter = cache.get? counter :=
  Table.get?_insert_of_ne _ different _

/-- Filing adds nothing but the keys. -/
theorem get?_of_file {filed : MessageKeys} (found : (cache.file keys).get? counter = some filed) :
    (counter = keys.counter ∧ filed = keys) ∨ cache.get? counter = some filed := by
  by_cases same : counter = keys.counter
  · subst same
    rw [get?_file_self, Option.some.injEq] at found
    exact .inl ⟨rfl, found.symm⟩
  · rw [get?_file_of_ne same] at found
    exact .inr found

theorem get?_erase_self (cache : SkippedKeys) (counter : UInt32) :
    (cache.erase counter).get? counter = none :=
  Table.get?_erase_self ..

theorem get?_erase_of_ne (different : other ≠ counter) :
    (cache.erase counter).get? other = cache.get? other :=
  Table.get?_erase_of_ne _ different

theorem contains_of_erase (bound : (cache.erase counter).contains other = true) :
    other ≠ counter ∧ cache.contains other = true := by
  have different : other ≠ counter := by
    rintro rfl
    have gone := get?_erase_self cache other
    rw [← contains_eq_false_iff, bound] at gone
    cases gone
  refine ⟨different, ?_⟩
  unfold contains Table.contains at bound ⊢
  have found : (cache.erase counter).get? other = cache.get? other := get?_erase_of_ne different
  unfold get? at found
  rw [← found]
  exact bound

/-! ## The bound -/

/-- The cache is within its capacity, and all keys are filed under the counter they carry. -/
structure Sound (capacity : Nat) (cache : SkippedKeys) : Prop where
  bounded : cache.size ≤ capacity
  own : ∀ entry ∈ cache.table.entries, entry.2.counter = entry.1

theorem sound_empty (capacity : Nat) : empty.Sound capacity :=
  ⟨Nat.zero_le _, fun _ member => nomatch member⟩

theorem size_trim_le (cache : SkippedKeys) (capacity : Nat) :
    (cache.trim capacity).size ≤ capacity := by
  change (cache.table.dropLowest (cache.size - capacity)).size ≤ capacity
  rw [Table.size_dropLowest]
  simp only [size]
  omega

/-- Filing within the capacity keeps a cache sound. -/
theorem Sound.insert (sound : cache.Sound capacity) (keys : MessageKeys) :
    (cache.insert keys capacity).Sound capacity where
  bounded := size_trim_le _ _
  own := by
    intro entry member
    rcases Table.mem_insertEntry (List.mem_of_mem_drop member) with rfl | before
    · rfl
    · exact sound.own entry before

theorem Sound.erase (sound : cache.Sound capacity) (counter : UInt32) :
    (cache.erase counter).Sound capacity where
  bounded := Nat.le_trans (Table.size_erase_le ..) sound.bounded
  own := fun entry member => sound.own entry (List.mem_filter.mp member).1

end SkippedKeys
end DoubleRatchet
