import Mathlib.Data.List.Dedup
import Mathlib.Data.List.Perm.Basic
import DoubleRatchet.Proofs.Ratchet.Cache

namespace DoubleRatchet

/-!
# The highest entries of a table

A table that is filled entry by entry and keeps only its highest entries could lose
something that the finished table would have kept.  It does not: an entry that was given
up has as many higher entries above it as there is room for, and nothing that is filed
later takes these away.  So it makes no difference whether the lowest entries are given
up after each step or once at the end (`highest_insertEntry_highest`).

What is left at the end can be told for each key alone, by the number of keys above it.
-/

namespace Table

section Entries

variable {β : Type} {entries rest : List β} {capacity : Nat}

/-- The last entries of a list, as many as there is room for. -/
def highest (capacity : Nat) (entries : List β) : List β :=
  entries.drop (entries.length - capacity)

theorem highest_of_length_le (fits : entries.length ≤ capacity) :
    highest capacity entries = entries := by
  unfold highest
  rw [Nat.sub_eq_zero_of_le fits, List.drop_zero]

theorem highest_cons (full : capacity ≤ rest.length) (entry : β) :
    highest capacity (entry :: rest) = highest capacity rest := by
  unfold highest
  rw [List.length_cons, Nat.succ_sub full, List.drop_succ_cons]

end Entries

variable {κ α : Type} [Ord κ] {key : κ} {value : α} {entries : List (κ × α)} {capacity : Nat}

theorem length_le_insertEntry (key : κ) (value : α) (entries : List (κ × α)) :
    entries.length ≤ (insertEntry key value entries).length := by
  induction entries with
  | nil => exact Nat.zero_le _
  | cons entry rest ih =>
    obtain ⟨other, old⟩ := entry
    unfold insertEntry
    split
    · exact Nat.le_succ _
    · exact Nat.le_refl _
    · exact Nat.succ_le_succ ih

/-- Entries that were given up before would be given up afterwards. -/
theorem highest_insertEntry_highest [Std.TransOrd κ] [Std.LawfulEqOrd κ]
    (ascending : Ascending entries) (capacity : Nat) (key : κ) (value : α) :
    highest capacity (insertEntry key value (highest capacity entries)) =
      highest capacity (insertEntry key value entries) := by
  induction entries with
  | nil =>
    have whole : highest capacity ([] : List (κ × α)) = [] :=
      highest_of_length_le (Nat.zero_le capacity)
    rw [whole]
  | cons entry rest ih =>
    obtain ⟨other, old⟩ := entry
    obtain ⟨above, restAscending⟩ := List.pairwise_cons.mp ascending
    rcases Nat.lt_or_ge rest.length capacity with fits | full
    · have whole : highest capacity ((other, old) :: rest) = (other, old) :: rest :=
        highest_of_length_le fits
      rw [whole]
    · have grown := Nat.le_trans full (length_le_insertEntry key value rest)
      rw [highest_cons full, ih restAscending]
      cases order : compare key other with
      | lt =>
        have lower : ∀ entry ∈ rest, compare key entry.1 = .lt := fun entry member =>
          Std.TransCmp.lt_trans order (above entry member)
        have first : insertEntry key value ((other, old) :: rest) =
            (key, value) :: (other, old) :: rest := by
          simp only [insertEntry, order]
        rw [first, insertEntry_of_above lower, highest_cons full,
          highest_cons (Nat.le_succ_of_le full), highest_cons full]
      | eq =>
        obtain rfl := Std.LawfulEqCmp.compare_eq_iff_eq.mp order
        have first : insertEntry key value ((key, old) :: rest) = (key, value) :: rest := by
          simp only [insertEntry, order]
        rw [first, insertEntry_of_above above]
      | gt =>
        have later : insertEntry key value ((other, old) :: rest) =
            (other, old) :: insertEntry key value rest := by
          simp only [insertEntry, order]
        rw [later, highest_cons grown]

/-- How many keys are above a key. -/
def above (key : κ) (keys : List κ) : Nat :=
  keys.countP fun other => compare key other == .lt

theorem above_le_length (key : κ) (keys : List κ) : above key keys ≤ keys.length :=
  List.countP_le_length

theorem above_cons_of_not_lt {other : κ} {keys : List κ} (notLower : compare key other ≠ .lt) :
    above key (other :: keys) = above key keys := by
  apply List.countP_cons_of_neg
  rw [beq_iff_eq]
  exact notLower

theorem above_eq_length {keys : List κ} (lower : ∀ other ∈ keys, compare key other = .lt) :
    above key keys = keys.length := by
  apply List.countP_eq_length.mpr
  intro other member
  rw [beq_iff_eq]
  exact lower other member

/-- An entry is among the highest exactly if there is room for it and for those above it. -/
theorem lookup?_highest_eq_some_iff [Std.TransOrd κ] [Std.LawfulEqOrd κ]
    (ascending : Ascending entries) :
    lookup? key (highest capacity entries) = some value ↔
      lookup? key entries = some value ∧ above key (entries.map (·.1)) < capacity := by
  induction entries with
  | nil => simp [highest, lookup?]
  | cons entry rest ih =>
    obtain ⟨other, old⟩ := entry
    obtain ⟨higher, restAscending⟩ := List.pairwise_cons.mp ascending
    have notLower (found : lookup? key ((other, old) :: rest) = some value) :
        compare key other ≠ .lt := by
      intro lower
      have absent : lookup? key ((other, old) :: rest) = none := by
        apply lookup?_eq_none_of_above
        intro entry member
        rcases List.mem_cons.mp member with rfl | later
        · exact lower
        · exact Std.TransCmp.lt_trans lower (higher entry later)
      rw [absent] at found
      cases found
    have count (found : lookup? key ((other, old) :: rest) = some value) :
        above key (((other, old) :: rest).map (·.1)) = above key (rest.map (·.1)) :=
      above_cons_of_not_lt (notLower found)
    rcases Nat.lt_or_ge rest.length capacity with fits | full
    · have whole : highest capacity ((other, old) :: rest) = (other, old) :: rest :=
        highest_of_length_le fits
      rw [whole]
      refine ⟨fun found => ⟨found, ?_⟩, And.left⟩
      have bound := above_le_length key (rest.map (·.1))
      rw [List.length_map] at bound
      rw [count found]
      exact Nat.lt_of_le_of_lt bound fits
    · rw [highest_cons full, ih restAscending]
      constructor
      · rintro ⟨found, room⟩
        have different : key ≠ other := by
          rintro rfl
          rw [lookup?_eq_none_of_above higher] at found
          cases found
        rw [← lookup?_cons_of_ne different old] at found
        rw [count found]
        exact ⟨found, room⟩
      · rintro ⟨found, room⟩
        rw [count found] at room
        have different : key ≠ other := by
          rintro rfl
          have all : above key (rest.map (·.1)) = (rest.map (·.1)).length := by
            apply above_eq_length
            intro other member
            obtain ⟨entry, there, rfl⟩ := List.mem_map.mp member
            exact higher entry there
          rw [List.length_map] at all
          omega
        rw [lookup?_cons_of_ne different] at found
        exact ⟨found, room⟩

theorem keys_nodup [Std.LawfulEqOrd κ] (table : Table κ α) : table.keys.Nodup := by
  unfold keys List.Nodup
  rw [List.pairwise_map]
  apply table.ascending.imp
  intro first second lower same
  have level : compare first.1 second.1 = .eq := Std.LawfulEqCmp.compare_eq_iff_eq.mpr same
  cases lower.symm.trans level

/-- The keys of a table are those of any list that names the keys it binds. -/
theorem keys_perm_dedup [DecidableEq κ] [Std.TransOrd κ] [Std.LawfulEqOrd κ] {table : Table κ α}
    {named : List κ} (same : ∀ key, table.contains key = true ↔ key ∈ named) :
    table.keys.Perm named.dedup := by
  rw [List.perm_ext_iff_of_nodup table.keys_nodup named.nodup_dedup]
  intro key
  rw [← contains_iff, same, List.mem_dedup]

end Table

namespace SkippedKeys

variable {counter : UInt32} {keys : MessageKeys} {capacity : Nat}

/-- Whether the surplus is given up before does not matter once keys are filed. -/
theorem insert_trim (cache : SkippedKeys) (keys : MessageKeys) (capacity : Nat) :
    (cache.trim capacity).insert keys capacity = cache.insert keys capacity := by
  have entries := Table.highest_insertEntry_highest cache.table.ascending capacity keys.counter keys
  unfold insert trim file
  congr 1
  exact Table.ext_get? fun counter => congrArg (Table.lookup? counter) entries

/-- What is left of a cache are the keys that there is room for together with those of the
higher counters. -/
theorem get?_trim_eq_some_iff {cache : SkippedKeys} :
    (cache.trim capacity).get? counter = some keys ↔
      cache.get? counter = some keys ∧ Table.above counter cache.table.keys < capacity :=
  Table.lookup?_highest_eq_some_iff cache.table.ascending

theorem size_trim (cache : SkippedKeys) (capacity : Nat) :
    (cache.trim capacity).size = min capacity cache.size := by
  change (cache.table.dropLowest (cache.size - capacity)).size = _
  rw [Table.size_dropLowest]
  change cache.size - (cache.size - capacity) = _
  omega

end SkippedKeys
end DoubleRatchet
