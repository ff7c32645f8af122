namespace DoubleRatchet

/-!
# Tables

A table binds keys to values.  Its entries are listed in ascending order of
their keys, and the proof that they are is part of the table.  Two consequences
make it the container of this library: listing a table needs no sorting, and
two tables that answer every look-up alike are equal (`ext_get?`), so that
equality of stores is equality of what they hold.

The look-up `get?` is the view: each operation is described by what it does to
that view.
-/

/-- Entries in strictly ascending order of their keys. -/
def Ascending {κ α : Type} [Ord κ] (entries : List (κ × α)) : Prop :=
  entries.Pairwise fun first second => compare first.1 second.1 = .lt

instance {κ α : Type} [Ord κ] (entries : List (κ × α)) : Decidable (Ascending entries) :=
  inferInstanceAs (Decidable (List.Pairwise _ _))

/-- A finite binding of keys to values, in ascending order of the keys. -/
structure Table (κ α : Type) [Ord κ] where
  entries : List (κ × α)
  ascending : Ascending entries

namespace Table

variable {κ α : Type} [Ord κ]

instance [DecidableEq κ] [DecidableEq α] : DecidableEq (Table κ α) := fun first second =>
  if same : first.entries = second.entries then
    .isTrue (by cases first; cases second; cases same; rfl)
  else .isFalse fun equal => same (equal ▸ rfl)

/-- The table without entries. -/
def empty : Table κ α :=
  ⟨[], .nil⟩

instance : Inhabited (Table κ α) := ⟨empty⟩

/-- The number of entries. -/
def size (table : Table κ α) : Nat :=
  table.entries.length

/-- The value that a list of entries binds to a key. -/
def lookup? (key : κ) : List (κ × α) -> Option α
  | [] => none
  | (other, value) :: rest =>
    match compare key other with
    | .eq => some value
    | _ => lookup? key rest

/-- The value bound to a key. -/
def get? (table : Table κ α) (key : κ) : Option α :=
  lookup? key table.entries

/-- Whether a key is bound. -/
def contains (table : Table κ α) (key : κ) : Bool :=
  (table.get? key).isSome

/-- Puts an entry in its place, instead of the entry with the same key. -/
def insertEntry (key : κ) (value : α) : List (κ × α) -> List (κ × α)
  | [] => [(key, value)]
  | (other, old) :: rest =>
    match compare key other with
    | .lt => (key, value) :: (other, old) :: rest
    | .eq => (key, value) :: rest
    | .gt => (other, old) :: insertEntry key value rest

theorem mem_insertEntry {key : κ} {value : α} {entries : List (κ × α)} {entry : κ × α}
    (member : entry ∈ insertEntry key value entries) :
    entry = (key, value) ∨ entry ∈ entries := by
  induction entries with
  | nil => simpa [insertEntry] using member
  | cons head rest ih =>
    obtain ⟨other, old⟩ := head
    unfold insertEntry at member
    split at member
    · simpa using member
    · rcases List.mem_cons.mp member with same | inRest
      · exact .inl same
      · exact .inr (List.mem_cons_of_mem _ inRest)
    · rcases List.mem_cons.mp member with same | inRest
      · exact .inr (same ▸ List.mem_cons_self ..)
      · exact (ih inRest).imp_right (List.mem_cons_of_mem _)

theorem ascending_insertEntry [Std.TransOrd κ] {key : κ} {value : α} {entries : List (κ × α)}
    (ascending : Ascending entries) : Ascending (insertEntry key value entries) := by
  induction entries with
  | nil => exact List.pairwise_singleton _ _
  | cons head rest ih =>
    obtain ⟨other, old⟩ := head
    obtain ⟨above, restAscending⟩ := List.pairwise_cons.mp ascending
    unfold insertEntry
    split
    · next below =>
      refine List.pairwise_cons.mpr ⟨?_, ascending⟩
      intro entry member
      rcases List.mem_cons.mp member with rfl | inRest
      · exact below
      · exact Std.TransCmp.lt_trans below (above entry inRest)
    · next same =>
      refine List.pairwise_cons.mpr ⟨?_, restAscending⟩
      intro entry member
      exact Std.TransCmp.lt_of_eq_of_lt same (above entry member)
    · next after =>
      refine List.pairwise_cons.mpr ⟨?_, ih restAscending⟩
      intro entry member
      rcases mem_insertEntry member with rfl | inRest
      · exact Std.OrientedCmp.gt_iff_lt.mp after
      · exact above entry inRest

/-- Binds a key to a value, instead of the value it was bound to. -/
def insert [Std.TransOrd κ] (table : Table κ α) (key : κ) (value : α) : Table κ α :=
  ⟨insertEntry key value table.entries, ascending_insertEntry table.ascending⟩

/-- The entries that pass a test of their keys. -/
def filterKeys (table : Table κ α) (keep : κ -> Bool) : Table κ α :=
  ⟨table.entries.filter fun entry => keep entry.1, List.Pairwise.filter _ table.ascending⟩

/-- The table without the entry of a key. -/
def erase (table : Table κ α) (key : κ) : Table κ α :=
  table.filterKeys fun other => compare key other != .eq

/-- The table without its `count` lowest entries. -/
def dropLowest (table : Table κ α) (count : Nat) : Table κ α :=
  ⟨table.entries.drop count, table.ascending.sublist (List.drop_sublist ..)⟩

/-- The table of a list of entries in any order.  Of several entries with one key the
last one counts. -/
def ofEntries [Std.TransOrd κ] : List (κ × α) -> Table κ α
  | [] => empty
  | (key, value) :: later =>
    let table := ofEntries later
    if table.contains key then table else table.insert key value

/-- The keys in ascending order. -/
def keys (table : Table κ α) : List κ :=
  table.entries.map (·.1)

/-- The values in ascending order of their keys. -/
def values (table : Table κ α) : List α :=
  table.entries.map (·.2)

@[simp] theorem get?_empty (key : κ) : (empty : Table κ α).get? key = none :=
  rfl

theorem lookup?_eq_none_of_above {key : κ} {entries : List (κ × α)}
    (above : ∀ entry ∈ entries, compare key entry.1 = .lt) : lookup? key entries = none := by
  induction entries with
  | nil => rfl
  | cons head rest ih =>
    obtain ⟨other, value⟩ := head
    have first := above _ (List.mem_cons_self ..)
    have later := ih fun entry member => above entry (List.mem_cons_of_mem _ member)
    simp_all [lookup?]

theorem insertEntry_of_above {key : κ} {entries : List (κ × α)}
    (above : ∀ entry ∈ entries, compare key entry.1 = .lt) (value : α) :
    insertEntry key value entries = (key, value) :: entries := by
  cases entries with
  | nil => rfl
  | cons head rest => simp [insertEntry, above head (List.mem_cons_self ..)]

/-- The entries of a table make up that table. -/
theorem entries_ofEntries [Std.TransOrd κ] {entries : List (κ × α)}
    (ascending : Ascending entries) : (ofEntries entries).entries = entries := by
  induction entries with
  | nil => rfl
  | cons head later ih =>
    obtain ⟨key, value⟩ := head
    obtain ⟨above, laterAscending⟩ := List.pairwise_cons.mp ascending
    have same := ih laterAscending
    have absent : (ofEntries later).contains key = false := by
      simp [contains, get?, same, lookup?_eq_none_of_above above]
    simp [ofEntries, absent, insert, same, insertEntry_of_above above]

section Lookup

variable [Std.LawfulEqOrd κ]

theorem lookup?_insertEntry_self (key : κ) (value : α) (entries : List (κ × α)) :
    lookup? key (insertEntry key value entries) = some value := by
  induction entries with
  | nil => simp [insertEntry, lookup?]
  | cons head rest ih =>
    obtain ⟨other, old⟩ := head
    unfold insertEntry
    split <;> simp_all [lookup?]

theorem lookup?_insertEntry_of_ne {key other : κ} (different : other ≠ key) (value : α)
    (entries : List (κ × α)) :
    lookup? other (insertEntry key value entries) = lookup? other entries := by
  have apart : compare other key ≠ .eq := fun same =>
    different (Std.LawfulEqCmp.compare_eq_iff_eq.mp same)
  induction entries with
  | nil =>
    cases order : compare other key <;> simp_all [insertEntry, lookup?]
  | cons head rest ih =>
    obtain ⟨place, old⟩ := head
    unfold insertEntry
    split
    · cases order : compare other key <;> simp_all [lookup?]
    · next same =>
      obtain rfl := Std.LawfulEqCmp.compare_eq_iff_eq.mp same
      cases order : compare other key <;> simp_all [lookup?]
    · cases order : compare other place <;> simp_all [lookup?]

@[simp] theorem get?_insert_self [Std.TransOrd κ] (table : Table κ α) (key : κ) (value : α) :
    (table.insert key value).get? key = some value :=
  lookup?_insertEntry_self ..

theorem get?_insert_of_ne [Std.TransOrd κ] (table : Table κ α) {key other : κ}
    (different : other ≠ key) (value : α) :
    (table.insert key value).get? other = table.get? other :=
  lookup?_insertEntry_of_ne different ..

theorem lookup?_filter (keep : κ -> Bool) (key : κ) (entries : List (κ × α)) :
    lookup? key (entries.filter fun entry => keep entry.1) =
      if keep key then lookup? key entries else none := by
  induction entries with
  | nil => simp [lookup?]
  | cons head rest ih =>
    obtain ⟨other, value⟩ := head
    by_cases same : key = other
    · subst same
      cases kept : keep key <;> simp_all [lookup?]
    · have apart : compare key other ≠ .eq := fun equal =>
        same (Std.LawfulEqCmp.compare_eq_iff_eq.mp equal)
      have skip : lookup? key ((other, value) :: rest) = lookup? key rest := by
        cases order : compare key other <;> simp_all [lookup?]
      have skipKept : lookup? key ((other, value) :: rest.filter fun entry => keep entry.1) =
          lookup? key (rest.filter fun entry => keep entry.1) := by
        cases order : compare key other <;> simp_all [lookup?]
      cases kept : keep other <;> simp [List.filter, kept, skip, skipKept, ih]

theorem get?_filterKeys (table : Table κ α) (keep : κ -> Bool) (key : κ) :
    (table.filterKeys keep).get? key = if keep key then table.get? key else none :=
  lookup?_filter ..

@[simp] theorem get?_erase_self (table : Table κ α) (key : κ) :
    (table.erase key).get? key = none := by
  simp [erase, get?_filterKeys]

theorem get?_erase_of_ne (table : Table κ α) {key other : κ} (different : other ≠ key) :
    (table.erase key).get? other = table.get? other := by
  have apart : compare key other ≠ .eq := fun same =>
    different (Std.LawfulEqCmp.compare_eq_iff_eq.mp same).symm
  simp [erase, get?_filterKeys, apart]

/-- Entries in ascending order are determined by their look-ups. -/
theorem entries_eq_of_lookup?_eq [Std.TransOrd κ] {first second : List (κ × α)}
    (firstAscending : Ascending first) (secondAscending : Ascending second)
    (same : ∀ key, lookup? key first = lookup? key second) : first = second := by
  induction first generalizing second with
  | nil =>
    cases second with
    | nil => rfl
    | cons head rest =>
      have found := same head.1
      simp [lookup?] at found
  | cons head rest ih =>
    obtain ⟨key, value⟩ := head
    obtain ⟨above, restAscending⟩ := List.pairwise_cons.mp firstAscending
    cases second with
    | nil =>
      have found := same key
      simp [lookup?] at found
    | cons other others =>
      obtain ⟨otherKey, otherValue⟩ := other
      obtain ⟨otherAbove, othersAscending⟩ := List.pairwise_cons.mp secondAscending
      have order : compare key otherKey = .eq := by
        cases order : compare key otherKey with
        | eq => rfl
        | lt =>
          have found := same key
          have absent : lookup? key others = none := lookup?_eq_none_of_above
            fun entry member => Std.TransCmp.lt_trans order (otherAbove entry member)
          simp [lookup?, order, absent] at found
        | gt =>
          have below := Std.OrientedCmp.gt_iff_lt.mp order
          have found := same otherKey
          have absent : lookup? otherKey rest = none := lookup?_eq_none_of_above
            fun entry member => Std.TransCmp.lt_trans below (above entry member)
          simp [lookup?, below, absent] at found
      obtain rfl := Std.LawfulEqCmp.compare_eq_iff_eq.mp order
      have head := same key
      simp only [lookup?, Std.ReflCmp.compare_self, Option.some.injEq] at head
      subst head
      refine congrArg _ (ih restAscending othersAscending fun sought => ?_)
      by_cases here : sought = key
      · subst here
        rw [lookup?_eq_none_of_above above, lookup?_eq_none_of_above otherAbove]
      · have apart : compare sought key ≠ .eq := fun equal =>
          here (Std.LawfulEqCmp.compare_eq_iff_eq.mp equal)
        have found := same sought
        cases place : compare sought key <;> simp_all [lookup?]

/-- Tables that answer every look-up alike are equal. -/
theorem ext_get? [Std.TransOrd κ] {first second : Table κ α}
    (same : ∀ key, first.get? key = second.get? key) :
    first = second := by
  have entries := entries_eq_of_lookup?_eq first.ascending second.ascending same
  cases first
  cases second
  cases entries
  rfl

end Lookup
end Table
end DoubleRatchet
