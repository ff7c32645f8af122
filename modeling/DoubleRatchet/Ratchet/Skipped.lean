import DoubleRatchet.Ratchet.Chain
import DoubleRatchet.Table

namespace DoubleRatchet

/-!
# Keys of skipped messages

Messages can overtake each other.  When a chain moves past counters that have
not arrived, the keys of those messages are kept under their counters until
they are asked for.  The cache is bounded, and past the bound the lowest
counters are given up.

A key is taken at most once: taking it removes it.
-/

/-- Message keys by counter.  The counter under which keys are filed and the one
that they carry are separate, because a stored cache may tell them apart. -/
structure SkippedKeys where
  table : Table UInt32 MessageKeys
  deriving DecidableEq

namespace SkippedKeys

/-- The cache without keys. -/
def empty : SkippedKeys :=
  ⟨.empty⟩

instance : Inhabited SkippedKeys := ⟨empty⟩

/-- The number of keys. -/
def size (cache : SkippedKeys) : Nat :=
  cache.table.size

/-- Whether keys are filed under a counter. -/
def contains (cache : SkippedKeys) (counter : UInt32) : Bool :=
  cache.table.contains counter

/-- The keys filed under a counter. -/
def get? (cache : SkippedKeys) (counter : UInt32) : Option MessageKeys :=
  cache.table.get? counter

/-- The cache without the keys filed under a counter. -/
def erase (cache : SkippedKeys) (counter : UInt32) : SkippedKeys :=
  ⟨cache.table.erase counter⟩

/-- The keys filed under a counter and the cache without them. -/
def take? (cache : SkippedKeys) (counter : UInt32) : Option (MessageKeys × SkippedKeys) :=
  (cache.get? counter).map fun keys => (keys, cache.erase counter)

/-- The cache with keys filed under the counter they carry, whatever its size. -/
def file (cache : SkippedKeys) (keys : MessageKeys) : SkippedKeys :=
  ⟨cache.table.insert keys.counter keys⟩

/-- The lowest counters beyond a capacity, in ascending order. -/
def surplus (cache : SkippedKeys) (capacity : Nat) : List UInt32 :=
  (cache.table.entries.take (cache.size - capacity)).map (·.1)

/-- The cache without the lowest counters beyond a capacity. -/
def trim (cache : SkippedKeys) (capacity : Nat) : SkippedKeys :=
  ⟨cache.table.dropLowest (cache.size - capacity)⟩

/-- Files keys and gives up the lowest counters beyond the capacity. -/
def insert (cache : SkippedKeys) (keys : MessageKeys) (capacity : Nat) : SkippedKeys :=
  (cache.file keys).trim capacity

end SkippedKeys
end DoubleRatchet
