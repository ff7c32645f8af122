import DoubleRatchet.Log.Event
import DoubleRatchet.Octets.Endian

namespace DoubleRatchet

/-!
# Draws and reports

Operations on session states read random octets and report events; they do
nothing else that a caller could notice.  `Trace` holds both: a source of
draws with the number of draws made, and the events so far.  The source is a
function from the number of a draw to its octets, so that a statement about
fresh keys is a statement about that function.

`Traced` adds failure.  The trace is carried below the failure: draws made and
events reported before an operation fails stay made and reported.
-/

/-- The source of random octets, and the events reported so far. -/
structure Trace where
  entropy : Nat -> Octets 32
  drawn : Nat
  events : List Event

/-- An operation that may draw and report, and cannot fail. -/
abbrev Drawing := StateM Trace

/-- An operation that may draw, report and fail. -/
abbrev Traced := ExceptT Fault (StateM Trace)

namespace Trace

/-- A source before its first draw. -/
def start (entropy : Nat -> Octets 32) : Trace :=
  ⟨entropy, 0, []⟩

/-- The next 32 random octets. -/
def draw : Drawing (Octets 32) := do
  let trace ← get
  set { trace with drawn := trace.drawn + 1 }
  return trace.entropy trace.drawn

/-- Reports an event. -/
def report (event : Event) : Drawing Unit :=
  modify fun trace => { trace with events := trace.events ++ [event] }

/-- Reports events in order. -/
def reportAll (events : List Event) : Drawing Unit :=
  modify fun trace => { trace with events := trace.events ++ events }

/-- The number of leading zero digits of a 32-bit word. -/
def leadingZeros (word : Nat) : Nat :=
  if word = 0 then 32 else 31 - word.log2

/-- Draws until a number falls into the part of the 32-bit words that the range
divides evenly, and gives its share of the range.  After `attempts` failures the
lowest number is given. -/
def drawBelow (range : Nat) : (attempts : Nat) -> Drawing Nat
  | 0 => return 0
  | attempts + 1 => do
    let octets ← draw
    let product := Bytes.ofLittleEndian (octets.toList.take 4) * range
    let zone := (range <<< leadingZeros range) % UInt32.size - 1
    if product % UInt32.size ≤ zone then return product / UInt32.size
    else drawBelow range attempts

/-- A random number from `low` to `high`.  A draw is kept with a probability above
one half, so the bound on the attempts is never met in practice. -/
def drawNumber (low high : Nat) : Drawing UInt32 := do
  let offset ← drawBelow (high - low + 1) 256
  return UInt32.ofNat (low + offset)

end Trace
end DoubleRatchet
