import DoubleRatchet.Wire.Varint

namespace DoubleRatchet
namespace Wire

/-!
# Fields of a message body

The body of a message is a sequence of numbered fields.  A field holds a number
or a string of octets; fields of fixed width and groups of fields can occur as
well, and since no message of this library uses them they are kept only as
something of the wrong kind.

Reading is one pass over the octets that carries the numbers of the groups
still open.  Inside a group everything is passed over.  Groups nest to a
bounded depth, and the end of a group must bear its number.

The fields of a message come in any order and may repeat.  The last one of a
number counts, but an earlier one of the wrong kind spoils the message.
-/

/-- The content of a field. -/
inductive Payload where
  | number (value : Nat)
  | octets (bytes : Bytes)
  | other
  deriving DecidableEq

/-- A numbered field. -/
structure Field where
  number : Nat
  payload : Payload
  deriving DecidableEq

/-- How the content of a field is written. -/
inductive Kind where
  | varint
  | fixed64
  | delimited
  | groupStart
  | groupEnd
  | fixed32
  deriving DecidableEq

namespace Kind

/-- The kind that the low three bits of a key denote. -/
def ofNat? : Nat -> Option Kind
  | 0 => some varint
  | 1 => some fixed64
  | 2 => some delimited
  | 3 => some groupStart
  | 4 => some groupEnd
  | 5 => some fixed32
  | _ => none

end Kind

/-- The groups that may be open around a field. -/
def maximumDepth : Nat :=
  100

/-- Reads the key of a field: its number, which is not zero, and its kind. -/
def readKey? (bytes : Bytes) : Option (Nat × Kind × Bytes) := do
  let (key, rest) ← Varint.decode? bytes
  let kind ← Kind.ofNat? (key % 8)
  if key < UInt32.size ∧ key / 8 ≠ 0 then some (key / 8, kind, rest) else none

/-- Passes over a fixed number of octets. -/
def skip? (count : Nat) (bytes : Bytes) : Option Bytes :=
  if count ≤ bytes.length then some (bytes.drop count) else none

/-- Reads the content of a field that is no group. -/
def readPayload? (kind : Kind) (bytes : Bytes) : Option (Payload × Bytes) :=
  match kind with
  | .varint => (Varint.decode? bytes).map fun read => (.number read.1, read.2)
  | .fixed64 => (skip? 8 bytes).map (.other, ·)
  | .fixed32 => (skip? 4 bytes).map (.other, ·)
  | .delimited => do
    let (length, rest) ← Varint.decode? bytes
    let after ← skip? length rest
    return (.octets (rest.take length), after)
  | .groupStart | .groupEnd => none

/-- Reads fields to the end of the octets.  `groups` are the numbers of the open
groups, innermost first.  Every field takes an octet, so as many steps as there
are octets suffice. -/
def readFields : (steps : Nat) -> (groups : List Nat) -> Bytes -> Option (List Field)
  | _, [], [] => some []
  | 0, _, _ => none
  | steps + 1, groups, bytes => do
    let (number, kind, rest) ← readKey? bytes
    match kind, groups with
    | .groupEnd, [] => none
    | .groupEnd, inner :: outer =>
      if inner = number then readFields steps outer rest else none
    | .groupStart, [] =>
      (readFields steps [number] rest).map (⟨number, .other⟩ :: ·)
    | .groupStart, inner :: outer =>
      if groups.length < maximumDepth then readFields steps (number :: inner :: outer) rest
      else none
    | kind, [] => do
      let (payload, rest) ← readPayload? kind rest
      (readFields steps [] rest).map (⟨number, payload⟩ :: ·)
    | kind, inner :: outer =>
      if groups.length < maximumDepth then do
        let (_, rest) ← readPayload? kind rest
        readFields steps (inner :: outer) rest
      else none

/-- Reads the fields of a body. -/
def read? (body : Bytes) : Option (List Field) :=
  readFields body.length [] body

/-- The octets of a field. -/
def Field.toBytes (field : Field) : Bytes :=
  match field.payload with
  | .number value => Varint.encode (8 * field.number) ++ Varint.encode value
  | .octets bytes =>
    Varint.encode (8 * field.number + 2) ++ Varint.encode bytes.length ++ bytes
  | .other => []

/-- The octets of fields in order. -/
def write (fields : List Field) : Bytes :=
  fields.flatMap Field.toBytes

/-- The number in the last field with a number, if every such field holds one.  A
number is cut to 32 bits. -/
def number? (fields : List Field) (number : Nat) : Option (Option UInt32) :=
  (fields.filter fun field => field.number = number).foldlM
    (fun _ field =>
      match field.payload with
      | .number value => some (some (UInt32.ofNat value))
      | _ => none)
    none

/-- The octets in the last field with a number, if every such field holds octets. -/
def octets? (fields : List Field) (number : Nat) : Option (Option Bytes) :=
  (fields.filter fun field => field.number = number).foldlM
    (fun _ field =>
      match field.payload with
      | .octets bytes => some (some bytes)
      | _ => none)
    none

/-- A field of a number, where there is one. -/
def numberField (number : Nat) (value : Option UInt32) : List Field :=
  value.toList.map fun value => ⟨number, .number value.toNat⟩

/-- A field of octets, where there are some. -/
def octetsField (number : Nat) (value : Option Bytes) : List Field :=
  value.toList.map fun bytes => ⟨number, .octets bytes⟩

end Wire
end DoubleRatchet
