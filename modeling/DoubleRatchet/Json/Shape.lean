import DoubleRatchet.Json.Text
import DoubleRatchet.Json.Value
import DoubleRatchet.Octets.Hex

namespace DoubleRatchet
namespace Json

/-!
# The shapes of documents

A stored thing is a document of fixed fields.  It is written as an object with
its fields in order.  It is read from an object with the fields in any order
among others that are ignored, or from an array of exactly the fields in
order; the array may leave off fields at its end that have a value of their
own when absent.  A known field that is written twice makes the object
unreadable, and so does a key that is no text.

Octets are written as hexadecimal text, numbers as plain numerals without sign,
fraction or exponent.
-/

namespace Value

/-- An object with the given fields in order. -/
def ofFields (fields : List (String × Value)) : Value :=
  .object (fields.map fun field => (spellingOf field.1, field.2))

/-- The value of the only field with a name, if there is at most one such field. -/
def uniqueField? (members : List (String × Value)) (name : String) : Option (Option Value) :=
  match members.filter fun member => member.1 = name with
  | [] => some none
  | [member] => some (some member.2)
  | _ => none

/-- The values of the named fields, each of which may be absent.  From an array at
most the last `optional` fields may be absent. -/
def fields? (names : List String) (optional : Nat) : Value -> Option (List (Option Value))
  | .object members => do
    let named ← members.mapM fun member => (textOf? member.1).map (·, member.2)
    names.mapM (uniqueField? named)
  | .array items =>
    if items.length ≤ names.length ∧ names.length ≤ items.length + optional then
      some (items.map some ++ List.replicate (names.length - items.length) none)
    else none
  | _ => none

/-- A number as a plain numeral. -/
def ofNat (value : Nat) : Value :=
  .number ((Nat.toDigits 10 value).map ascii)

/-- The number that a plain numeral below a bound spells. -/
def plainNumber? (bound : Nat) (spelling : Bytes) : Option Nat :=
  let value := Nat.ofDigitChars 10 (spelling.map fun octet => Char.ofNat octet.toNat) 0
  let plain := spelling.all isDigit && (spelling.length = 1 || spelling.head? ≠ some (ascii '0'))
  if !spelling.isEmpty && plain && value < bound then some value else none

/-- A number below a bound. -/
def toNat? (bound : Nat) : Value -> Option Nat
  | .number spelling => plainNumber? bound spelling
  | _ => none

/-- A number of 8 bits. -/
def toUInt8? (value : Value) : Option UInt8 :=
  (value.toNat? UInt8.size).map UInt8.ofNat

/-- A number of 32 bits. -/
def toUInt32? (value : Value) : Option UInt32 :=
  (value.toNat? UInt32.size).map UInt32.ofNat

/-- A number of 64 bits. -/
def toUInt64? (value : Value) : Option UInt64 :=
  (value.toNat? UInt64.size).map UInt64.ofNat

/-- Text. -/
def ofText (text : String) : Value :=
  .string (spellingOf text)

/-- The text of a string. -/
def toText? : Value -> Option String
  | .string spelling => textOf? spelling
  | _ => none

/-- Octets as hexadecimal text, in which nothing has to be escaped. -/
def ofBytes (bytes : Bytes) : Value :=
  .string ((Hex.encode bytes).map ascii)

/-- The octets of hexadecimal text. -/
def toBytes? : Value -> Option Bytes
  | .string spelling => do
    let digits ← charactersOf? spelling
    Hex.decode? digits
  | _ => none

/-- The octets of hexadecimal text, of a fixed number. -/
def toOctets? (n : Nat) (value : Value) : Option (Octets n) := do
  let bytes ← value.toBytes?
  Octets.ofList? n bytes

/-- The value of something that may be absent. -/
def ofOption {α : Type} (write : α -> Value) : Option α -> Value
  | some value => write value
  | none => .null

/-- A field that must be there. -/
def required {α : Type} (read : Value -> Option α) : Option Value -> Option α
  | some value => read value
  | none => none

/-- A field that may be absent, or there as nothing. -/
def optional {α : Type} (read : Value -> Option α) : Option Value -> Option (Option α)
  | none | some .null => some none
  | some value => (read value).map some

/-- A field that has a value of its own when absent. -/
def defaulted {α : Type} (default : α) (read : Value -> Option α) : Option Value -> Option α
  | some value => read value
  | none => some default

/-- A list of values of one kind. -/
def ofList {α : Type} (write : α -> Value) (values : List α) : Value :=
  .array (values.map write)

/-- The items of an array, all of one kind. -/
def toList? {α : Type} (read : Value -> Option α) : Value -> Option (List α)
  | .array items => items.mapM read
  | _ => none

end Value

/-- Things that are stored as documents. -/
class Document (α : Type) where
  /-- The tree of a thing. -/
  toValue : α -> Value
  /-- The thing of a tree. -/
  ofValue? : Value -> Option α

namespace Document

variable {α : Type} [Document α]

/-- Writes a thing as a document. -/
def write (value : α) : Bytes :=
  (toValue value).write

/-- Reads a document. -/
def read? (document : Bytes) : Option α := do
  let value ← Value.read? document
  ofValue? value

end Document
end Json
end DoubleRatchet
