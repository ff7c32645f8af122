import Mathlib.Algebra.Group.Nat.Defs
import DoubleRatchet.Wire.Field

namespace DoubleRatchet
namespace Wire

/-!
# Fields read back

A sequence of fields is read as it was written, if every field has a number
that a key has room for and a content that can be written.  The bound on the
steps of the reader is met because every field takes at least one octet.
-/

namespace Field

/-- A field that its key and its length prefix have room for. -/
def Writable (field : Field) : Prop :=
  0 < field.number ∧ field.number < 2 ^ 28 ∧
    match field.payload with
    | .number value => value < 2 ^ 64
    | .octets bytes => bytes.length < 2 ^ 64
    | .other => False

end Field

theorem length_encode_pos (value : Nat) : 0 < (Varint.encode value).length := by
  unfold Varint.encode Varint.maximumLength Varint.encodeWithin
  split <;> simp

theorem readKey?_encode {number : Nat} (low : Nat) (positive : 0 < number)
    (bounded : number < 2 ^ 28) (lowBits : low < 8) {kind : Kind}
    (known : Kind.ofNat? low = some kind) (rest : Bytes) :
    readKey? (Varint.encode (8 * number + low) ++ rest) = some (number, kind, rest) := by
  have small : 8 * number + low < 2 ^ 64 := by omega
  have decoded := Varint.decode?_encode_append small rest
  have bits : (8 * number + low) % 8 = low := by omega
  have shifted : (8 * number + low) / 8 = number := by omega
  have room : 8 * number + low < UInt32.size ∧ number ≠ 0 := by simp only [UInt32.size]; omega
  simp only [readKey?, decoded, Option.bind_eq_bind, Option.bind_some, bits, known, shifted,
    if_pos room]

/-- One field is read off the front. -/
theorem readFields_toBytes_append {field : Field} (writable : field.Writable) (rest : Bytes)
    (steps : Nat) :
    readFields (steps + 1) [] (field.toBytes ++ rest) =
      (readFields steps [] rest).map (field :: ·) := by
  obtain ⟨number, payload⟩ := field
  obtain ⟨positive, bounded, content⟩ := writable
  have filled (bytes more : Bytes) (some : 0 < bytes.length) :
      ∃ first later, bytes ++ more = first :: later :=
    List.exists_cons_of_length_pos (by rw [List.length_append]; omega)
  cases payload with
  | number value =>
    have known : Kind.ofNat? 0 = some .varint := rfl
    have key := readKey?_encode 0 positive bounded (by decide) known
      (Varint.encode value ++ rest)
    have decoded := Varint.decode?_encode_append content rest
    rw [Nat.add_zero] at key
    simp only [Field.toBytes, List.append_assoc]
    obtain ⟨first, later, spelled⟩ := filled _ (Varint.encode value ++ rest)
      (length_encode_pos (8 * number))
    rw [spelled] at key ⊢
    simp [readFields, key, readPayload?, decoded]
  | octets bytes =>
    have known : Kind.ofNat? 2 = some .delimited := rfl
    have key := readKey?_encode 2 positive bounded (by decide) known
      (Varint.encode bytes.length ++ (bytes ++ rest))
    have decoded := Varint.decode?_encode_append content (bytes ++ rest)
    simp only [Field.toBytes, List.append_assoc]
    obtain ⟨first, later, spelled⟩ := filled _ (Varint.encode bytes.length ++ (bytes ++ rest))
      (length_encode_pos (8 * number + 2))
    rw [spelled] at key ⊢
    simp [readFields, key, readPayload?, decoded, skip?]
  | other => cases content

theorem length_toBytes_pos {field : Field} (writable : field.Writable) :
    0 < field.toBytes.length := by
  obtain ⟨number, payload⟩ := field
  cases payload with
  | number value =>
    rw [Field.toBytes, List.length_append]
    exact Nat.add_pos_left (length_encode_pos _) _
  | octets bytes =>
    rw [Field.toBytes, List.length_append, List.length_append]
    exact Nat.add_pos_left (Nat.add_pos_left (length_encode_pos _) _) _
  | other => exact absurd writable.2.2 not_false

theorem readFields_write {fields : List Field} (writable : ∀ field ∈ fields, field.Writable)
    {steps : Nat} (enough : (write fields).length ≤ steps) :
    readFields steps [] (write fields) = some fields := by
  induction fields generalizing steps with
  | nil => cases steps <;> rfl
  | cons field rest ih =>
    have first := writable field (List.mem_cons_self ..)
    have longer := length_toBytes_pos first
    rw [write, List.flatMap_cons, List.length_append] at enough
    cases steps with
    | zero => omega
    | succ steps =>
      have room : (write rest).length ≤ steps := by
        rw [write]
        omega
      have later := ih (fun other member => writable other (List.mem_cons_of_mem _ member)) room
      rw [write, List.flatMap_cons, readFields_toBytes_append first]
      rw [write] at later
      rw [later, Option.map_some]

/-- Writable fields are read as they were written. -/
theorem read?_write {fields : List Field} (writable : ∀ field ∈ fields, field.Writable) :
    read? (write fields) = some fields :=
  readFields_write writable (Nat.le_refl _)

theorem writable_numberField {number : Nat} (positive : 0 < number) (bounded : number < 2 ^ 28)
    (value : Option UInt32) : ∀ field ∈ numberField number value, field.Writable := by
  intro field member
  obtain ⟨content, -, rfl⟩ := List.mem_map.mp member
  exact ⟨positive, bounded, Nat.lt_trans content.toNat_lt (by decide)⟩

theorem writable_octetsField {number : Nat} (positive : 0 < number) (bounded : number < 2 ^ 28)
    {value : Option Bytes} (short : ∀ bytes ∈ value, bytes.length < 2 ^ 64) :
    ∀ field ∈ octetsField number value, field.Writable := by
  intro field member
  obtain ⟨content, inValue, rfl⟩ := List.mem_map.mp member
  exact ⟨positive, bounded, short content (Option.mem_toList.mp inValue)⟩

end Wire
end DoubleRatchet
