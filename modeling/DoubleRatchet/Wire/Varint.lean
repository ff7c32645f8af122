import DoubleRatchet.Octets.Basic

namespace DoubleRatchet
namespace Varint

/-!
# Numbers of varying length

A number of up to 64 bits is written in groups of seven bits, lowest group
first, and every octet but the last has its top bit set.  Reading takes at most
ten octets, and the tenth may hold one bit only, because nine groups leave room
for no more.  Leading zero groups are read without complaint, so a number has
several spellings and writing uses the shortest.
-/

/-- The most octets that a number takes. -/
def maximumLength : Nat :=
  10

/-- Writes a number in at most `room` octets. -/
def encodeWithin : (room : Nat) -> (value : Nat) -> Bytes
  | 0, _ => []
  | room + 1, value =>
    if value < 128 then [UInt8.ofNat value]
    else UInt8.ofNat (value % 128 + 128) :: encodeWithin room (value / 128)

/-- Writes a number of up to 64 bits. -/
def encode (value : Nat) : Bytes :=
  encodeWithin maximumLength value

/-- Reads a number in at most `room` octets, with what follows it. -/
def decodeWithin : (room : Nat) -> Bytes -> Option (Nat × Bytes)
  | 0, _ => none
  | _ + 1, [] => none
  | room + 1, octet :: rest =>
    if octet < 128 then
      if room = 0 ∧ 1 < octet then none else some (octet.toNat, rest)
    else
      (decodeWithin room rest).map fun higher =>
        (octet.toNat - 128 + 128 * higher.1, higher.2)

/-- Reads a number, with what follows it. -/
def decode? (bytes : Bytes) : Option (Nat × Bytes) :=
  decodeWithin maximumLength bytes

/-- A number read back, whatever follows it.  The bound leaves the last octet of
the room at most one bit. -/
theorem decodeWithin_encodeWithin_append (room value : Nat) (fits : value < 2 <<< (7 * room))
    (rest : Bytes) :
    decodeWithin (room + 1) (encodeWithin (room + 1) value ++ rest) = some (value, rest) := by
  induction room generalizing value with
  | zero =>
    have small : value < 128 := by omega
    have bit : ¬ (1 : UInt8) < UInt8.ofNat value := by
      rw [UInt8.lt_iff_toNat_lt, UInt8.toNat_ofNat_of_lt' (by simp [UInt8.size]; omega)]
      simp
      omega
    have below : UInt8.ofNat value < 128 := by
      rw [UInt8.lt_iff_toNat_lt, UInt8.toNat_ofNat_of_lt' (by simp [UInt8.size]; omega)]
      simpa using small
    simp [encodeWithin, decodeWithin, small, bit, below]
    omega
  | succ room ih =>
    by_cases small : value < 128
    · have below : UInt8.ofNat value < 128 := by
        rw [UInt8.lt_iff_toNat_lt, UInt8.toNat_ofNat_of_lt' (by simp [UInt8.size]; omega)]
        simpa using small
      simp [encodeWithin, decodeWithin, small, below]
      omega
    · have above : ¬ UInt8.ofNat (value % 128 + 128) < 128 := by
        rw [UInt8.lt_iff_toNat_lt, UInt8.toNat_ofNat_of_lt' (by simp [UInt8.size]; omega)]
        simp
      have group : (UInt8.ofNat (value % 128 + 128)).toNat = value % 128 + 128 :=
        UInt8.toNat_ofNat_of_lt' (by simp [UInt8.size]; omega)
      have higher := ih (value / 128) (by rw [Nat.mul_succ, Nat.shiftLeft_add] at fits; omega)
      rw [encodeWithin, if_neg small, List.cons_append, decodeWithin, if_neg above, higher, group]
      simp
      omega

theorem decode?_encode_append {value : Nat} (fits : value < UInt64.size) (rest : Bytes) :
    decode? (encode value ++ rest) = some (value, rest) :=
  decodeWithin_encodeWithin_append 9 value fits rest

end Varint
end DoubleRatchet
