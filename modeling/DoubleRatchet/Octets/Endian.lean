import DoubleRatchet.Octets.Basic

namespace DoubleRatchet
namespace Bytes

/-!
# Numbers as octet strings

A string of octets denotes a number in base 256, with the most significant
octet first (big endian) or last (little endian).  Reading is total, and
writing takes the number of octets and drops what does not fit.  Both orders
are read by one fold over the digits, so that writing and reading back is the
remainder below `1 <<< (8 * n)`, which `ofLittleEndian_littleEndian` states.
-/

/-- The number whose least significant octet comes first. -/
def ofLittleEndian (bytes : Bytes) : Nat :=
  bytes.foldr (fun octet rest => octet.toNat + 256 * rest) 0

/-- The number whose most significant octet comes first. -/
def ofBigEndian (bytes : Bytes) : Nat :=
  bytes.foldl (fun value octet => 256 * value + octet.toNat) 0

/-- The `n` lowest octets of a number, least significant first. -/
def littleEndian : (n : Nat) -> Nat -> Bytes
  | 0, _ => []
  | n + 1, value => UInt8.ofNat value :: littleEndian n (value / 256)

/-- The `n` lowest octets of a number, most significant first. -/
def bigEndian (n value : Nat) : Bytes :=
  (littleEndian n value).reverse

@[simp] theorem length_littleEndian (n value : Nat) : (littleEndian n value).length = n := by
  induction n generalizing value with
  | zero => rfl
  | succ n ih => simp [littleEndian, ih]

@[simp] theorem length_bigEndian (n value : Nat) : (bigEndian n value).length = n := by
  simp [bigEndian]

theorem ofLittleEndian_littleEndian (n value : Nat) :
    ofLittleEndian (littleEndian n value) = value % (1 <<< (8 * n)) := by
  induction n generalizing value with
  | zero => simp [littleEndian, ofLittleEndian, Nat.mod_one]
  | succ n ih =>
    have rest := ih (value / 256)
    simp only [ofLittleEndian] at rest
    simp only [littleEndian, ofLittleEndian, List.foldr_cons, rest]
    have groups : 1 <<< (8 * (n + 1)) = 256 * 1 <<< (8 * n) := by
      rw [Nat.mul_succ, Nat.shiftLeft_add, Nat.shiftLeft_eq _ 8, Nat.mul_comm]
    rw [groups, Nat.mod_mul]
    simp

end Bytes

namespace Octets

variable {n : Nat}

/-- The number whose least significant octet comes first. -/
def toLittleEndian (a : Octets n) : Nat :=
  Bytes.ofLittleEndian a.toList

/-- The `n` lowest octets of a number, least significant first. -/
def ofLittleEndian (n value : Nat) : Octets n :=
  ⟨Bytes.littleEndian n value, Bytes.length_littleEndian n value⟩

theorem toLittleEndian_ofLittleEndian (value : Nat) :
    (ofLittleEndian n value).toLittleEndian = value % (1 <<< (8 * n)) :=
  Bytes.ofLittleEndian_littleEndian n value

end Octets
end DoubleRatchet
