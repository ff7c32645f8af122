import DoubleRatchet.Octets.Endian

namespace DoubleRatchet
namespace Curve25519

/-!
# The field of integers modulo 2 ^ 255 - 19

Both curves of this library live over one prime field.  Its elements are the
numbers below the prime, and the ring operations are those of `Fin`.  Powers
are taken by squaring along the binary digits of the exponent, whose number is
the recursion argument, so that a power is a closed structural computation.
-/

/-- The prime. -/
def prime : Nat :=
  1 <<< 255 - 19

instance : @NeZero Nat Zero.ofOfNat0 prime := ⟨by decide⟩

/-- The field elements. -/
abbrev Field := Fin prime

namespace Field

/-- The remainder of a number. -/
def ofNat (value : Nat) : Field :=
  Fin.ofNat prime value

/-- `base` to an exponent of the given number of binary digits. -/
def power (base : Field) : (digits exponent : Nat) -> Field
  | 0, _ => 1
  | digits + 1, exponent =>
    let root := power base digits (exponent / 2)
    if exponent % 2 = 1 then root * root * base else root * root

/-- The inverse by the little theorem; zero stays zero. -/
def inverse (a : Field) : Field :=
  power a 255 (prime - 2)

/-- Whether the number is odd, which serves as the sign of an element. -/
def isNegative (a : Field) : Bool :=
  a.val % 2 = 1

/-- The element that 32 octets spell, little endian, without the top bit.  Numbers
from the prime on are reduced. -/
def ofOctets (octets : Octets 32) : Field :=
  ofNat (octets.toLittleEndian % (1 <<< 255))

/-- The 32 octets of an element, little endian. -/
def toOctets (a : Field) : Octets 32 :=
  Octets.ofLittleEndian 32 a.val

end Field
end Curve25519
end DoubleRatchet
