import DoubleRatchet.Curve.Field

namespace DoubleRatchet
namespace X25519

/-!
# Agreement on the Montgomery curve

A secret is a number, a public value is the first coordinate of a point, and
the agreement of the two is the first coordinate of the multiple.  The ladder
carries two neighbouring multiples and never needs the second coordinate, nor
a test whether the public value belongs to the curve.  Points of low order
therefore give the zero agreement instead of a refusal.
-/

open Curve25519 (Field)

/-- The multiplier of a secret: a multiple of eight with bit 254 set and nothing
above it. -/
def multiplier (secret : Octets 32) : Nat :=
  1 <<< 254 + 8 * (secret.toLittleEndian % (1 <<< 254) / 8)

/-- A first coordinate as a quotient. -/
structure Quotient where
  numerator : Field
  denominator : Field

/-- The multiples `k` and `k + 1` of a point. -/
structure Rung where
  lower : Quotient
  upper : Quotient

/-- The multiple `2 * k` from the multiple `k`. -/
def double (p : Quotient) : Quotient :=
  let sum := (p.numerator + p.denominator) * (p.numerator + p.denominator)
  let difference := (p.numerator - p.denominator) * (p.numerator - p.denominator)
  let gap := sum - difference
  ⟨sum * difference, gap * (sum + 121665 * gap)⟩

/-- The multiple `2 * k + 1` from two neighbours, whose difference has the first
coordinate `base`. -/
def addNeighbours (base : Field) (p q : Quotient) : Quotient :=
  let crossed := (q.numerator - q.denominator) * (p.numerator + p.denominator)
  let straight := (q.numerator + q.denominator) * (p.numerator - p.denominator)
  ⟨(crossed + straight) * (crossed + straight),
    base * ((crossed - straight) * (crossed - straight))⟩

/-- One step of the ladder: the neighbours `2 * k` and `2 * k + 1`, or one more
each where the digit is set. -/
def climb (base : Field) (rung : Rung) (digit : Bool) : Rung :=
  let middle := addNeighbours base rung.lower rung.upper
  if digit then ⟨middle, double rung.upper⟩ else ⟨double rung.lower, middle⟩

/-- The ladder along the binary digits of a multiplier below place `places`, from
the top down. -/
def ladder (base : Field) (multiplier : Nat) : (places : Nat) -> Rung -> Rung
  | 0, rung => rung
  | place + 1, rung => ladder base multiplier place (climb base rung (multiplier.testBit place))

/-- The agreement of a secret with a public value. -/
def agree (secret other : Octets 32) : Octets 32 :=
  let base := Field.ofOctets other
  let reached := (ladder base (multiplier secret) 255 ⟨⟨1, 0⟩, ⟨base, 1⟩⟩).lower
  (reached.numerator * reached.denominator.inverse).toOctets

/-- The public value of a secret: its agreement with the base point. -/
def publicValue (secret : Octets 32) : Octets 32 :=
  agree secret (Octets.ofLittleEndian 32 9)

end X25519
end DoubleRatchet
