import DoubleRatchet.Curve.Field

namespace DoubleRatchet
namespace Curve25519

/-!
# The twisted Edwards curve

Points carry a common denominator and the product of their coordinates, so
that addition needs no division.  The addition law is complete on this curve:
one formula serves all pairs of points, doubling included, and doubling has
its own shorter formula only for speed.

A point is compressed to its second coordinate and the sign of the first.
Decompression reduces a second coordinate above the prime and admits a sign
bit on a first coordinate of zero, so one point can have several compressed
forms; keys are therefore compared by their octets and never by their points.
-/

namespace Field

/-- The coefficient of the curve, `-121665 / 121666`. -/
def curveCoefficient : Field :=
  37095705934669439343138083508754565189542113879843219016388785533085940283555

/-- A square root of minus one. -/
def rootOfMinusOne : Field :=
  19681161376707505956807079304988542015446066515923890162744021073123829784752

theorem curveCoefficient_mul : curveCoefficient * 121666 = -121665 := by
  decide +kernel

theorem rootOfMinusOne_mul : rootOfMinusOne * rootOfMinusOne = -1 := by
  decide +kernel

/-- The square root with even value of `numerator / denominator`, if there is one. -/
def squareRootOfQuotient? (numerator denominator : Field) : Option Field :=
  let cube := denominator * denominator * denominator
  let seventh := cube * cube * denominator
  let candidate := numerator * cube * power (numerator * seventh) 252 ((prime - 5) / 8)
  let square := denominator * (candidate * candidate)
  let root? :=
    if square = numerator then some candidate
    else if square = -numerator then some (candidate * rootOfMinusOne)
    else none
  root?.map fun root => if root.isNegative then -root else root

end Field

/-- A point with coordinates `x / z` and `y / z`, and `t = x * y / z`. -/
structure Point where
  x : Field
  y : Field
  z : Field
  t : Field

namespace Point

/-- The neutral point. -/
def neutral : Point :=
  ⟨0, 1, 1, 0⟩

/-- The base point: second coordinate `4 / 5` and an even first coordinate. -/
def base : Point :=
  let x : Field :=
    15112221349535400772501151409588531511454012693041857206046113283949847762202
  let y : Field :=
    46316835694926478169428394003475163141307993866256225615783033603165251855960
  ⟨x, y, 1, x * y⟩

/-- The point with the opposite first coordinate. -/
def negate (p : Point) : Point :=
  ⟨-p.x, p.y, p.z, -p.t⟩

/-- The sum of two points. -/
def add (p q : Point) : Point :=
  let a := (p.y - p.x) * (q.y - q.x)
  let b := (p.y + p.x) * (q.y + q.x)
  let c := p.t * q.t * (Field.curveCoefficient + Field.curveCoefficient)
  let d := (p.z + p.z) * q.z
  ⟨(b - a) * (d - c), (d + c) * (b + a), (d - c) * (d + c), (b - a) * (b + a)⟩

/-- The sum of a point with itself. -/
def double (p : Point) : Point :=
  let a := p.x * p.x
  let b := p.y * p.y
  let c := p.z * p.z + p.z * p.z
  let h := a + b
  let e := h - (p.x + p.y) * (p.x + p.y)
  let g := a - b
  let f := c + g
  ⟨e * f, g * h, f * g, e * h⟩

/-- The multiple of a point by a number of the given count of binary digits. -/
def multiply (p : Point) : (digits multiplier : Nat) -> Point
  | 0, _ => neutral
  | digits + 1, multiplier =>
    let half := (multiply p digits (multiplier / 2)).double
    if multiplier % 2 = 1 then half.add p else half

/-- The second coordinate, with the sign of the first in the top bit. -/
def compress (p : Point) : Octets 32 :=
  let scale := p.z.inverse
  let sign := if (p.x * scale).isNegative then 1 <<< 255 else 0
  Octets.ofLittleEndian 32 ((p.y * scale).val + sign)

/-- The point that 32 octets compress, if there is one. -/
def decompress? (octets : Octets 32) : Option Point :=
  let y := Field.ofOctets octets
  let square := y * y
  (Field.squareRootOfQuotient? (square - 1) (Field.curveCoefficient * square + 1)).map fun root =>
    let x := if octets.toLittleEndian.testBit 255 then -root else root
    ⟨x, y, 1, x * y⟩

end Point
end Curve25519
end DoubleRatchet
