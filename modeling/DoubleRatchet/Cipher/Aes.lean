import DoubleRatchet.Octets.Basic

namespace DoubleRatchet
namespace Aes

/-!
# The AES block cipher with 256-bit keys

A block is four columns of four octets.  The cipher is written from its
algebra: the substitution is inversion in the field of 256 elements followed
by an affine map, and the diffusion step multiplies a column by a fixed
polynomial.  The substitution is tabulated once, and nothing else is.

Only encryption is here, because counter mode never inverts the cipher.
-/

/-- Multiplication by the indeterminate in the field of 256 elements. -/
def double (a : UInt8) : UInt8 :=
  if a < 128 then a <<< 1 else a <<< 1 ^^^ 0x1b

/-- The product in the field of 256 elements, over the lowest `bits` of `b`. -/
def multiply : (bits : Nat) -> (a b : UInt8) -> UInt8
  | 0, _, _ => 0
  | bits + 1, a, b =>
    (if b &&& 1 = 1 then a else 0) ^^^ multiply bits (double a) (b >>> 1)

/-- The inverse of `a` in the field, as the 254th power; zero stays zero. -/
def inverse (a : UInt8) : UInt8 :=
  (List.range 253).foldl (fun power _ => multiply 8 power a) a

/-- Rotation of an octet to the left. -/
def rotate (a amount : UInt8) : UInt8 :=
  a <<< amount ||| a >>> (8 - amount)

/-- Substitution of one octet: inversion, then the affine map. -/
def substitution (a : UInt8) : UInt8 :=
  let b := inverse a
  b ^^^ rotate b 1 ^^^ rotate b 2 ^^^ rotate b 3 ^^^ rotate b 4 ^^^ 0x63

/-- The substitution, tabulated. -/
def substitutionTable : Vector UInt8 256 :=
  Vector.ofFn fun a : Fin 256 => substitution (UInt8.ofFin a)

/-- Substitution of one octet by table. -/
def substitute (a : UInt8) : UInt8 :=
  substitutionTable[a.toFin]

/-- Four octets of a block, from the top. -/
structure Column where
  a : UInt8
  b : UInt8
  c : UInt8
  d : UInt8

namespace Column

/-- Exclusive or, octet by octet. -/
def xor (x y : Column) : Column :=
  ⟨x.a ^^^ y.a, x.b ^^^ y.b, x.c ^^^ y.c, x.d ^^^ y.d⟩

/-- Substitution of every octet. -/
def substitute (x : Column) : Column :=
  ⟨Aes.substitute x.a, Aes.substitute x.b, Aes.substitute x.c, Aes.substitute x.d⟩

/-- The column with its top octet moved to the bottom. -/
def rotate (x : Column) : Column :=
  ⟨x.b, x.c, x.d, x.a⟩

/-- Diffusion: multiplication by a fixed polynomial over the field. -/
def mix (x : Column) : Column :=
  let all := x.a ^^^ x.b ^^^ x.c ^^^ x.d
  ⟨x.a ^^^ all ^^^ double (x.a ^^^ x.b), x.b ^^^ all ^^^ double (x.b ^^^ x.c),
    x.c ^^^ all ^^^ double (x.c ^^^ x.d), x.d ^^^ all ^^^ double (x.d ^^^ x.a)⟩

/-- The octets from the top. -/
def toBytes (x : Column) : Bytes :=
  [x.a, x.b, x.c, x.d]

end Column

/-- A block of sixteen octets, as four columns. -/
structure Block where
  w : Column
  x : Column
  y : Column
  z : Column

namespace Block

/-- Exclusive or, column by column. -/
def xor (s t : Block) : Block :=
  ⟨s.w.xor t.w, s.x.xor t.x, s.y.xor t.y, s.z.xor t.z⟩

/-- The rows moved to the left by their number: the octet of row `i` in a column
comes from the column `i` places on. -/
def shiftRows (s : Block) : Block :=
  ⟨⟨s.w.a, s.x.b, s.y.c, s.z.d⟩, ⟨s.x.a, s.y.b, s.z.c, s.w.d⟩,
    ⟨s.y.a, s.z.b, s.w.c, s.x.d⟩, ⟨s.z.a, s.w.b, s.x.c, s.y.d⟩⟩

/-- Substitution of every octet. -/
def substitute (s : Block) : Block :=
  ⟨s.w.substitute, s.x.substitute, s.y.substitute, s.z.substitute⟩

/-- Diffusion of every column. -/
def mix (s : Block) : Block :=
  ⟨s.w.mix, s.x.mix, s.y.mix, s.z.mix⟩

/-- The octets, column after column. -/
def toOctets (s : Block) : Octets 16 :=
  ⟨s.w.toBytes ++ s.x.toBytes ++ s.y.toBytes ++ s.z.toBytes, rfl⟩

end Block

/-- The columns that a string of octets spells; a rest of fewer than four octets
is left out. -/
def columns : Bytes -> List Column
  | a :: b :: c :: d :: rest => ⟨a, b, c, d⟩ :: columns rest
  | _ => []

/-- The blocks that a list of columns spells. -/
def blocks : List Column -> List Block
  | w :: x :: y :: z :: rest => ⟨w, x, y, z⟩ :: blocks rest
  | _ => []

/-- Extends a key, newest column first, from the column with number `place` on.
Every eighth column goes through a rotation, the substitution and the running
constant, and the one half way between through the substitution alone. -/
def extendKey : (count place : Nat) -> (constant : UInt8) -> List Column -> List Column
  | count + 1, place, constant, key@(last :: _ :: _ :: _ :: _ :: _ :: _ :: eighth :: _) =>
    if place % 8 = 0 then
      let turned := last.rotate.substitute.xor ⟨constant, 0, 0, 0⟩
      extendKey count (place + 1) (double constant) (eighth.xor turned :: key)
    else if place % 8 = 4 then
      extendKey count (place + 1) constant (eighth.xor last.substitute :: key)
    else
      extendKey count (place + 1) constant (eighth.xor last :: key)
  | _, _, _, key => key

/-- The fifteen round keys of a key. -/
def roundKeys (key : Octets 32) : List Block :=
  blocks (extendKey 52 8 1 (columns key.toList).reverse).reverse

/-- The rounds under the given keys: the last one has no diffusion. -/
def rounds : List Block -> Block -> Block
  | [], s => s
  | [key], s => s.substitute.shiftRows.xor key
  | key :: keys, s => rounds keys (s.substitute.shiftRows.mix.xor key)

/-- Encrypts one block under round keys, the first of which is only added. -/
def encryptBlock : List Block -> Block -> Block
  | [], s => s
  | key :: keys, s => rounds keys (s.xor key)

end Aes
end DoubleRatchet
