import DoubleRatchet.Octets.Endian

namespace DoubleRatchet
namespace Sha2

/-!
# The SHA-2 hash functions

SHA-256 and SHA-512 are one construction over words of four and of eight
octets.  The construction is written once for a class of words; an instance
supplies the width, the rotation amounts and the number of rounds.  The round
constants of the narrow variant are the upper halves of those of the wide one,
because both are leading bits of the same cube roots, so one table serves both.

A message is padded to whole blocks, each block is expanded to one word per
round, and the rounds are folded into the running digest.  The proofs here
settle only the width of the result, which lets `sha256` and `sha512` return
octet strings of fixed length.
-/

/-- The first 64 fractional bits of the cube roots of the first 80 primes. -/
def cubeRootBits : List UInt64 :=
  [
    0x428a2f98d728ae22, 0x7137449123ef65cd, 0xb5c0fbcfec4d3b2f, 0xe9b5dba58189dbbc,
    0x3956c25bf348b538, 0x59f111f1b605d019, 0x923f82a4af194f9b, 0xab1c5ed5da6d8118,
    0xd807aa98a3030242, 0x12835b0145706fbe, 0x243185be4ee4b28c, 0x550c7dc3d5ffb4e2,
    0x72be5d74f27b896f, 0x80deb1fe3b1696b1, 0x9bdc06a725c71235, 0xc19bf174cf692694,
    0xe49b69c19ef14ad2, 0xefbe4786384f25e3, 0x0fc19dc68b8cd5b5, 0x240ca1cc77ac9c65,
    0x2de92c6f592b0275, 0x4a7484aa6ea6e483, 0x5cb0a9dcbd41fbd4, 0x76f988da831153b5,
    0x983e5152ee66dfab, 0xa831c66d2db43210, 0xb00327c898fb213f, 0xbf597fc7beef0ee4,
    0xc6e00bf33da88fc2, 0xd5a79147930aa725, 0x06ca6351e003826f, 0x142929670a0e6e70,
    0x27b70a8546d22ffc, 0x2e1b21385c26c926, 0x4d2c6dfc5ac42aed, 0x53380d139d95b3df,
    0x650a73548baf63de, 0x766a0abb3c77b2a8, 0x81c2c92e47edaee6, 0x92722c851482353b,
    0xa2bfe8a14cf10364, 0xa81a664bbc423001, 0xc24b8b70d0f89791, 0xc76c51a30654be30,
    0xd192e819d6ef5218, 0xd69906245565a910, 0xf40e35855771202a, 0x106aa07032bbd1b8,
    0x19a4c116b8d2d0c8, 0x1e376c085141ab53, 0x2748774cdf8eeb99, 0x34b0bcb5e19b48a8,
    0x391c0cb3c5c95a63, 0x4ed8aa4ae3418acb, 0x5b9cca4f7763e373, 0x682e6ff3d6b2b8a3,
    0x748f82ee5defb2fc, 0x78a5636f43172f60, 0x84c87814a1f0ab72, 0x8cc702081a6439ec,
    0x90befffa23631e28, 0xa4506cebde82bde9, 0xbef9a3f7b2c67915, 0xc67178f2e372532b,
    0xca273eceea26619c, 0xd186b8c721c0c207, 0xeada7dd6cde0eb1e, 0xf57d4f7fee6ed178,
    0x06f067aa72176fba, 0x0a637dc5a2c898a6, 0x113f9804bef90dae, 0x1b710b35131c471b,
    0x28db77f523047d84, 0x32caab7b40c72493, 0x3c9ebe0a15c9bebc, 0x431d67c49c100d4c,
    0x4cc5d4becb3e42b6, 0x597f299cfc657e2a, 0x5fcb6fab3ad6faec, 0x6c44198c4a475817]

/-- A word of the construction.  The four mixing functions differ between the
variants only in their rotation and shift amounts. -/
class Word (α : Type) extends Add α, XorOp α, AndOp α, Complement α where
  octets : Nat
  /-- The words of a string of whole words, most significant octet first. -/
  ofBytes : Bytes -> List α
  toBytes : α -> Bytes
  length_toBytes : ∀ word, (toBytes word).length = octets
  stateSigma0 : α -> α
  stateSigma1 : α -> α
  scheduleSigma0 : α -> α
  scheduleSigma1 : α -> α
  constants : List α
  rounds : Nat

/-- The running digest: eight words. -/
structure Digest (α : Type) where
  a : α
  b : α
  c : α
  d : α
  e : α
  f : α
  g : α
  h : α

variable {α : Type} [Word α]

/-- Extends a schedule, newest word first, by the recurrence over the words 2,
7, 15 and 16 places back.  A schedule starts with the sixteen words of a block,
so the recurrence always finds them. -/
@[specialize] def extendSchedule : Nat -> List α -> List α
  | n + 1, words@(_ :: two :: _ :: _ :: _ :: _ :: seven :: _ :: _ :: _ :: _ :: _ :: _ :: _ ::
      fifteen :: sixteen :: _) =>
    extendSchedule n
      ((Word.scheduleSigma1 two + seven + Word.scheduleSigma0 fifteen + sixteen) :: words)
  | _, words => words

/-- The words of a block, one for every round. -/
@[specialize] def schedule (block : Bytes) : List α :=
  (extendSchedule (Word.rounds α - 16) (Word.ofBytes block).reverse).reverse

/-- One round with its schedule word and constant. -/
@[specialize] def round (s : Digest α) (word constant : α) : Digest α :=
  let choice := (s.e &&& s.f) ^^^ (~~~s.e &&& s.g)
  let majority := (s.a &&& s.b) ^^^ (s.a &&& s.c) ^^^ (s.b &&& s.c)
  let mixed := s.h + Word.stateSigma1 s.e + choice + constant + word
  { a := mixed + (Word.stateSigma0 s.a + majority), b := s.a, c := s.b, d := s.c
    e := s.d + mixed, f := s.e, g := s.f, h := s.g }

/-- The rounds in order, until words or constants run out. -/
@[specialize] def rounds : List α -> List α -> Digest α -> Digest α
  | word :: words, constant :: constants, s => rounds words constants (round s word constant)
  | _, _, s => s

/-- Takes one block into the running digest. -/
@[specialize] def absorb (s : Digest α) (block : Bytes) : Digest α :=
  let t := rounds (schedule block) Word.constants s
  { a := s.a + t.a, b := s.b + t.b, c := s.c + t.c, d := s.d + t.d
    e := s.e + t.e, f := s.f + t.f, g := s.g + t.g, h := s.h + t.h }

/-- The octets of a digest in order. -/
def Digest.toBytes (s : Digest α) : Bytes :=
  [s.a, s.b, s.c, s.d, s.e, s.f, s.g, s.h].flatMap Word.toBytes

@[simp] theorem Digest.length_toBytes (s : Digest α) :
    s.toBytes.length = 8 * Word.octets α := by
  simp [Digest.toBytes, Word.length_toBytes]
  omega

/-- The octets of a block for a word of `width` octets. -/
def blockLength (width : Nat) : Nat :=
  16 * width

/-- The message, one octet 128, as few zero octets as fill the last block, and
the number of bits of the message in two words. -/
def pad (width : Nat) (message : Bytes) : Bytes :=
  let used := message.length + 1 + 2 * width
  let zeros := (blockLength width - used % blockLength width) % blockLength width
  message ++
    128 :: (List.replicate zeros 0 ++ Bytes.bigEndian (2 * width) (8 * message.length))

/-- Folds all blocks of the padded message into a starting digest. -/
@[specialize] def hash (start : Digest α) (message : Bytes) : Digest α :=
  let padded := pad (Word.octets α) message
  let size := blockLength (Word.octets α)
  (padded.chunks size (padded.length / size)).foldl absorb start

/-- The upper halves of the first 64 constants. -/
def narrowCubeRootBits : List UInt32 :=
  (cubeRootBits.take 64).map fun (bits : UInt64) => (bits >>> 32).toUInt32

/-- Rotation of 32 bits to the right. -/
@[inline] def rotate32 (word amount : UInt32) : UInt32 :=
  word >>> amount ||| word <<< (32 - amount)

/-- Rotation of 64 bits to the right. -/
@[inline] def rotate64 (word amount : UInt64) : UInt64 :=
  word >>> amount ||| word <<< (64 - amount)

/-- The words of 32 bits of a string, most significant octet first.  Octets at its
end that make no whole word are left off. -/
def words32 : Bytes -> List UInt32
  | a :: b :: c :: d :: rest =>
    (a.toUInt32 <<< 24 ||| b.toUInt32 <<< 16 ||| c.toUInt32 <<< 8 ||| d.toUInt32) :: words32 rest
  | _ => []

/-- The words of 64 bits of a string, most significant octet first.  Octets at its
end that make no whole word are left off. -/
def words64 : Bytes -> List UInt64
  | a :: b :: c :: d :: e :: f :: g :: h :: rest =>
    (a.toUInt64 <<< 56 ||| b.toUInt64 <<< 48 ||| c.toUInt64 <<< 40 ||| d.toUInt64 <<< 32 |||
      e.toUInt64 <<< 24 ||| f.toUInt64 <<< 16 ||| g.toUInt64 <<< 8 ||| h.toUInt64) :: words64 rest
  | _ => []

/-- Words of 32 bits, for SHA-256. -/
instance : Word UInt32 where
  octets := 4
  ofBytes := words32
  toBytes word := [(word >>> 24).toUInt8, (word >>> 16).toUInt8, (word >>> 8).toUInt8, word.toUInt8]
  length_toBytes _ := rfl
  stateSigma0 w := rotate32 w 2 ^^^ rotate32 w 13 ^^^ rotate32 w 22
  stateSigma1 w := rotate32 w 6 ^^^ rotate32 w 11 ^^^ rotate32 w 25
  scheduleSigma0 w := rotate32 w 7 ^^^ rotate32 w 18 ^^^ w >>> 3
  scheduleSigma1 w := rotate32 w 17 ^^^ rotate32 w 19 ^^^ w >>> 10
  constants := narrowCubeRootBits
  rounds := 64

/-- Words of 64 bits, for SHA-512. -/
instance : Word UInt64 where
  octets := 8
  ofBytes := words64
  toBytes word :=
    [(word >>> 56).toUInt8, (word >>> 48).toUInt8, (word >>> 40).toUInt8, (word >>> 32).toUInt8,
      (word >>> 24).toUInt8, (word >>> 16).toUInt8, (word >>> 8).toUInt8, word.toUInt8]
  length_toBytes _ := rfl
  stateSigma0 w := rotate64 w 28 ^^^ rotate64 w 34 ^^^ rotate64 w 39
  stateSigma1 w := rotate64 w 14 ^^^ rotate64 w 18 ^^^ rotate64 w 41
  scheduleSigma0 w := rotate64 w 1 ^^^ rotate64 w 8 ^^^ w >>> 7
  scheduleSigma1 w := rotate64 w 19 ^^^ rotate64 w 61 ^^^ w >>> 6
  constants := cubeRootBits
  rounds := 80

/-- The first 64 fractional bits of the square roots of the first 8 primes. -/
def squareRootBits : Digest UInt64 where
  a := 0x6a09e667f3bcc908
  b := 0xbb67ae8584caa73b
  c := 0x3c6ef372fe94f82b
  d := 0xa54ff53a5f1d36f1
  e := 0x510e527fade682d1
  f := 0x9b05688c2b3e6c1f
  g := 0x1f83d9abfb41bd6b
  h := 0x5be0cd19137e2179

/-- The upper halves of the same bits. -/
def narrowSquareRootBits : Digest UInt32 where
  a := (squareRootBits.a >>> 32).toUInt32
  b := (squareRootBits.b >>> 32).toUInt32
  c := (squareRootBits.c >>> 32).toUInt32
  d := (squareRootBits.d >>> 32).toUInt32
  e := (squareRootBits.e >>> 32).toUInt32
  f := (squareRootBits.f >>> 32).toUInt32
  g := (squareRootBits.g >>> 32).toUInt32
  h := (squareRootBits.h >>> 32).toUInt32

end Sha2

/-- The SHA-256 digest of a message. -/
def sha256 (message : Bytes) : Octets 32 :=
  ⟨(Sha2.hash Sha2.narrowSquareRootBits message).toBytes, Sha2.Digest.length_toBytes _⟩

/-- The SHA-512 digest of a message. -/
def sha512 (message : Bytes) : Octets 64 :=
  ⟨(Sha2.hash Sha2.squareRootBits message).toBytes, Sha2.Digest.length_toBytes _⟩

end DoubleRatchet
