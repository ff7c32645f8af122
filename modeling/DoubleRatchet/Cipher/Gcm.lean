import DoubleRatchet.Cipher.Aes
import DoubleRatchet.Octets.Endian

namespace DoubleRatchet
namespace Gcm

/-!
# Authenticated encryption: AES-256 in Galois counter mode

A text is masked by the encryptions of successive counter blocks, and a tag
over the masked text is appended.  The tag is a polynomial in the field of
2 ^ 128 elements, evaluated at the encryption of the zero block and masked by
the encryption of the first counter block.  There is no associated data.

Sealing refuses only texts beyond the mode's length limit.  Opening refuses
everything that sealing under the same key and nonce does not produce.
`unseal?_seal?` says that opening undoes sealing.
-/

/-- An element of the field of 2 ^ 128 elements: the coefficient of the lowest
power is the most significant bit. -/
abbrev Element := BitVec 128

/-- The product of two elements, over the highest `bits` coefficients of `x` from
the lowest power on.  `power` is the other factor times the power reached. -/
def multiply : (bits : Nat) -> (x power product : Element) -> Element
  | 0, _, _, product => product
  | bits + 1, x, power, product =>
    let reduced := if power.getLsbD 0 then power >>> 1 ^^^ (0xe1#128 <<< 120) else power >>> 1
    multiply bits x reduced (if x.getLsbD bits then product ^^^ power else product)

/-- The element that sixteen octets spell. -/
def element (bytes : Bytes) : Element :=
  BitVec.ofNat 128 (Bytes.ofBigEndian bytes)

/-- The octets of a string up to the next multiple of sixteen, filled with zeros. -/
def fillBlocks (bytes : Bytes) : Bytes :=
  bytes ++ List.replicate ((16 - bytes.length % 16) % 16) 0

/-- The polynomial over the blocks of a masked text and its length, at `point`. -/
def authenticate (point : Element) (masked : Bytes) : Octets 16 :=
  let text := fillBlocks masked ++ Bytes.bigEndian 16 (8 * masked.length)
  let sum := (text.chunks 16 (text.length / 16)).foldl
    (fun sum block => multiply 128 (sum ^^^ element block) point 0) 0
  ⟨Bytes.bigEndian 16 sum.toNat, Bytes.length_bigEndian ..⟩

/-- The counter block with the given number. -/
def counterBlock (nonce : Octets 12) (number : Nat) : Aes.Block :=
  match Aes.blocks (Aes.columns (nonce.toList ++ Bytes.bigEndian 4 number)) with
  | block :: _ => block
  | [] => ⟨⟨0, 0, 0, 0⟩, ⟨0, 0, 0, 0⟩, ⟨0, 0, 0, 0⟩, ⟨0, 0, 0, 0⟩⟩

/-- The encryptions of `count` counter blocks from the given number on. -/
def keyStream (keys : List Aes.Block) (nonce : Octets 12) : (count number : Nat) -> Bytes
  | 0, _ => []
  | count + 1, number =>
    (Aes.encryptBlock keys (counterBlock nonce number)).toOctets.toList ++
      keyStream keys nonce count (number + 1)

/-- The text under exclusive or with the key stream from the second counter
block on.  The first one is kept for the tag. -/
def mask (keys : List Aes.Block) (nonce : Octets 12) (text : Bytes) : Bytes :=
  text.zipWith (· ^^^ ·) (keyStream keys nonce ((text.length + 15) / 16) 2)

/-- The tag over a masked text. -/
def tag (keys : List Aes.Block) (nonce : Octets 12) (masked : Bytes) : Octets 16 :=
  let zero : Aes.Block := ⟨⟨0, 0, 0, 0⟩, ⟨0, 0, 0, 0⟩, ⟨0, 0, 0, 0⟩, ⟨0, 0, 0, 0⟩⟩
  let point := element (Aes.encryptBlock keys zero).toOctets.toList
  (authenticate point masked).xor (Aes.encryptBlock keys (counterBlock nonce 1)).toOctets

/-- The longest text that can be sealed: the counter has 32 bits. -/
def maximumLength : Nat :=
  1 <<< 36

/-- The masked text with its tag, unless the text is too long. -/
def seal? (key : Octets 32) (nonce : Octets 12) (text : Bytes) : Option Bytes :=
  if text.length ≤ maximumLength then
    let keys := Aes.roundKeys key
    let masked := mask keys nonce text
    some (masked ++ (tag keys nonce masked).toList)
  else none

/-- The text of a sealed string, unless its tag is wrong or cut off. -/
def unseal? (key : Octets 32) (nonce : Octets 12) (sealedText : Bytes) : Option Bytes :=
  if 16 ≤ sealedText.length ∧ sealedText.length ≤ maximumLength + 16 then
    let keys := Aes.roundKeys key
    let masked := sealedText.take (sealedText.length - 16)
    if (tag keys nonce masked).toList = sealedText.drop (sealedText.length - 16) then
      some (mask keys nonce masked)
    else none
  else none

@[simp] theorem length_keyStream (keys : List Aes.Block) (nonce : Octets 12)
    (count number : Nat) : (keyStream keys nonce count number).length = 16 * count := by
  induction count generalizing number with
  | zero => rfl
  | succ count ih => simp [keyStream, ih]; omega

@[simp] theorem length_mask (keys : List Aes.Block) (nonce : Octets 12) (text : Bytes) :
    (mask keys nonce text).length = text.length := by
  simp [mask]
  omega

/-- Exclusive or with the same octets twice changes nothing. -/
theorem zipWith_xor_zipWith_xor (text stream : Bytes) (long : text.length ≤ stream.length) :
    (text.zipWith (· ^^^ ·) stream).zipWith (· ^^^ ·) stream = text := by
  induction text generalizing stream with
  | nil => rfl
  | cons octet text ih =>
    cases stream with
    | nil => simp at long
    | cons other stream =>
      simp only [List.length_cons, Nat.add_le_add_iff_right] at long
      simp only [List.zipWith_cons_cons, ih stream long, UInt8.xor_assoc, UInt8.xor_self,
        UInt8.xor_zero]

theorem mask_mask (keys : List Aes.Block) (nonce : Octets 12) (text : Bytes) :
    mask keys nonce (mask keys nonce text) = text := by
  rw [mask, length_mask]
  exact zipWith_xor_zipWith_xor _ _ (by simp; omega)

/-- Every text that is not too long can be sealed. -/
theorem isSome_seal? {key : Octets 32} {nonce : Octets 12} {text : Bytes}
    (fits : text.length ≤ maximumLength) : (seal? key nonce text).isSome = true := by
  rw [seal?, if_pos fits]
  rfl

/-- Opening under the key and nonce of the sealing gives the text back. -/
theorem unseal?_of_seal? {key : Octets 32} {nonce : Octets 12} {text sealedText : Bytes}
    (done : seal? key nonce text = some sealedText) :
    unseal? key nonce sealedText = some text := by
  unfold seal? at done
  split at done
  · next fits =>
    cases done
    simp [unseal?, fits, mask_mask]
  · cases done

/-- A sealed string is the masked text and a tag, and no longer than the longest of them. -/
theorem length_of_seal?_le {key : Octets 32} {nonce : Octets 12} {text sealedText : Bytes}
    (done : seal? key nonce text = some sealedText) : sealedText.length ≤ maximumLength + 16 := by
  unfold seal? at done
  split at done
  · next fits =>
    cases done
    rw [List.length_append, length_mask, Octets.length_toList]
    exact Nat.add_le_add_right fits 16
  · cases done

end Gcm
end DoubleRatchet
