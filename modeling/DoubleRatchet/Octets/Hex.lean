import DoubleRatchet.Octets.Basic

namespace DoubleRatchet
namespace Hex

/-!
# Hexadecimal text

Octets are written as two hexadecimal digits each, high half first.  Writing
uses lower case; reading takes either case and refuses a lone last digit.
`decode?_encode` says that reading undoes writing.  The converse fails for
upper case, which is why reading is not stated as a bijection.
-/

/-- The lower case digit of a number below sixteen. -/
def digit (value : UInt8) : Char :=
  Char.ofNat (if value < 10 then 48 + value.toNat else 87 + value.toNat)

/-- The value of a hexadecimal digit in either case. -/
def value? (digit : Char) : Option UInt8 :=
  if '0' ≤ digit ∧ digit ≤ '9' then some (UInt8.ofNat (digit.toNat - 48))
  else if 'a' ≤ digit ∧ digit ≤ 'f' then some (UInt8.ofNat (digit.toNat - 87))
  else if 'A' ≤ digit ∧ digit ≤ 'F' then some (UInt8.ofNat (digit.toNat - 55))
  else none

/-- The two digits of an octet, high half first. -/
def octetDigits (octet : UInt8) : List Char :=
  [digit (octet >>> 4), digit (octet &&& 15)]

/-- The digits of a string of octets. -/
def encode (bytes : Bytes) : List Char :=
  bytes.flatMap octetDigits

/-- Reads pairs of digits; an odd number of digits or any other character
makes the text unreadable. -/
def decode? : List Char -> Option Bytes
  | [] => some []
  | high :: low :: rest => do
    let upper ← value? high
    let lower ← value? low
    let octets ← decode? rest
    return (upper <<< 4 ||| lower) :: octets
  | [_] => none

/-- The digits of a string of octets, as text. -/
def text (bytes : Bytes) : String :=
  String.ofList (encode bytes)

/-- Reads text as pairs of digits. -/
def ofText? (text : String) : Option Bytes :=
  decode? text.toList

theorem value?_digit_halves :
    ∀ octet : Fin 256,
      value? (digit (UInt8.ofFin octet >>> 4)) = some (UInt8.ofFin octet >>> 4) ∧
      value? (digit (UInt8.ofFin octet &&& 15)) = some (UInt8.ofFin octet &&& 15) ∧
      UInt8.ofFin octet >>> 4 <<< 4 ||| UInt8.ofFin octet &&& 15 = UInt8.ofFin octet := by
  decide +kernel

/-- The digits of one octet read back, whatever digits follow. -/
theorem decode?_octetDigits_append (octet : UInt8) (rest : List Char) :
    decode? (octetDigits octet ++ rest) = (decode? rest).map (octet :: ·) := by
  obtain ⟨high, low, whole⟩ := value?_digit_halves octet.toFin
  simp only [UInt8.ofFin_toFin] at high low whole
  cases read : decode? rest <;> simp [octetDigits, decode?, high, low, whole, read]

@[simp] theorem decode?_encode (bytes : Bytes) : decode? (encode bytes) = some bytes := by
  induction bytes with
  | nil => rfl
  | cons octet rest ih =>
    rw [encode, List.flatMap_cons, decode?_octetDigits_append]
    simpa [encode] using ih

@[simp] theorem ofText?_text (bytes : Bytes) : ofText? (text bytes) = some bytes := by
  simp [ofText?, text]

end Hex
end DoubleRatchet
