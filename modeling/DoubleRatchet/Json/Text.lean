import DoubleRatchet.Json.Token

namespace DoubleRatchet
namespace Json

/-!
# The text of a JSON string

The spelling of a string is a sequence of octets in which a backslash opens an
escape.  It denotes text if the octets are well formed as UTF-8 and every
escape denotes a character; two escapes of surrogate code units denote one
character together, and one of them alone denotes none.

Writing escapes the quote, the backslash and the control characters, and
nothing else.
-/

/-- The code unit that four hexadecimal digits denote. -/
def codeUnit? (digits : List Char) : Option Nat :=
  digits.foldlM (fun value c => (hexValue? c).map (16 * value + ·)) 0
where
  /-- The value of a hexadecimal digit in either case. -/
  hexValue? (c : Char) : Option Nat :=
    if '0' ≤ c ∧ c ≤ '9' then some (c.toNat - 48)
    else if 'a' ≤ c ∧ c ≤ 'f' then some (c.toNat - 87)
    else if 'A' ≤ c ∧ c ≤ 'F' then some (c.toNat - 55)
    else none

/-- The character that a letter after a backslash denotes by itself. -/
def simpleEscape? : Char -> Option Char
  | '"' => some '"'
  | '\\' => some '\\'
  | '/' => some '/'
  | 'b' => some '\x08'
  | 'f' => some '\x0c'
  | 'n' => some '\n'
  | 'r' => some '\r'
  | 't' => some '\t'
  | _ => none

/-- Whether a code unit is the first half of a pair. -/
def isHighSurrogate (unit : Nat) : Bool :=
  0xD800 ≤ unit && unit < 0xDC00

/-- Whether a code unit is the second half of a pair. -/
def isLowSurrogate (unit : Nat) : Bool :=
  0xDC00 ≤ unit && unit < 0xE000

/-- The character of a pair of code units. -/
def ofSurrogates (high low : Nat) : Char :=
  Char.ofNat (0x10000 + (high - 0xD800) * 0x400 + (low - 0xDC00))

/-- The text that a spelling denotes, character by character. -/
def unescape? : List Char -> Option (List Char)
  | [] => some []
  | '\\' :: 'u' :: a :: b :: c :: d :: rest => do
    let unit ← codeUnit? [a, b, c, d]
    if isHighSurrogate unit then
      match rest with
      | '\\' :: 'u' :: e :: f :: g :: h :: rest => do
        let low ← codeUnit? [e, f, g, h]
        if isLowSurrogate low then
          let text ← unescape? rest
          return ofSurrogates unit low :: text
        else none
      | _ => none
    else if isLowSurrogate unit then none
    else
      let text ← unescape? rest
      return Char.ofNat unit :: text
  | '\\' :: letter :: rest => do
    let c ← simpleEscape? letter
    let text ← unescape? rest
    return c :: text
  | ['\\'] => none
  | c :: rest => do
    let text ← unescape? rest
    return c :: text

/-- The characters that a spelling denotes. -/
def charactersOf? (spelling : Bytes) : Option (List Char) := do
  let raw ← String.fromUTF8? spelling.toByteArray
  unescape? raw.toList

/-- The text that a spelling denotes. -/
def textOf? (spelling : Bytes) : Option String :=
  (charactersOf? spelling).map String.ofList

/-- The spelling of a character. -/
def escape (c : Char) : List Char :=
  match c with
  | '"' => ['\\', '"']
  | '\\' => ['\\', '\\']
  | '\x08' => ['\\', 'b']
  | '\x0c' => ['\\', 'f']
  | '\n' => ['\\', 'n']
  | '\r' => ['\\', 'r']
  | '\t' => ['\\', 't']
  | c =>
    if c.toNat < 0x20 then
      ['\\', 'u', '0', '0', Nat.digitChar (c.toNat / 16), Nat.digitChar (c.toNat % 16)]
    else [c]

/-- The spelling of a text. -/
def spellingOf (text : String) : Bytes :=
  (text.toList.flatMap escape).flatMap String.utf8EncodeChar

end Json
end DoubleRatchet
