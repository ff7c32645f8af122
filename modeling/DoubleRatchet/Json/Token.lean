import DoubleRatchet.Octets.Basic

namespace DoubleRatchet
namespace Json

/-!
# JSON tokens

A document is first cut into tokens.  Strings and numbers keep their spelling:
a token records the octets between the quotes, or the octets of the numeral,
and says nothing yet about what they denote.  Whether a spelling denotes text
or a number in range is asked only of the values that a reader uses, so an
unused string may hold octets that are no text at all.

The scanner takes one octet at a time and carries what it is inside of.  It
checks the grammar of escapes and numerals as it goes, and a raw control
character ends every string in failure.  White space separates tokens and is
otherwise dropped.
-/

/-- The tokens of a document. -/
inductive Token where
  | openBrace
  | closeBrace
  | openBracket
  | closeBracket
  | comma
  | colon
  | null
  | boolean (value : Bool)
  | number (spelling : Bytes)
  | string (spelling : Bytes)
  deriving DecidableEq

/-- How far an escape inside a string has come. -/
inductive Escape where
  | none
  | opened
  | digits (missing : Nat)
  deriving DecidableEq

/-- How far a numeral has come. -/
inductive Numeral where
  | minus
  | zero
  | integer
  | point
  | fraction
  | exponent
  | exponentSign
  | exponentDigits
  deriving DecidableEq

/-- What the scanner is inside of.  Spellings are collected backwards. -/
inductive Lexeme where
  | between
  | string (reversed : Bytes) (escape : Escape)
  | number (reversed : Bytes) (numeral : Numeral)
  | word (rest : Bytes) (token : Token)
  deriving DecidableEq

/-- The scanner: the tokens so far, backwards, and the one under way. -/
structure Scanner where
  reversed : List Token
  lexeme : Lexeme
  deriving DecidableEq

/-- The octet of a character in ASCII. -/
def ascii (c : Char) : UInt8 :=
  UInt8.ofNat c.toNat

/-- The octets of a text in ASCII. -/
def asciiBytes (text : String) : Bytes :=
  text.toList.map ascii

/-- Whether an octet is white space. -/
def isSpace (octet : UInt8) : Bool :=
  octet = 0x20 || octet = 0x09 || octet = 0x0A || octet = 0x0D

/-- Whether an octet is a decimal digit. -/
def isDigit (octet : UInt8) : Bool :=
  ascii '0' ≤ octet && octet ≤ ascii '9'

/-- Whether an octet is a hexadecimal digit in either case. -/
def isHexDigit (octet : UInt8) : Bool :=
  isDigit octet || (ascii 'a' ≤ octet && octet ≤ ascii 'f') ||
    (ascii 'A' ≤ octet && octet ≤ ascii 'F')

/-- Whether an octet may follow a backslash by itself. -/
def isSimpleEscape (octet : UInt8) : Bool :=
  (asciiBytes "\"\\/bfnrt").contains octet

namespace Numeral

/-- The numeral with one more octet, if the grammar has it there. -/
def next? (numeral : Numeral) (octet : UInt8) : Option Numeral :=
  let isExponent := octet = ascii 'e' || octet = ascii 'E'
  match numeral with
  | minus => if octet = ascii '0' then some zero else if isDigit octet then some integer else none
  | zero =>
    if octet = ascii '.' then some point else if isExponent then some exponent else none
  | integer =>
    if isDigit octet then some integer else if octet = ascii '.' then some point
    else if isExponent then some exponent else none
  | point => if isDigit octet then some fraction else none
  | fraction =>
    if isDigit octet then some fraction else if isExponent then some exponent else none
  | exponent =>
    if octet = ascii '+' || octet = ascii '-' then some exponentSign
    else if isDigit octet then some exponentDigits else none
  | exponentSign => if isDigit octet then some exponentDigits else none
  | exponentDigits => if isDigit octet then some exponentDigits else none

/-- Whether a numeral may end. -/
def isComplete : Numeral -> Bool
  | zero | integer | fraction | exponentDigits => true
  | minus | point | exponent | exponentSign => false

/-- The numeral that an octet opens. -/
def ofFirst? (octet : UInt8) : Option Numeral :=
  if octet = ascii '-' then some minus else minus.next? octet

end Numeral

namespace Scanner

/-- A scanner at the start of a document. -/
def start : Scanner :=
  ⟨[], .between⟩

/-- The tokens that are one octet long. -/
def punctuation? (octet : UInt8) : Option Token :=
  if octet = 0x7B then some .openBrace
  else if octet = 0x7D then some .closeBrace
  else if octet = ascii '[' then some .openBracket
  else if octet = ascii ']' then some .closeBracket
  else if octet = ascii ',' then some .comma
  else if octet = ascii ':' then some .colon
  else none

/-- The words that an octet can open: what must follow, and the token. -/
def word? (octet : UInt8) : Option Lexeme :=
  if octet = ascii 'n' then some (.word (asciiBytes "ull") .null)
  else if octet = ascii 't' then some (.word (asciiBytes "rue") (.boolean true))
  else if octet = ascii 'f' then some (.word (asciiBytes "alse") (.boolean false))
  else none

/-- Takes an octet that belongs to no token under way. -/
def openWith (tokens : List Token) (octet : UInt8) : Option Scanner :=
  if isSpace octet then some ⟨tokens, .between⟩
  else if octet = ascii '"' then some ⟨tokens, .string [] .none⟩
  else
    match punctuation? octet with
    | some token => some ⟨token :: tokens, .between⟩
    | none =>
      match Numeral.ofFirst? octet with
      | some numeral => some ⟨tokens, .number [octet] numeral⟩
      | none => (word? octet).map (⟨tokens, ·⟩)

/-- Takes an octet of a string. -/
def insideString (tokens : List Token) (reversed : Bytes) (escape : Escape) (octet : UInt8) :
    Option Scanner :=
  match escape with
  | .none =>
    if octet = ascii '"' then some ⟨.string reversed.reverse :: tokens, .between⟩
    else if octet = ascii '\\' then some ⟨tokens, .string (octet :: reversed) .opened⟩
    else if octet < 0x20 then none
    else some ⟨tokens, .string (octet :: reversed) .none⟩
  | .opened =>
    if isSimpleEscape octet then some ⟨tokens, .string (octet :: reversed) .none⟩
    else if octet = ascii 'u' then some ⟨tokens, .string (octet :: reversed) (.digits 3)⟩
    else none
  | .digits missing =>
    if isHexDigit octet then
      match missing with
      | 0 => some ⟨tokens, .string (octet :: reversed) .none⟩
      | missing + 1 => some ⟨tokens, .string (octet :: reversed) (.digits missing)⟩
    else none

/-- Takes one octet. -/
def step (scanner : Scanner) (octet : UInt8) : Option Scanner :=
  match scanner.lexeme with
  | .between => openWith scanner.reversed octet
  | .string reversed escape => insideString scanner.reversed reversed escape octet
  | .number reversed numeral =>
    match numeral.next? octet with
    | some longer => some ⟨scanner.reversed, .number (octet :: reversed) longer⟩
    | none =>
      if numeral.isComplete then openWith (.number reversed.reverse :: scanner.reversed) octet
      else none
  | .word rest token =>
    match rest with
    | [] => openWith (token :: scanner.reversed) octet
    | expected :: rest =>
      if octet = expected then some ⟨scanner.reversed, .word rest token⟩ else none

/-- The tokens of a document that ends here. -/
def finish? (scanner : Scanner) : Option (List Token) :=
  match scanner.lexeme with
  | .between => some scanner.reversed.reverse
  | .number reversed numeral =>
    if numeral.isComplete then some (.number reversed.reverse :: scanner.reversed).reverse
    else none
  | .word [] token => some (token :: scanner.reversed).reverse
  | .word (_ :: _) _ | .string _ _ => none

end Scanner

/-- The tokens of a document. -/
def tokens? (document : Bytes) : Option (List Token) := do
  let scanner ← document.foldlM Scanner.step .start
  scanner.finish?

namespace Token

/-- The octets of a token. -/
def toBytes : Token -> Bytes
  | openBrace => [0x7B]
  | closeBrace => [0x7D]
  | openBracket => [ascii '[']
  | closeBracket => [ascii ']']
  | comma => [ascii ',']
  | colon => [ascii ':']
  | null => asciiBytes "null"
  | boolean true => asciiBytes "true"
  | boolean false => asciiBytes "false"
  | number spelling => spelling
  | string spelling => ascii '"' :: spelling ++ [ascii '"']

end Token
end Json
end DoubleRatchet
