import DoubleRatchet.Log.Level
import DoubleRatchet.Log.Unprintable

namespace DoubleRatchet
namespace Log

/-!
# Log lines

A line names where an event comes from, then its text, then its fields.  The
value of a field is written so that it cannot be mistaken for the rest of the
line: text stands between quotes, and what would end or break it is escaped.
-/

/-- The value of a field. -/
inductive Value where
  | text (text : String)
  | number (number : Int)

/-- A named value. -/
structure Field where
  name : String
  value : Value

/-- An event as a host reports it. -/
structure Entry where
  level : Level
  target : String
  text : String
  fields : List Field

/-- The digits of a number in lower case hexadecimal. -/
def hexadecimal (value : Nat) : String :=
  String.ofList (Nat.toDigits 16 value)

/-- A character between quotes.  One that is not shown as it is stands by its number. -/
def escape (c : Char) : String :=
  match c with
  | '"' => "\\\""
  | '\\' => "\\\\"
  | '\n' => "\\n"
  | '\r' => "\\r"
  | '\t' => "\\t"
  | '\x00' => "\\0"
  | c =>
    if isUnprintable c then "\\u\x7b" ++ hexadecimal c.toNat ++ "\x7d"
    else String.singleton c

/-- Text between quotes. -/
def quote (text : String) : String :=
  "\"" ++ String.join (text.toList.map escape) ++ "\""

/-- A value as it stands in a line. -/
def Value.render : Value -> String
  | .text content => quote content
  | .number value => toString value

/-- The line of an event. -/
def Entry.line (entry : Entry) : String :=
  let head := entry.target ++ ": " ++ entry.text
  if entry.fields.isEmpty then head
  else
    head ++ " " ++
      " ".intercalate (entry.fields.map fun field => field.name ++ "=" ++ field.value.render)

/-- The lines that a filter admits, with their levels. -/
def lines (filter : Option Level) (entries : List Entry) : List (Level × String) :=
  (entries.filter fun entry => entry.level.admittedBy filter).map fun entry =>
    (entry.level, entry.line)

end Log
end DoubleRatchet
