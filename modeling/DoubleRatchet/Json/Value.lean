import DoubleRatchet.Json.Token

namespace DoubleRatchet
namespace Json

/-!
# JSON values

The value of a document is a tree.  Its leaves keep the spelling of strings and
numbers, and so do the keys of objects, which stand in the order of the
document and may repeat.

Reading consumes one token at a time and keeps the containers that are still
open on a stack of its own.  The depth of a document is therefore bounded by
its length alone.  Writing lists the tokens of a tree without white space.
-/

/-- A document as a tree. -/
inductive Value where
  | null
  | boolean (value : Bool)
  | number (spelling : Bytes)
  | string (spelling : Bytes)
  | array (items : List Value)
  | object (members : List (Bytes × Value))

/-- A container that waits for the value under way.  Its parts are collected
backwards. -/
inductive Container where
  | array (reversed : List Value)
  | object (reversed : List (Bytes × Value)) (key : Bytes)

/-- What the reader has and what it waits for. -/
inductive Reader where
  /-- A value must come. -/
  | value (outer : List Container)
  /-- An array was opened: an item or its end must come. -/
  | firstItem (outer : List Container)
  /-- An item was read: a comma or the end of the array must come. -/
  | nextItem (reversed : List Value) (outer : List Container)
  /-- An object was opened: a key or its end must come. -/
  | firstKey (outer : List Container)
  /-- A comma was read in an object: a key must come. -/
  | key (reversed : List (Bytes × Value)) (outer : List Container)
  /-- A key was read: a colon must come. -/
  | colon (reversed : List (Bytes × Value)) (key : Bytes) (outer : List Container)
  /-- A member was read: a comma or the end of the object must come. -/
  | nextMember (reversed : List (Bytes × Value)) (outer : List Container)
  /-- The document is complete. -/
  | done (value : Value)

namespace Reader

/-- Hands a complete value to the container that waits for it. -/
def deliver (complete : Value) : List Container -> Reader
  | [] => .done complete
  | .array reversed :: outer => .nextItem (complete :: reversed) outer
  | .object reversed name :: outer => .nextMember ((name, complete) :: reversed) outer

/-- Takes a token where a value must come. -/
def openWith (outer : List Container) : Token -> Option Reader
  | .null => some (deliver .null outer)
  | .boolean truth => some (deliver (.boolean truth) outer)
  | .number spelling => some (deliver (.number spelling) outer)
  | .string spelling => some (deliver (.string spelling) outer)
  | .openBracket => some (.firstItem outer)
  | .openBrace => some (.firstKey outer)
  | .closeBrace | .closeBracket | .comma | .colon => none

/-- Takes one token. -/
def step : Reader -> Token -> Option Reader
  | .value outer, token => openWith outer token
  | .firstItem outer, .closeBracket => some (deliver (.array []) outer)
  | .firstItem outer, token => openWith (.array [] :: outer) token
  | .nextItem reversed outer, .comma => some (.value (.array reversed :: outer))
  | .nextItem reversed outer, .closeBracket => some (deliver (.array reversed.reverse) outer)
  | .nextItem _ _, _ => none
  | .firstKey outer, .closeBrace => some (deliver (.object []) outer)
  | .firstKey outer, .string name => some (.colon [] name outer)
  | .firstKey _, _ => none
  | .key reversed outer, .string name => some (.colon reversed name outer)
  | .key _ _, _ => none
  | .colon reversed name outer, .colon => some (.value (.object reversed name :: outer))
  | .colon _ _ _, _ => none
  | .nextMember reversed outer, .comma => some (.key reversed outer)
  | .nextMember reversed outer, .closeBrace =>
    some (deliver (.object reversed.reverse) outer)
  | .nextMember _ _, _ => none
  | .done _, _ => none

/-- The value of a document that ends here. -/
def finish? : Reader -> Option Value
  | .done complete => some complete
  | _ => none

end Reader

namespace Value

/-- The value that a list of tokens spells. -/
def ofTokens? (tokens : List Token) : Option Value := do
  let reader ← tokens.foldlM Reader.step (.value [])
  reader.finish?

/-- Reads a document. -/
def read? (document : Bytes) : Option Value := do
  let tokens ← tokens? document
  ofTokens? tokens

mutual

/-- The tokens of a tree, without white space. -/
def toTokens : Value -> List Token
  | .null => [.null]
  | .boolean value => [.boolean value]
  | .number spelling => [.number spelling]
  | .string spelling => [.string spelling]
  | .array items => .openBracket :: (itemTokens items ++ [.closeBracket])
  | .object members => .openBrace :: (memberTokens members ++ [.closeBrace])

/-- The tokens of the items of an array, with commas between them. -/
def itemTokens : List Value -> List Token
  | [] => []
  | item :: items =>
    toTokens item ++ match items with
      | [] => []
      | _ :: _ => .comma :: itemTokens items

/-- The tokens of the members of an object, with commas between them. -/
def memberTokens : List (Bytes × Value) -> List Token
  | [] => []
  | (key, value) :: members =>
    .string key :: .colon :: (toTokens value ++ match members with
      | [] => []
      | _ :: _ => .comma :: memberTokens members)

end

/-- Writes a document. -/
def write (value : Value) : Bytes :=
  value.toTokens.flatMap Token.toBytes

end Value
end Json
end DoubleRatchet
