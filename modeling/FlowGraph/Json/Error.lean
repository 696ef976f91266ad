import FlowGraph.Json.Value
import FlowGraph.Text.Quoted

/-!
# Why a document is refused

A text may be no JSON, or end too early: a `Fault`. A document may be of another shape than what is
read from it: a `Mismatch`. Both are causes; their words are given in one place each.
-/

namespace FlowGraph.Json

/-- Why a text is no JSON. The first four say inside of what the text ended. -/
inductive Fault where
  | endInList
  | endInObject
  | endInString
  | endInValue
  | colonExpected
  | listCommaOrEndExpected
  | objectCommaOrEndExpected
  | identExpected
  | valueExpected
  | escape
  | number
  | numberRange
  | codePoint
  | control
  | key
  | leadingSurrogate
  | trailingComma
  | trailingCharacters
  | hexEscapeEnd
  | depth
  deriving DecidableEq

/-- What stands in a document where something else was wanted. -/
inductive Found where
  | null
  | bool (b : Bool)
  | integer (n : Int)
  | real (x : Decimal.Binary64)
  | string (s : String)
  | sequence
  | map
  | unitVariant
  deriving DecidableEq

/-- How a document differs from what is read from it. -/
inductive Mismatch where
  | invalidType (found : Found) (wanted : String)
  | invalidValue (found : Found) (wanted : String)
  | invalidLength (length : Nat) (wanted : String)
  | missingField (name : String)
  | duplicateField (name : String)
  | unknownVariant (name : String) (variants : List String)
  | addressText (wanted : String)
  deriving DecidableEq

/-- Why nothing was read. -/
inductive ReadError where
  | fault (f : Fault)
  | mismatch (m : Mismatch)
  deriving DecidableEq

namespace Fault

/-- Whether the text ended where more was due. -/
def isEnd : Fault → Bool
  | endInList | endInObject | endInString | endInValue => true
  | _ => false

/-- A fault in words. -/
def message : Fault → String
  | endInList => "EOF while parsing a list"
  | endInObject => "EOF while parsing an object"
  | endInString => "EOF while parsing a string"
  | endInValue => "EOF while parsing a value"
  | colonExpected => "expected `:`"
  | listCommaOrEndExpected => "expected `,` or `]`"
  | objectCommaOrEndExpected => "expected `,` or `\x7d`"
  | identExpected => "expected ident"
  | valueExpected => "expected value"
  | escape => "invalid escape"
  | number => "invalid number"
  | numberRange => "number out of range"
  | codePoint => "invalid unicode code point"
  | control => "control character (\\u0000-\\u001F) found while parsing a string"
  | key => "key must be a string"
  | leadingSurrogate => "lone leading surrogate in hex escape"
  | trailingComma => "trailing comma"
  | trailingCharacters => "trailing characters"
  | hexEscapeEnd => "unexpected end of hex escape"
  | depth => "recursion limit exceeded"

end Fault

/-- Numbers are written out in full from five places behind the point to sixteen before it, and
exponents have a sign and at least two digits. -/
def realForm : Decimal.Form := ⟨-5, 15, 2⟩

namespace Found

/-- What a number is found to be. -/
def ofNumber : Number → Found
  | .integer n => .integer n
  | .real x => .real x

/-- What was found, in words. -/
def text : Found → String
  | null => "null"
  | bool b => "boolean `" ++ (if b then "true" else "false") ++ "`"
  | integer n => "integer `" ++ toString n ++ "`"
  | real x => "floating point `" ++ x.text realForm ++ "`"
  | string s => "string " ++ Text.quoted s
  | sequence => "sequence"
  | map => "map"
  | unitVariant => "unit variant"

end Found

namespace Mismatch

/-- A name between backticks. -/
def ticked (name : String) : String := "`" ++ name ++ "`"

/-- The names that would have been known. -/
def choices : List String → String
  | [a] => ticked a
  | [a, b] => ticked a ++ " or " ++ ticked b
  | names => "one of " ++ ", ".intercalate (names.map ticked)

/-- A mismatch in words. -/
def message : Mismatch → String
  | invalidType found wanted => "invalid type: " ++ found.text ++ ", expected " ++ wanted
  | invalidValue found wanted => "invalid value: " ++ found.text ++ ", expected " ++ wanted
  | invalidLength n wanted => "invalid length " ++ toString n ++ ", expected " ++ wanted
  | missingField name => "missing field " ++ ticked name
  | duplicateField name => "duplicate field " ++ ticked name
  | unknownVariant name variants =>
    "unknown variant " ++ ticked name ++ ", expected " ++ choices variants
  | addressText wanted => "invalid " ++ wanted ++ " syntax"

end Mismatch

namespace ReadError

/-- An error of reading in words. -/
def message : ReadError → String
  | fault f => f.message
  | mismatch m => m.message

/-- What is wrong: the text, its length, or the shape of the document. -/
def category : ReadError → String
  | fault f => if f.isEnd then "eof" else "syntax"
  | mismatch _ => "data"

end ReadError

end FlowGraph.Json
