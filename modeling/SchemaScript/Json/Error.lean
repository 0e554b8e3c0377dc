import SchemaScript.Decimal.Shortest
import SchemaScript.Text.Quoted

/-!
# SchemaScript.Json.Error

The faults of a JSON text that is read for a given shape, and their wording.

* `Found`: what stands where something else was expected.
* `Error`: one fault. Reading goes from left to right and stops at the first.
* `Error.message`: the wording.
-/

namespace SchemaScript
namespace Json

/-- A value that stands where another kind was expected. -/
inductive Found where
  | null
  | bool (value : Bool)
  | integer (value : Int)
  /-- A number with a fraction or an exponent, or too long for an integer, as the bits of a double. -/
  | float (bits : UInt64)
  | string (value : String)
  | sequence
  | map
deriving DecidableEq

/-- The fault that ends the reading of a JSON text. -/
inductive Error where
  | endInValue
  | endInObject
  | endInList
  | endInString
  | expectedValue
  | expectedWord
  | expectedColon
  | expectedCommaOrBrace
  | expectedCommaOrBracket
  | keyNotString
  | trailingComma
  | trailingCharacters
  | invalidNumber
  | numberOutOfRange
  | invalidEscape
  | brokenPair
  | loneSurrogate
  | controlCharacter
  | wrongType (found : Found) (expected : String)
  | outOfRange (value : Int) (expected : String)
  | missingField (name : String)
  | duplicateField (name : String)
  | tooShort (length : Nat) (expected : String)
  | unknownVariant (name : String) (known : List String)
deriving DecidableEq

def ticked (s : String) : String :=
  "`" ++ s ++ "`"

def Found.describe : Found → String
  | null => "null"
  | bool b => "boolean " ++ ticked (if b then "true" else "false")
  | integer i => "integer " ++ ticked (String.ofList (Text.signedDecimal i))
  | float bits => "floating point " ++ ticked (String.ofList (Decimal.render bits))
  | string s => "string " ++ Text.quoted s
  | sequence => "sequence"
  | map => "map"

def Error.message : Error → String
  | endInValue => "EOF while parsing a value"
  | endInObject => "EOF while parsing an object"
  | endInList => "EOF while parsing a list"
  | endInString => "EOF while parsing a string"
  | expectedValue => "expected value"
  | expectedWord => "expected ident"
  | expectedColon => "expected `:`"
  | expectedCommaOrBrace => "expected `,` or `\x7d`"
  | expectedCommaOrBracket => "expected `,` or `]`"
  | keyNotString => "key must be a string"
  | trailingComma => "trailing comma"
  | trailingCharacters => "trailing characters"
  | invalidNumber => "invalid number"
  | numberOutOfRange => "number out of range"
  | invalidEscape => "invalid escape"
  | brokenPair => "unexpected end of hex escape"
  | loneSurrogate => "lone leading surrogate in hex escape"
  | controlCharacter => "control character (\\u0000-\\u001F) found while parsing a string"
  | wrongType found expected => "invalid type: " ++ found.describe ++ ", expected " ++ expected
  | outOfRange value expected =>
    "invalid value: " ++ (Found.integer value).describe ++ ", expected " ++ expected
  | missingField name => "missing field " ++ ticked name
  | duplicateField name => "duplicate field " ++ ticked name
  | tooShort length expected =>
    "invalid length " ++ Text.decimalText length ++ ", expected " ++ expected
  | unknownVariant name known =>
    "unknown variant " ++ ticked name ++ ", expected one of "
      ++ String.intercalate ", " (known.map ticked)

end Json
end SchemaScript
