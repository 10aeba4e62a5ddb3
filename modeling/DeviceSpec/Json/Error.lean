import DeviceSpec.Json.Number
import DeviceSpec.Text.Quoted

/-!
# What is wrong with a document

The causes for which reading a document fails, and their wording. A document is read from left to
right and the first fault ends the reading.
-/

namespace DeviceSpec.Json

/-- What stood where a value of another kind was expected. -/
inductive Found where
  | null
  | flag (b : Bool)
  | number (n : Number)
  | text (s : String)
  | list
  | object

/-- Why a document could not be read. -/
inductive Error where
  | eofValue
  | eofString
  | eofList
  | eofObject
  | expectedColon
  | expectedListComma
  | expectedObjectComma
  | expectedWord
  | expectedValue
  | invalidEscape
  | invalidNumber
  | numberOutOfRange
  | loneSurrogate
  | unfinishedPair
  | keyNotText
  | controlCharacter
  | trailingComma
  | trailingCharacters
  | tooDeep
  /-- A value of another kind than `expected`. -/
  | wrongKind (found : Found) (expected : String)
  /-- A record written as a list ends before element `length`. -/
  | tooShort (length : Nat) (record : String) (size : Nat)
  | missingField (key : String)
  | duplicateField (key : String)
  /-- A value of the right kind that its reader refuses. -/
  | refused (reason : String)

/-- How a message names what it found. -/
def Found.describe : Found → String
  | .null => "null"
  | .flag true => "boolean `true`"
  | .flag false => "boolean `false`"
  | .number (.whole n) => "integer `" ++ (Number.whole n).toText ++ "`"
  | .number (.real x) => "floating point `" ++ (Number.real x).toText ++ "`"
  | .text s => "string " ++ Text.quoted s
  | .list => "sequence"
  | .object => "map"

/-- The wording of an error. -/
def Error.message : Error → String
  | .eofValue => "EOF while parsing a value"
  | .eofString => "EOF while parsing a string"
  | .eofList => "EOF while parsing a list"
  | .eofObject => "EOF while parsing an object"
  | .expectedColon => "expected `:`"
  | .expectedListComma => "expected `,` or `]`"
  | .expectedObjectComma => "expected `,` or `\x7d`"
  | .expectedWord => "expected ident"
  | .expectedValue => "expected value"
  | .invalidEscape => "invalid escape"
  | .invalidNumber => "invalid number"
  | .numberOutOfRange => "number out of range"
  | .loneSurrogate => "lone leading surrogate in hex escape"
  | .unfinishedPair => "unexpected end of hex escape"
  | .keyNotText => "key must be a string"
  | .controlCharacter => "control character (\\u0000-\\u001F) found while parsing a string"
  | .trailingComma => "trailing comma"
  | .trailingCharacters => "trailing characters"
  | .tooDeep => "recursion limit exceeded"
  | .wrongKind found expected => "invalid type: " ++ found.describe ++ ", expected " ++ expected
  | .tooShort length record size =>
    "invalid length " ++ toString length ++ ", expected struct " ++ record ++ " with "
      ++ toString size ++ (if size = 1 then " element" else " elements")
  | .missingField key => "missing field `" ++ key ++ "`"
  | .duplicateField key => "duplicate field `" ++ key ++ "`"
  | .refused reason => reason

end DeviceSpec.Json
