import QueryAdvisor.Json.Printer
import QueryAdvisor.Text.Quoted

/-!
# What can be wrong with a JSON text

A fault is a cause and the number of bytes in front of the place it is
reported at. The place is shown as a line and a column: lines count from one,
columns count bytes since the last line break. A fault about a byte that is
not acceptable is placed behind that byte; one about a value already read is
placed behind that value.
-/

namespace QueryAdvisor.Json

/-- What was found where something of another type was expected. -/
inductive Found where
  | null
  | bool (value : Bool)
  | number (value : Numeral)
  | text (value : String)
  | list
  | object
deriving DecidableEq, Repr

/-- The causes of a fault. -/
inductive Cause where
  | endInValue
  | endInText
  | endInList
  | endInObject
  | expectedWord
  | expectedValue
  | invalidNumber
  | numberOutOfRange
  | controlCharacter
  | invalidEscape
  | cutSurrogate
  | loneSurrogate
  | trailingComma
  | expectedCommaInList
  | expectedCommaInObject
  | expectedColon
  | keyNotText
  | trailingCharacters
  | tooDeep
  | missingField (key : String)
  | duplicateField (key : String)
  | unknownVariant (name : String) (expected : List String)
  | wrongType (found : Found) (expected : String)
  | wrongLength (count : Nat) (expected : String)
deriving DecidableEq, Repr

/-- A fault: its cause and the bytes in front of the place it is reported at. -/
structure Fault where
  cause : Cause
  offset : Nat
deriving DecidableEq, Repr

/-- A name between back quotes. -/
def backQuoted (s : String) : String :=
  "`" ++ s ++ "`"

/-- The choice between names. -/
def oneOf : List String → String
  | [a] => backQuoted a
  | [a, b] => backQuoted a ++ " or " ++ backQuoted b
  | names => "one of " ++ String.intercalate ", " (names.map backQuoted)

def Found.describe : Found → String
  | .null => "null"
  | .bool b => "boolean " ++ backQuoted (String.ofList (boolText b))
  | .number (.integer n) => "integer " ++ backQuoted (String.ofList (integerText n))
  | .number (.float x) => "floating point " ++ backQuoted (String.ofList (numberLayout.text x))
  | .text s => "string " ++ Text.quoted s
  | .list => "sequence"
  | .object => "map"

def Cause.describe : Cause → String
  | .endInValue => "EOF while parsing a value"
  | .endInText => "EOF while parsing a string"
  | .endInList => "EOF while parsing a list"
  | .endInObject => "EOF while parsing an object"
  | .expectedWord => "expected ident"
  | .expectedValue => "expected value"
  | .invalidNumber => "invalid number"
  | .numberOutOfRange => "number out of range"
  | .controlCharacter => "control character (\\u0000-\\u001F) found while parsing a string"
  | .invalidEscape => "invalid escape"
  | .cutSurrogate => "unexpected end of hex escape"
  | .loneSurrogate => "lone leading surrogate in hex escape"
  | .trailingComma => "trailing comma"
  | .expectedCommaInList => "expected `,` or `]`"
  | .expectedCommaInObject => "expected `,` or `\x7d`"
  | .expectedColon => "expected `:`"
  | .keyNotText => "key must be a string"
  | .trailingCharacters => "trailing characters"
  | .tooDeep => "recursion limit exceeded"
  | .missingField key => "missing field " ++ backQuoted key
  | .duplicateField key => "duplicate field " ++ backQuoted key
  | .unknownVariant name expected =>
      "unknown variant " ++ backQuoted name ++ ", expected " ++ oneOf expected
  | .wrongType found expected => "invalid type: " ++ found.describe ++ ", expected " ++ expected
  | .wrongLength count expected =>
      "invalid length " ++ toString count ++ ", expected " ++ expected

/-- A line, counted from one, and the bytes in front of a place on it. -/
structure Position where
  line : Nat
  column : Nat
deriving DecidableEq, Repr

/-- Follows the line breaks of a text up to an offset. `here` is the offset of
the first character and `start` that of its line. -/
def positionFrom (line start here offset : Nat) : List Char → Position
  | [] => ⟨line, offset - start⟩
  | c :: rest =>
      if offset ≤ here then ⟨line, offset - start⟩
      else if c = '\n' then positionFrom (line + 1) (here + 1) (here + 1) offset rest
      else positionFrom line start (here + c.utf8Size) offset rest

/-- The line and column of an offset into a text. -/
def position (text : List Char) (offset : Nat) : Position :=
  positionFrom 1 0 0 offset text

/-- The cause of a fault and its place in the text. -/
def Fault.message (fault : Fault) (text : String) : String :=
  let place := position text.toList fault.offset
  fault.cause.describe ++ " at line " ++ toString place.line ++ " column " ++ toString place.column

end QueryAdvisor.Json
