import TermTape.IoError
import TermTape.Number.Layout
import TermTape.Text.Quoted

/-!
# Faults of JSON texts

Why a JSON text cannot be read: it breaks the grammar (`Malformed`), it is of the grammar but not of
the shape that a reader expects, or its source failed.
-/
namespace TermTape.Json

/-- A breach of the grammar, or of what the grammar leaves to the reader. -/
inductive Malformed where
  | endInList
  | endInObject
  | endInString
  | endInValue
  | expectedColon
  | expectedListEnd
  | expectedObjectEnd
  | expectedName
  | expectedValue
  | badEscape
  | badNumber
  | numberRange
  | badCharacter
  | controlCharacter
  | keyNotString
  | loneSurrogate
  | trailingComma
  | trailingCharacters
  | surrogateCut
  | tooDeep
  deriving DecidableEq, Repr

/-- The wording of a breach. -/
def Malformed.message : Malformed → String
  | .endInList => "EOF while parsing a list"
  | .endInObject => "EOF while parsing an object"
  | .endInString => "EOF while parsing a string"
  | .endInValue => "EOF while parsing a value"
  | .expectedColon => "expected `:`"
  | .expectedListEnd => "expected `,` or `]`"
  | .expectedObjectEnd => "expected `,` or `\x7d`"
  | .expectedName => "expected ident"
  | .expectedValue => "expected value"
  | .badEscape => "invalid escape"
  | .badNumber => "invalid number"
  | .numberRange => "number out of range"
  | .badCharacter => "invalid unicode code point"
  | .controlCharacter => "control character (\\u0000-\\u001F) found while parsing a string"
  | .keyNotString => "key must be a string"
  | .loneSurrogate => "lone leading surrogate in hex escape"
  | .trailingComma => "trailing comma"
  | .trailingCharacters => "trailing characters"
  | .surrogateCut => "unexpected end of hex escape"
  | .tooDeep => "recursion limit exceeded"

/-- A number as it is written: whole without a sign, whole below zero, or anything else. -/
inductive Number where
  | whole (n : Nat)
  | negative (i : Int)
  | real (x : Binary64)
  deriving DecidableEq

/-- What stands where a value of some shape is expected. -/
inductive Found where
  | null
  | truth (b : Bool)
  | number (n : Number)
  | text (s : String)
  | list
  | object
  deriving DecidableEq

/-- The name of what was found. -/
def Found.name : Found → String
  | .null => "null"
  | .truth b => "boolean `" ++ (if b then "true" else "false") ++ "`"
  | .number (.whole n) => "integer `" ++ wholeText n ++ "`"
  | .number (.negative i) => "integer `" ++ signedText i ++ "`"
  | .number (.real x) => "floating point `" ++ x.exponential ++ "`"
  | .text s => "string " ++ quoted s
  | .list => "sequence"
  | .object => "map"

/-- Why a JSON text cannot be read. -/
inductive Fault where
  | malformed (cause : Malformed)
  | wrongKind (found : Found) (expected : String)
  | wrongValue (found : Found) (expected : String)
  | wrongLength (length : Nat) (expected : String)
  | missing (field : String)
  | repeated (field : String)
  | stopped (cause : IoError)
  deriving DecidableEq

/-- The wording of a fault. -/
def Fault.message : Fault → String
  | .malformed cause => cause.message
  | .wrongKind found expected => "invalid type: " ++ found.name ++ ", expected " ++ expected
  | .wrongValue found expected => "invalid value: " ++ found.name ++ ", expected " ++ expected
  | .wrongLength length expected =>
    "invalid length " ++ wholeText length ++ ", expected " ++ expected
  | .missing field => "missing field `" ++ field ++ "`"
  | .repeated field => "duplicate field `" ++ field ++ "`"
  | .stopped cause => cause.message

end TermTape.Json
