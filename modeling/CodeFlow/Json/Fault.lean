import CodeFlow.Json.Writer
import CodeFlow.Text.Quoted

/-!
# Faults of JSON texts

Why a text is no JSON, or no JSON of the expected form, and what is said about it. A fault knows
how many bytes were left when it was noticed; its place is given as a line and a column, both
counted in bytes of the text.
-/

namespace CodeFlow.Json

/-- What stood where something else was expected. -/
inductive Found where
  | null
  | bool (b : Bool)
  | int (n : Int)
  | float (x : Float)
  | str (s : String)
  | arr
  | obj

/-- A description of what was found. -/
def Found.describe : Found → String
  | .null => "null"
  | .bool b => s!"boolean `{b}`"
  | .int n => s!"integer `{n}`"
  | .float x => s!"floating point `{floatLayout.render x}`"
  | .str s => s!"string {Text.quoted s}"
  | .arr => "sequence"
  | .obj => "map"

/-- What kind of value a value is. -/
def found : Json → Found
  | .null => .null
  | .bool b => .bool b
  | .int n => .int n
  | .float x => .float x
  | .str s => .str s
  | .arr _ => .arr
  | .obj _ => .obj

/-- What is wrong. -/
inductive Cause where
  | endInList
  | endInObject
  | endInString
  | endInValue
  | expectedColon
  | expectedListCommaOrEnd
  | expectedObjectCommaOrEnd
  | expectedLiteral
  | expectedValue
  | invalidEscape
  | invalidNumber
  | numberOutOfRange
  | invalidCodePoint
  | controlCharacter
  | keyNotString
  | loneSurrogate
  | trailingComma
  | trailingCharacters
  | unexpectedEndOfEscape
  | tooDeep
  | wrongType (found : Found) (expected : String)
  | wrongValue (found : Found) (expected : String)
  | wrongLength (n : Nat) (expected : String)
  | missing (field : String)
  | duplicate (field : String)
  | malformed (message : String)

/-- What is said about a cause. -/
def Cause.message : Cause → String
  | .endInList => "EOF while parsing a list"
  | .endInObject => "EOF while parsing an object"
  | .endInString => "EOF while parsing a string"
  | .endInValue => "EOF while parsing a value"
  | .expectedColon => "expected `:`"
  | .expectedListCommaOrEnd => "expected `,` or `]`"
  | .expectedObjectCommaOrEnd => "expected `,` or `\x7d`"
  | .expectedLiteral => "expected ident"
  | .expectedValue => "expected value"
  | .invalidEscape => "invalid escape"
  | .invalidNumber => "invalid number"
  | .numberOutOfRange => "number out of range"
  | .invalidCodePoint => "invalid unicode code point"
  | .controlCharacter => "control character (\\u0000-\\u001F) found while parsing a string"
  | .keyNotString => "key must be a string"
  | .loneSurrogate => "lone leading surrogate in hex escape"
  | .trailingComma => "trailing comma"
  | .trailingCharacters => "trailing characters"
  | .unexpectedEndOfEscape => "unexpected end of hex escape"
  | .tooDeep => "recursion limit exceeded"
  | .wrongType found expected => s!"invalid type: {found.describe}, expected {expected}"
  | .wrongValue found expected => s!"invalid value: {found.describe}, expected {expected}"
  | .wrongLength n expected => s!"invalid length {n}, expected {expected}"
  | .missing field => s!"missing field `{field}`"
  | .duplicate field => s!"duplicate field `{field}`"
  | .malformed message => message

/-- A cause, and the number of bytes that were left when it was noticed. -/
structure Fault where
  cause : Cause
  left : Nat

/-- A fault at the first of the remaining bytes. -/
def Fault.here (cause : Cause) (rest : List UInt8) : Fault :=
  ⟨cause, rest.length⟩

/-- A fault behind the first of the remaining bytes, if there is one. -/
def Fault.past (cause : Cause) (rest : List UInt8) : Fault :=
  ⟨cause, rest.length - 1⟩

/-- Line and column, both from the bytes of the text before the place; lines count from one,
columns from one for the byte just read. -/
def position (before : List UInt8) : Nat × Nat :=
  before.foldl step (1, 0)
where
  step (place : Nat × Nat) (b : UInt8) : Nat × Nat :=
    if b = 10 then (place.1 + 1, 0) else (place.1, place.2 + 1)

/-- What is said about a fault in a text. -/
def Fault.message (text : List UInt8) (f : Fault) : String :=
  let (line, column) := position (text.take (text.length - f.left))
  s!"{f.cause.message} at line {line} column {column}"

end CodeFlow.Json
