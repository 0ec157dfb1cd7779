/-!
# What is wrong with a JSON text

The first thing that is wrong with a text, with the place where it shows: lines are counted from
one, columns by the bytes of the line.
-/

namespace ProposalGate.Json

/-- What may be wrong with a text. -/
inductive Cause where
  /-- the text ends in an array -/
  | endInArray
  /-- the text ends in an object -/
  | endInObject
  /-- the text ends in a string -/
  | endInString
  /-- the text ends where a value belongs -/
  | endInValue
  /-- a colon is missing -/
  | expectedColon
  /-- an array goes on without a comma -/
  | expectedArrayEnd
  /-- an object goes on without a comma -/
  | expectedObjectEnd
  /-- a word that is no value -/
  | expectedWord
  /-- something that is no value -/
  | expectedValue
  /-- an escape that does not exist -/
  | invalidEscape
  /-- digits that are no number -/
  | invalidNumber
  /-- a number beyond the largest -/
  | numberOutOfRange
  /-- a control character in a string -/
  | controlCharacter
  /-- a member without a name in quotes -/
  | keyNotString
  /-- the second half of a character without the first, or the other way round -/
  | loneSurrogate
  /-- the first half of a character with something else behind it -/
  | unexpectedEndOfEscape
  /-- a string whose bytes are no text -/
  | notText
  /-- a comma with nothing behind it -/
  | trailingComma
  /-- something behind the value -/
  | trailingCharacters
  /-- arrays and objects nested too deep -/
  | tooDeep
  deriving DecidableEq, Repr

/-- The wording of a cause. -/
def Cause.text : Cause → String
  | .endInArray => "EOF while parsing a list"
  | .endInObject => "EOF while parsing an object"
  | .endInString => "EOF while parsing a string"
  | .endInValue => "EOF while parsing a value"
  | .expectedColon => "expected `:`"
  | .expectedArrayEnd => "expected `,` or `]`"
  | .expectedObjectEnd => "expected `,` or `\x7d`"
  | .expectedWord => "expected ident"
  | .expectedValue => "expected value"
  | .invalidEscape => "invalid escape"
  | .invalidNumber => "invalid number"
  | .numberOutOfRange => "number out of range"
  | .controlCharacter => "control character (\\u0000-\\u001F) found while parsing a string"
  | .keyNotString => "key must be a string"
  | .loneSurrogate => "lone leading surrogate in hex escape"
  | .unexpectedEndOfEscape => "unexpected end of hex escape"
  | .notText => "invalid unicode code point"
  | .trailingComma => "trailing comma"
  | .trailingCharacters => "trailing characters"
  | .tooDeep => "recursion limit exceeded"

/-- A cause and its place. -/
structure Fault where
  /-- what is wrong -/
  cause : Cause
  /-- the line of the place -/
  line : Nat
  /-- the number of bytes of the line up to the place -/
  column : Nat
  deriving DecidableEq, Repr

namespace Fault

/-- The wording of a fault. -/
def message (f : Fault) : String :=
  s!"{f.cause.text} at line {f.line} column {f.column}"

/-- A fault that shows behind the given bytes of the text. -/
def behind (cause : Cause) (bytes : List UInt8) : Fault :=
  { cause := cause
    line := 1 + bytes.count 10
    column := (bytes.reverse.takeWhile (· ≠ 10)).length }

end Fault

end ProposalGate.Json
