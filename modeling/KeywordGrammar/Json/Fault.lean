/-
# What is wrong with a JSON text, and where

A fault is found at a place in the text.  Places are counted in lines and in the bytes of the last
line, and whether the byte that gave offence is itself counted depends on whether it was read or only
looked at; so a reader that stops says what it left unread and how many more bytes count as read.
-/

namespace KeywordGrammar.Json

/-! ## 1. Faults -/

/-- Why a text is not the JSON that was wanted. -/
inductive Fault where
  | unfinishedValue
  | unfinishedList
  | unfinishedObject
  | unfinishedString
  | expectedValue
  | expectedWord
  | expectedColon
  | expectedListEnd
  | expectedObjectEnd
  | keyNotString
  | trailingComma
  | trailingCharacters
  | invalidEscape
  | invalidNumber
  | numberOutOfRange
  | controlCharacter
  | loneSurrogate
  | unfinishedSurrogate
  | tooDeep
  | notAnObject (found : String)
  | notMappingValues
  deriving DecidableEq, Repr

/-- The wording of a fault. -/
def Fault.message : Fault → String
  | unfinishedValue => "EOF while parsing a value"
  | unfinishedList => "EOF while parsing a list"
  | unfinishedObject => "EOF while parsing an object"
  | unfinishedString => "EOF while parsing a string"
  | expectedValue => "expected value"
  | expectedWord => "expected ident"
  | expectedColon => "expected `:`"
  | expectedListEnd => "expected `,` or `]`"
  | expectedObjectEnd => "expected `,` or `\x7d`"
  | keyNotString => "key must be a string"
  | trailingComma => "trailing comma"
  | trailingCharacters => "trailing characters"
  | invalidEscape => "invalid escape"
  | invalidNumber => "invalid number"
  | numberOutOfRange => "number out of range"
  | controlCharacter => "control character (\\u0000-\\u001F) found while parsing a string"
  | loneSurrogate => "lone leading surrogate in hex escape"
  | unfinishedSurrogate => "unexpected end of hex escape"
  | tooDeep => "recursion limit exceeded"
  | notAnObject found => "invalid type: " ++ found ++ ", expected a map"
  | notMappingValues => "data did not match any variant of untagged enum MappingValue"

/-! ## 2. Places -/

/-- A place in a text: the number of its line from 1, and the bytes of that line before it. -/
structure Position where
  line : Nat
  column : Nat
  deriving DecidableEq, Repr

namespace Position

/-- One byte further. -/
def step (p : Position) (byte : UInt8) : Position :=
  if byte = 10 then ⟨p.line + 1, 0⟩ else ⟨p.line, p.column + 1⟩

/-- The place behind some bytes. -/
def behind (bytes : List UInt8) : Position := bytes.foldl step ⟨1, 0⟩

end Position

/-- Where and why a reader stopped: what it left unread, and how many bytes of that count as read. -/
structure Stop where
  fault : Fault
  rest : List Char
  ahead : Nat
  deriving DecidableEq, Repr

namespace Stop

/-- The place in `text` at which the reader stopped. -/
def position (s : Stop) (text : String) : Position :=
  let unread := (String.ofList s.rest).utf8ByteSize
  Position.behind (text.toUTF8.toList.take (text.utf8ByteSize - unread + s.ahead))

end Stop

end KeywordGrammar.Json
