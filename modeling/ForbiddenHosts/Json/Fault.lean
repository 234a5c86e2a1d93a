import ForbiddenHosts.Mismatch
import ForbiddenHosts.Text.Utf8

/-!
# Faults of JSON texts

A text that is no JSON, or not of the wanted shape, is refused with a **cause** and a position.
While a text is read the position is what is left of it (`Fault.rest`), so no reader has to count;
only the message counts lines and columns (`Error.locate`).  Lines are numbered from one, and the
column is the number of bytes of the line before the position.

There are two kinds of position.  A fault about a byte that has been read stands after that byte.
A fault about a byte that was only looked at also stands after it, as if it had been read, or at the
end of the text if there was none.
-/
namespace ForbiddenHosts.Json

/-- Why a text is refused. -/
inductive Cause where
  | endInValue
  | endInList
  | endInObject
  | endInString
  | expectedValue
  | expectedWord
  | expectedColon
  | expectedCommaInList
  | expectedCommaInObject
  | nameNotString
  | trailingComma
  | trailingCharacters
  | invalidNumber
  | numberOutOfRange
  | controlCharacter
  | invalidEscape
  | loneSurrogate
  | unpairedEscape
  | illFormedUtf8
  | nestedTooDeeply
  | wrongKind (found : Found) (wanted : String)
  | wrongValue (value : Int) (wanted : String)
  | missingField (name : String)
  | duplicateField (name : String)
  | wrongLength (length : Nat) (wanted : String)

/-- How JSON readers spell what they found. -/
def wording : Found.Wording := ⟨"null", fun _ => "integer", Decimal.Layout.json⟩

/-- The message for a cause. -/
def Cause.message : Cause → String
  | endInValue => "EOF while parsing a value"
  | endInList => "EOF while parsing a list"
  | endInObject => "EOF while parsing an object"
  | endInString => "EOF while parsing a string"
  | expectedValue => "expected value"
  | expectedWord => "expected ident"
  | expectedColon => "expected `:`"
  | expectedCommaInList => "expected `,` or `]`"
  | expectedCommaInObject => "expected `,` or `\x7d`"
  | nameNotString => "key must be a string"
  | trailingComma => "trailing comma"
  | trailingCharacters => "trailing characters"
  | invalidNumber => "invalid number"
  | numberOutOfRange => "number out of range"
  | controlCharacter => "control character (\\u0000-\\u001F) found while parsing a string"
  | invalidEscape => "invalid escape"
  | loneSurrogate => "lone leading surrogate in hex escape"
  | unpairedEscape => "unexpected end of hex escape"
  | illFormedUtf8 => "invalid unicode code point"
  | nestedTooDeeply => "recursion limit exceeded"
  | wrongKind found wanted => found.mismatch wording wanted
  | wrongValue value wanted =>
    "invalid value: integer `" ++ Decimal.integer value ++ "`, expected " ++ wanted
  | missingField name => "missing field `" ++ name ++ "`"
  | duplicateField name => "duplicate field `" ++ name ++ "`"
  | wrongLength length wanted =>
    "invalid length " ++ Decimal.integer length ++ ", expected " ++ wanted

/-- A cause with what is left of the text after the place of the fault. -/
structure Fault where
  cause : Cause
  rest : Bytes

/-- A cause with its place in the text. -/
structure Error where
  cause : Cause
  line : Nat
  column : Nat

namespace Error

/-- Finds the place of a fault in the text that was read. -/
def locate (text : Bytes) (fault : Fault) : Error :=
  let before := text.take (text.length - fault.rest.length)
  { cause := fault.cause
    line := before.countP (· == 0x0A) + 1
    column := (before.reverse.takeWhile (· != 0x0A)).length }

/-- The message for a refused text. -/
def message (e : Error) : String :=
  e.cause.message ++ " at line " ++ Decimal.integer e.line ++ " column " ++
    Decimal.integer e.column

end Error

/-- The result of a step of reading: a value with what is left of the text, or a fault. -/
abbrev Read (α : Type) := Except Fault (α × Bytes)

end ForbiddenHosts.Json
