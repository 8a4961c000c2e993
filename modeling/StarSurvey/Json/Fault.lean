import StarSurvey.Calendar.Reader
import StarSurvey.Misfit

/-!
# What is wrong with a JSON text, and where

A `Fault` is a cause and the number of bytes that were still unread when it was noticed. From it and
the text follows the place: the line, and the number of bytes on that line before the reader.
-/

namespace StarSurvey.Json

/-- Why a text does not decode. -/
inductive Cause where
  | endInValue
  | endInObject
  | endInList
  | endInString
  | expectedValue
  | expectedWord
  | expectedColon
  | expectedCommaOrBrace
  | expectedCommaOrBracket
  | keyNoString
  | trailingComma
  | trailingCharacters
  | invalidNumber
  | numberOutOfRange
  | invalidEscape
  | unpairedEscape
  | loneSurrogate
  | controlCharacter
  | invalidCodePoint
  /-- The value is well-formed, but not the one that belongs here. -/
  | misfit (m : Misfit)
  /-- The text is no timestamp. -/
  | timestamp (f : Calendar.Fault)
  deriving DecidableEq

/-- JSON calls nothing `null` and writes numbers in messages as it does in data. -/
def wording : Wording := ⟨"null", .data⟩

def Cause.message : Cause → String
  | .endInValue => "EOF while parsing a value"
  | .endInObject => "EOF while parsing an object"
  | .endInList => "EOF while parsing a list"
  | .endInString => "EOF while parsing a string"
  | .expectedValue => "expected value"
  | .expectedWord => "expected ident"
  | .expectedColon => "expected `:`"
  | .expectedCommaOrBrace => "expected `,` or `\x7d`"
  | .expectedCommaOrBracket => "expected `,` or `]`"
  | .keyNoString => "key must be a string"
  | .trailingComma => "trailing comma"
  | .trailingCharacters => "trailing characters"
  | .invalidNumber => "invalid number"
  | .numberOutOfRange => "number out of range"
  | .invalidEscape => "invalid escape"
  | .unpairedEscape => "unexpected end of hex escape"
  | .loneSurrogate => "lone leading surrogate in hex escape"
  | .controlCharacter => "control character (\\u0000-\\u001F) found while parsing a string"
  | .invalidCodePoint => "invalid unicode code point"
  | .misfit m => m.message wording
  | .timestamp f => f.message

/-- A cause, and how many bytes were unread. -/
structure Fault where
  cause : Cause
  left : Nat
  deriving DecidableEq

/-- A place in a text: lines count from one, columns are the bytes on the line before the place. -/
structure Place where
  line : Nat
  column : Nat
  deriving DecidableEq, Repr

def Place.after (bs : List UInt8) : Place :=
  ⟨bs.count 10 + 1, (bs.reverse.takeWhile (· ≠ 10)).length⟩

/-- A cause at a place of the text. -/
structure Error where
  cause : Cause
  place : Place
  deriving DecidableEq

/-- The fault, placed in the text it was found in. -/
def Fault.locate (f : Fault) (text : List UInt8) : Error :=
  ⟨f.cause, .after (text.take (text.length - f.left))⟩

/-- Cause and place. -/
def Error.message (e : Error) : String :=
  e.cause.message ++ " at line " ++ toString e.place.line ++ " column " ++ toString e.place.column

end StarSurvey.Json
