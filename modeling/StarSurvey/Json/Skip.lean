import StarSurvey.Json.Numeral
import StarSurvey.Json.Text

/-!
# Passing a value

The value of an unknown key is passed without being kept. It has to be well-formed, to any depth,
but its numbers may be out of range.
-/

namespace StarSurvey.Json

mutual

/-- Passes a value. Of two calls one goes past a byte, so twice as many calls as there are bytes are
enough, and what is left of them is enough for the strings. -/
def skipValueWith : (fuel : Nat) → Reader Unit
  | 0 => failPast .endInValue
  | fuel + 1 => do
    blanks
    match ← peek with
    | none => failPast .endInValue
    | some b =>
      if b = 0x6E then do pass; word [0x75, 0x6C, 0x6C]
      else if b = 0x74 then do pass; word [0x72, 0x75, 0x65]
      else if b = 0x66 then do pass; word [0x61, 0x6C, 0x73, 0x65]
      else if b = 0x2D ∨ isDigit b then discard (readNumeral .invalidNumber)
      else if b = 0x22 then do pass; skipContents fuel
      else if b = 0x5B then do
        pass
        blanks
        match ← peek with
        | none => failPast .endInList
        | some c => if c = 0x5D then pass else skipElements fuel
      else if b = 0x7B then do
        pass
        blanks
        match ← peek with
        | none => failPast .endInObject
        | some c => if c = 0x7D then pass else skipMembers fuel
      else failPast .expectedValue

/-- Passes the elements of a list and its closing bracket. -/
def skipElements : (fuel : Nat) → Reader Unit
  | 0 => failPast .endInList
  | fuel + 1 => do
    skipValueWith fuel
    blanks
    match ← peek with
    | none => failPast .endInList
    | some b =>
      if b = 0x2C then do pass; skipElements fuel
      else if b = 0x5D then pass
      else failPast .expectedCommaOrBracket

/-- Passes the members of an object and its closing brace. -/
def skipMembers : (fuel : Nat) → Reader Unit
  | 0 => failPast .endInObject
  | fuel + 1 => do
    blanks
    match ← peek with
    | none => failPast .endInObject
    | some q => if q = 0x22 then pass else failPast .keyNoString
    skipContents fuel
    blanks
    match ← peek with
    | none => failPast .endInObject
    | some c => if c = 0x3A then pass else failPast .expectedColon
    skipValueWith fuel
    blanks
    match ← peek with
    | none => failPast .endInObject
    | some b =>
      if b = 0x2C then do pass; skipMembers fuel
      else if b = 0x7D then pass
      else failPast .expectedCommaOrBrace

end

def skipValue : Reader Unit := do skipValueWith (2 * (← get).length + 2)

end StarSurvey.Json
