import StarSurvey.Json.Skip

/-!
# Decoding by shape

A reader is told what it should find: a text, a number, a list, or an object with known fields. What
it finds instead is passed, as far as it is one token, and reported.

An object is read into a collection of parts `σ` in which each known field is set at most once;
keys that are not known are passed. A list of the fields in the order of their declaration is
accepted in place of an object.
-/

namespace StarSurvey.Json

/-- Reports what stands here in place of the expected. Lists and objects are not entered. -/
def misfit {α : Type} (expected : String) : Reader α := do
  let found (f : Found) : Reader α := fail (.misfit (.wrongType f expected))
  match ← peek with
  | none => failPast .expectedValue
  | some b =>
    if b = 0x6E then do pass; word [0x75, 0x6C, 0x6C]; found .nothing
    else if b = 0x74 then do pass; word [0x72, 0x75, 0x65]; found (.boolean true)
    else if b = 0x66 then do pass; word [0x61, 0x6C, 0x73, 0x65]; found (.boolean false)
    else if b = 0x2D ∨ isDigit b then do found (← readNumber).found
    else if b = 0x22 then do pass; found (.text (← readString))
    else if b = 0x5B then found .sequence
    else if b = 0x7B then found .map
    else failPast .expectedValue

/-- The first byte of the value that has to follow. -/
def firstByte : Reader UInt8 := do
  blanks
  match ← peek with
  | none => failPast .endInValue
  | some b => pure b

/-- A string, under the name by which it is expected. -/
def readStringAs (expected : String) : Reader String := do
  if (← firstByte) = 0x22 then do pass; readString else misfit expected

def readText : Reader String := readStringAs "a string"

def readInstant : Reader Calendar.Instant := do
  let s ← readStringAs "an RFC 3339 formatted date and time string"
  match Calendar.Instant.ofText s with
  | .ok i => pure i
  | .error f => fail (.timestamp f)

/-- A number, under the name by which it is expected. -/
def readNumberAs (expected : String) : Reader Number := do
  let b ← firstByte
  if b = 0x2D ∨ isDigit b then readNumber else misfit expected

def readFloat : Reader Float := Number.toFloat <$> readNumberAs "f64"

/-- A natural number below `2^64`. -/
def readCount : Reader Nat := do
  match ← readNumberAs "usize" with
  | .integer n =>
    if 0 ≤ n then pure n.toNat else fail (.misfit (.wrongValue (.integer n) "usize"))
  | .float x => fail (.misfit (.wrongType (.float x) "usize"))

/-- Whether another element follows; the comma in front of it is passed. -/
def nextElement (first : Bool) : Reader Bool := do
  blanks
  match ← peek with
  | none => failPast .endInList
  | some b =>
    if b = 0x5D then pure false
    else if first then pure true
    else if b = 0x2C then
      pass
      blanks
      match ← peek with
      | none => failPast .endInValue
      | some c => if c = 0x5D then failPast .trailingComma else pure true
    else failPast .expectedCommaOrBracket

/-- The closing bracket of a list. -/
def endList : Reader Unit := do
  blanks
  match ← peek with
  | none => failPast .endInList
  | some b =>
    if b = 0x5D then pass
    else if b = 0x2C then
      pass
      blanks
      if (← peek) = some 0x5D then failPast .trailingComma else failPast .trailingCharacters
    else failPast .trailingCharacters

def readElements {α : Type} (item : Reader α) : (fuel : Nat) → (first : Bool) → Reader (List α)
  | 0, _ => failPast .endInList
  | fuel + 1, first => do
    if ← nextElement first then
      let a ← item
      let more ← readElements item fuel false
      pure (a :: more)
    else pure []

def readList {α : Type} (item : Reader α) : Reader (List α) := do
  if (← firstByte) = 0x5B then
    pass
    let as ← readElements item ((← get).length + 1) true
    endList
    pure as
  else misfit "a sequence"

/-- A known field of an object that is read into parts `σ`. -/
structure Field (σ : Type) where
  name : String
  isSet : σ → Bool
  read : σ → Reader σ

/-- A field with its value stored by `put`. -/
def Field.of {σ α : Type} (name : String) (get : σ → Option α) (put : σ → α → σ) (r : Reader α) :
    Field σ :=
  ⟨name, fun s => (get s).isSome, fun s => put s <$> r⟩

/-- An object with known fields: its name, the fields in the order of their declaration, the parts
before any is set, and the value once all are. -/
structure Shape (σ α : Type) where
  name : String
  fields : List (Field σ)
  none : σ
  whole : σ → Option α

namespace Shape

variable {σ α : Type}

/-- The value of the parts, or the first field that is missing. -/
def finish (shape : Shape σ α) (parts : σ) : Reader α :=
  match shape.whole parts with
  | some a => pure a
  | .none =>
    let missing := (shape.fields.find? fun f => !f.isSet parts).elim "" Field.name
    fail (.misfit (.missing missing))

/-- Whether another member follows; the comma in front and the quote of its key are passed. -/
def nextKey (first : Bool) : Reader Bool := do
  blanks
  match ← peek with
  | .none => failPast .endInObject
  | some b =>
    if b = 0x7D then pure false
    else if first then
      if b = 0x22 then do pass; pure true else failPast .keyNoString
    else if b = 0x2C then
      pass
      blanks
      match ← peek with
      | .none => failPast .endInValue
      | some c =>
        if c = 0x22 then do pass; pure true
        else if c = 0x7D then failPast .trailingComma
        else failPast .keyNoString
    else failPast .expectedCommaOrBrace

/-- The colon between a key and its value. -/
def colon : Reader Unit := do
  blanks
  match ← peek with
  | .none => failPast .endInObject
  | some b => if b = 0x3A then pass else failPast .expectedColon

/-- A field that stands twice is reported behind its key, or behind the brace that closes the
object right there. -/
def repeated (name : String) : Reader σ := do
  blanks
  if (← peek) = some 0x7D then pass
  fail (.misfit (.duplicate name))

/-- The members of an object, up to its closing brace. -/
def readMembers (fields : List (Field σ)) : (fuel : Nat) → (first : Bool) → σ → Reader σ
  | 0, _, _ => failPast .endInObject
  | fuel + 1, first, parts => do
    if ← nextKey first then
      let key ← readString
      match fields.find? fun f => f.name == key with
      | some f =>
        if f.isSet parts then repeated f.name
        else
          colon
          let parts ← f.read parts
          readMembers fields fuel false parts
      | .none =>
        colon
        skipValue
        readMembers fields fuel false parts
    else pure parts

/-- The fields as elements of a list, up to its closing bracket. -/
def readRow (expected : String) : List (Field σ) → (taken : Nat) → σ → Reader σ
  | [], _, parts => pure parts
  | f :: fs, taken, parts => do
    if ← nextElement (taken == 0) then
      let parts ← f.read parts
      readRow expected fs (taken + 1) parts
    else
      endList
      fail (.misfit (.wrongLength taken expected))

/-- What a shape is called in messages. -/
def title (shape : Shape σ α) : String := "struct " ++ shape.name

/-- What is expected of a list in place of the object. -/
def rowTitle (shape : Shape σ α) : String :=
  shape.title ++ " with " ++ toString shape.fields.length ++ " elements"

/-- Reads an object of the shape. -/
def read (shape : Shape σ α) : Reader α := do
  let b ← firstByte
  if b = 0x7B then
    pass
    let parts ← readMembers shape.fields ((← get).length + 1) true shape.none
    pass
    shape.finish parts
  else if b = 0x5B then
    pass
    let parts ← readRow shape.rowTitle shape.fields 0 shape.none
    endList
    shape.finish parts
  else misfit shape.title

end Shape

end StarSurvey.Json
