import StarSurvey.Json.Shape
import StarSurvey.Json.Value

/-!
# Reading any JSON value

`Value.ofBytes` reads a whole document. Objects come out sorted by key, the last of equal keys
winning.
-/

namespace StarSurvey.Json

/-- Sets a key in members that are sorted by key. -/
def insertMember {α : Type} (k : String) (v : α) : List (String × α) → List (String × α)
  | [] => [(k, v)]
  | (k', v') :: ms =>
    if k = k' then (k, v) :: ms
    else if k < k' then (k, v) :: (k', v') :: ms
    else (k', v') :: insertMember k v ms

def lookupMember {α : Type} (k : String) (ms : List (String × α)) : Option α :=
  (ms.find? fun m => m.1 == k).map Prod.snd

def eraseMember {α : Type} (k : String) (ms : List (String × α)) : List (String × α) :=
  ms.filter fun m => m.1 != k

mutual

/-- Any value; every call goes past a byte before it comes round, so `fuel` is the length. -/
def readValueWith : (fuel : Nat) → Reader Value
  | 0 => failPast .endInValue
  | fuel + 1 => do
    let b ← firstByte
    if b = 0x6E then do pass; word [0x75, 0x6C, 0x6C]; pure .null
    else if b = 0x74 then do pass; word [0x72, 0x75, 0x65]; pure (.boolean true)
    else if b = 0x66 then do pass; word [0x61, 0x6C, 0x73, 0x65]; pure (.boolean false)
    else if b = 0x2D ∨ isDigit b then Value.number <$> readNumber
    else if b = 0x22 then do pass; Value.string <$> readString
    else if b = 0x5B then do
      pass
      let vs ← readElementsWith fuel true
      endList
      pure (.list vs)
    else if b = 0x7B then do
      pass
      let ms ← readMembersWith fuel true []
      pass
      pure (.object ms)
    else failPast .expectedValue

def readElementsWith : (fuel : Nat) → (first : Bool) → Reader (List Value)
  | 0, _ => failPast .endInList
  | fuel + 1, first => do
    if ← nextElement first then
      let v ← readValueWith fuel
      let more ← readElementsWith fuel false
      pure (v :: more)
    else pure []

/-- The members of an object, put among those already read. -/
def readMembersWith : (fuel : Nat) → (first : Bool) → List (String × Value) →
    Reader (List (String × Value))
  | 0, _, _ => failPast .endInObject
  | fuel + 1, first, ms => do
    if ← Shape.nextKey first then
      let k ← readString
      Shape.colon
      let v ← readValueWith fuel
      readMembersWith fuel false (insertMember k v ms)
    else pure ms

end

def readValue : Reader Value := do readValueWith (2 * (← get).length + 2)

/-- The value that a document is. -/
def Value.ofBytes (text : List UInt8) : Except Error Value := decode readValue text

end StarSurvey.Json
