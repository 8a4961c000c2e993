import StarSurvey.Json.Fault
import StarSurvey.Text.Utf8

/-!
# Reading JSON byte by byte

The steps that all JSON readers are made of. A fault is raised either at the reader's place or just
past the byte that is in the way, which makes a difference of one column.
-/

namespace StarSurvey.Json

/-- Reads from the front of the bytes and leaves the rest. -/
abbrev Reader := StateT (List UInt8) (Except Fault)

/-- A fault at the reader's place. -/
def fail {α : Type} (c : Cause) : Reader α := fun bs => .error ⟨c, bs.length⟩

/-- A fault that counts the next byte as read, if there is one. -/
def failPast {α : Type} (c : Cause) : Reader α := fun bs => .error ⟨c, bs.length - 1⟩

/-- The next byte, left in place. -/
def peek : Reader (Option UInt8) := fun bs => .ok (bs.head?, bs)

/-- The next byte, taken. -/
def next : Reader (Option UInt8) := fun bs => .ok (bs.head?, bs.tail)

def pass : Reader Unit := modify List.tail

/-- A space, a tab or an end of line. -/
def isBlank (b : UInt8) : Bool := b == 0x20 || b == 0x0A || b == 0x09 || b == 0x0D

def isDigit (b : UInt8) : Bool := 0x30 ≤ b && b ≤ 0x39

def blanks : Reader Unit := modify (List.dropWhile isBlank)

/-- The rest of a word such as `true`, byte by byte. -/
def word : List UInt8 → Reader Unit
  | [] => pure ()
  | w :: ws => do
    match ← next with
    | none => fail .endInValue
    | some b => if b = w then word ws else fail .expectedWord

/-- Reads a whole text: nothing but blanks may follow the value. -/
def decode {α : Type} (r : Reader α) (text : List UInt8) : Except Error α :=
  let whole : Reader α := do
    let a ← r
    blanks
    if (← peek).isSome then failPast .trailingCharacters else pure a
  match whole text with
  | .ok (a, _) => .ok a
  | .error f => .error (f.locate text)

end StarSurvey.Json
