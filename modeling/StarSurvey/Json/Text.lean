import StarSurvey.Json.Reader

/-!
# Strings

`readString` takes a string behind its opening quote: the bytes as they stand, escapes replaced, and
the whole must be UTF-8. `skipContents` passes a string that nobody asked for: escapes must be
well-formed, but surrogates need no partner and the bytes need not be UTF-8.
-/

namespace StarSurvey.Json

/-- The value of a hexadecimal digit in any case. -/
def hexDigit? (b : UInt8) : Option Nat :=
  if isDigit b then some (b.toNat - 0x30)
  else if 0x41 ≤ b ∧ b ≤ 0x46 then some (b.toNat - 0x41 + 10)
  else if 0x61 ≤ b ∧ b ≤ 0x66 then some (b.toNat - 0x61 + 10)
  else none

/-- The value of a row of hexadecimal digits. -/
def hexValue? (bs : List UInt8) : Option Nat :=
  bs.foldl (fun n b => do return 16 * (← n) + (← hexDigit? b)) (some 0)

/-- The four digits of a `\u` escape. -/
def readHex : Reader Nat := fun bs =>
  match bs with
  | a :: b :: c :: d :: rest =>
    match hexValue? [a, b, c, d] with
    | some n => .ok (n, rest)
    | none => .error ⟨.invalidEscape, rest.length⟩
  | _ => .error ⟨.endInString, 0⟩

def isLeadingSurrogate (n : Nat) : Bool := 0xD800 ≤ n && n < 0xDC00

def isTrailingSurrogate (n : Nat) : Bool := 0xDC00 ≤ n && n < 0xE000

/-- The character of a pair of surrogates. -/
def ofSurrogates (lead trail : Nat) : Char :=
  Char.ofNat ((lead - 0xD800) * 0x400 + (trail - 0xDC00) + 0x10000)

/-- A byte that has to follow the first half of a pair. -/
def pairMark (mark : UInt8) : Reader Unit := do
  match ← next with
  | none => fail .endInString
  | some b => if b = mark then pure () else fail .unpairedEscape

/-- The character of a `\u` escape, which may take a second one as its partner. -/
def readUnicode : Reader Char := do
  let n ← readHex
  if isTrailingSurrogate n then fail .loneSurrogate
  else if isLeadingSurrogate n then
    pairMark 0x5C
    pairMark 0x75
    let m ← readHex
    if isTrailingSurrogate m then pure (ofSurrogates n m) else fail .loneSurrogate
  else pure (Char.ofNat n)

/-- The character that a one-letter escape stands for. -/
def shortEscape? (b : UInt8) : Option Char :=
  if b = 0x22 then some '"'
  else if b = 0x5C then some '\\'
  else if b = 0x2F then some '/'
  else if b = 0x62 then some '\x08'
  else if b = 0x66 then some '\x0c'
  else if b = 0x6E then some '\n'
  else if b = 0x72 then some '\r'
  else if b = 0x74 then some '\t'
  else none

/-- The character of an escape, behind the backslash. -/
def readEscape : Reader Char := do
  match ← next with
  | none => fail .endInString
  | some b =>
    if b = 0x75 then readUnicode
    else match shortEscape? b with
      | some c => pure c
      | none => fail .invalidEscape

/-- The bytes of a string up to and past its closing quote; no string is longer than `fuel`. -/
def readContents : (fuel : Nat) → Reader (List UInt8)
  | 0 => fail .endInString
  | fuel + 1 => do
    match ← next with
    | none => fail .endInString
    | some b =>
      if b = 0x22 then pure []
      else if b = 0x5C then
        let c ← readEscape
        let more ← readContents fuel
        pure (Text.charBytes c ++ more)
      else if b < 0x20 then fail .controlCharacter
      else
        let more ← readContents fuel
        pure (b :: more)

/-- A string behind its opening quote. Bytes that are not UTF-8 are noticed when the string is
complete, and placed by counting back from its end to the first of them. -/
def readString : Reader String := do
  let bs ← readContents ((← get).length + 1)
  match Text.ofBytes? bs with
  | some s => pure s
  | none => fun rest => .error ⟨.invalidCodePoint, rest.length + (bs.length - Text.validLength bs)⟩

/-- Passes an escape, behind the backslash. -/
def skipEscape : Reader Unit := do
  match ← next with
  | none => fail .endInString
  | some b =>
    if b = 0x75 then discard readHex
    else if (shortEscape? b).isSome then pure ()
    else fail .invalidEscape

/-- Passes the bytes of a string and its closing quote; no string is longer than `fuel`. -/
def skipContents : (fuel : Nat) → Reader Unit
  | 0 => fail .endInString
  | fuel + 1 => do
    match ← peek with
    | none => fail .endInString
    | some b =>
      if b = 0x22 then pass
      else if b = 0x5C then
        pass
        skipEscape
        skipContents fuel
      else if b < 0x20 then fail .controlCharacter
      else
        pass
        skipContents fuel

end StarSurvey.Json
