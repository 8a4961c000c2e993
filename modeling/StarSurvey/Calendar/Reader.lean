import StarSurvey.Calendar.Instant
import StarSurvey.Text.Blank

/-!
# Reading a timestamp

A timestamp is a date, one of `T`, `t` and a space, a time of day and an offset from UTC. Blanks may
stand around the numbers. A number is checked as soon as it is read; whether the day exists in its
month, and whether the instant is covered, is checked at the end.
-/

namespace StarSurvey.Calendar

/-- Why a text is no timestamp. -/
inductive Fault where
  /-- The text ends too early. -/
  | tooShort
  /-- A character that cannot stand where it does. -/
  | invalid
  /-- A number that no month, day, hour, minute, second, year or offset has. -/
  | outOfRange
  /-- The text goes on behind the offset. -/
  | trailing
  /-- The local time exists, but not the instant in UTC. -/
  | impossible
  deriving DecidableEq, Repr

def Fault.message : Fault → String
  | .tooShort => "premature end of input"
  | .invalid => "input contains invalid characters"
  | .outOfRange => "input is out of range"
  | .trailing => "trailing input"
  | .impossible => "no possible date and time matching input"

/-- Reads from the front of a text and leaves the rest. -/
abbrev Reader := StateT (List Char) (Except Fault)

def digitsValue (ds : List Char) : Nat := ds.foldl (fun n d => 10 * n + (d.toNat - 48)) 0

/-- A number of one to `width` digits. -/
def readNumber (width : Nat) : Reader Nat := fun cs =>
  match cs with
  | [] => .error .tooShort
  | c :: _ =>
    if c.isDigit then
      let ds := (cs.take width).takeWhile Char.isDigit
      .ok (digitsValue ds, cs.drop ds.length)
    else .error .invalid

def readLongNumber : Reader Nat := fun cs => readNumber cs.length cs

def skipBlanks : Reader Unit := modify Text.trimStart

/-- A number of at most two digits between two bounds, blanks in front skipped. -/
def readBetween (low high : Nat) : Reader Nat := do
  skipBlanks
  let n ← readNumber 2
  if low ≤ n ∧ n ≤ high then pure n else throw .outOfRange

/-- One character of which a condition holds. -/
def readChar (p : Char → Bool) : Reader Char := fun cs =>
  match cs with
  | [] => .error .tooShort
  | c :: rest => if p c then .ok (c, rest) else .error .invalid

/-- One given character, blanks in front skipped. -/
def readMark (mark : Char) : Reader Unit := do
  skipBlanks
  discard <| readChar (· == mark)

/-- The digits of a year with their sign: any number of them behind a sign, else up to four. -/
def readSignedYear : Reader Int := fun cs =>
  match cs with
  | '-' :: rest => (fun n : Nat => -(n : Int)) <$> readLongNumber |>.run rest
  | '+' :: rest => (fun n : Nat => (n : Int)) <$> readLongNumber |>.run rest
  | _ => (fun n : Nat => (n : Int)) <$> readNumber 4 |>.run cs

/-- A year of 32 bits. -/
def readYear : Reader Int := do
  skipBlanks
  let y ← readSignedYear
  if -0x80000000 ≤ y ∧ y < 0x80000000 then pure y else throw .outOfRange

def readDate : Reader Date := do
  let year ← readYear
  readMark '-'
  let month ← readBetween 1 12
  readMark '-'
  let day ← readBetween 1 31
  pure ⟨year, month, day⟩

/-- The one character between date and time. -/
def readSeparator : Reader Unit := discard <| readChar fun c => c == 'T' || c == 't' || c == ' '

/-- A fraction in nanoseconds, if a point follows; digits behind the ninth are dropped. -/
def readFraction : Reader Nat := fun cs =>
  match cs with
  | '.' :: more => do
    let (n, rest) ← readNumber 9 more
    .ok (n * Nat.pow 10 (9 - (more.length - rest.length)), rest.dropWhile Char.isDigit)
  | _ => .ok (0, cs)

structure TimeOfDay where
  hour : Nat
  minute : Nat
  second : Nat
  nano : Nat
  deriving DecidableEq, Repr

/-- A time `hour:minute:second` with an optional fraction. -/
def readTime : Reader TimeOfDay := do
  let hour ← readBetween 0 23
  readMark ':'
  let minute ← readBetween 0 59
  readMark ':'
  let second ← readBetween 0 60
  let nano ← readFraction
  pure ⟨hour, minute, second, nano⟩

/-- Two digits. They are looked for by bytes: the text is too short below two bytes. -/
def readTwoDigits : Reader (Nat × Nat) := fun cs =>
  match cs with
  | [] => .error .tooShort
  | [c] => if c.toNat < 128 then .error .tooShort else .error .invalid
  | c :: d :: rest =>
    if c.isDigit && d.isDigit then .ok ((c.toNat - 48, d.toNat - 48), rest) else .error .invalid

/-- A signed offset `hh:mm` in minutes; the colon may be missing or stand among blanks, and the sign
may be the mathematical minus. -/
def readSignedOffset : Reader Int := do
  let sign ← readChar fun c => c == '+' || c == '-' || c == '\u2212'
  let (h₁, h₂) ← readTwoDigits
  modify (List.dropWhile fun c => c == ':' || Text.isBlank c)
  let (m₁, m₂) ← readTwoDigits
  let minutes : Int := (10 * h₁ + h₂) * 60 + (10 * m₁ + m₂)
  if 6 ≤ m₁ then throw .outOfRange else pure (if sign == '+' then minutes else -minutes)

/-- An offset from UTC in minutes: `UTC` or `Z` in any case, or a signed one. -/
def readOffset : Reader Int := fun cs =>
  match cs with
  | u :: t :: c :: rest =>
    if u.toUpper = 'U' ∧ t.toUpper = 'T' ∧ c.toUpper = 'C' then .ok (0, rest)
    else if u = 'Z' ∨ u = 'z' then .ok (0, t :: c :: rest)
    else readSignedOffset cs
  | u :: rest => if u = 'Z' ∨ u = 'z' then .ok (0, rest) else readSignedOffset cs
  | [] => readSignedOffset cs

/-- The instant of a local date and time at an offset from UTC in minutes. -/
def Instant.ofLocal (d : Date) (t : TimeOfDay) (offset : Int) : Except Fault Instant :=
  if d.Valid ∧ -262143 ≤ d.year ∧ d.year ≤ 262142 ∧ offset.natAbs < 1440 then
    let minute := minuteOfDay d + t.hour * 60 + t.minute - offset
    if h : (firstMinute ≤ minute ∧ minute ≤ lastMinute) ∧ t.second ≤ 60 ∧ t.nano < 1000000000 then
      .ok ⟨minute, t.second, t.nano, h.1, h.2.1, h.2.2⟩
    else .error .impossible
  else .error .outOfRange

def readInstant : Reader Instant := do
  let date ← readDate
  readSeparator
  let time ← readTime
  skipBlanks
  let offset ← readOffset
  skipBlanks
  if (← get).isEmpty then Instant.ofLocal date time offset else throw .trailing

def Instant.ofText (s : String) : Except Fault Instant := readInstant.run' s.toList

end StarSurvey.Calendar
