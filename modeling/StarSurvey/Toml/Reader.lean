import StarSurvey.Calendar.Date
import StarSurvey.Decimal.Nearest
import StarSurvey.Toml.Table

/-!
# Reading TOML 1.0

A document is read line by line into statements. Nothing is said about why a text is not TOML, so
the readers answer with an option.
-/

namespace StarSurvey.Toml

/-- Reads from the front of a text and leaves the rest. -/
abbrev Reader := StateT (List Char) Option

/-- The next character, left in place. -/
def peek : Reader (Option Char) := fun cs => some (cs.head?, cs)

/-- The next character, taken. -/
def next : Reader Char := fun cs =>
  match cs with
  | [] => none
  | c :: rest => some (c, rest)

/-- Characters that have to follow. -/
def exactly (mark : List Char) : Reader Unit := fun cs =>
  if mark.isPrefixOf cs then some ((), cs.drop mark.length) else none

/-- Whether some characters follow; if so they are passed. -/
def accept (mark : List Char) : Reader Bool := fun cs =>
  if mark.isPrefixOf cs then some (true, cs.drop mark.length) else some (false, cs)

/-- All characters of a class that follow. -/
def takeAll (p : Char → Bool) : Reader (List Char) := fun cs =>
  some (cs.takeWhile p, cs.dropWhile p)

/-- The first reader that succeeds. -/
def oneOf {α : Type} (r s : Reader α) : Reader α := fun cs => (r cs).orElse fun _ => s cs

/-! ## Blanks, comments and ends of line -/

/-- A space or a tab. -/
def isBlank (c : Char) : Bool := c == ' ' || c == '\t'

/-- A character of a comment or of a string: no control other than the tab. -/
def isText (c : Char) : Bool := c == '\t' || (0x20 ≤ c.toNat && c.toNat != 0x7F)

/-- Passes spaces and tabs. -/
def blanks : Reader Unit := discard (takeAll isBlank)

def newLine : Reader Unit := do if ← accept ['\n'] then pure () else exactly ['\r', '\n']

/-- An end of line or of the text. -/
def lineEnd : Reader Unit := do if (← peek).isNone then pure () else newLine

/-- A comment, if one begins here. -/
def comment : Reader Unit := do if ← accept ['#'] then discard (takeAll isText)

/-- What may stand behind a header or a value: blanks, a comment, the end of the line. -/
def endOfStatement : Reader Unit := do
  blanks
  comment
  lineEnd

/-- Passes blanks, comments and ends of line between the elements of a list. -/
def gaps : (fuel : Nat) → Reader Unit
  | 0 => pure ()
  | fuel + 1 => do
    blanks
    match ← peek with
    | some '#' => do comment; newLine; gaps fuel
    | some '\n' | some '\r' => do newLine; gaps fuel
    | _ => pure ()

/-- Passes all gaps that follow. -/
def gap : Reader Unit := do gaps ((← get).length + 1)

/-! ## Strings -/

/-- The value of a row of digits in a base, if they are such digits. -/
def valueInBase? (base : Nat) (ds : List Char) : Option Nat :=
  ds.foldl (fun n d => do
    let v ←
      if d.isDigit then some (d.toNat - 48)
      else if 'a' ≤ d ∧ d ≤ 'f' then some (d.toNat - 87)
      else if 'A' ≤ d ∧ d ≤ 'F' then some (d.toNat - 55)
      else none
    if v < base then return base * (← n) + v else none) (some 0)

/-- The character of an escape with so many hexadecimal digits. -/
def codePoint (digits : Nat) : Reader Char := fun cs => do
  guard (digits ≤ cs.length)
  let n ← valueInBase? 16 (cs.take digits)
  guard n.isValidChar
  return (Char.ofNat n, cs.drop digits)

def escape : Reader Char := do
  match ← next with
  | 'b' => pure '\x08'
  | 't' => pure '\t'
  | 'n' => pure '\n'
  | 'f' => pure '\x0c'
  | 'r' => pure '\r'
  | '"' => pure '"'
  | '\\' => pure '\\'
  | 'u' => codePoint 4
  | 'U' => codePoint 8
  | _ => failure

/-- The characters of a string in double quotes, to its end. -/
def basicString : (fuel : Nat) → Reader (List Char)
  | 0 => failure
  | fuel + 1 => do
    let c ← next
    if c = '"' then pure []
    else if c = '\\' then return (← escape) :: (← basicString fuel)
    else if isText c then return c :: (← basicString fuel)
    else failure

/-- The characters of a string in single quotes, to its end. -/
def literalString : (fuel : Nat) → Reader (List Char)
  | 0 => failure
  | fuel + 1 => do
    let c ← next
    if c = '\'' then pure []
    else if isText c then return c :: (← literalString fuel)
    else failure

/-- The end of a string in triple quotes, behind the first three of them: up to two more quotes
belong to the string. -/
def extraQuotes (quote : Char) : Reader (List Char) := do
  if ← accept [quote, quote] then pure [quote, quote]
  else if ← accept [quote] then pure [quote]
  else pure []

/-- Passes the blanks and line breaks behind a line break that a backslash hides. -/
def hiddenBreaks : (fuel : Nat) → Reader Unit
  | 0 => pure ()
  | fuel + 1 => do
    blanks
    match ← peek with
    | some '\n' => do newLine; hiddenBreaks fuel
    | some '\r' => oneOf (do newLine; hiddenBreaks fuel) (pure ())
    | _ => pure ()

/-- The characters of a string in three double quotes, to its end. -/
def longBasicString : (fuel : Nat) → Reader (List Char)
  | 0 => failure
  | fuel + 1 => do
    if ← accept ['"', '"', '"'] then extraQuotes '"'
    else
      let c ← next
      if c = '\\' then
        match ← peek with
        | some ' ' | some '\t' | some '\n' | some '\r' => do
          blanks
          newLine
          hiddenBreaks ((← get).length + 1)
          longBasicString fuel
        | _ => return (← escape) :: (← longBasicString fuel)
      else if c = '\n' then return '\n' :: (← longBasicString fuel)
      else if c = '\r' then do
        exactly ['\n']
        return '\n' :: (← longBasicString fuel)
      else if isText c then return c :: (← longBasicString fuel)
      else failure

/-- The characters of a string in three single quotes, to its end. -/
def longLiteralString : (fuel : Nat) → Reader (List Char)
  | 0 => failure
  | fuel + 1 => do
    if ← accept ['\'', '\'', '\''] then extraQuotes '\''
    else
      let c ← next
      if c = '\n' then return '\n' :: (← longLiteralString fuel)
      else if c = '\r' then do
        exactly ['\n']
        return '\n' :: (← longLiteralString fuel)
      else if isText c then return c :: (← longLiteralString fuel)
      else failure

/-- A line break right behind the opening quotes does not belong to the string. -/
def firstBreak : Reader Unit := do
  match ← peek with
  | some '\n' | some '\r' => newLine
  | _ => pure ()

/-- The characters of a string with some kind of quotes, from the opening quote on. -/
def stringChars : Reader (List Char) := do
  let fuel := (← get).length + 1
  if ← accept ['"', '"', '"'] then
    firstBreak
    longBasicString fuel
  else if ← accept ['"'] then basicString fuel
  else if ← accept ['\'', '\'', '\''] then
    firstBreak
    longLiteralString fuel
  else
    exactly ['\'']
    literalString fuel

/-- A string with some kind of quotes. -/
def string : Reader String := String.ofList <$> stringChars

/-! ## Keys -/

/-- A character of a bare key. -/
def isBare (c : Char) : Bool := c.isAlphanum || c == '-' || c == '_'

/-- One part of a key: bare, or a string on one line. -/
def keyPart : Reader String := do
  match ← peek with
  | some '"' => do
    let fuel := (← get).length
    discard next
    String.ofList <$> basicString fuel
  | some '\'' => do
    let fuel := (← get).length
    discard next
    String.ofList <$> literalString fuel
  | _ => do
    let cs ← takeAll isBare
    if cs.isEmpty then failure else pure (String.ofList cs)

/-- How deep keys and values may be nested. -/
def maxDepth : Nat := 80

/-- The parts of a key with dots between them. -/
def keyParts : (fuel : Nat) → Reader (List String)
  | 0 => failure
  | fuel + 1 => do
    blanks
    let part ← keyPart
    blanks
    if ← accept ['.'] then return part :: (← keyParts fuel) else pure [part]

/-- A key: the parts on the way, and the last one. -/
def key : Reader (List String × String) := do
  let parts ← keyParts ((← get).length + 1)
  match parts.getLast? with
  | some last => if parts.length < maxDepth then pure (parts.dropLast, last) else failure
  | none => failure

/-! ## Numbers and times -/

/-- Digits, with single underscores between them. -/
def digitGroups (isDigit : Char → Bool) : (fuel : Nat) → Reader (List Char)
  | 0 => failure
  | fuel + 1 => do
    let ds ← takeAll isDigit
    if ds.isEmpty then failure
    else if ← accept ['_'] then return ds ++ (← digitGroups isDigit fuel)
    else pure ds

/-- Decimal digits with underscores between them, zeros in front allowed. -/
def digits : Reader (List Char) := do digitGroups Char.isDigit ((← get).length + 1)

def sign : Reader Bool := do
  if ← accept ['-'] then pure true
  else do discard (accept ['+']); pure false

/-- Whole digits without a zero in front. -/
def wholeDigits : Reader (List Char) := do
  if ← accept ['0'] then pure ['0'] else digits

/-- An integer of 64 bits from its sign and magnitude. -/
def integerOf (negative : Bool) (magnitude : Nat) : Option Value :=
  if negative then (if magnitude ≤ 0x8000000000000000 then some (.integer (-(magnitude : Int))) else none)
  else if magnitude < 0x8000000000000000 then some (.integer magnitude)
  else none

/-- An integer in base 16, 8 or 2. -/
def basedInteger (base : Nat) : Reader Value := do
  let ds ← digitGroups (fun c => (valueInBase? base [c]).isSome) ((← get).length + 1)
  integerOf false ((valueInBase? base ds).getD 0)

def integer : Reader Value := do
  if ← accept ['0', 'x'] then basedInteger 16
  else if ← accept ['0', 'o'] then basedInteger 8
  else if ← accept ['0', 'b'] then basedInteger 2
  else
    let negative ← sign
    let ds ← wholeDigits
    integerOf negative ((valueInBase? 10 ds).getD 0)

/-- An exponent behind an `e`, if there is one. -/
def exponent : Reader (Option Int) := do
  let e ← peek
  if e = some 'e' ∨ e = some 'E' then
    discard next
    let negative ← sign
    let n : Int := (valueInBase? 10 (← digits)).getD 0
    pure (some (if negative then -n else n))
  else pure none

/-- The words for the numbers that are not finite. -/
def specialFloat : Reader Value := do
  let negative ← sign
  let x : Float ← if ← accept ['i', 'n', 'f'] then pure (1 / 0) else do
    exactly ['n', 'a', 'n']
    pure (0 / 0)
  pure (.float (if negative then -x else x))

/-- A float with a point or an exponent or both. Too large a positive number is refused. -/
def decimalFloat : Reader Value := do
  let negative ← sign
  let whole ← wholeDigits
  let point ← accept ['.']
  let fraction ← if point then digits else pure []
  let e ← exponent
  if !point && e.isNone then failure
  let m := (valueInBase? 10 (whole ++ fraction)).getD 0
  let x := Decimal.nearest m (e.getD 0 - (fraction.length : Int))
  if negative then pure (.float (-x)) else if x.isInf then failure else pure (.float x)

/-- A number of exactly so many digits between two bounds. -/
def field (width low high : Nat) : Reader Nat := fun cs => do
  let ds := cs.take width
  guard (ds.length = width && ds.all Char.isDigit)
  let n ← valueInBase? 10 ds
  guard (low ≤ n && n ≤ high)
  return (n, cs.drop width)

/-- A date that exists. -/
def date : Reader Unit := do
  let y ← field 4 0 9999
  exactly ['-']
  let m ← field 2 1 12
  exactly ['-']
  let d ← field 2 1 31
  if d ≤ Calendar.daysInMonth y m then pure () else failure

/-- A time of day, to the second or finer. -/
def timeOfDay : Reader Unit := do
  discard (field 2 0 23)
  exactly [':']
  discard (field 2 0 59)
  exactly [':']
  discard (field 2 0 60)
  if ← accept ['.'] then
    if (← takeAll Char.isDigit).isEmpty then failure

def offset : Reader Unit := do
  match ← next with
  | 'Z' | 'z' => pure ()
  | '+' | '-' => do
    discard (field 2 0 23)
    exactly [':']
    discard (field 2 0 59)
  | _ => failure

/-- The time behind a date, if there is one, with or without an offset. -/
def timeBehindDate : Reader Unit := do
  let c ← next
  if c = 'T' ∨ c = 't' ∨ c = ' ' then
    timeOfDay
    match ← peek with
    | some '+' | some '-' | some 'Z' | some 'z' => offset
    | _ => pure ()
  else failure

/-- A date, a time, or both. -/
def time : Reader Value := do
  oneOf (do date; oneOf timeBehindDate (pure ())) timeOfDay
  pure .time

/-- A time or a number. -/
def number : Reader Value := oneOf time (oneOf decimalFloat (oneOf specialFloat integer))

/-! ## Values -/

/-- Assignments in braces make a table of their own. -/
def tableInBraces (pairs : List ((List String × String) × Value)) : Option Value :=
  (pairs.foldlM (fun es p => assign p.1.1 p.1.2 p.2 es) []).map (.table .closed)

mutual

/-- A value that may still be nested so deep; `fuel` bounds the elements of a list. -/
def value : (depth : Nat) → (fuel : Nat) → Reader Value
  | 0, _ => failure
  | _, 0 => failure
  | depth + 1, fuel + 1 => do
    match ← peek with
    | some '"' | some '\'' => .string <$> string
    | some 't' => do exactly "true".toList; pure (.boolean true)
    | some 'f' => do exactly "false".toList; pure (.boolean false)
    | some '[' => do
      if depth = 0 then failure
      discard next
      .list <$> elements depth fuel
    | some '\x7b' => do
      if depth = 0 then failure
      discard next
      blanks
      if ← accept ['\x7d'] then pure (.table .closed [])
      else
        let pairs ← assignments depth fuel
        tableInBraces pairs
    | _ => number

/-- The elements of a list and its closing bracket; a comma may stand behind the last. -/
def elements : (depth : Nat) → (fuel : Nat) → Reader (List Value)
  | _, 0 => failure
  | depth, fuel + 1 => do
    gap
    if ← accept [']'] then pure []
    else
      let v ← value depth fuel
      gap
      if ← accept [','] then return v :: (← elements depth fuel)
      else do
        exactly [']']
        pure [v]

/-- The assignments in braces and the closing brace, all on one line. -/
def assignments : (depth : Nat) → (fuel : Nat) → Reader (List ((List String × String) × Value))
  | _, 0 => failure
  | depth, fuel + 1 => do
    let k ← key
    exactly ['=']
    blanks
    let v ← value depth fuel
    blanks
    if ← accept [','] then return (k, v) :: (← assignments depth fuel)
    else do
      exactly ['\x7d']
      pure [(k, v)]

end

/-! ## Documents -/

/-- A statement and the end of its line. -/
def statement : Reader Statement := do
  if ← accept ['[', '['] then
    let (path, last) ← key
    exactly [']', ']']
    endOfStatement
    pure (.arrayHeader path last)
  else if ← accept ['['] then
    let (path, last) ← key
    exactly [']']
    endOfStatement
    pure (.header path last)
  else
    let (path, last) ← key
    exactly ['=']
    blanks
    let v ← value maxDepth (2 * (← get).length + 2)
    endOfStatement
    pure (.assign path last v)

/-- The statements up to the end of the text; empty lines and comments stand between them. -/
def statements : (fuel : Nat) → Reader (List Statement)
  | 0 => failure
  | fuel + 1 => do
    blanks
    match ← peek with
    | none => pure []
    | some '#' => do comment; lineEnd; statements fuel
    | some '\n' | some '\r' => do newLine; statements fuel
    | _ => return (← statement) :: (← statements fuel)

/-- The root table of a document. A byte order mark in front is passed. -/
def Entries.ofText? (s : String) : Option Entries := do
  let cs := match s.toList with
    | '\ufeff' :: rest => rest
    | cs => cs
  let ss ← (statements (cs.length + 1)).run' cs
  Entries.ofStatements? ss

end StarSurvey.Toml
