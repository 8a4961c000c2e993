import StarSurvey.Json.Numeral
import StarSurvey.Text.Utf8

/-!
# JSON values and their text

A value is written compactly, without any blank, or indented by two spaces a level. Strings spell
out quotes, backslashes and controls only. Numbers that are not finite are written `null`.
-/

namespace StarSurvey.Json

/-- A JSON value. Objects keep their members in order. -/
inductive Value where
  | null
  | boolean (b : Bool)
  | number (n : Number)
  | string (s : String)
  | list (vs : List Value)
  | object (ms : List (String × Value))

namespace Value

def float (x : Float) : Value := .number (.float x)

def count (n : Nat) : Value := .number (.integer n)

end Value

/-- One character as it stands in a string. -/
def escapeChar (c : Char) : List Char :=
  if c = '"' then ['\\', '"']
  else if c = '\\' then ['\\', '\\']
  else if c = '\x08' then ['\\', 'b']
  else if c = '\x0c' then ['\\', 'f']
  else if c = '\n' then ['\\', 'n']
  else if c = '\r' then ['\\', 'r']
  else if c = '\t' then ['\\', 't']
  else if c.toNat < 0x20 then
    ['\\', 'u', '0', '0', Nat.digitChar (c.toNat / 16), Nat.digitChar (c.toNat % 16)]
  else [c]

/-- A string with its quotes. -/
def quote (s : String) : List Char := '"' :: s.toList.flatMap escapeChar ++ ['"']

/-- A number; what is not finite has no JSON number. -/
def Number.chars : Number → List Char
  | .integer n => (toString n).toList
  | .float x => if x.isFinite then (Decimal.Layout.data.text x).toList else "null".toList

/-- The end of a line and the indentation of the next. -/
def newLine (depth : Nat) : List Char := '\n' :: List.replicate (2 * depth) ' '

mutual

/-- The text without blanks. -/
def Value.compactChars : Value → List Char
  | .null => "null".toList
  | .boolean b => (if b then "true" else "false").toList
  | .number n => n.chars
  | .string s => quote s
  | .list vs => '[' :: compactElements vs ++ [']']
  | .object ms => '{' :: compactMembers ms ++ ['}']

def compactElements : List Value → List Char
  | [] => []
  | [v] => v.compactChars
  | v :: vs => v.compactChars ++ ',' :: compactElements vs

def compactMembers : List (String × Value) → List Char
  | [] => []
  | [(k, v)] => quote k ++ ':' :: v.compactChars
  | (k, v) :: ms => quote k ++ ':' :: v.compactChars ++ ',' :: compactMembers ms

end

mutual

/-- The indented text of a value that stands at a depth. -/
def Value.prettyChars (depth : Nat) : Value → List Char
  | .null => "null".toList
  | .boolean b => (if b then "true" else "false").toList
  | .number n => n.chars
  | .string s => quote s
  | .list [] => ['[', ']']
  | .list (v :: vs) => '[' :: prettyElements (depth + 1) (v :: vs) ++ newLine depth ++ [']']
  | .object [] => ['{', '}']
  | .object (m :: ms) => '{' :: prettyMembers (depth + 1) (m :: ms) ++ newLine depth ++ ['}']

/-- Elements, each on a line of its own. -/
def prettyElements (depth : Nat) : List Value → List Char
  | [] => []
  | [v] => newLine depth ++ v.prettyChars depth
  | v :: vs => newLine depth ++ v.prettyChars depth ++ ',' :: prettyElements depth vs

/-- Members, each on a line of its own. -/
def prettyMembers (depth : Nat) : List (String × Value) → List Char
  | [] => []
  | [(k, v)] => newLine depth ++ quote k ++ ':' :: ' ' :: v.prettyChars depth
  | (k, v) :: ms =>
    newLine depth ++ quote k ++ ':' :: ' ' :: v.prettyChars depth ++ ',' :: prettyMembers depth ms

end

/-- The text without blanks. -/
def Value.compact (v : Value) : String := String.ofList v.compactChars

/-- The text indented by two spaces a level. -/
def Value.pretty (v : Value) : String := String.ofList (v.prettyChars 0)

end StarSurvey.Json
