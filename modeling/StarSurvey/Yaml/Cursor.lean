/-!
# Places in a YAML text

A text is read as rows of characters. Ends of line of all kinds become line feeds first, but for the
two separators of Unicode, which stay what they are.
-/

namespace StarSurvey.Yaml

/-- A place in a text. Lines, columns and characters count from zero. -/
structure Mark where
  line : Nat
  column : Nat
  index : Nat
  deriving DecidableEq, Repr

namespace Mark

def start : Mark := ⟨0, 0, 0⟩

/-- The words that name a place. The beginning of a text is not named. -/
def place (m : Mark) : String :=
  if m.line = 0 ∧ m.column = 0 then ""
  else " at line " ++ toString (m.line + 1) ++ " column " ++ toString (m.column + 1)

end Mark

def isBreak (c : Char) : Bool := c == '\n' || c == '\u2028' || c == '\u2029'

/-- A space or a tab. -/
def isBlank (c : Char) : Bool := c == ' ' || c == '\t'

/-- A text ends, or pauses, before one of these. -/
def isGap (c : Char) : Bool := isBlank c || isBreak c

/-- A row that is at its end or at a gap. -/
def atGap (cs : List Char) : Bool := cs.head?.all isGap

/-- A row that is at its end or at the end of a line. -/
def atLineEnd (cs : List Char) : Bool := cs.head?.all isBreak

/-- A letter, a digit, a dash or an underscore of ASCII. -/
def isWordChar (c : Char) : Bool := c.isAlphanum || c == '-' || c == '_'

def Mark.after (m : Mark) (c : Char) : Mark :=
  if isBreak c then ⟨m.line + 1, 0, m.index + 1⟩ else ⟨m.line, m.column + 1, m.index + 1⟩

/-- A place, and what stands behind it. -/
structure Cursor where
  mark : Mark
  rest : List Char

namespace Cursor

/-- The place behind so many characters. -/
def skip (c : Cursor) : Nat → Cursor
  | 0 => c
  | n + 1 =>
    match c.rest with
    | [] => c
    | x :: xs => skip ⟨c.mark.after x, xs⟩ n

/-- The place at which the rest is a later one. -/
def upTo (c : Cursor) (rest : List Char) : Cursor := c.skip (c.rest.length - rest.length)

def column (c : Cursor) : Nat := c.mark.column

/-- A line that begins with these three characters alone. -/
def startsLine (c : Cursor) (mark : List Char) : Bool :=
  c.column == 0 && mark.isPrefixOf c.rest && atGap (c.rest.drop mark.length)

/-- A line that begins or ends a document. -/
def atDocumentMark (c : Cursor) : Bool := c.startsLine "---".toList || c.startsLine "...".toList

end Cursor

/-- Line feeds for the ends of line of all kinds. -/
def unifyBreaks : List Char → List Char
  | '\r' :: '\n' :: cs => '\n' :: unifyBreaks cs
  | c :: cs => (if c = '\r' ∨ c = '\u0085' then '\n' else c) :: unifyBreaks cs
  | [] => []

/-- A character that a text may hold as it stands: no control but tabs and ends of line, and no
character that is none. -/
def isAllowed (c : Char) : Bool :=
  let n := c.toNat
  n == 9 || n == 10 || n == 13 || n == 0x85 || (0x20 ≤ n && n ≤ 0x7E) ||
    (0xA0 ≤ n && n != 0xFFFE && n != 0xFFFF)

/-- The byte order mark, which may stand in front of a text. -/
def byteOrderMark : Char := '\ufeff'

/-- How many bytes stand in front of the first forbidden character, if there is one. -/
def forbiddenAt? (s : String) : Option Nat :=
  let cs := s.toList
  if cs.all isAllowed then none
  else some (String.ofList (cs.takeWhile isAllowed)).utf8ByteSize

def Cursor.ofText (s : String) : Cursor :=
  let cs := s.toList
  ⟨.start, unifyBreaks (if cs.head? = some byteOrderMark then cs.tail else cs)⟩

end StarSurvey.Yaml
