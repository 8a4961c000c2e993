import StarSurvey.Text.Digits
import StarSurvey.Yaml.Fault

/-!
# Scalars

The ways to write a text: plain, between single or double quotes, or as a block of lines. In all but
the literal block the ends of line are folded: a single one becomes a space, of several the first is
dropped.
-/

namespace StarSurvey.Yaml

/-- The ways to write a text. -/
inductive Style where
  | plain
  | singleQuoted
  | doubleQuoted
  | literal
  | folded
  deriving DecidableEq, Repr

/-! ## Gaps between words -/

/-- What stands between two words. -/
inductive Gap where
  | blanks (cs : List Char)
  /-- The first end of line, if one counts, and those behind it. -/
  | breaks (first more : List Char)

/-- The gap holds an end of line. -/
def Gap.isBroken : Gap → Bool
  | .blanks _ => false
  | .breaks .. => true

/-- What a gap stands for. -/
def Gap.folded : Gap → List Char
  | .blanks cs => cs
  | .breaks ['\n'] more => if more.isEmpty then [' '] else more
  | .breaks first more => first ++ more

/-- The gap with an end of line more. -/
def Gap.addBreak (c : Char) : Gap → Gap
  | .blanks _ => .breaks [c] []
  | .breaks first more => .breaks first (more ++ [c])

/-- Passes a gap. On a new line no tab may stand in front of the column of the contents. -/
def readGap (indent : Nat) (g : Gap) (m : Mark) : List Char → Except Stop (Gap × Cursor)
  | [] => .ok (g, ⟨m, []⟩)
  | c :: cs =>
    if isBreak c then readGap indent (g.addBreak c) (m.after c) cs
    else if isBlank c then
      match g with
      | .blanks bs => readGap indent (.blanks (bs ++ [c])) (m.after c) cs
      | .breaks .. =>
        if c = '\t' ∧ m.column < indent then .error ⟨.tabInPlain, some .plain, c :: cs⟩
        else readGap indent g (m.after c) cs
    else .ok (g, ⟨m, c :: cs⟩)

/-! ## Plain scalars -/

/-- The brackets and commas of collections that are written in one line. -/
def isFlowMark (c : Char) : Bool := c ∈ [',', '[', ']', '\x7b', '\x7d']

/-- A word of a plain scalar, and the rest. -/
def plainWord (flow : Bool) : List Char → Except Stop (List Char × List Char)
  | [] => .ok ([], [])
  | c :: cs =>
    if isGap c ∨ (c = ':' ∧ atGap cs) ∨ (flow ∧ isFlowMark c) then .ok ([], c :: cs)
    else if flow ∧ c = ':' ∧ cs.head?.any (fun d => isFlowMark d || d == '?') then
      .error ⟨.strayColon, some .plain, c :: cs⟩
    else (plainWord flow cs).map fun (word, rest) => (c :: word, rest)

/-- A plain scalar that was read. -/
structure Plain where
  text : List Char
  /-- The place behind it and the gap that follows. -/
  behind : Cursor
  /-- The gap that follows holds an end of line. -/
  isBroken : Bool

/-- Reads on in a plain scalar: words and gaps in turn. -/
def plainFrom (flow : Bool) (indent : Nat) : Nat → List Char → Gap → Cursor → Except Stop Plain
  | 0, text, gap, c => .ok ⟨text, c, gap.isBroken⟩
  | fuel + 1, text, gap, c =>
    if c.atDocumentMark ∨ c.rest.head? = some '#' then .ok ⟨text, c, gap.isBroken⟩
    else do
      let (word, rest) ← plainWord flow c.rest
      let c := c.upTo rest
      if word.isEmpty then return ⟨text, c, gap.isBroken⟩
      let text := text ++ gap.folded ++ word
      let (gap, c') ← readGap indent (.blanks []) c.mark c.rest
      if c'.mark.index = c.mark.index ∨ (!flow ∧ c'.column < indent) then
        return ⟨text, c', gap.isBroken⟩
      plainFrom flow indent fuel text gap c'

def readPlain (flow : Bool) (indent : Nat) (c : Cursor) : Except Stop Plain :=
  plainFrom flow indent (c.rest.length + 1) [] (.blanks []) c

/-! ## Quoted scalars -/

/-- What a backslash with a character stands for. -/
def escapedChar? : Char → Option Char
  | '0' => some '\x00'
  | 'a' => some '\x07'
  | 'b' => some '\x08'
  | 't' | '\t' => some '\t'
  | 'n' => some '\n'
  | 'v' => some '\x0b'
  | 'f' => some '\x0c'
  | 'r' => some '\r'
  | 'e' => some '\x1b'
  | ' ' => some ' '
  | '"' => some '"'
  | '/' => some '/'
  | '\\' => some '\\'
  | 'N' => some '\u0085'
  | '_' => some '\u00a0'
  | 'L' => some '\u2028'
  | 'P' => some '\u2029'
  | _ => none

/-- How many digits follow a backslash with a character that gives a number. -/
def escapedDigits? : Char → Option Nat
  | 'x' => some 2
  | 'u' => some 4
  | 'U' => some 8
  | _ => none

/-- The character with a number in so many hexadecimal digits. -/
def numberedChar (count : Nat) (cs : List Char) : Except Stop Char :=
  let digits := cs.take count
  match if digits.length < count then none else Text.number? 16 digits with
  | none => .error ⟨.noHexDigit, some .escape, cs⟩
  | some n =>
    if n.isValidChar then .ok (Char.ofNat n) else .error ⟨.noCharacter, some .escape, cs⟩

/-- A word between quotes, whether an escaped end of line ends it, and the rest. -/
def quotedWord (double : Bool) : List Char → Except Stop (List Char × Bool × List Char)
  | [] => .ok ([], false, [])
  | c :: cs =>
    let more (d : Char) (r : Except Stop (List Char × Bool × List Char)) :=
      r.map fun (word, rest) => (d :: word, rest)
    if isGap c then .ok ([], false, c :: cs)
    else if !double then
      if c = '\'' then
        match cs with
        | '\'' :: rest => more '\'' (quotedWord double rest)
        | _ => .ok ([], false, c :: cs)
      else more c (quotedWord double cs)
    else if c = '"' then .ok ([], false, c :: cs)
    else if c = '\\' then
      match cs with
      | [] => .error ⟨.unknownEscape, some .escape, c :: cs⟩
      | e :: rest =>
        if isBreak e then .ok ([], true, rest)
        else match escapedChar? e, escapedDigits? e with
          | some d, _ => more d (quotedWord double rest)
          | none, some count =>
            (numberedChar count rest).bind fun d =>
              more d (quotedWord double (rest.drop count))
          | none, none => .error ⟨.unknownEscape, some .escape, c :: cs⟩
    else more c (quotedWord double cs)
termination_by cs => cs.length
decreasing_by all_goals simp; try omega

/-- The quote that ends a scalar. -/
def quote (double : Bool) : Char := if double then '"' else '\''

/-- Reads on in a quoted scalar: words and gaps in turn. -/
def quotedFrom (double : Bool) : Nat → List Char → Cursor → Except Stop (List Char × Cursor)
  | 0, text, c => .ok (text, c)
  | fuel + 1, text, c =>
    if c.atDocumentMark then .error ⟨.documentMark, some .quoted, c.rest⟩
    else if c.rest.isEmpty then .error ⟨.textEnds, some .quoted, c.rest⟩
    else do
      let (word, isEscaped, rest) ← quotedWord double c.rest
      let c := c.upTo rest
      if !isEscaped ∧ rest.head? = some (quote double) then return (text ++ word, c.skip 1)
      let (gap, c) ← readGap 0 (if isEscaped then .breaks [] [] else .blanks []) c.mark c.rest
      quotedFrom double fuel (text ++ word ++ gap.folded) c

/-- Reads a quoted scalar from its first quote. -/
def readQuoted (double : Bool) (c : Cursor) : Except Stop (List Char × Cursor) :=
  quotedFrom double (c.rest.length + 1) [] (c.skip 1)

/-! ## Blocks of lines -/

/-- What becomes of the ends of line behind a block. -/
inductive Chomp where
  | clip
  | strip
  | keep
  deriving DecidableEq, Repr

/-- The sign for what becomes of the last ends of line. -/
def chomp? : Char → Option Chomp
  | '+' => some .keep
  | '-' => some .strip
  | _ => none

/-- A depth in the head of a block: a digit. -/
def depth? (c : Char) : Option Nat := if c.isDigit then some (c.toNat - 0x30) else none

/-- A sign that may stand there, and the rest. -/
def takeChomp : List Char → Chomp × List Char
  | c :: cs => match chomp? c with
    | some ch => (ch, cs)
    | none => (.clip, c :: cs)
  | [] => (.clip, [])

/-- A depth that may stand there, which must not be zero, and the rest. -/
def takeDepth : List Char → Except Stop (Option Nat × List Char)
  | c :: cs => match depth? c with
    | some 0 => .error ⟨.depthZero, some .blockScalar, c :: cs⟩
    | some d => .ok (some d, cs)
    | none => .ok (none, c :: cs)
  | [] => .ok (none, [])

/-- The head of a block behind its sign: sign and depth in any order. -/
def blockHead (cs : List Char) : Except Stop (Chomp × Option Nat × List Char) := do
  match ← takeDepth cs with
  | (some d, rest) => let (ch, rest) := takeChomp rest; return (ch, some d, rest)
  | (none, rest) =>
    let (ch, rest) := takeChomp rest
    if ch = .clip then return (ch, none, rest)
    else let (d, rest) ← takeDepth rest; return (ch, d, rest)

/-- Blanks, and a comment if one begins there. -/
def passComment (cs : List Char) : List Char :=
  let cs := cs.dropWhile isBlank
  if cs.head? = some '#' then cs.dropWhile (fun c => !isBreak c) else cs

/-- Passes empty lines and the blanks in front of the next: the widest indentation, the ends of
line, and the place behind. Of a depth of zero nothing is known yet. -/
def blockGap (depth widest : Nat) (breaks : List Char) (m : Mark) :
    List Char → Except Stop (Nat × List Char × Cursor)
  | [] => .ok (max widest m.column, breaks, ⟨m, []⟩)
  | c :: cs =>
    let inFront : Bool := depth = 0 ∨ m.column < depth
    if inFront ∧ c = ' ' then blockGap depth widest breaks (m.after c) cs
    else if inFront ∧ c = '\t' then .error ⟨.tabInBlock, some .blockScalar, c :: cs⟩
    else if isBreak c then blockGap depth (max widest m.column) (breaks ++ [c]) (m.after c) cs
    else .ok (max widest m.column, breaks, ⟨m, c :: cs⟩)

/-- A block under way: its text, the last end of line and the empty lines behind it, and whether the
last line began with a blank. -/
structure Block where
  text : List Char
  last : List Char
  empty : List Char
  isIndented : Bool

/-- The block with one line more, which begins with a blank or not. -/
def Block.join (b : Block) (literal isIndented : Bool) : List Char :=
  let between :=
    if !literal ∧ b.last = ['\n'] ∧ !b.isIndented ∧ !isIndented then
      if b.empty.isEmpty then [' '] else []
    else b.last
  b.text ++ between ++ b.empty

def blockLines (literal : Bool) (depth : Nat) : Nat → Block → Cursor → Except Stop (Block × Cursor)
  | 0, b, c => .ok (b, c)
  | fuel + 1, b, c =>
    if c.column ≠ depth ∨ c.rest.isEmpty then .ok (b, c)
    else do
      let isIndented := c.rest.head?.any isBlank
      let line := c.rest.takeWhile fun x => !isBreak x
      let c := c.skip line.length
      let last := c.rest.take 1
      let c := c.skip 1
      let (_, empty, c) ← blockGap depth 0 [] c.mark c.rest
      blockLines literal depth fuel ⟨b.join literal isIndented ++ line, last, empty, isIndented⟩ c

/-- Reads a block of lines from its sign. The depth of its lines is that of the collection around
it and the depth in its head, or that of its first line. -/
def readBlock (literal : Bool) (indent : Int) (c : Cursor) : Except Stop (List Char × Cursor) := do
  let (chomp, depth?, rest) ← blockHead (c.rest.drop 1)
  let rest := passComment rest
  if !atLineEnd rest then throw ⟨.lineGoesOn, some .blockScalar, rest⟩
  let c := (c.upTo rest).skip 1
  let given := (depth?.map fun d => d + indent.toNat).getD 0
  let (widest, empty, c) ← blockGap given 0 [] c.mark c.rest
  let depth := if given = 0 then max (max widest (indent + 1).toNat) 1 else given
  let (b, c) ← blockLines literal depth (c.rest.length + 1) ⟨[], [], empty, false⟩ c
  return (match chomp with
    | .strip => b.text
    | .clip => b.text ++ b.last
    | .keep => b.text ++ b.last ++ b.empty, c)

end StarSurvey.Yaml
