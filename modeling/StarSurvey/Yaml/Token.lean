import StarSurvey.Text.Utf8
import StarSurvey.Yaml.Scalar

/-!
# Tokens

A YAML text is first cut into tokens. Some of them stand for no characters: the beginnings and ends
of collections that show by indentation alone, and the key of a pair that shows only when its colon
is met. The token of such a key is put in afterwards, so a `Lexer` remembers where one could go.
-/

namespace StarSurvey.Yaml

inductive Token where
  | version (major minor : Nat)
  | tagShorthand (handle stem : String)
  | documentStart
  | documentEnd
  | streamEnd
  | blockList
  | blockMap
  | blockEnd
  | openList
  | closeList
  | openMap
  | closeMap
  | entry
  | comma
  | key
  | value
  | alias (name : String)
  | anchor (name : String)
  | tag (handle suffix : String)
  | scalar (style : Style) (text : String)
  deriving DecidableEq, Repr

/-- A token and where it begins and ends. -/
structure Placed where
  token : Token
  start : Mark
  stop : Mark
  deriving DecidableEq

/-- A place at which the token of a key may have to be put in. -/
structure PossibleKey where
  /-- How many tokens are in front of it. -/
  place : Nat
  mark : Mark
  /-- Nothing but a key can stand there. -/
  isRequired : Bool

/-- A text of which some is cut into tokens. -/
structure Lexer where
  cursor : Cursor
  tokens : List Placed := []
  /-- The column of the innermost collection that shows by indentation, if there is one. -/
  indent : Int := -1
  /-- The columns of those around it. -/
  outer : List Int := []
  /-- A possible key for each collection in brackets and for what is around them. -/
  keys : List (Option PossibleKey) := [none]
  /-- A key may begin at the cursor. -/
  keyAllowed : Bool := true

namespace Lexer

/-- The cursor stands in brackets. -/
def inFlow (l : Lexer) : Bool := 1 < l.keys.length

def push (l : Lexer) (t : Token) (start stop : Mark) : Lexer :=
  { l with tokens := l.tokens ++ [⟨t, start, stop⟩] }

/-- Puts in a token behind so many others. -/
def insert (l : Lexer) (place : Nat) (t : Token) (m : Mark) : Lexer :=
  { l with tokens := l.tokens.take place ++ ⟨t, m, m⟩ :: l.tokens.drop place }

/-- Adds a token of some characters and goes behind them. -/
def take (l : Lexer) (t : Token) (length : Nat) : Lexer :=
  let behind := l.cursor.skip length
  { l.push t l.cursor.mark behind.mark with cursor := behind }

/-! ## Indentation and keys -/

/-- Begins a collection at a column that lies deeper. -/
def beginBlock (l : Lexer) (column : Nat) (place : Nat) (t : Token) (m : Mark) : Lexer :=
  if l.inFlow ∨ column ≤ l.indent then l
  else { l.insert place t m with indent := column, outer := l.indent :: l.outer }

/-- Begins a collection at the cursor. -/
def beginBlockHere (l : Lexer) (t : Token) : Lexer :=
  l.beginBlock l.cursor.column l.tokens.length t l.cursor.mark

/-- Ends the collections that lie deeper than a column. -/
def endBlocks (l : Lexer) (column : Int) : Lexer :=
  if l.inFlow then l
  else
    let levels := l.indent :: l.outer
    let left := levels.dropWhile fun c => decide (column < c)
    let ends := List.replicate (levels.length - left.length)
      (⟨.blockEnd, l.cursor.mark, l.cursor.mark⟩ : Placed)
    { l with tokens := l.tokens ++ ends, indent := left.headD (-1), outer := left.tail }

/-- A fault at the cursor that has nothing to do with what was being read. -/
def faultHere (l : Lexer) (p : Problem) : Fault := ⟨p, l.cursor.mark, none⟩

/-- A required key without its colon. -/
def keyFault (l : Lexer) (k : PossibleKey) : Fault :=
  ⟨.noColon, l.cursor.mark, some (.key, k.mark)⟩

/-- Gives up the possible key, which must not be required. -/
def dropKey (l : Lexer) : Except Fault Lexer :=
  match l.keys with
  | some k :: ks =>
    if k.isRequired then .error (l.keyFault k) else .ok { l with keys := none :: ks }
  | _ => .ok l

/-- Remembers that a key may begin here. -/
def saveKey (l : Lexer) : Except Fault Lexer :=
  if l.keyAllowed then do
    let isRequired := !l.inFlow && l.indent == (l.cursor.column : Int)
    let l ← l.dropKey
    return { l with keys := some ⟨l.tokens.length, l.cursor.mark, isRequired⟩ :: l.keys.tail }
  else .ok l

/-- The longest key, in characters. -/
def longestKey : Nat := 1024

/-- Gives up the keys that are too long or go over a line. -/
def dropOldKeys (l : Lexer) : Except Fault Lexer := do
  let isOld (k : PossibleKey) : Bool :=
    k.mark.line < l.cursor.mark.line || k.mark.index + longestKey < l.cursor.mark.index
  let keys ← l.keys.mapM fun
    | some k =>
      if !isOld k then pure (some k)
      else if k.isRequired then throw (l.keyFault k)
      else pure none
    | none => pure none
  return { l with keys }

/-- How many tokens are certain: those in front of the first possible key. -/
def certain (l : Lexer) : Nat :=
  (l.keys.filterMap (·.map PossibleKey.place)).foldl min l.tokens.length

/-- Passes blanks, comments and ends of line. A tab may not stand where a key may begin; a byte order
mark may begin a line. -/
def passGap (l : Lexer) : Nat → Lexer
  | 0 => l
  | fuel + 1 =>
    let l := if l.cursor.column = 0 ∧ l.cursor.rest.head? = some byteOrderMark then
        { l with cursor := l.cursor.skip 1 }
      else l
    let isPassed (c : Char) : Bool := c == ' ' || ((l.inFlow || !l.keyAllowed) && c == '\t')
    let rest := l.cursor.rest.dropWhile isPassed
    let rest := if rest.head? = some '#' then rest.dropWhile fun c => !isBreak c else rest
    let l := { l with cursor := l.cursor.upTo rest }
    if rest.head?.any isBreak then
      passGap { l with cursor := l.cursor.skip 1, keyAllowed := l.keyAllowed || !l.inFlow } fuel
    else l

/-! ## Directives -/

/-- A number of up to nine digits, and the rest. -/
def shortNumber (cs : List Char) : Except Stop (Nat × List Char) :=
  let digits := cs.takeWhile Char.isDigit
  if 9 < digits.length then .error ⟨.longVersion, some .version, cs.drop 9⟩
  else match Text.number? 10 digits with
    | none => .error ⟨.noVersion, some .version, cs⟩
    | some n => .ok (n, cs.dropWhile Char.isDigit)

/-- A version: two numbers with a dot between them. -/
def version (cs : List Char) : Except Stop (Token × List Char) := do
  let (major, rest) ← shortNumber cs
  match rest with
  | '.' :: rest =>
    let (minor, rest) ← shortNumber rest
    return (.version major minor, rest)
  | _ => throw ⟨.noDot, some .version, rest⟩

/-- A character of a tag that stands for itself. -/
def isTagChar (verbatim : Bool) (c : Char) : Bool :=
  isWordChar c || c ∈ ";/?:@&=+$.!~*'()".toList || (verbatim && c ∈ [',', '[', ']'])

/-- The byte behind a percent sign. -/
def tagByte (activity : Activity) (cs : List Char) : Except Stop (UInt8 × List Char) :=
  let byte? := match cs with
    | '%' :: a :: b :: rest => (Text.number? 16 [a, b]).map fun n => (n.toUInt8, rest)
    | _ => none
  match byte? with
  | some r => .ok r
  | none => .error ⟨.noByte, some activity, cs⟩

/-- How many bytes a character has that begins with this one. -/
def widthOf (b : UInt8) : Nat :=
  if b < 0x80 then 1 else if b &&& 0xE0 = 0xC0 then 2 else if b &&& 0xF0 = 0xE0 then 3
  else if b &&& 0xF8 = 0xF0 then 4 else 0

/-- The other bytes of a character. -/
def laterBytes (activity : Activity) : Nat → List Char → Except Stop (List UInt8 × List Char)
  | 0, cs => .ok ([], cs)
  | n + 1, cs => do
    let (b, rest) ← tagByte activity cs
    if b &&& 0xC0 ≠ 0x80 then throw ⟨.wrongLaterByte, some activity, cs⟩
    let (bs, rest) ← laterBytes activity n rest
    return (b :: bs, rest)

/-- The text of a tag, and the rest. -/
def tagText (activity : Activity) (verbatim : Bool) :
    Nat → List Char → Except Stop (List UInt8 × List Char)
  | 0, cs => .ok ([], cs)
  | fuel + 1, cs =>
    match cs with
    | '%' :: _ => do
      let (b, rest) ← tagByte activity cs
      if widthOf b = 0 then throw ⟨.wrongFirstByte, some activity, cs⟩
      let (bs, rest) ← laterBytes activity (widthOf b - 1) rest
      let (more, rest) ← tagText activity verbatim fuel rest
      return (b :: bs ++ more, rest)
    | c :: cs =>
      if isTagChar verbatim c then
        (tagText activity verbatim fuel cs).map fun (bs, cs) => (Text.charBytes c ++ bs, cs)
      else .ok ([], c :: cs)
    | [] => .ok ([], [])

/-- The text of a tag, and the rest; it must not be empty. -/
def someTagText (activity : Activity) (verbatim : Bool) (cs : List Char) :
    Except Stop (String × List Char) := do
  let (bs, rest) ← tagText activity verbatim cs.length cs
  if bs.isEmpty then throw ⟨.noTagText, some activity, rest⟩
  return ((Text.ofBytes? bs).getD "", rest)

/-- What may be the handle of a tag: an exclamation mark, letters and maybe another mark. -/
def handle? : List Char → Option (List Char × List Char)
  | '!' :: cs =>
    let word := cs.takeWhile isWordChar
    match cs.dropWhile isWordChar with
    | '!' :: rest => some ('!' :: word ++ ['!'], rest)
    | rest => some ('!' :: word, rest)
  | _ => none

/-- A shorthand for tags: a handle and what it stands for. -/
def shorthand (cs : List Char) : Except Stop (Token × List Char) := do
  match handle? cs with
  | none => throw ⟨.noExclamationMark, some (.handle true), cs⟩
  | some (handle, rest) =>
    if handle ≠ ['!'] ∧ handle.getLast? ≠ some '!' then
      throw ⟨.noExclamationMark, some .restOfHandle, rest⟩
    if !rest.head?.any isBlank then throw ⟨.noBlank, some .shorthand, rest⟩
    let (stem, rest) ← someTagText (.tagText true) true (rest.dropWhile isBlank)
    if !atGap rest then throw ⟨.noGap, some .shorthand, rest⟩
    return (.tagShorthand (String.ofList handle) stem, rest)

/-- A directive behind its percent sign, the rest, and the rest behind the line's comment. -/
def directive (cs : List Char) : Except Stop (Token × List Char × List Char) := do
  let name := cs.takeWhile isWordChar
  let rest := cs.dropWhile isWordChar
  if name.isEmpty then throw ⟨.noDirectiveName, some .directive, rest⟩
  if !atGap rest then throw ⟨.directiveNameGoesOn, some .directive, rest⟩
  let (t, rest) ←
    if name = "YAML".toList then version (rest.dropWhile isBlank)
    else if name = "TAG".toList then shorthand (rest.dropWhile isBlank)
    else throw ⟨.unknownDirective, some .directive, rest⟩
  if !atLineEnd (passComment rest) then
    throw ⟨.lineGoesOn, some .directive, passComment rest⟩
  return (t, rest, passComment rest)

/-- Reads characters at the cursor. -/
def reading {α : Type} (l : Lexer) (r : Except Stop α) : Except Fault α :=
  r.mapError (·.fault l.cursor)

/-- A line that begins with a percent sign. -/
def takeDirective (l : Lexer) : Except Fault Lexer := do
  let l ← (l.endBlocks (-1)).dropKey
  let (t, rest, behind) ← l.reading (directive (l.cursor.rest.drop 1))
  return { l.push t l.cursor.mark (l.cursor.upTo rest).mark with
    cursor := (l.cursor.upTo behind).skip 1, keyAllowed := false }

/-! ## Tokens of a kind -/

def takeEnd (l : Lexer) : Except Fault Lexer := do
  let m := l.cursor.mark
  let m := if m.column = 0 then m else ⟨m.line + 1, 0, m.index⟩
  let l ← ({ l with cursor := ⟨m, []⟩ }.endBlocks (-1)).dropKey
  return { l.push .streamEnd m m with keyAllowed := false }

/-- Three dashes or dots that begin or end a document. -/
def takeDocumentMark (l : Lexer) (t : Token) : Except Fault Lexer := do
  let l ← (l.endBlocks (-1)).dropKey
  return { l.take t 3 with keyAllowed := false }

def takeOpen (l : Lexer) (t : Token) : Except Fault Lexer := do
  let l ← l.saveKey
  return { l.take t 1 with keyAllowed := true, keys := none :: l.keys }

def takeClose (l : Lexer) (t : Token) : Except Fault Lexer := do
  let l ← l.dropKey
  let keys := if l.inFlow then l.keys.tail else l.keys
  return { l.take t 1 with keyAllowed := false, keys }

def takeComma (l : Lexer) : Except Fault Lexer := do
  let l ← l.dropKey
  return { l.take .comma 1 with keyAllowed := true }

/-- A dash in front of an entry. -/
def takeEntry (l : Lexer) : Except Fault Lexer := do
  if !l.inFlow ∧ !l.keyAllowed then throw (l.faultHere .entryNotAllowed)
  let l ← (if l.inFlow then l else l.beginBlockHere .blockList).dropKey
  return { l.take .entry 1 with keyAllowed := true }

/-- A question mark in front of a key. -/
def takeKey (l : Lexer) : Except Fault Lexer := do
  if !l.inFlow ∧ !l.keyAllowed then throw (l.faultHere .keyNotAllowed)
  let l ← (l.beginBlockHere .blockMap).dropKey
  return { l.take .key 1 with keyAllowed := !l.inFlow }

/-- A colon in front of a value. If a key was possible, that was one. -/
def takeValue (l : Lexer) : Except Fault Lexer :=
  match l.keys with
  | some k :: ks =>
    let l := (l.insert k.place .key k.mark).beginBlock k.mark.column k.place .blockMap k.mark
    .ok { l.take .value 1 with keys := none :: ks, keyAllowed := false }
  | _ =>
    if !l.inFlow ∧ !l.keyAllowed then .error (l.faultHere .valueNotAllowed)
    else
      let l := l.beginBlockHere .blockMap
      .ok { l.take .value 1 with keyAllowed := !l.inFlow }

/-- A name of letters, digits, dashes and underscores. -/
def name (isAlias : Bool) (cs : List Char) : Except Stop (List Char) :=
  let name := cs.takeWhile isWordChar
  let rest := cs.dropWhile isWordChar
  let isEnded := atGap rest || rest.head?.any (· ∈ "?:,]\x7d%@\x60".toList)
  if name.isEmpty ∨ !isEnded then .error ⟨.noName, some (.name isAlias), rest⟩ else .ok name

/-- The name of an anchor, or of a reference to one. -/
def takeName (l : Lexer) (isAlias : Bool) : Except Fault Lexer := do
  let l ← l.saveKey
  let name ← l.reading (name isAlias (l.cursor.rest.drop 1))
  let t := (if isAlias then Token.alias else Token.anchor) (String.ofList name)
  return { l.take t (name.length + 1) with keyAllowed := false }

/-- A tag: its text in angle brackets, or a handle and a suffix. -/
def tag (cs : List Char) : Except Stop (Token × List Char) :=
  match cs with
  | '!' :: '<' :: rest => do
    let (text, rest) ← someTagText (.tagText false) true rest
    match rest with
    | '>' :: rest => return (.tag "" text, rest)
    | _ => throw ⟨.noAngleBracket, some .tag, rest⟩
  | _ =>
    match handle? cs with
    | none => throw ⟨.noExclamationMark, some (.handle false), cs⟩
    | some (handle, rest) => do
      if 1 < handle.length ∧ handle.getLast? = some '!' then
        let (suffix, rest) ← someTagText (.tagText false) false rest
        return (.tag (String.ofList handle) suffix, rest)
      else
        let (bs, rest) ← tagText (.tagText false) false rest.length rest
        let suffix := String.ofList handle.tail ++ (Text.ofBytes? bs).getD ""
        return (if suffix.isEmpty then .tag "" "!" else .tag "!" suffix, rest)

/-- A tag and the gap or the comma that has to follow. -/
def endedTag (flow : Bool) (cs : List Char) : Except Stop (Token × List Char) := do
  let (t, rest) ← tag cs
  if atGap rest ∨ (flow ∧ rest.head? = some ',') then return (t, rest)
  throw ⟨.noGap, some .tag, rest⟩

def takeTag (l : Lexer) : Except Fault Lexer := do
  let l ← l.saveKey
  let (t, rest) ← l.reading (endedTag l.inFlow l.cursor.rest)
  return { l.take t (l.cursor.rest.length - rest.length) with keyAllowed := false }

/-- Adds the token of a scalar and goes behind it. -/
def takeScalar (l : Lexer) (style : Style) (text : List Char) (behind : Cursor)
    (keyAllowed : Bool) : Lexer :=
  { l.push (.scalar style (String.ofList text)) l.cursor.mark behind.mark with
    cursor := behind, keyAllowed }

/-- A scalar as a block of lines. -/
def takeBlock (l : Lexer) (literal : Bool) : Except Fault Lexer := do
  let l ← l.dropKey
  let (text, behind) ← l.reading (readBlock literal l.indent l.cursor)
  return l.takeScalar (if literal then .literal else .folded) text behind true

def takeQuoted (l : Lexer) (double : Bool) : Except Fault Lexer := do
  let l ← l.saveKey
  let (text, behind) ← l.reading (readQuoted double l.cursor)
  return l.takeScalar (if double then .doubleQuoted else .singleQuoted) text behind false

/-- A plain scalar. Behind one that ends with its line a key may begin. -/
def takePlain (l : Lexer) : Except Fault Lexer := do
  let l ← l.saveKey
  let p ← l.reading (readPlain l.inFlow (l.indent + 1).toNat l.cursor)
  return l.takeScalar .plain p.text p.behind p.isBroken

/-- The characters that begin no plain scalar. -/
def isIndicator (c : Char) : Bool := c ∈ "-?:,[]\x7b\x7d#&*!|>'\"%@\x60".toList

/-- A plain scalar may begin with this character in front of the others. -/
def beginsPlain (l : Lexer) (c : Char) (cs : List Char) : Bool :=
  !(isGap c || isIndicator c) || (c == '-' && !cs.head?.any isBlank) ||
    (!l.inFlow && (c == '?' || c == ':') && !atGap cs)

/-- Takes the token at the cursor, which stands at no gap. -/
def takeToken (l : Lexer) : Except Fault Lexer :=
  match l.cursor.rest with
  | [] => l.takeEnd
  | c :: cs =>
    let flow := l.inFlow
    if l.cursor.column = 0 ∧ c = '%' then l.takeDirective
    else if l.cursor.startsLine "---".toList then l.takeDocumentMark .documentStart
    else if l.cursor.startsLine "...".toList then l.takeDocumentMark .documentEnd
    else if c = '[' then l.takeOpen .openList
    else if c = '\x7b' then l.takeOpen .openMap
    else if c = ']' then l.takeClose .closeList
    else if c = '\x7d' then l.takeClose .closeMap
    else if c = ',' then l.takeComma
    else if c = '-' ∧ atGap cs then l.takeEntry
    else if c = '?' ∧ (flow ∨ atGap cs) then l.takeKey
    else if c = ':' ∧ (flow ∨ atGap cs) then l.takeValue
    else if c = '*' then l.takeName true
    else if c = '&' then l.takeName false
    else if c = '!' then l.takeTag
    else if c = '|' ∧ !flow then l.takeBlock true
    else if c = '>' ∧ !flow then l.takeBlock false
    else if c = '\'' then l.takeQuoted false
    else if c = '"' then l.takeQuoted true
    else if l.beginsPlain c cs then l.takePlain
    else .error ⟨.noToken, l.cursor.mark, some (.token, l.cursor.mark)⟩

def next (l : Lexer) : Except Fault Lexer := do
  let l ← (l.passGap (l.cursor.rest.length + 1)).dropOldKeys
  (← (l.endBlocks l.cursor.column).takeToken).dropOldKeys

/-- Takes all tokens. At a fault only those count that were certain before. -/
def run (l : Lexer) : Nat → List Placed × Option Fault
  | 0 => (l.tokens, none)
  | fuel + 1 =>
    match l.next with
    | .error f => (l.tokens.take l.certain, some f)
    | .ok l =>
      if (l.tokens.getLast?.map Placed.token) = some .streamEnd then (l.tokens, none)
      else run l fuel

end Lexer

/-- The tokens of a text, the end of the stream last, or the fault behind them. -/
def tokens (s : String) : List Placed × Option Fault :=
  match forbiddenAt? s with
  | some n => ([], some ⟨.forbidden n, .start, none⟩)
  | none =>
    let c := Cursor.ofText s
    ({ cursor := c } : Lexer).run (c.rest.length + 2)

end StarSurvey.Yaml
