import StarSurvey.Yaml.Cursor

/-!
# What can be wrong with a YAML text

A `Fault` names the problem, the place where it shows, and what was being read since which place.
Readers of characters know only what stands behind the problem: a `Stop`, from which a fault is made
where the places are known.
-/

namespace StarSurvey.Yaml

/-- What is wrong. -/
inductive Problem where
  /-- A character that no text may hold, behind so many bytes. -/
  | forbidden (offset : Nat)
  | noColon
  | noToken
  | entryNotAllowed
  | keyNotAllowed
  | valueNotAllowed
  | noDirectiveName
  | directiveNameGoesOn
  | unknownDirective
  | lineGoesOn
  | longVersion
  | noVersion
  | noDot
  | noExclamationMark
  | noBlank
  | noGap
  | noAngleBracket
  | noTagText
  | noByte
  | wrongFirstByte
  | wrongLaterByte
  | noName
  | depthZero
  | tabInBlock
  | documentMark
  | textEnds
  | unknownEscape
  | noHexDigit
  | noCharacter
  | strayColon
  | tabInPlain
  | noDocumentStart
  | noNode
  | unknownHandle
  | unknownAnchor
  | noDash
  | noKey
  | listGoesOn
  | mapGoesOn
  | secondVersion
  | otherVersion
  | secondShorthand
  | secondDocument
  deriving DecidableEq, Repr

def Problem.text : Problem → String
  | .forbidden _ => "control characters are not allowed"
  | .noColon => "could not find expected ':'"
  | .noToken => "found character that cannot start any token"
  | .entryNotAllowed => "block sequence entries are not allowed in this context"
  | .keyNotAllowed => "mapping keys are not allowed in this context"
  | .valueNotAllowed => "mapping values are not allowed in this context"
  | .noDirectiveName => "could not find expected directive name"
  | .directiveNameGoesOn => "found unexpected non-alphabetical character"
  | .unknownDirective => "found unknown directive name"
  | .lineGoesOn => "did not find expected comment or line break"
  | .longVersion => "found extremely long version number"
  | .noVersion => "did not find expected version number"
  | .noDot => "did not find expected digit or '.' character"
  | .noExclamationMark => "did not find expected '!'"
  | .noBlank => "did not find expected whitespace"
  | .noGap => "did not find expected whitespace or line break"
  | .noAngleBracket => "did not find the expected '>'"
  | .noTagText => "did not find expected tag URI"
  | .noByte => "did not find URI escaped octet"
  | .wrongFirstByte => "found an incorrect leading UTF-8 octet"
  | .wrongLaterByte => "found an incorrect trailing UTF-8 octet"
  | .noName => "did not find expected alphabetic or numeric character"
  | .depthZero => "found an indentation indicator equal to 0"
  | .tabInBlock => "found a tab character where an indentation space is expected"
  | .documentMark => "found unexpected document indicator"
  | .textEnds => "found unexpected end of stream"
  | .unknownEscape => "found unknown escape character"
  | .noHexDigit => "did not find expected hexdecimal number"
  | .noCharacter => "found invalid Unicode character escape code"
  | .strayColon => "found unexpected ':'"
  | .tabInPlain => "found a tab character that violates indentation"
  | .noDocumentStart => "did not find expected <document start>"
  | .noNode => "did not find expected node content"
  | .unknownHandle => "found undefined tag handle"
  | .unknownAnchor => "unknown anchor"
  | .noDash => "did not find expected '-' indicator"
  | .noKey => "did not find expected key"
  | .listGoesOn => "did not find expected ',' or ']'"
  | .mapGoesOn => "did not find expected ',' or '\x7d'"
  | .secondVersion => "found duplicate %YAML directive"
  | .otherVersion => "found incompatible YAML document"
  | .secondShorthand => "found duplicate %TAG directive"
  | .secondDocument =>
    "deserializing from YAML containing more than one document is not supported"

/-- What was being read when a problem showed. -/
inductive Activity where
  | key
  | token
  | directive
  | version
  | shorthand
  | handle (inDirective : Bool)
  | restOfHandle
  | tag
  | tagText (inDirective : Bool)
  | name (isAlias : Bool)
  | blockScalar
  | quoted
  | escape
  | plain
  | node
  | nodeContent (block : Bool)
  | blockList
  | blockMap
  | flowList
  | flowMap
  deriving DecidableEq, Repr

def Activity.text : Activity → String
  | .key => "while scanning a simple key"
  | .token => "while scanning for the next token"
  | .directive => "while scanning a directive"
  | .version => "while scanning a %YAML directive"
  | .shorthand => "while scanning a %TAG directive"
  | .handle true => "while scanning a tag directive"
  | .handle false | .tag => "while scanning a tag"
  | .restOfHandle => "while parsing a tag directive"
  | .tagText true => "while parsing a %TAG directive"
  | .tagText false => "while parsing a tag"
  | .name true => "while scanning an alias"
  | .name false => "while scanning an anchor"
  | .blockScalar => "while scanning a block scalar"
  | .quoted => "while scanning a quoted scalar"
  | .escape => "while parsing a quoted scalar"
  | .plain => "while scanning a plain scalar"
  | .node => "while parsing a node"
  | .nodeContent true => "while parsing a block node"
  | .nodeContent false => "while parsing a flow node"
  | .blockList => "while parsing a block collection"
  | .blockMap => "while parsing a block mapping"
  | .flowList => "while parsing a flow sequence"
  | .flowMap => "while parsing a flow mapping"

/-- What is wrong with a text and where. -/
structure Fault where
  problem : Problem
  mark : Mark := .start
  /-- What was being read, and since which place. -/
  activity : Option (Activity × Mark) := none
  deriving DecidableEq, Repr

/-- The wording of a fault. A place is not named twice. -/
def Fault.message (f : Fault) : String :=
  let place := match f.problem with
    | .forbidden (n + 1) => " at position " ++ toString (n + 1)
    | _ => f.mark.place
  let activity := match f.activity with
    | none => ""
    | some (a, m) =>
      let isElsewhere := m.line ≠ f.mark.line ∨ m.column ≠ f.mark.column
      ", " ++ a.text ++ (if isElsewhere then m.place else "")
  f.problem.text ++ place ++ activity

/-- Why a reader of characters stops, and what stands behind that place. -/
structure Stop where
  problem : Problem
  activity : Option Activity
  rest : List Char

/-- The fault of a reader that began at a place. -/
def Stop.fault (s : Stop) (c : Cursor) : Fault :=
  ⟨s.problem, (c.upTo s.rest).mark, s.activity.map (·, c.mark)⟩

end StarSurvey.Yaml
