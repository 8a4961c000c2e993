import StarSurvey.Text.Alphanumeric
import StarSurvey.Text.Blank
import StarSurvey.Text.Utf8

/-!
# The environment and its file

Variables of a process, and the file of lines `NAME=value` that adds to them. A variable that is
already there keeps its value, and reading ends at the first line that is malformed. A variable cannot
have a value with a zero byte in it.

* A line may begin with `export`, and a `#` begins a comment where a blank is in front of it.
* Between double quotes a value may hold blanks and line ends, and a backslash takes `\`, `'`, `"`,
  `$`, a blank or `n` behind it; between single quotes all stands for itself.
* `$NAME` and `$\x7bNAME\x7d` stand for a variable of the process, else for one of an earlier line.
-/

namespace StarSurvey

/-- The variables of a process, the latest first. -/
abbrev Environment := List (String × String)

namespace Environment

/-! ## Lines -/

/-- Where a reader stands with respect to quotes. -/
inductive Quoting where
  | plain
  | blank
  | escape
  | single
  | singleEscape
  | double
  | doubleEscape
  deriving DecidableEq, Repr

/-- What follows a character outside of quotes. -/
def Quoting.opened (c : Char) : Quoting :=
  if c = '\\' then .escape else if c = '"' then .double else if c = '\'' then .single else .plain

def Quoting.next (q : Quoting) (c : Char) : Quoting :=
  match q with
  | .plain => if Text.isBlank c ∧ c ≠ '\n' ∧ c ≠ '\r' then .blank else opened c
  | .blank => opened c
  | .escape => .plain
  | .single => if c = '\\' then .singleEscape else if c = '\'' then .plain else .single
  | .singleEscape => .single
  | .double => if c = '\\' then .doubleEscape else if c = '"' then .plain else .double
  | .doubleEscape => .double

/-- Follows a line up to a comment: what is in front of that, and where the reader stands; nowhere
if there is a comment. -/
def follow (q : Quoting) : List Char → List Char × Option Quoting
  | [] => ([], some q)
  | c :: cs =>
    if q = .blank ∧ c = '#' then ([], none)
    else
      let (front, q) := follow (q.next c) cs
      (c :: front, q)

/-- The lines of a text, each with its line end. -/
def rawLines : List Char → List (List Char)
  | [] => []
  | c :: cs =>
    match rawLines cs with
    | [] => [[c]]
    | line :: lines => if c = '\n' then [c] :: line :: lines else (c :: line) :: lines

def dropLineEnd (line : List Char) : List Char :=
  match line.reverse with
  | '\n' :: '\r' :: cs => cs.reverse
  | '\n' :: cs => cs.reverse
  | _ => line

/-- Puts lines together whose quotes go on behind the line end. A quote that nobody closes leaves a
line that cannot be read. -/
def logicalLines (held : List Char) (q : Quoting) : List (List Char) → List (Option (List Char))
  | [] => if q = .plain then [] else [none]
  | line :: lines =>
    if (Text.trimStart (held ++ line)).head? = some '#' then some [] :: logicalLines [] .plain lines
    else match follow q line with
      | (front, none) => some (held ++ front) :: logicalLines [] .plain lines
      | (_, some .plain) => some (dropLineEnd (held ++ line)) :: logicalLines [] .plain lines
      | (_, some q) => logicalLines (held ++ line) q lines

/-! ## Values -/

/-- A value while it is read. -/
structure Value where
  /-- What is read, the latest first. -/
  out : List Char := []
  single : Bool := false
  double : Bool := false
  escaped : Bool := false
  /-- Only blanks and a comment may follow. -/
  ended : Bool := false
  /-- The name behind a dollar sign, and whether it stands in braces. -/
  name : Option (Bool × List Char) := none

/-- What stands behind a name and an equals sign, if a text begins with those. -/
def behindName? (name cs : List Char) : Option (List Char) :=
  let front := name ++ ['=']
  if front.isPrefixOf cs then some (cs.drop front.length) else none

/-- What a name stands for. A process looks for it as the front of `NAME=value`, so that a name with
an equals sign in it can stand for the end of a value. -/
def lookupName (process earlier : Environment) (name : List Char) : List Char :=
  let ofProcess (entry : String × String) : Option (List Char) :=
    behindName? name (entry.1.toList ++ '=' :: entry.2.toList)
  let found := if name.isEmpty then none else process.findSome? ofProcess
  found.getD ((earlier.lookup (String.ofList name)).getD "").toList

/-- A value in which the name under way is replaced. -/
def Value.replaceName (process earlier : Environment) (v : Value) : Value :=
  match v.name with
  | none => v
  | some (_, name) =>
    { v with out := (lookupName process earlier name).reverse ++ v.out, name := none }

def Value.take (process earlier : Environment) (v : Value) (c : Char) : Option Value :=
  if v.ended then if c = ' ' ∨ c = '\t' then some v else none
  else if v.escaped then
    if c ∈ ['\\', '\'', '"', '$', ' '] then some { v with out := c :: v.out, escaped := false }
    else if c = 'n' then some { v with out := '\n' :: v.out, escaped := false }
    else none
  else if v.single then
    some (if c = '\'' then { v with single := false } else { v with out := c :: v.out })
  else match v.name with
    | some (braced, name) =>
      if Text.isAlphanumeric c then some { v with name := some (braced, name ++ [c]) }
      else if braced then
        some (if c = '\x7d' then v.replaceName process earlier
          else { v with name := some (true, name ++ [c]) })
      else if c = '\x7b' ∧ name.isEmpty then some { v with name := some (true, []) }
      else
        let v := v.replaceName process earlier
        some (if c = '$' then { v with name := some (false, []) } else { v with out := c :: v.out })
    | none =>
      some (
        if c = '$' then { v with name := some (false, []) }
        else if v.double then
          if c = '"' then { v with double := false }
          else if c = '\\' then { v with escaped := true }
          else { v with out := c :: v.out }
        else if c = '\'' then { v with single := true }
        else if c = '"' then { v with double := true }
        else if c = '\\' then { v with escaped := true }
        else if c = ' ' ∨ c = '\t' then { v with ended := true }
        else { v with out := c :: v.out })

/-- Takes the characters of a value up to a comment behind it. -/
def Value.takeAll (process earlier : Environment) (v : Value) : List Char → Option Value
  | [] => some v
  | c :: cs =>
    if v.ended ∧ c = '#' then some v
    else (v.take process earlier c).bind fun v => v.takeAll process earlier cs

def readValue (process earlier : Environment) (cs : List Char) : Option String := do
  let v ← ({} : Value).takeAll process earlier cs
  if v.single ∨ v.double ∨ (v.name.map Prod.fst) = some true then none
  else some (String.ofList (v.replaceName process earlier).out.reverse)

/-! ## The file -/

/-- A name at the beginning of a line, and what follows it and blanks. -/
def readName (cs : List Char) : Option (String × List Char) :=
  let isPart (c : Char) : Bool := c.isAlphanum || c = '_' || c = '.'
  match cs with
  | c :: _ =>
    if c.isAlpha ∨ c = '_' then
      some (String.ofList (cs.takeWhile isPart), Text.trimStart (cs.dropWhile isPart))
    else none
  | [] => none

/-- What follows an equals sign. -/
def behindEquals : List Char → Option (List Char)
  | '=' :: cs => some (Text.trimStart cs)
  | _ => none

/-- The name that a line sets, and what stands behind the equals sign. -/
def readSetting (cs : List Char) : Option (String × List Char) := do
  let (name, rest) ← readName cs
  match behindEquals rest with
  | some value => return (name, value)
  | none =>
    if name ≠ "export" then failure
    let (name, rest) ← readName rest
    return (name, ← behindEquals rest)

/-- What a line sets. The outer option is for a line that is malformed, the inner one for a line
that sets nothing. -/
def readLine (process earlier : Environment) (line : List Char) :
    Option (Option (String × String)) :=
  let cs := Text.trimStart (Text.trimEnd line)
  if cs.isEmpty ∨ cs.head? = some '#' then some none
  else do
    let (name, rest) ← readSetting cs
    if rest.isEmpty ∨ rest.head? = some '#' then return some (name, "")
    else return some (name, ← readValue process earlier rest)

/-- Adds what the lines set, up to the first that is malformed. What cannot be added is the error: a
name and a value for it that has a zero byte. -/
def addLines (process earlier : Environment) :
    List (Option (List Char)) → Except (String × String) Environment
  | some line :: lines =>
    match readLine process earlier line with
    | some (some (name, value)) =>
      if (process.lookup name).isSome then addLines process ((name, value) :: earlier) lines
      else if value.toList.contains '\x00' then .error (name, value)
      else addLines ((name, value) :: process) ((name, value) :: earlier) lines
    | some none => addLines process earlier lines
    | none => .ok process
  | _ => .ok process

/-- Adds what a file sets. Bytes behind the last whole character of a file are malformed. -/
def addFile (process : Environment) (content : List UInt8) :
    Except (String × String) Environment :=
  let content := if [0xEF, 0xBB, 0xBF].isPrefixOf content then content.drop 3 else content
  let valid := (Text.ofBytes? (content.take (Text.validLength content))).getD ""
  let lines := rawLines valid.toList
  let whole := if Text.validLength content = content.length then lines
    else lines.filter fun l => l.getLast? = some '\n'
  addLines process [] (logicalLines [] .plain whole)

end Environment

end StarSurvey
