import StarSurvey.Network.Domain.Folding
import StarSurvey.Network.Domain.Label
import StarSurvey.Network.Domain.Punycode

/-!
# Domain names

A domain name is sent in ASCII. Its characters are folded and composed, and a label that still has
others than ASCII characters is sent as `xn--` and its Punycode. A label that is given so must be
what the label behind it would be sent as.
-/

namespace StarSurvey.Network.Domain

/-- An ASCII character that no domain holds. -/
def isForbidden (c : Char) : Bool :=
  c.toNat ≤ 0x20 || c.toNat = 0x7F || c ∈ "%#/:<>?@[\\]^|".toList

def isAscii (cs : List Char) : Bool := cs.all (·.toNat < 0x80)

/-- What stands in front of Punycode. -/
def mark : List Char := "xn--".toList

/-- The longest Punycode that is read. -/
def maxCode : Nat := 2000

/-- The longest label that is put in Punycode, in characters. -/
def maxLabel : Nat := 1000

/-- The label that a Punycode is of. -/
def labelOf? (code : List Char) : Option (List Char) := do
  if maxCode < code.length then none
  let label ← decode? code
  if isAscii label ∨ compose label ≠ label ∨ encode label ≠ code then none
  else if label.all fun c => isFolded c && !isForbidden c then some label
  else none

/-- What the characters of a label have to be like, one beside the other. -/
def isFit (label : List Char) : Bool :=
  isAscii label ||
    (!label.head?.any isMark && hasFittingJoiners [] label && label.length ≤ maxLabel)

/-- A label as it is written, if a name may have it. -/
def label? (cs : List Char) : Option (List Char) :=
  (if mark.isPrefixOf cs then labelOf? (cs.drop mark.length) else some cs).filter isFit

/-- A label as it is sent. -/
def sent (label : List Char) : List Char := if isAscii label then label else mark ++ encode label

/-- A domain name in ASCII. -/
def ofText? (s : String) : Option String := do
  let cs := compose (← s.toList.mapM fold?).flatten
  if cs.any isForbidden then none
  let labels ← (Text.splitAt '.' cs).mapM label?
  if labels.any (·.any runsLeft) && !labels.all hasOneDirection then none
  else some (String.ofList (['.'].intercalate (labels.map sent)))

end StarSurvey.Network.Domain
