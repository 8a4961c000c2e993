import StarSurvey.Network.Domain
import StarSurvey.Network.Ip
import StarSurvey.Text.Utf8

/-!
# The URL of a node

A node serves its system at `http://ADDRESS/system`. The address is free text, so the whole is read
as a URL, and the text of that URL is what is requested: host in lower case, numbers of a host read
as an internet address, no port if it is the usual one, dots in the path followed, and other
characters than a URL may hold in percent signs.
-/

namespace StarSurvey.Network

/-- Where a URL leads. -/
inductive Host where
  | domain (name : String)
  | ipv4 (i : Ipv4)
  | ipv6 (i : Ipv6)
  deriving DecidableEq

def Host.text : Host → String
  | .domain name => name
  | .ipv4 i => i.text
  | .ipv6 i => "[" ++ i.text ++ "]"

/-- A URL of the protocol that nodes speak. -/
structure Url where
  host : Host
  /-- The port, if it is not the usual one. -/
  port : Option Nat
  /-- The names between the slashes. -/
  path : List String
  query : Option String
  fragment : Option String
  deriving DecidableEq

namespace Url

/-! ## Percent signs -/

/-- The bytes of a character, each as a percent sign and two digits. -/
def escapeChar (c : Char) : List Char :=
  (Text.charBytes c).flatMap fun b =>
    ['%', (Nat.digitChar (b.toNat / 16)).toUpper, (Nat.digitChar (b.toNat % 16)).toUpper]

/-- Escapes what is no printable ASCII character and the special ones. -/
def escape (special : List Char) (cs : List Char) : String :=
  String.ofList (cs.flatMap fun c =>
    if c.toNat < 0x20 ∨ 0x7F ≤ c.toNat ∨ c ∈ special then escapeChar c else [c])

/-- What is escaped in a fragment. -/
def fragmentSpecials : List Char := [' ', '"', '<', '>', '\x60']

def pathSpecials : List Char := fragmentSpecials ++ ['#', '?', '^', '\x7b', '\x7d']

def querySpecials : List Char := [' ', '"', '#', '<', '>', '\'']

/-- The bytes of a text in which percent signs with two digits stand for a byte. -/
def unescape : List Char → List UInt8
  | '%' :: a :: b :: cs =>
    match Text.number? 16 [a, b] with
    | some n => n.toUInt8 :: unescape cs
    | none => Text.charBytes '%' ++ unescape (a :: b :: cs)
  | c :: cs => Text.charBytes c ++ unescape cs
  | [] => []
termination_by cs => cs.length

/-! ## Host and port -/

/-- A number in a host: decimal, behind `0` octal, behind `0x` hexadecimal. -/
def hostNumber? (cs : List Char) : Option Nat :=
  match cs with
  | '0' :: 'x' :: rest => if rest.isEmpty then some 0 else Text.number? 16 rest
  | '0' :: d :: rest => Text.number? 8 (d :: rest)
  | _ => Text.number? 10 cs

/-- The labels of a domain; a dot at the end counts for nothing. -/
def labels (name : List Char) : List (List Char) :=
  let ls := Text.splitAt '.' name
  if 1 < ls.length ∧ ls.getLast? = some [] then ls.dropLast else ls

/-- The last label is a number, so the host is meant as an internet address. -/
def endsInNumber (name : List Char) : Bool :=
  match (labels name).getLast? with
  | some l => !l.isEmpty && (l.all Char.isDigit || (hostNumber? l).isSome)
  | none => false

/-- Up to four numbers, of which the last fills the bytes that are left. -/
def hostIpv4? (name : List Char) : Option Ipv4 := do
  let numbers ← (labels name).mapM hostNumber?
  let last ← numbers.getLast?
  let front := numbers.dropLast
  let room := Nat.pow 256 (4 - front.length)
  if 3 < front.length ∨ front.any (255 < ·) ∨ room ≤ last then none
  else some (Ipv4.ofNat (front.foldl (fun n b => 256 * n + b) 0 * room + last))

/-- The host that a text stands for. -/
def host? (cs : List Char) : Option Host :=
  match cs with
  | '[' :: rest =>
    if rest.getLast? = some ']' then (Ipv6.ofChars? rest.dropLast).map .ipv6 else none
  | _ => do
    let name ← Domain.ofText? (← Text.ofBytes? (unescape cs))
    if name.isEmpty then none
    else if endsInNumber name.toList then (hostIpv4? name.toList).map .ipv4
    else some (.domain name)

/-- Splits before the first colon that stands in no brackets. -/
def splitPort (inside : Bool) : List Char → List Char × List Char
  | [] => ([], [])
  | c :: cs =>
    if c = ':' ∧ !inside then ([], c :: cs)
    else
      let (host, rest) := splitPort (if c = '[' then true else if c = ']' then false else inside) cs
      (c :: host, rest)

/-- The port that is left out. -/
def usualPort : Nat := 80

def maxPort : Nat := 65535

/-- The port behind a colon; the usual one and an empty one are left out. -/
def port? (cs : List Char) : Option (Option Nat) :=
  match cs with
  | [] | [':'] => some none
  | _ :: ds => do
    let n ← Text.number? 10 ds
    if maxPort < n then none else some (if n = usualPort then none else some n)

/-! ## The whole -/

/-- A character that a URL passes over. -/
def isIgnored (c : Char) : Bool := c = '\t' || c = '\n' || c = '\r'

def isSlash (c : Char) : Bool := c = '/' || c = '\\'

/-- What ends the part that names host and port. -/
def endsAuthority (c : Char) : Bool := isSlash c || c = '?' || c = '#'

/-- What stands behind the last at sign; a name and a password in front of it are not kept. -/
def behindAt (cs : List Char) : List Char := (cs.reverse.takeWhile (· ≠ '@')).reverse

/-- A segment of a path that stays where it is. -/
def isHere (segment : String) : Bool := segment.toLower ∈ [".", "%2e"]

/-- A segment of a path that goes back. -/
def isBack (segment : String) : Bool := segment.toLower ∈ ["..", ".%2e", "%2e.", "%2e%2e"]

/-- The path with its dots followed. At its end a dot leaves an empty name. -/
def followDots (done : List String) : List String → List String
  | [] => done
  | s :: rest =>
    let ending := if rest.isEmpty then [""] else []
    if isBack s then followDots (done.dropLast ++ ending) rest
    else if isHere s then followDots (done ++ ending) rest
    else followDots (done ++ [s]) rest

/-- The path behind its first slash. -/
def pathOf (cs : List Char) : List String :=
  let segments := Text.splitAt '/' (cs.map fun c => if isSlash c then '/' else c)
  followDots [] (segments.map (escape pathSpecials))

/-- What stands behind the first mark, if there is one. -/
def behind? (mark : Char) (cs : List Char) : Option (List Char) :=
  match cs.dropWhile (· ≠ mark) with
  | [] => none
  | _ :: rest => some rest

/-- Where a node serves its system, behind its address. -/
def systemPath : String := "/system"

def systemText (address : String) : String := "http://" ++ address ++ systemPath

/-- The URL of the system of a node, if its address makes one. -/
def ofAddress? (address : String) : Option Url := do
  let cs := ((address ++ systemPath).toList.filter fun c => !isIgnored c).dropWhile isSlash
  let authority := cs.takeWhile fun c => !endsAuthority c
  let rest := cs.dropWhile fun c => !endsAuthority c
  let (hostPart, portPart) := splitPort false (behindAt authority)
  let host ← host? hostPart
  let port ← port? portPart
  let fragment := behind? '#' rest
  let rest := rest.takeWhile (· ≠ '#')
  let query := behind? '?' rest
  let rest := rest.takeWhile (· ≠ '?')
  return ⟨host, port, pathOf (rest.drop 1), query.map (escape querySpecials),
    fragment.map (escape fragmentSpecials)⟩

/-- The text of a URL without its fragment: what is requested. -/
def requestText (u : Url) : String :=
  "http://" ++ u.host.text ++ (u.port.map fun p => ":" ++ toString p).getD "" ++
    "/" ++ "/".intercalate u.path ++ (u.query.map ("?" ++ ·)).getD ""

def text (u : Url) : String := u.requestText ++ (u.fragment.map ("#" ++ ·)).getD ""

/-- Characters that a host may hold and no request can carry. -/
def unsendable : List Char := ['"', '\x60', '\x7b', '\x7d']

/-- The longest text that is requested, in bytes. -/
def maxLength : Nat := 65534

/-- The URL can be put into a request. -/
def isSendable (u : Url) : Bool :=
  !(u.host.text.toList.any (unsendable.contains ·)) && u.text.utf8ByteSize ≤ maxLength

end Url

end StarSurvey.Network
