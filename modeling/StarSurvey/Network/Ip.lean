import StarSurvey.Text.Digits
import StarSurvey.Text.Split

/-!
# Internet addresses

Addresses of both kinds, their strict reading and their text. Each address has one text: of the
longest rows of two or more zero groups the first is left out.
-/

namespace StarSurvey.Network

/-- An address of four bytes. -/
structure Ipv4 where
  a : UInt8
  b : UInt8
  c : UInt8
  d : UInt8
  deriving DecidableEq, Repr

namespace Ipv4

/-- A byte in up to three decimal digits, without leading zeros. -/
def byte? (cs : List Char) : Option UInt8 := do
  let n ← Text.number? 10 cs
  if 255 < n ∨ 3 < cs.length ∨ (1 < cs.length ∧ cs.head? = some '0') then none
  else some n.toUInt8

/-- Four bytes between dots. -/
def ofChars? (cs : List Char) : Option Ipv4 := do
  match ← (Text.splitAt '.' cs).mapM byte? with
  | [a, b, c, d] => some ⟨a, b, c, d⟩
  | _ => none

def ofNat (n : Nat) : Ipv4 :=
  ⟨(n / 0x1000000).toUInt8, (n / 0x10000).toUInt8, (n / 0x100).toUInt8, n.toUInt8⟩

def text (i : Ipv4) : String :=
  ".".intercalate ([i.a, i.b, i.c, i.d].map fun b => toString b.toNat)

/-- The two groups that the address takes in a longer one. -/
def groups (i : Ipv4) : List UInt16 :=
  [i.a.toUInt16 * 256 + i.b.toUInt16, i.c.toUInt16 * 256 + i.d.toUInt16]

end Ipv4

/-- An address of eight groups of two bytes. -/
structure Ipv6 where
  groups : List UInt16
  length_groups : groups.length = 8
  deriving DecidableEq

namespace Ipv6

def ofGroups? (gs : List UInt16) : Option Ipv6 :=
  if h : gs.length = 8 then some ⟨gs, h⟩ else none

/-- A group in up to four hexadecimal digits. -/
def group? (cs : List Char) : Option UInt16 := do
  let n ← Text.number? 16 cs
  if 4 < cs.length then none else some n.toUInt16

/-- The last part of an address, which may be a dotted one that stands for two groups. -/
def ending? (cs : List Char) : Option (List UInt16) :=
  match Ipv4.ofChars? cs with
  | some i => some i.groups
  | none => (group? cs).map ([·])

/-- Groups between colons; none at all if there is no text. -/
def front? (cs : List Char) : Option (List UInt16) :=
  if cs.isEmpty then some [] else (Text.splitAt ':' cs).mapM group?

/-- Groups between colons, at the end of an address. -/
def back? (cs : List Char) : Option (List UInt16) :=
  if cs.isEmpty then some []
  else do
    let fields := Text.splitAt ':' cs
    return (← fields.dropLast.mapM group?) ++ (← ending? (fields.getLast?.getD []))

/-- What stands before and behind the first pair of colons. -/
def atGap? : List Char → Option (List Char × List Char)
  | ':' :: ':' :: cs => some ([], cs)
  | c :: cs => (atGap? cs).map fun (before, behind) => (c :: before, behind)
  | [] => none

/-- Eight groups, or fewer around a gap that stands for at least one group of zeros. -/
def ofChars? (cs : List Char) : Option Ipv6 :=
  match atGap? cs with
  | none => do if cs.isEmpty then none else ofGroups? (← back? cs)
  | some (before, behind) => do
    let front ← front? before
    let back ← back? behind
    let missing := 8 - (front.length + back.length)
    if missing = 0 then none else ofGroups? (front ++ List.replicate missing 0 ++ back)

/-- Where the longest row of zeros begins, and how long it is. -/
def zeroRow (gs : List UInt16) : Nat × Nat :=
  (List.range gs.length).foldl (fun best i =>
    let n := ((gs.drop i).takeWhile (· = 0)).length
    if best.2 < n then (i, n) else best) (0, 0)

/-- Groups between colons. -/
def groupsText (gs : List UInt16) : String := ":".intercalate (gs.map fun g => Text.digits 16 g.toNat)

def text (i : Ipv6) : String :=
  let (start, length) := zeroRow i.groups
  if length < 2 then groupsText i.groups
  else groupsText (i.groups.take start) ++ "::" ++ groupsText (i.groups.drop (start + length))

end Ipv6

end StarSurvey.Network
