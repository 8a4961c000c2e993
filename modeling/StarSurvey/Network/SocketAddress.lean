import StarSurvey.Network.Ip

/-!
# Addresses to listen at

An internet address with a port: `127.0.0.1:80`, `[::1]:80`, or `[fe80::1%3]:80` with a zone. Each
address has one text.
-/

namespace StarSurvey.Network

/-- An address and a port. -/
inductive SocketAddress where
  | v4 (i : Ipv4) (port : UInt16)
  | v6 (i : Ipv6) (zone : UInt32) (port : UInt16)
  deriving DecidableEq

namespace SocketAddress

/-- A number below a bound, in any number of digits. -/
def below? (bound : Nat) (cs : List Char) : Option Nat := do
  let n ← Text.number? 10 cs
  if n < bound then some n else none

def port? (cs : List Char) : Option UInt16 := (below? UInt16.size cs).map Nat.toUInt16

/-- What stands before the first mark, and what behind it. -/
def splitOnce? (mark : Char) (cs : List Char) : Option (List Char × List Char) :=
  match cs.dropWhile (· ≠ mark) with
  | [] => none
  | _ :: behind => some (cs.takeWhile (· ≠ mark), behind)

/-- A long address, maybe with a zone. -/
def zoned? (cs : List Char) : Option (Ipv6 × UInt32) :=
  match splitOnce? '%' cs with
  | none => (Ipv6.ofChars? cs).map (·, 0)
  | some (front, zone) => do
    return (← Ipv6.ofChars? front, (← below? UInt32.size zone).toUInt32)

/-- The address that a text stands for. -/
def ofText? (s : String) : Option SocketAddress :=
  match s.toList with
  | '[' :: cs => do
    let (inside, behind) ← splitOnce? ']' cs
    let (i, zone) ← zoned? inside
    match behind with
    | ':' :: digits => return .v6 i zone (← port? digits)
    | _ => none
  | cs => do
    let (front, digits) ← splitOnce? ':' cs
    return .v4 (← Ipv4.ofChars? front) (← port? digits)

def port : SocketAddress → UInt16
  | .v4 _ p => p
  | .v6 _ _ p => p

/-- The address is a long one. -/
def isV6 : SocketAddress → Bool
  | .v4 .. => false
  | .v6 .. => true

/-- The text of a long address; one that stands for a short one shows it. -/
def longText (i : Ipv6) : String :=
  match i.groups with
  | [0, 0, 0, 0, 0, 0xFFFF, g, h] =>
    "::ffff:" ++ (Ipv4.ofNat (g.toNat * UInt16.size + h.toNat)).text
  | _ => i.text

def text : SocketAddress → String
  | .v4 i p => i.text ++ ":" ++ toString p.toNat
  | .v6 i zone p =>
    "[" ++ longText i ++ (if zone = 0 then "" else "%" ++ toString zone.toNat) ++ "]:" ++
      toString p.toNat

/-- The address of the machine itself. -/
def isLoopback : SocketAddress → Bool
  | .v4 i _ => i.a == 127
  | .v6 i _ _ => i.groups == [0, 0, 0, 0, 0, 0, 0, 1]

/-- The address that stands for all of the machine. -/
def isAny : SocketAddress → Bool
  | .v4 i _ => i == ⟨0, 0, 0, 0⟩
  | .v6 i _ _ => i.groups.all (· = 0)

/-- What is said of a text that is no address. -/
def malformedMessage : String := "invalid socket address syntax"

end SocketAddress

end StarSurvey.Network
