import StarSurvey.Collection
import StarSurvey.Stats

/-!
# The console report

One line for each node as its outcome arrives, then the summary. What is written may go into a pipe
that closes: then the bytes that still fit are taken, and the rest is lost. A lost line does not
stop a survey and is only remembered; a lost summary is an error.
-/

namespace StarSurvey

/-- What a report is written to. -/
structure Console where
  /-- How many more bytes are taken, if there is an end. -/
  room : Option Nat
  /-- The bytes that were taken. -/
  written : List UInt8 := []
  /-- A line about a node did not fit. -/
  lineLost : Bool := false
  deriving DecidableEq

namespace Console

def endless : Console := { room := none }

/-- Writes bytes as far as they fit; whether all did. -/
def put (c : Console) (bs : List UInt8) : Console × Bool :=
  match c.room with
  | none => ({ c with written := c.written ++ bs }, true)
  | some n =>
    ({ c with room := some (n - bs.length), written := c.written ++ bs.take n }, bs.length ≤ n)

/-- Writes one piece after the other and stops at the first that does not fit. -/
def putAll (c : Console) : List String → Console × Bool
  | [] => (c, true)
  | piece :: pieces =>
    match c.put (Text.bytes piece) with
    | (c, true) => c.putAll pieces
    | (c, false) => (c, false)

/-- Writes a line about a node. -/
def line (c : Console) (pieces : List String) : Console :=
  let (c, whole) := c.putAll (pieces ++ ["\n"])
  { c with lineLost := c.lineLost || !whole }

def recordPieces (address : String) (r : Record) : List String :=
  ["Received data from ", address, ": ", r.name, " (class ", r.starType.starClass.symbol, ", ",
    r.starType.description, ")"]

def failurePieces (e : FetchError) : List String :=
  ["Failed to fetch data from ", e.address, " (", e.stage.text, " error): ", e.message]

def outcomePieces (o : Outcome) : List String :=
  match o.result with
  | .ok r => recordPieces o.address r
  | .error e => failurePieces e

def report (c : Console) (o : Outcome) : Console := c.line (outcomePieces o)

/-- Writes the summary; whether all of it got through. A console that is full at the end does not
let it through. -/
def summary (c : Console) (s : Stats) : Console × Bool :=
  let (c, whole) := c.putAll s.summaryPieces
  (c, whole && c.room != some 0)

/-- What is said of a pipe that is closed. -/
def closedMessage : String := "Broken pipe (os error 32)"

end Console

end StarSurvey
