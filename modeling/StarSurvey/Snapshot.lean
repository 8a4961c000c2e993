import StarSurvey.Calendar.Pattern
import StarSurvey.Record

/-!
# Snapshots

The systems of one survey in the order in which they arrived, stamped with the time at which the
first of them was last seen.
-/

namespace StarSurvey

/-- The result of a survey, as it is kept in a file. -/
structure Snapshot where
  systems : List Record
  timestamp : String
  nodeCount : Nat
  deriving DecidableEq

namespace Snapshot

/-- The pattern of the timestamp: `%Y-%m-%dT%H:%M:%SZ`. -/
def timestampPattern : List Calendar.Directive :=
  [.year, .mark '-', .month, .mark '-', .day, .mark 'T', .hour, .mark ':', .minute, .mark ':',
    .second, .mark 'Z']

/-- The snapshot of some records; of no records there is none. -/
def ofRecords? : List Record → Option Snapshot
  | [] => none
  | r :: rs =>
    some ⟨r :: rs, r.lastSeen.format timestampPattern, (r :: rs).length⟩

/-- What is said when there is nothing to make a snapshot of. -/
def emptyMessage : String := "cannot build a snapshot from zero records"

/-- What is known of a snapshot while it is read. -/
structure Parts where
  systems : Option (List Record) := none
  timestamp : Option String := none
  nodeCount : Option Nat := none

def shape : Json.Shape Parts Snapshot where
  name := "GalaxySnapshot"
  fields :=
    [.of "systems" (·.systems) (fun p s => { p with systems := some s })
      (Json.readList Record.shape.read),
     .of "timestamp" (·.timestamp) (fun p t => { p with timestamp := some t }) Json.readText,
     .of "node_count" (·.nodeCount) (fun p n => { p with nodeCount := some n }) Json.readCount]
  none := {}
  whole p := do return ⟨← p.systems, ← p.timestamp, ← p.nodeCount⟩

/-- Decodes a snapshot file. -/
def ofBytes (text : List UInt8) : Except Json.Error Snapshot := Json.decode shape.read text

def toValue (s : Snapshot) : Json.Value :=
  .object
    [("systems", .list (s.systems.map Record.toValue)), ("timestamp", .string s.timestamp),
     ("node_count", .count s.nodeCount)]

/-- The content of the snapshot file. -/
def fileText (s : Snapshot) : String := s.toValue.pretty

end Snapshot

end StarSurvey
