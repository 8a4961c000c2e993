import StarSurvey.Calendar.Timestamp
import StarSurvey.Json.Shape
import StarSurvey.Json.Value
import StarSurvey.StarClass

/-!
# Star systems

A node reports one star system: its name, its star, where it is and when it was last seen. This is
the body of a reply, so a `Record` is decoded from JSON and written as JSON.
-/

namespace StarSurvey

/-- Class and description of a star. -/
structure StarType where
  starClass : StarClass
  description : String
  deriving DecidableEq

/-- Coordinates in the survey's space. -/
structure Position where
  x : Float
  y : Float
  z : Float
  deriving DecidableEq

/-- One star system as its node reports it. -/
structure Record where
  name : String
  starType : StarType
  position : Position
  lastSeen : Calendar.Instant
  deriving DecidableEq

namespace Position

/-- The centre of the survey's space. -/
def origin : Position := ⟨0, 0, 0⟩

/-- The Euclidean distance; the squares are added from left to right. -/
def distance (p q : Position) : Float :=
  let dx := p.x - q.x
  let dy := p.y - q.y
  let dz := p.z - q.z
  (dx * dx + dy * dy + dz * dz).sqrt

end Position

def Record.distance (r s : Record) : Float := r.position.distance s.position

/-! ## Reading -/

/-- What is known of a star while it is read. -/
structure StarType.Parts where
  starClass : Option StarClass := none
  description : Option String := none

def StarType.shape : Json.Shape StarType.Parts StarType where
  name := "StarType"
  fields :=
    [.of "class" (·.starClass) (fun p c => { p with starClass := some c })
      (StarClass.ofSymbol <$> Json.readText),
     .of "description" (·.description) (fun p d => { p with description := some d }) Json.readText]
  none := {}
  whole p := do return ⟨← p.starClass, ← p.description⟩

/-- What is known of a position while it is read. -/
structure Position.Parts where
  x : Option Float := none
  y : Option Float := none
  z : Option Float := none

def Position.shape : Json.Shape Position.Parts Position where
  name := "Position"
  fields :=
    [.of "x" (·.x) (fun p x => { p with x := some x }) Json.readFloat,
     .of "y" (·.y) (fun p y => { p with y := some y }) Json.readFloat,
     .of "z" (·.z) (fun p z => { p with z := some z }) Json.readFloat]
  none := {}
  whole p := do return ⟨← p.x, ← p.y, ← p.z⟩

/-- What is known of a star system while it is read. -/
structure Record.Parts where
  name : Option String := none
  starType : Option StarType := none
  position : Option Position := none
  lastSeen : Option Calendar.Instant := none

def Record.shape : Json.Shape Record.Parts Record where
  name := "SystemRecord"
  fields :=
    [.of "name" (·.name) (fun p n => { p with name := some n }) Json.readText,
     .of "star_type" (·.starType) (fun p t => { p with starType := some t }) StarType.shape.read,
     .of "position" (·.position) (fun p q => { p with position := some q }) Position.shape.read,
     .of "last_seen_at" (·.lastSeen) (fun p i => { p with lastSeen := some i }) Json.readInstant]
  none := {}
  whole p := do return ⟨← p.name, ← p.starType, ← p.position, ← p.lastSeen⟩

/-- Decodes the body of a reply. -/
def Record.ofBytes (body : List UInt8) : Except Json.Error Record :=
  Json.decode Record.shape.read body

/-! ## Writing -/

def StarType.toValue (t : StarType) : Json.Value :=
  .object [("class", .string t.starClass.symbol), ("description", .string t.description)]

def Position.toValue (p : Position) : Json.Value :=
  .object [("x", .float p.x), ("y", .float p.y), ("z", .float p.z)]

def Record.toValue (r : Record) : Json.Value :=
  .object
    [("name", .string r.name), ("star_type", r.starType.toValue),
     ("position", r.position.toValue), ("last_seen_at", .string r.lastSeen.timestamp)]

end StarSurvey
