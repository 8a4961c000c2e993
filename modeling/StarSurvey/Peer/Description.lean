import StarSurvey.Record
import StarSurvey.Text.Blank
import StarSurvey.Yaml.Shape

/-!
# What a node says of itself

A node serves one star system, which is described in a YAML text.
-/

namespace StarSurvey.Peer

/-- The star system of a node. -/
structure Description where
  name : String
  /-- The class of the star as it is written. -/
  starClass : String
  starDescription : String
  position : Position
  deriving DecidableEq

namespace Description

/-- The system of a node that is given none. -/
def default : Description := ⟨"Sol", "G", "Yellow dwarf", .origin⟩

/-! ## Shapes -/

/-- What is known of a star while it is read. -/
structure StarParts where
  starClass : Option String := none
  description : Option String := none

/-- The fields of a star: its class and a description. -/
def starShape : Yaml.Shape StarParts (String × String) where
  name := "StarType"
  fields :=
    [.of "class" (·.starClass) (fun p c => { p with starClass := some c }) Yaml.readText,
     .of "description" (·.description) (fun p d => { p with description := some d }) Yaml.readText]
  none := {}
  whole p := do
    return (← Yaml.need "class" p.starClass, ← Yaml.need "description" p.description)

def positionShape : Yaml.Shape Position.Parts Position where
  name := "Position"
  fields :=
    [.of "x" (·.x) (fun p x => { p with x := some x }) Yaml.readFloat,
     .of "y" (·.y) (fun p y => { p with y := some y }) Yaml.readFloat,
     .of "z" (·.z) (fun p z => { p with z := some z }) Yaml.readFloat]
  none := {}
  whole p := do return ⟨← Yaml.need "x" p.x, ← Yaml.need "y" p.y, ← Yaml.need "z" p.z⟩

/-- What is known of a system while it is read. -/
structure Parts where
  name : Option String := none
  star : Option (String × String) := none
  position : Option Position := none

/-- The fields of a system. Without a position it is at the origin. -/
def shape : Yaml.Shape Parts Description where
  name := "NodeConfig"
  fields :=
    [.of "name" (·.name) (fun p n => { p with name := some n }) Yaml.readText,
     .of "star_type" (·.star) (fun p t => { p with star := some t }) starShape.read,
     .of "position" (·.position) (fun p q => { p with position := some q }) positionShape.read]
  none := {}
  whole p := do
    let name ← Yaml.need "name" p.name
    let (starClass, description) ← Yaml.need "star_type" p.star
    return ⟨name, starClass, description, p.position.getD .origin⟩

/-! ## Reading -/

/-- Why a text describes no system. -/
inductive Unreadable where
  /-- It holds something else, or is malformed in front of or behind that. -/
  | undecoded (e : Yaml.Error) (isWellFormed : Bool)
  /-- The name is blank. -/
  | blankName
  deriving DecidableEq

/-- The wording of a fault and of its cause. -/
def Unreadable.chain : Unreadable → List String
  | .undecoded e _ => ["invalid node yaml", e.message]
  | .blankName => ["node name must not be empty"]

/-- The system that a text describes. Blanks alone describe the system of a node that is given
none. -/
def ofText (text : String) : Except Unreadable Description :=
  if Text.isAllBlank text then .ok default
  else
    let d := Yaml.Document.ofText text
    match d.decode shape.read with
    | .error e => .error (.undecoded e d.fault.isNone)
    | .ok s => if Text.isAllBlank s.name then .error .blankName else .ok s

/-! ## What is served -/

/-- The clock's text, to the second. Years that have no four digits have no text. -/
def clockText (now : Calendar.Instant) : String :=
  let year := now.date.year
  if 0 ≤ year ∧ year ≤ 9999 then now.truncate.timestamp else ""

/-- The system as a node reports it. -/
def toValue (d : Description) (lastSeen : String) : Json.Value :=
  .object
    [("name", .string d.name),
     ("star_type", .object
        [("class", .string d.starClass), ("description", .string d.starDescription)]),
     ("position", d.position.toValue), ("last_seen_at", .string lastSeen)]

end Description

end StarSurvey.Peer
