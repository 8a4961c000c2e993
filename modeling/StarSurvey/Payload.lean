import StarSurvey.Calendar.Timestamp
import StarSurvey.Json.Document

/-!
# Payloads for rehearsals

The body that a node would send, built up field by field, also into one that no node would send.
Members are sorted by key, and each key stands once.
-/

namespace StarSurvey

/-- The members of a body, sorted by key. -/
structure Payload where
  members : List (String × Json.Value)

namespace Payload

def setField (p : Payload) (field : String) (v : Json.Value) : Payload :=
  ⟨Json.insertMember field v p.members⟩

/-- Takes a field out. -/
def without (p : Payload) (field : String) : Payload := ⟨Json.eraseMember field p.members⟩

def star (p : Payload) (starClass description : String) : Payload :=
  p.setField "star_type"
    (.object [("class", .string starClass), ("description", .string description)])

/-- Sets the position. A coordinate that is not finite becomes a null. -/
def position (p : Payload) (x y z : Float) : Payload :=
  let coord (x : Float) : Json.Value := if x.isFinite then .float x else .null
  p.setField "position" (.object [("x", coord x), ("y", coord y), ("z", coord z)])

def lastSeenField : String := "last_seen_at"

/-- Sets the time as a text, which may be any. -/
def lastSeen (p : Payload) (text : String) : Payload := p.setField lastSeenField (.string text)

/-- A yellow dwarf at the origin, seen just now. -/
def ofName (name : String) (now : Calendar.Instant) : Payload :=
  ((((⟨[]⟩ : Payload).setField "name" (.string name)).star "G" "Yellow dwarf").position 0 0
    0).lastSeen now.truncate.timestamp

def field? (p : Payload) (field : String) : Option Json.Value := Json.lookupMember field p.members

/-- The body. -/
def toValue (p : Payload) : Json.Value := .object p.members

end Payload

end StarSurvey
