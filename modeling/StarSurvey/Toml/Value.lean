import StarSurvey.Misfit

/-!
# TOML values

The values that stand behind the `=` of a TOML document, and the tables that its lines build up.
-/

namespace StarSurvey.Toml

/-- How a table came about. It decides who may add to it later. -/
inductive Origin where
  /-- By a header of its own, or as an element of an array of tables. -/
  | defined
  /-- As a value in braces. -/
  | closed
  /-- On the way to a deeper header. -/
  | implied
  /-- By a dotted key. -/
  | dotted
  deriving DecidableEq, Repr

/-- A TOML value. The keys of a table stand in the order in which they were added. -/
inductive Value where
  | string (s : String)
  | integer (n : Int)
  | float (x : Float)
  | boolean (b : Bool)
  /-- A date, a time of day or both; nothing here depends on which. -/
  | time
  | list (vs : List Value)
  | table (origin : Origin) (entries : List (String × Value))
  /-- An array of tables, the entries of each. -/
  | tables (elements : List (List (String × Value)))

/-- Entries of a table in order. -/
abbrev Entries := List (String × Value)

/-- A value as it is found in place of another. A time counts as a map. -/
def Value.found : Value → Found
  | .string s => .text s
  | .integer n => .integer n
  | .float x => .float x
  | .boolean b => .boolean b
  | .time | .table .. => .map
  | .list _ | .tables _ => .sequence

def Entries.get? (es : Entries) (key : String) : Option Value := List.lookup key es

/-- Puts a value behind a key: in its place if the key is there, else at the end. -/
def Entries.put (es : Entries) (key : String) (v : Value) : Entries :=
  if es.any fun e => e.1 == key then es.map fun e => if e.1 == key then (key, v) else e
  else es ++ [(key, v)]

def Entries.erase (es : Entries) (key : String) : Entries := es.filter fun e => e.1 != key

/-- TOML writes numbers in messages positionally and has no null. -/
def wording : Wording := ⟨"unit value", .plain⟩

end StarSurvey.Toml
