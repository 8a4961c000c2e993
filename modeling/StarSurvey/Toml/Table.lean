import StarSurvey.Toml.Value

/-!
# Building the tables of a document

A document is a sequence of statements: headers, and assignments to a dotted key below the last
header. A table may be defined once, and one in braces is complete. A header may go through all other
tables and may define a table that was only implied; a dotted key adds only to tables that dotted
keys made.
-/

namespace StarSurvey.Toml

/-- One statement of a document. -/
inductive Statement where
  /-- `[a.b]`, as `[a]` and the last key. -/
  | header (path : List String) (key : String)
  /-- `[[a.b]]`, likewise. -/
  | arrayHeader (path : List String) (key : String)
  /-- `a.b = value`, likewise. -/
  | assign (path : List String) (key : String) (value : Value)

/-- Changes the table at the end of a path of headers. Missing tables on the way are implied; in an
array of tables the way leads through the last element. -/
def alongHeaders (f : Entries → Option Entries) : List String → Entries → Option Entries
  | [], es => f es
  | k :: ks, es => do
    match es.get? k with
    | none => return es.put k (.table .implied (← alongHeaders f ks []))
    | some (.table .closed _) => none
    | some (.table origin sub) => return es.put k (.table origin (← alongHeaders f ks sub))
    | some (.tables elements) =>
      let last ← elements.getLast?
      return es.put k (.tables (elements.dropLast ++ [← alongHeaders f ks last]))
    | some _ => none

/-- Changes the table at the end of a dotted key, whose own table has an origin. Missing tables are
made; tables that have a header or stand in braces are closed to dotted keys. -/
def alongDots (f : Entries → Option Entries) (origin : Origin) (dotted : Bool) :
    List String → Entries → Option Entries
  | [], es => if dotted = (origin = .dotted) then f es else none
  | k :: ks, es => do
    match es.get? k with
    | none => return es.put k (.table .dotted (← alongDots f .dotted dotted ks []))
    | some (.table .defined _) | some (.table .closed _) => none
    | some (.table o sub) => return es.put k (.table o (← alongDots f o dotted ks sub))
    | some (.tables elements) =>
      let last ← elements.getLast?
      return es.put k (.tables (elements.dropLast ++ [← alongDots f .defined dotted ks last]))
    | some _ => none

/-- Adds a key that must be new. -/
def addNew (key : String) (v : Value) (es : Entries) : Option Entries :=
  if (es.get? key).isSome then none else some (es.put key v)

/-- Assigns to a dotted key of a table. -/
def assign (path : List String) (key : String) (v : Value) (es : Entries) : Option Entries :=
  alongDots (addNew key v) .defined (!path.isEmpty) path es

/-- Defines a table. One that was implied keeps its content and moves to the end. -/
def define (key : String) (es : Entries) : Option Entries :=
  match es.get? key with
  | none => some (es.put key (.table .defined []))
  | some (.table .implied sub) => some ((es.erase key).put key (.table .defined sub))
  | some _ => none

/-- Adds an empty table to an array of tables. -/
def extend (key : String) (es : Entries) : Option Entries :=
  match es.get? key with
  | none => some (es.put key (.tables [[]]))
  | some (.tables elements) => some (es.put key (.tables (elements ++ [[]])))
  | some _ => none

/-- A document as far as it is built: its root, and the path of the last header. -/
structure Building where
  root : Entries
  current : List String

def Building.step (b : Building) : Statement → Option Building
  | .header path key => do
    return ⟨← alongHeaders (define key) path b.root, path ++ [key]⟩
  | .arrayHeader path key => do
    return ⟨← alongHeaders (extend key) path b.root, path ++ [key]⟩
  | .assign path key v => do
    return ⟨← alongHeaders (assign path key v) b.current b.root, b.current⟩

/-- The root table that some statements build, if they are consistent. -/
def Entries.ofStatements? (ss : List Statement) : Option Entries :=
  (ss.foldlM Building.step ⟨[], []⟩).map (·.root)

end StarSurvey.Toml
