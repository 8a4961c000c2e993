import StarSurvey.Yaml.Core

/-!
# Reading data from documents

A shape says which fields a map has and what becomes of their values; other keys are passed over.
What does not fit is reported with the path to it and the place where it begins. A document is read
in its order, so of two faults the one in front is reported, be it in the text or in the data.
-/

namespace StarSurvey.Yaml

/-- The keys on the way to a node. -/
abbrev Path := List String

/-- Why data cannot be read. -/
inductive Error where
  /-- The text is malformed. -/
  | malformed (f : Fault)
  /-- Data at a path and a place does not fit. -/
  | misfit (m : Misfit) (path : Path) (mark : Mark)
  deriving DecidableEq

def Error.message : Error → String
  | .malformed f => f.message
  | .misfit m path mark =>
    (if path.isEmpty then "" else ".".intercalate path ++ ": ") ++ m.message wording ++ mark.place

/-- Reads a value from a node at a path. -/
abbrev Decoder (α : Type) := Document → Path → Node → Except Error α

/-- A node that does not fit, or is lost. -/
def refuse {α : Type} (expected : String) (path : Path) (n : Node) : Except Error α :=
  match n with
  | .lost f => .error (.malformed f)
  | n => .error (.misfit (n.misfit expected) path n.mark)

/-- Passes over a node, which must not be lost. -/
def passOver (n : Node) : Except Error Unit :=
  match n.fault? with
  | some f => .error (.malformed f)
  | none => .ok ()

/-- The text of any scalar, as it is written. -/
def readScalar (expected : String) : Decoder String := fun d path n =>
  match d.resolve n with
  | .scalar _ _ _ s => .ok s
  | n => refuse expected path n

def readText : Decoder String := readScalar "a string"

/-- A number: a plain scalar, or a literal block whose tag says so. -/
def readFloat : Decoder Float := fun d path n =>
  let expected := "f64"
  match d.resolve n with
  | .scalar m style tag s =>
    let isNumber : Bool := style = .plain ∨ (style = .literal ∧ tag = some (typeTag "float"))
    match if isNumber then float? s else none with
    | some x => .ok x
    | none => refuse expected path (.scalar m style tag s)
  | n => refuse expected path n

/-- A field of a map, over what is known of the whole. -/
structure Field (σ : Type) where
  name : String
  isSet : σ → Bool
  read : σ → Decoder σ

/-- A field with a value of some type. -/
def Field.of {σ α : Type} (name : String) (value? : σ → Option α) (set : σ → α → σ)
    (read : Decoder α) : Field σ where
  name
  isSet s := (value? s).isSome
  read s d path n := set s <$> read d path n

/-- A map with certain fields. -/
structure Shape (σ α : Type) where
  name : String
  fields : List (Field σ)
  /-- Nothing is known. -/
  none : σ
  /-- The whole, or the first field that is missing. -/
  whole : σ → Except String α

/-- The key of a path that a node stands for. -/
def pathKey : Node → String
  | .scalar _ _ _ s => s
  | _ => "?"

namespace Shape

variable {σ α : Type}

/-- Reads the entries of a map that begins at a place. -/
def readEntries (s : Shape σ α) (d : Document) (path : Path) (m : Mark) :
    List (Node × Node) → σ → Except Error σ
  | [], parts => .ok parts
  | (k, v) :: rest, parts => do
    let key ← readScalar "field identifier" d path k
    match s.fields.find? fun f => f.name == key with
    | Option.none =>
      passOver v
      readEntries s d path m rest parts
    | some f =>
      if f.isSet parts then throw (.misfit (.duplicate key) path m)
      readEntries s d path m rest (← f.read parts d (path ++ [pathKey k]) v)

/-- Reads a map. An empty scalar is a map without entries. -/
def read (s : Shape σ α) : Decoder α := fun d path n =>
  let finish (m : Mark) (parts : σ) : Except Error α :=
    (s.whole parts).mapError fun field => .misfit (.missing field) path m
  match d.resolve n with
  | .map m entries => do finish m (← s.readEntries d path m entries s.none)
  | .scalar m style tag text =>
    if text.isEmpty ∧ style = .plain then finish m s.none
    else refuse ("struct " ++ s.name) path (.scalar m style tag text)
  | n => refuse ("struct " ++ s.name) path n

end Shape

/-- A part that has to be there. -/
def need {α : Type} (field : String) (a : Option α) : Except String α :=
  match a with
  | some a => .ok a
  | none => .error field

/-- Reads the data of a document, all of whose text has to be well-formed. -/
def Document.decode {α : Type} (d : Document) (r : Decoder α) : Except Error α := do
  let a ← r d [] d.root
  match d.fault with
  | some f => throw (.malformed f)
  | none => return a

end StarSurvey.Yaml
