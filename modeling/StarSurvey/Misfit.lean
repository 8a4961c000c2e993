import StarSurvey.Decimal.Layout
import StarSurvey.Text.Quoted

/-!
# Data that does not fit

A well-formed document can still hold the wrong data: a number where a text belongs, a list that is
too short, a field that is missing or stands twice. `Misfit` names these causes for every format;
a `Wording` holds the few words in which the formats differ.
-/

namespace StarSurvey

/-- The kind of value that was found. -/
inductive Found where
  | nothing
  | boolean (b : Bool)
  | integer (n : Int)
  | float (x : Float)
  | text (s : String)
  | sequence
  | map
  deriving DecidableEq

/-- What a format calls a null and how it writes a number in a message. -/
structure Wording where
  nothing : String
  numbers : Decimal.Layout

/-- A number in words. Beyond 64 bits the width is named. -/
def integerText (n : Int) : String :=
  "integer `" ++ toString n ++ "`" ++
    (if 0x10000000000000000 ≤ n then " as u128" else if n < -0x8000000000000000 then " as i128" else "")

/-- A found value in words. -/
def Found.describe (w : Wording) : Found → String
  | .nothing => w.nothing
  | .boolean b => "boolean `" ++ (if b then "true" else "false") ++ "`"
  | .integer n => integerText n
  | .float x => "floating point `" ++ w.numbers.text x ++ "`"
  | .text s => "string " ++ Text.quoted s
  | .sequence => "sequence"
  | .map => "map"

/-- Why the data does not fit. -/
inductive Misfit where
  /-- A value of another type. -/
  | wrongType (found : Found) (expected : String)
  /-- A value of the right type that is out of bounds. -/
  | wrongValue (found : Found) (expected : String)
  /-- A list with too few elements. -/
  | wrongLength (length : Nat) (expected : String)
  /-- A field that does not occur. -/
  | missing (field : String)
  /-- A field that occurs again. -/
  | duplicate (field : String)
  deriving DecidableEq

def Misfit.message (w : Wording) : Misfit → String
  | .wrongType found expected => "invalid type: " ++ found.describe w ++ ", expected " ++ expected
  | .wrongValue found expected => "invalid value: " ++ found.describe w ++ ", expected " ++ expected
  | .wrongLength n expected => "invalid length " ++ toString n ++ ", expected " ++ expected
  | .missing field => "missing field `" ++ field ++ "`"
  | .duplicate field => "duplicate field `" ++ field ++ "`"

end StarSurvey
