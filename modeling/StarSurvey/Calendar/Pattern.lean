import StarSurvey.Calendar.Timestamp

/-!
# The text of an instant by a pattern

A pattern lists the parts of the text of an instant in UTC: numbers of the calendar and of the clock,
and the characters between them. No part is a fraction of a second.
-/

namespace StarSurvey.Calendar

/-- A part of a pattern. -/
inductive Directive where
  /-- `%Y`: four digits, or a sign and at least four. -/
  | year
  /-- `%m`, two digits. -/
  | month
  /-- `%d`, two digits. -/
  | day
  /-- `%H`, two digits from 00 to 23. -/
  | hour
  /-- `%M`, two digits. -/
  | minute
  /-- `%S`, two digits; 60 in a leap second. -/
  | second
  /-- A character that stands for itself. -/
  | mark (c : Char)
  deriving DecidableEq, Repr

def Directive.chars (i : Instant) : Directive → List Char
  | .year => yearText i.date.year
  | .month => padded 2 i.date.month
  | .day => padded 2 i.date.day
  | .hour => padded 2 i.hour
  | .minute => padded 2 i.minuteOfHour
  | .second => padded 2 i.second
  | .mark c => [c]

/-- The text of the instant by a pattern. -/
def Instant.format (i : Instant) (pattern : List Directive) : String :=
  String.ofList (pattern.flatMap (Directive.chars i))

end StarSurvey.Calendar
