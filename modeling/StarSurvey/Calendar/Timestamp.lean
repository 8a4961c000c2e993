import StarSurvey.Calendar.Instant

/-!
# The text of an instant

`YYYY-MM-DDTHH:MM:SSZ` in UTC, with three, six or nine digits of a fraction where there is one:
the fewest of the three that are exact. A year outside 0 to 9999 carries its sign.
-/

namespace StarSurvey.Calendar

/-- The digits of a number, filled up with zeros in front. -/
def padded (width n : Nat) : List Char :=
  let ds := Nat.toDigits 10 n
  List.replicate (width - ds.length) '0' ++ ds

/-- A year: four digits, or a sign and at least four. -/
def yearText (y : Int) : List Char :=
  if 0 ≤ y ∧ y ≤ 9999 then padded 4 y.toNat
  else (if y < 0 then '-' else '+') :: padded 4 y.natAbs

/-- The fraction of a second, if it is not zero. -/
def fractionText (nano : Nat) : List Char :=
  if nano = 0 then []
  else if nano % 1000000 = 0 then '.' :: padded 3 (nano / 1000000)
  else if nano % 1000 = 0 then '.' :: padded 6 (nano / 1000)
  else '.' :: padded 9 nano

namespace Instant

def timestampChars (i : Instant) : List Char :=
  let d := i.date
  yearText d.year ++ ['-'] ++ padded 2 d.month ++ ['-'] ++ padded 2 d.day ++ ['T'] ++
    padded 2 i.hour ++ [':'] ++ padded 2 i.minuteOfHour ++ [':'] ++ padded 2 i.second ++
    fractionText i.nano ++ ['Z']

def timestamp (i : Instant) : String := String.ofList i.timestampChars

end Instant

end StarSurvey.Calendar
