import StarSurvey.Calendar.Date

/-!
# Instants

An instant is a minute, counted from 1970-01-01T00:00 in UTC, a second of that minute and
nanoseconds. Second 60 is a leap second: it is kept apart from the first second of the next minute.
Time zones shift whole minutes, so the second and the fraction never take part in a shift.
-/

namespace StarSurvey.Calendar

def minuteOfDay (d : Date) : Int := d.dayNumber * 1440

/-- The first minute that is covered: the start of the year -262143. -/
def firstMinute : Int := minuteOfDay ⟨-262143, 1, 1⟩

/-- The last minute that is covered: the end of the year 262142. -/
def lastMinute : Int := minuteOfDay ⟨262142, 12, 31⟩ + 1439

/-- A point in time, to the nanosecond. -/
structure Instant where
  /-- Minutes since 1970-01-01T00:00 UTC. -/
  minute : Int
  /-- The second of the minute; 60 in a leap second. -/
  second : Nat
  /-- The nanosecond of the second. -/
  nano : Nat
  covered : firstMinute ≤ minute ∧ minute ≤ lastMinute
  second_le : second ≤ 60
  nano_lt : nano < 1000000000
  deriving DecidableEq

namespace Instant

def truncate (i : Instant) : Instant := { i with nano := 0, nano_lt := by decide }

/-- Seconds since the epoch, leap seconds counted as a second of their own minute. -/
def seconds (i : Instant) : Int := i.minute * 60 + i.second

def date (i : Instant) : Date := .ofDayNumber (i.minute / 1440)

def hour (i : Instant) : Nat := (i.minute % 1440 / 60).toNat

def minuteOfHour (i : Instant) : Nat := (i.minute % 60).toNat

end Instant

end StarSurvey.Calendar
