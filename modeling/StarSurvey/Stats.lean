import StarSurvey.Decimal.Fixed
import StarSurvey.Record

/-!
# Statistics of a survey

How many systems there are, how they spread over the recognised classes, and how far they are from
each other on average. Systems of other classes count toward the total only.
-/

namespace StarSurvey

/-- How many systems have a class, and what part of all they are. -/
structure ClassShare where
  starClass : StarClass
  count : Nat
  /-- In percent, not rounded. -/
  percentage : Float
  deriving DecidableEq

/-- The statistics of some records. -/
structure Stats where
  total : Nat
  /-- The recognised classes that occur, hottest first. -/
  classes : List ClassShare
  /-- The mean over all pairs, if there is a pair. -/
  meanDistance : Option Float
  deriving DecidableEq

namespace Stats

/-- How often each class occurs among the records, one entry a class. -/
def tally (records : List Record) : List (StarClass × Nat) :=
  records.foldl (fun counts r => bump r.starType.starClass counts) []
where
  /-- One more of a class. -/
  bump (c : StarClass) : List (StarClass × Nat) → List (StarClass × Nat)
    | [] => [(c, 1)]
    | (d, n) :: rest => if c = d then (d, n + 1) :: rest else (d, n) :: bump c rest

/-- The shares of the recognised classes that occur. -/
def shares (records : List Record) : List ClassShare :=
  let counts := tally records
  StarClass.canonical.filterMap fun c =>
    (counts.lookup c).map fun n =>
      ⟨c, n, Float.ofNat n / Float.ofNat records.length * 100⟩

/-- Adds up the distances of all pairs: of the first system to every later one, then of the
second, and so on. -/
def distanceSum (acc : Float) : List Record → Float
  | [] => acc
  | r :: rs => distanceSum (rs.foldl (fun sum s => sum + r.distance s) acc) rs

/-- How many pairs there are, counted in words of 64 bits. -/
def pairCount (n : Nat) : Nat :=
  let n := n.toUInt64
  (n * (n - 1) / 2).toNat

/-- The mean distance over all pairs. -/
def meanDistance? (records : List Record) : Option Float :=
  if records.length < 2 then none
  else some (distanceSum 0 records / Float.ofNat (pairCount records.length))

def ofRecords (records : List Record) : Stats :=
  ⟨records.length, shares records, meanDistance? records⟩

def shareValue (s : ClassShare) : Json.Value :=
  .object
    [("class", .string s.starClass.symbol), ("count", .count s.count),
     ("percentage", .float s.percentage)]

def toValue (s : Stats) : Json.Value :=
  .object
    [("total", .count s.total), ("classes", .list (s.classes.map shareValue)),
     ("mean_distance", (s.meanDistance.map Json.Value.float).getD .null)]

/-- The pieces in which the summary is written, line by line. -/
def summaryPieces (s : Stats) : List String :=
  ["Collected data from ", toString s.total, " star systems\n", "Star class distribution:\n"] ++
    s.classes.flatMap (fun c =>
      [c.starClass.symbol, ": ", toString c.count, " (", Decimal.fixed 1 c.percentage, "%)\n"]) ++
    (match s.meanDistance with
      | none => []
      | some mean => ["Average distance between systems: ", Decimal.fixed 2 mean, "\n"])

/-- The summary as one text. -/
def summary (s : Stats) : String := String.join s.summaryPieces

end Stats

end StarSurvey
