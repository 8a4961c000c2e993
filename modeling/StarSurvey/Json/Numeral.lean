import StarSurvey.Json.Reader

/-!
# Numbers

A numeral is read as it stands: sign, whole digits, fraction digits, exponent. Its value is an
integer if it is written as one and fits 64 bits. Otherwise as many digits as fit 64 bits are
collected into a significand, which is made a double and then scaled by a power of ten: two
roundings, so the value is not always the nearest double.
-/

namespace StarSurvey.Json

def digitsValue (ds : List UInt8) : Nat := ds.foldl (fun n d => 10 * n + (d.toNat - 0x30)) 0

/-- A number. An integer is at least `-2^63` and below `2^64`. -/
inductive Number where
  | integer (n : Int)
  | float (x : Float)
  deriving DecidableEq

def Number.toFloat : Number → Float
  | .integer n => if n < 0 then -n.natAbs.toUInt64.toFloat else n.natAbs.toUInt64.toFloat
  | .float x => x

/-- A number as it is found. -/
def Number.found : Number → Found
  | .integer n => .integer n
  | .float x => .float x

/-- The digits behind an `e`, with the sign in front of them. -/
structure Exponent where
  negative : Bool
  digits : List UInt8
  deriving DecidableEq

/-- A number as it is written. -/
structure Numeral where
  negative : Bool
  whole : List UInt8
  fraction : List UInt8
  exponent : Option Exponent
  deriving DecidableEq

/-- One zero, or digits that do not begin with a zero. -/
def readWhole (atEnd : Cause) : Reader (List UInt8) := do
  match ← next with
  | none => fail atEnd
  | some d =>
    if d = 0x30 then
      if (← peek).any isDigit then failPast .invalidNumber else pure [d]
    else if isDigit d then fun bs => .ok (d :: bs.takeWhile isDigit, bs.dropWhile isDigit)
    else fail .invalidNumber

/-- The digits behind the point, at least one. -/
def readFraction (atEnd : Cause) : Reader (List UInt8) := do
  match ← peek with
  | none => failPast atEnd
  | some d =>
    if isDigit d then fun bs => .ok (bs.takeWhile isDigit, bs.dropWhile isDigit)
    else failPast .invalidNumber

/-- The exponent behind the `e`: a sign or none, and at least one digit. -/
def readExponent (atEnd : Cause) : Reader Exponent := do
  let sign ← peek
  if sign = some 0x2B ∨ sign = some 0x2D then pass
  match ← next with
  | none => fail atEnd
  | some d =>
    if isDigit d then
      fun bs => .ok (⟨sign = some 0x2D, d :: bs.takeWhile isDigit⟩, bs.dropWhile isDigit)
    else fail .invalidNumber

def readSign : Reader Bool := do
  if (← peek) = some 0x2D then do pass; pure true else pure false

/-- The digits behind a point, if there is one. -/
def readFractionPart (atEnd : Cause) : Reader (List UInt8) := do
  if (← peek) = some 0x2E then do pass; readFraction atEnd else pure []

/-- The exponent behind an `e`, if there is one. -/
def readExponentPart (atEnd : Cause) : Reader (Option Exponent) := do
  if (← peek).any (fun b => b = 0x65 ∨ b = 0x45) then do pass; some <$> readExponent atEnd
  else pure none

/-- A numeral; `atEnd` is the cause if the text ends within it. -/
def readNumeral (atEnd : Cause) : Reader Numeral := do
  let negative ← readSign
  let whole ← readWhole atEnd
  let fraction ← readFractionPart atEnd
  let exponent ← readExponentPart atEnd
  pure ⟨negative, whole, fraction, exponent⟩

/-- Appends digits to a significand as long as it stays below `2^64`; says how many were left. -/
def collect (significand : Nat) : List UInt8 → Nat × Nat
  | [] => (significand, 0)
  | d :: ds =>
    let more := 10 * significand + (d.toNat - 0x30)
    if more < UInt64.size then collect more ds else (significand, ds.length + 1)

def powerOfTen (e : Nat) : Float := Float.ofScientific 1 false e

/-- Divides by `10^e`, by `10^308` at a time as long as that is needed and makes a difference. Two
such steps bring every significand to zero, so `steps` need not be large. -/
def divideByPower (f : Float) (e : Nat) : (steps : Nat) → Float
  | 0 => f
  | steps + 1 =>
    if e ≤ 308 then f / powerOfTen e
    else if f == 0 then f
    else divideByPower (f / powerOfTen 308) (e - 308) steps

/-- The significand times `10^e`; nothing if that is infinite. -/
def scale (significand : Nat) (e : Int) : Option Float :=
  let f := significand.toUInt64.toFloat
  if e < 0 then some (divideByPower f e.natAbs 4)
  else if e ≤ 308 then
    let product := f * powerOfTen e.natAbs
    if product.isInf then none else some product
  else if f == 0 then some f
  else none

/-- The bound of the exponent as it is written. -/
def maxExponent : Nat := 0x7FFFFFFF

/-- How many digits of an exponent stand behind the one with which it passes its bound. -/
def digitsBeyond : Nat → List UInt8 → Option Nat
  | _, [] => none
  | n, d :: ds =>
    let more := 10 * n + (d.toNat - 0x30)
    if maxExponent < more then some ds.length else digitsBeyond more ds

namespace Numeral

/-- Written without point and exponent. -/
def isWhole (n : Numeral) : Bool := n.fraction.isEmpty && n.exponent.isNone

/-- The significand and the exponent that goes with it, before the written exponent. -/
def significand (n : Numeral) : Nat × Int :=
  let (front, more) := collect 0 n.whole
  let (all, dropped) := collect front n.fraction
  (all, (more : Int) - ((n.fraction.length - dropped : Nat) : Int))

/-- The magnitude as a double, or how many digits stand behind the one that made it too large. -/
def magnitude (n : Numeral) : Except Nat Float :=
  let (s, e) := n.significand
  match n.exponent with
  | none => (scale s e).elim (.error 0) .ok
  | some x =>
    match digitsBeyond 0 x.digits with
    | some rest => if s ≠ 0 ∧ ¬ x.negative then .error rest else .ok 0
    | none =>
      let d : Int := digitsValue x.digits
      (scale s (if x.negative then e - d else e + d)).elim (.error 0) .ok

/-- The integer that a numeral is, if it is written as one and fits. A negative zero does not. -/
def integer? (n : Numeral) : Option Int :=
  if n.isWhole then
    let v := digitsValue n.whole
    if n.negative then (if 0 < v ∧ v ≤ 0x8000000000000000 then some (-(v : Int)) else none)
    else if v < UInt64.size then some v else none
  else none

def value (n : Numeral) : Except Nat Number :=
  match n.integer? with
  | some i => .ok (.integer i)
  | none => n.magnitude.map fun f => .float (if n.negative then -f else f)

end Numeral

def readNumber : Reader Number := do
  let n ← readNumeral .endInValue
  match n.value with
  | .ok v => pure v
  | .error back => fun bs => .error ⟨.numberOutOfRange, bs.length + back⟩

end StarSurvey.Json
