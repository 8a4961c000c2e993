/-!
# The double nearest to a decimal

`nearest m e` is the double nearest to `m · 10^e`. Exponents that are certain to overflow or to
vanish are settled before any power of ten is formed.
-/

namespace StarSurvey.Decimal

/-- The double nearest to `m · 10^e`. -/
def nearest (m : Nat) (e : Int) : Float :=
  let digits : Int := (Nat.toDigits 10 m).length
  if m = 0 then 0
  else if 400 < e + digits then 1 / 0
  else if e + digits < -400 then 0
  else Float.ofScientific m (decide (e < 0)) e.natAbs

end StarSurvey.Decimal
