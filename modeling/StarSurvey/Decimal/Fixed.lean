import StarSurvey.Decimal.Binary64

/-!
# A fixed number of places

The exact value of a double, rounded to so many decimal places; an exact half goes to the even
neighbour. There is never an exponent.
-/

namespace StarSurvey.Decimal

/-- The quotient rounded to the nearest natural, a half to the even one. -/
def roundHalfEven (num den : Nat) : Nat :=
  let quotient := num / den
  let rest := num % den
  if 2 * rest < den then quotient
  else if den < 2 * rest then quotient + 1
  else quotient + quotient % 2

/-- Digits with so many of them behind the point, and at least one before it. -/
def withPoint (n places : Nat) : List Char :=
  let ds := Nat.toDigits 10 n
  let padded := List.replicate (places + 1 - ds.length) '0' ++ ds
  let whole := padded.length - places
  padded.take whole ++ (if places = 0 then [] else '.' :: padded.drop whole)

/-- The text of a double with `places` decimal places. -/
def fixed (places : Nat) (x : Float) : String :=
  match Binary64.ofFloat x with
  | .nan => "NaN"
  | .infinite negative => if negative then "-inf" else "inf"
  | .finite negative m q =>
    let v := Ratio.scale (m * Nat.pow 10 places) 2 q
    let magnitude := withPoint (roundHalfEven v.num v.den) places
    String.ofList (if negative then '-' :: magnitude else magnitude)

end StarSurvey.Decimal
