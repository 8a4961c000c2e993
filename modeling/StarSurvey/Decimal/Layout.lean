import StarSurvey.Decimal.Shortest

/-!
# Laying out the digits of a double

A `Layout` says between which exponents a number is written positionally, with `.0` behind an
integral one, and how the others and the non-finite values are written.
-/

namespace StarSurvey.Decimal

/-- How the chosen digits of a double are written down. -/
structure Layout where
  /-- The least exponent of the leading digit that is written positionally. -/
  least : Int
  /-- The first exponent above that is not. -/
  beyond : Int
  deriving DecidableEq, Repr

namespace Layout

/-- Data files write `1e-5 ≤ |x| < 1e16` positionally and the rest as `d.ddde+16` or `1e-6`. -/
def data : Layout := ⟨-5, 16⟩

/-- Messages about configuration files write every number positionally: no double has a leading
digit outside these bounds. -/
def plain : Layout := ⟨-400, 400⟩

/-- The digits `d₁d₂…` with the point after the first `point` of them. -/
def positional (ds : List Char) (point : Int) : List Char :=
  if point ≤ 0 then ['0', '.'] ++ List.replicate (-point).toNat '0' ++ ds
  else
    let whole := ds.take point.toNat
    let fraction := ds.drop point.toNat
    whole ++ List.replicate (point.toNat - ds.length) '0' ++ ['.'] ++
      (if fraction.isEmpty then ['0'] else fraction)

/-- The digits as `d.ddd` with the exponent of the leading one; a positive exponent has its sign. -/
def scientific (ds : List Char) (lead : Int) : List Char :=
  let mantissa := match ds with
    | [] => []
    | [d] => [d]
    | d :: more => d :: '.' :: more
  mantissa ++ ['e', if lead < 0 then '-' else '+'] ++ Nat.toDigits 10 lead.natAbs

/-- A positive number with these digits. -/
def write (l : Layout) (d : Digits) : List Char :=
  let ds := Nat.toDigits 10 d.digits
  let lead := (ds.length : Int) - 1 + d.exponent
  if l.least ≤ lead && lead < l.beyond then positional ds (lead + 1) else scientific ds lead

/-- The text of a double: the fewest digits that read back, laid out. -/
def text (l : Layout) (x : Float) : String :=
  match Binary64.ofFloat x with
  | .nan => "NaN"
  | .infinite negative => if negative then "-inf" else "inf"
  | .finite negative m q =>
    let magnitude := if m = 0 then ['0', '.', '0'] else l.write (Digits.shortest m q)
    String.ofList (if negative then '-' :: magnitude else magnitude)

end Layout

end StarSurvey.Decimal
