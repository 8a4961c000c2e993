import StarSurvey.Decimal.Binary64

/-!
# The fewest digits that read back

Every real in an interval around a double rounds to it; the ends belong to the interval exactly
when the mantissa is even. Of the decimals in it, `Digits.shortest` takes one with the fewest
digits, of those the nearest to the double, and of two that are equally near the even one.

For 1, 2, …, 17 digits it looks at the two neighbours of the value on the grid of decimals with so
many digits. If any point of a grid lies in the interval, so does one of those two, hence the first
grid with a hit has the fewest digits.
-/

namespace StarSurvey.Decimal

/-- The decimal `digits · 10^exponent`. -/
structure Digits where
  digits : Nat
  exponent : Int
  deriving DecidableEq, Repr

namespace Digits

/-- How many decimal digits a number has; zero has none. -/
def count (n : Nat) : Nat := if n = 0 then 0 else (Nat.toDigits 10 n).length

/-- The exponent of the leading digit: `10^e ≤ num / den < 10^(e + 1)` for a positive value. -/
def leading (v : Ratio) : Int :=
  if v.den ≤ v.num then (count (v.num / v.den) : Int) - 1
  else -(count ((v.den + v.num - 1) / v.num - 1) : Int)

/-- The reals that round to a double, in quarters of the unit of its last place: from `low` to
`high` around the value `4 · m`, ends included or not. -/
structure Interval where
  low : Nat
  value : Nat
  high : Nat
  closed : Bool
  deriving DecidableEq, Repr

/-- The interval of the double `m · 2^q`. Below a power of two the doubles lie twice as dense, so
the lower half of the interval is half as wide there, except at the smallest exponent. -/
def Interval.of (m : Nat) (q : Int) : Interval :=
  let narrow := m = 0x10000000000000 ∧ q ≠ -1074
  ⟨4 * m - (if narrow then 1 else 2), 4 * m, 4 * m + 2, m % 2 = 0⟩

/-- The number `c · a` stands in the interval that is scaled by `b`. -/
def Interval.holds (i : Interval) (b c : Nat) : Bool :=
  if i.closed then i.low * b ≤ c && c ≤ i.high * b else i.low * b < c && c < i.high * b

/-- The nearest point in the interval of the grid `10^g`, if one of the two neighbours of the value
is in it; of two that are equally near, the even one. Both sides are scaled to naturals: a grid step
is `a`, a quarter of the last place `b`. -/
def onGrid? (i : Interval) (q g : Int) : Option Nat :=
  let quarter := Ratio.scale 1 2 (q - 2)
  let step := Ratio.scale 1 10 g
  let a := step.num * quarter.den
  let b := quarter.num * step.den
  let below := i.value * b / a
  let above := below + 1
  match i.holds b (below * a), i.holds b (above * a) with
  | true, true =>
    let down := i.value * b - below * a
    let up := above * a - i.value * b
    some (if down < up ∨ (down = up ∧ below % 2 = 0) then below else above)
  | true, false => some below
  | false, true => some above
  | false, false => none

/-- The first grid with a hit, from `k` digits on; seventeen digits always suffice. -/
def search (i : Interval) (q lead : Int) (k : Nat) : Nat → Digits
  | 0 => ⟨0, 0⟩
  | more + 1 =>
    let g := lead + 1 - k
    match onGrid? i q g with
    | some n => if n % 10 = 0 then ⟨n / 10, g + 1⟩ else ⟨n, g⟩
    | none => search i q lead (k + 1) more

/-- The fewest digits that read back as `m · 2^q`, for a positive `m`. -/
def shortest (m : Nat) (q : Int) : Digits :=
  search (.of m q) q (leading (.scale m 2 q)) 1 17

end Digits

end StarSurvey.Decimal
