/-!
# The exact value of a double

A finite double is a sign and `m · 2^q` with natural `m`. `Binary64.ofFloat` reads these off the
bits, and `Ratio` writes `m · 2^q` as a quotient of naturals, so that every question about the
digits of a double is settled in exact arithmetic.
-/

namespace StarSurvey.Decimal

/-- What the bits of a double say. -/
inductive Binary64 where
  /-- Not a number. -/
  | nan
  /-- An infinity. -/
  | infinite (negative : Bool)
  /-- The value `mantissa · 2^exponent`. -/
  | finite (negative : Bool) (mantissa : Nat) (exponent : Int)
  deriving DecidableEq, Repr

/-- The double with these 64 bits: sign, 11 bits of exponent, 52 bits of fraction. -/
def Binary64.ofBits (bits : Nat) : Binary64 :=
  let negative := 0x8000000000000000 ≤ bits
  let exponent : Nat := bits / 0x10000000000000 % 0x800
  let fraction := bits % 0x10000000000000
  if exponent = 2047 then (if fraction = 0 then .infinite negative else .nan)
  else if exponent = 0 then .finite negative fraction (-1074)
  else .finite negative (0x10000000000000 + fraction) ((exponent : Int) - 1075)

def Binary64.ofFloat (x : Float) : Binary64 := .ofBits x.toBits.toNat

/-- A non-negative quotient of naturals. -/
structure Ratio where
  num : Nat
  den : Nat
  deriving DecidableEq, Repr

/-- The value `m · b^e`. -/
def Ratio.scale (m b : Nat) (e : Int) : Ratio := ⟨m * Nat.pow b e.toNat, Nat.pow b (-e).toNat⟩

end StarSurvey.Decimal
