/-!
# Rows of digits

Numbers as rows of digits in a base up to sixteen, in either case of the letters.
-/

namespace StarSurvey.Text

/-- The value of a digit in any base. -/
def digitValue (c : Char) : Nat :=
  let n := c.toNat
  if 0x30 ≤ n ∧ n ≤ 0x39 then n - 0x30
  else if 0x41 ≤ n ∧ n ≤ 0x5A then n - 0x41 + 10
  else if 0x61 ≤ n ∧ n ≤ 0x7A then n - 0x61 + 10
  else 36

/-- The character is a digit in this base. -/
def isDigitIn (base : Nat) (c : Char) : Bool := digitValue c < base

/-- The number that a row of digits stands for; an empty row stands for none. -/
def number? (base : Nat) (cs : List Char) : Option Nat :=
  if !cs.isEmpty && cs.all (isDigitIn base) then
    some (cs.foldl (fun n c => base * n + digitValue c) 0)
  else none

/-- The digits of a number in lower case, with no leading zero. -/
def digits (base n : Nat) : String := String.ofList (Nat.toDigits base n)

end StarSurvey.Text
