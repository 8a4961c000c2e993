/-!
# Punycode

A label in ASCII characters: those of the label, a dash, and how to put the others in between, as
differences in a number system with base 36 whose digits adapt to what was written before.
-/

namespace StarSurvey.Network.Domain

/-- The digit with a value. -/
def digit (d : Nat) : Char := if d < 26 then Char.ofNat (0x61 + d) else Char.ofNat (0x30 + (d - 26))

/-- Below this value a digit is the last one of its number. -/
def threshold (k bias : Nat) : Nat := max 1 (min 26 (k - bias))

theorem one_le_threshold (k bias : Nat) : 1 ≤ threshold k bias := Nat.le_max_left ..

/-- How often a difference has to be divided until it is small, and what is left. -/
def shrink (delta k : Nat) : Nat × Nat :=
  if 455 < delta then shrink (delta / 35) (k + 36) else (delta, k)
termination_by delta
decreasing_by omega

/-- The bias after a difference, of which `count` characters are placed by then. -/
def adapt (delta count : Nat) (first : Bool) : Nat :=
  let d := if first then delta / 700 else delta / 2
  let (d, k) := shrink (d + d / count) 0
  k + 36 * d / (d + 38)

/-- The digits of a difference. -/
def encodeDelta (bias k q : Nat) : List Char :=
  let t := threshold k bias
  if q < t then [digit q]
  else digit (t + (q - t) % (36 - t)) :: encodeDelta bias (k + 36) ((q - t) / (36 - t))
termination_by q
decreasing_by
  have := one_le_threshold k bias
  have := Nat.div_le_self (q - threshold k bias) (36 - threshold k bias)
  omega

/-- An encoding under way: what is written, the difference so far, the bias and how many characters
are placed. -/
structure Encoding where
  written : List Char
  delta : Nat
  bias : Nat
  placed : Nat

/-- Passes a character while those with number `n` are placed. -/
def Encoding.pass (n basic : Nat) (e : Encoding) (c : Char) : Encoding :=
  if c.toNat < n then { e with delta := e.delta + 1 }
  else if c.toNat = n then
    ⟨e.written ++ encodeDelta e.bias 36 e.delta, 0, adapt e.delta (e.placed + 1) (e.placed = basic),
      e.placed + 1⟩
  else e

/-- Places the characters above ASCII, in the order of their numbers. -/
def encodeAbove (label : List Char) (basic : Nat) : List Nat → Nat → Encoding → Encoding
  | [], _, e => e
  | n :: ns, last, e =>
    let e := { e with delta := e.delta + (n - last) * (e.placed + 1) }
    let e := label.foldl (Encoding.pass n basic) e
    encodeAbove label basic ns (n + 1) { e with delta := e.delta + 1 }

/-- A label in Punycode. -/
def encode (label : List Char) : List Char :=
  let basic := label.filter fun c => c.toNat < 128
  let above := ((label.map Char.toNat).filter (128 ≤ ·)).mergeSort.eraseDups
  let start : Encoding := ⟨[], 0, 72, basic.length⟩
  (if basic.isEmpty then [] else basic ++ ['-']) ++
    (encodeAbove label basic.length above 128 start).written

/-- The value of a digit. -/
def digitValue? (c : Char) : Option Nat :=
  if c.isLower then some (c.toNat - 0x61)
  else if c.isDigit then some (c.toNat - 0x30 + 26)
  else none

/-- Reads a difference: the digits, how much one is worth, and the sum so far. -/
def decodeDelta? (bias : Nat) : List Char → Nat → Nat → Nat → Option (Nat × List Char)
  | [], _, _, _ => none
  | c :: cs, k, weight, sum => do
    let d ← digitValue? c
    let t := threshold k bias
    if d < t then return (sum + d * weight, cs)
    else decodeDelta? bias cs (k + 36) (weight * (36 - t)) (sum + d * weight)

/-- Puts the characters above ASCII between those that are there, at most one a digit. -/
def decodeAbove? (fuel : Nat) (cs : List Char) (out : List Char) (n place bias : Nat) (first : Bool) :
    Option (List Char) :=
  match fuel, cs with
  | _, [] => some out
  | 0, _ :: _ => none
  | fuel + 1, c :: cs => do
    let (delta, rest) ← decodeDelta? bias (c :: cs) 36 1 0
    let count := out.length + 1
    let spot := place + delta
    let n := n + spot / count
    if 0x10FFFF < n then none
    let out := out.take (spot % count) ++ Char.ofNat n :: out.drop (spot % count)
    decodeAbove? fuel rest out n (spot % count + 1) (adapt delta count first) false

/-- The label behind a Punycode. -/
def decode? (code : List Char) : Option (List Char) :=
  let behind := (code.reverse.takeWhile (· ≠ '-')).reverse
  let basic := (code.take (code.length - behind.length)).dropLast
  decodeAbove? behind.length behind basic 128 0 72 true

end StarSurvey.Network.Domain
