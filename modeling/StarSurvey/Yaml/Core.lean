import StarSurvey.Decimal.Nearest
import StarSurvey.Misfit
import StarSurvey.Yaml.Node

/-!
# What scalars mean

A plain scalar can be a null, a boolean or a number; all else is text. Numbers may have a sign and be
written to the base 16, 8 or 2; a row of digits behind a zero is no number, but text.
-/

namespace StarSurvey.Yaml

def isNull (s : String) : Bool := s ∈ ["null", "Null", "NULL", "~"]

def boolean? (s : String) : Option Bool :=
  if s ∈ ["true", "True", "TRUE"] then some true
  else if s ∈ ["false", "False", "FALSE"] then some false
  else none

/-! ## Numbers -/

/-- A sign, and what stands behind it. -/
def splitSign : List Char → Option Char × List Char
  | '-' :: cs => (some '-', cs)
  | '+' :: cs => (some '+', cs)
  | cs => (none, cs)

/-- Digits behind a zero, maybe with a sign. -/
def isZeroLed (cs : List Char) : Bool :=
  match (splitSign cs).2 with
  | '0' :: c :: rest => (c :: rest).all Char.isDigit
  | _ => false

/-- A number without a sign, in the base that its first characters name. -/
def magnitude? : List Char → Option Nat
  | '0' :: 'x' :: ds => Text.number? 16 ds
  | '0' :: 'o' :: ds => Text.number? 8 ds
  | '0' :: 'b' :: ds => Text.number? 2 ds
  | ds => Text.number? 10 ds

/-- An integer of at most 128 bits. -/
def integer? (s : String) : Option Int := do
  if isZeroLed s.toList then none
  let (sign, ds) := splitSign s.toList
  let n ← magnitude? ds
  if sign = some '-' then (if UInt64.size * UInt64.size / 2 < n then none else some (-n))
  else if UInt64.size * UInt64.size ≤ n then none
  else some n

/-- The exponent of a decimal, which may be missing. -/
def exponent? : List Char → Option Int
  | [] => some 0
  | e :: cs =>
    if e = 'e' ∨ e = 'E' then
      let (sign, ds) := splitSign cs
      (Text.number? 10 ds).map fun n => if sign = some '-' then -n else n
    else none

/-- A decimal: digits, maybe a point with digits, maybe an exponent. -/
def decimal? (cs : List Char) : Option Float := do
  let (sign, cs) := splitSign cs
  let whole := cs.takeWhile Char.isDigit
  let rest := cs.dropWhile Char.isDigit
  let (fraction, rest) := match rest with
    | '.' :: rest => (rest.takeWhile Char.isDigit, rest.dropWhile Char.isDigit)
    | rest => ([], rest)
  let m ← Text.number? 10 (whole ++ fraction)
  let e ← exponent? rest
  let x := Decimal.nearest m (e - fraction.length)
  return if sign = some '-' then -x else x

/-- A number as a double. A decimal beyond the largest double is no number. -/
def float? (s : String) : Option Float := do
  let unsigned := match s.toList with
    | '+' :: cs => cs
    | cs => cs
  if (splitSign s.toList).1 = some '+' ∧ (splitSign unsigned).1.isSome then none
  if String.ofList unsigned ∈ [".inf", ".Inf", ".INF"] then return 1 / 0
  if s ∈ ["-.inf", "-.Inf", "-.INF"] then return -1 / 0
  if s ∈ [".nan", ".NaN", ".NAN"] then return 0 / 0
  let x ← decimal? unsigned
  if x.isInf then none else some x

/-! ## Values found -/

/-- What a plain scalar is. -/
def foundPlain (s : String) : Found :=
  if s.isEmpty ∨ isNull s then .nothing
  else match boolean? s, integer? s with
    | some b, _ => .boolean b
    | none, some n => .integer n
    | none, none =>
      match if isZeroLed s.toList then none else float? s with
      | some x => .float x
      | none => .text s

/-- The common part of the tags that name a type. -/
def typeTag (name : String) : String := "tag:yaml.org,2002:" ++ name

/-- The mismatch of a scalar with a type that its tag names, or of what it is with what is
expected. -/
def scalarMisfit (style : Style) (tag : Option String) (s expected : String) : Misfit :=
  let found? (f : Option Found) (type : String) : Misfit :=
    match f with
    | some f => .wrongType f expected
    | none => .wrongValue (.text s) type
  match tag with
  | none => .wrongType (if style = .plain then foundPlain s else .text s) expected
  | some tag =>
    if tag = typeTag "bool" then found? ((boolean? s).map .boolean) "a boolean"
    else if tag = typeTag "int" then found? ((integer? s).map .integer) "an integer"
    else if tag = typeTag "float" then found? ((float? s).map .float) "a float"
    else if tag = typeTag "null" then found? (if isNull s then some .nothing else none) "null"
    else .wrongType (if tag.startsWith "!" ∧ style = .plain then foundPlain s else .text s) expected

/-- The mismatch of a node with what is expected. -/
def Node.misfit (n : Node) (expected : String) : Misfit :=
  match n with
  | .scalar _ style tag s => scalarMisfit style tag s expected
  | .list .. => .wrongType .sequence expected
  | .map .. | .alias .. | .lost _ => .wrongType .map expected

/-- The words of a mismatch. -/
def wording : Wording := ⟨"unit value", .plain⟩

end StarSurvey.Yaml
