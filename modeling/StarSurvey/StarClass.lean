/-!
# Stellar classes

The seven classes of the Harvard sequence, hottest first, and whatever else a node reports, which is
kept as it is.

* `mem_canonical_iff`: the seven are those that are recognised.
* `symbol_ofSymbol`: a class shows the very text it was reported with.
-/

namespace StarSurvey

/-- A stellar class as a node reports it. -/
inductive StarClass where
  | o | b | a | f | g | k | m
  /-- A text that is none of the seven symbols. -/
  | other (raw : String)
  deriving DecidableEq, Repr

namespace StarClass

/-- The recognised classes, hottest first. -/
def canonical : List StarClass := [.o, .b, .a, .f, .g, .k, .m]

def symbol : StarClass → String
  | .o => "O"
  | .b => "B"
  | .a => "A"
  | .f => "F"
  | .g => "G"
  | .k => "K"
  | .m => "M"
  | .other raw => raw

/-- One of the seven. -/
def isCanonical : StarClass → Bool
  | .other _ => false
  | _ => true

theorem nodup_canonical : canonical.Nodup := by decide

theorem mem_canonical_iff {c : StarClass} : c ∈ canonical ↔ c.isCanonical = true := by
  constructor
  · exact (by decide : ∀ c ∈ canonical, c.isCanonical = true) c
  · intro h
    cases c with
    | other raw => cases h
    | _ => decide

def ofSymbol (s : String) : StarClass := (canonical.find? fun c => c.symbol == s).getD (.other s)

theorem symbol_ofSymbol (s : String) : (ofSymbol s).symbol = s := by
  unfold ofSymbol
  cases h : canonical.find? fun c => c.symbol == s with
  | none => rfl
  | some c => simpa using List.find?_some h

end StarClass

end StarSurvey
