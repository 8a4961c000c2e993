/-!
# The flags of the command line

Every flag has a long name; some have a short one; some take a value, which usage texts call by a
name of its own. Existing scripts write a single dash before long names: `normalize` respells these
tokens and leaves all others as they are.
-/

namespace StarSurvey.CommandLine

inductive Flag where
  | nodes | output | timeoutSecs | maxInFlight | config | logLevel | help | version
  deriving DecidableEq, Repr

namespace Flag

/-- The flags that take a value, in the order of the help text. -/
def declared : List Flag := [.nodes, .output, .timeoutSecs, .maxInFlight, .config, .logLevel]

def all : List Flag := declared ++ [.help, .version]

/-- The name behind two dashes. -/
def long : Flag → String
  | .nodes => "nodes"
  | .output => "output"
  | .timeoutSecs => "timeout-secs"
  | .maxInFlight => "max-in-flight"
  | .config => "config"
  | .logLevel => "log-level"
  | .help => "help"
  | .version => "version"

/-- The letter behind one dash. -/
def short? : Flag → Option Char
  | .output => some 'o'
  | .help => some 'h'
  | .version => some 'V'
  | _ => none

/-- What the value is called. -/
def valueName? : Flag → Option String
  | .nodes => some "NODES"
  | .output => some "OUTPUT"
  | .timeoutSecs => some "TIMEOUT_SECS"
  | .maxInFlight => some "MAX_IN_FLIGHT"
  | .config => some "CONFIG"
  | .logLevel => some "LOG_LEVEL"
  | .help | .version => none

def takesValue (f : Flag) : Bool := f.valueName?.isSome

/-- A flag as messages show it. -/
def title (f : Flag) : String :=
  "--" ++ f.long ++ (f.valueName?.map fun v => " <" ++ v ++ ">").getD ""

/-- The flag with a long name. -/
def ofLong? (name : String) : Option Flag := all.find? fun f => f.long == name

/-- The flag with a letter. -/
def ofShort? (c : Char) : Option Flag := all.find? fun f => f.short? == some c

end Flag

/-- Respells a token `-name` or `-name=value` of a known long name with two dashes. -/
def normalizeToken (token : String) : String :=
  match token.toList with
  | '-' :: '-' :: _ => token
  | '-' :: rest =>
    if (Flag.ofLong? (String.ofList (rest.takeWhile (· ≠ '=')))).isSome then "-" ++ token else token
  | _ => token

def normalize (tokens : List String) : List String := tokens.map normalizeToken

end StarSurvey.CommandLine
