import StarSurvey.CommandLine.Flag
import StarSurvey.Settings

/-!
# What the command line is answered with instead of a survey

A wrong use is answered with one line that says what is wrong; a request for help or for the version
with a text.
-/

namespace StarSurvey.CommandLine

/-- Why a text is no natural number. -/
inductive NumberFault where
  | empty
  | badDigit
  | tooLarge
  deriving DecidableEq, Repr

def NumberFault.message : NumberFault → String
  | .empty => "cannot parse integer from empty string"
  | .badDigit => "invalid digit found in string"
  | .tooLarge => "number too large to fit in target type"

/-- Why no survey follows from a command line. -/
inductive Stop where
  /-- Help is asked for; the text shows the name under which the program was called. -/
  | help (calledAs : String)
  | version
  /-- No nodes are named. -/
  | missingNodes
  /-- A token that is neither a flag nor the value of one. -/
  | unknown (token : String)
  /-- A flag whose value is not there. -/
  | noValue (flag : Flag)
  /-- A flag that may be given once only. -/
  | repeated (flag : Flag)
  /-- A value that is no number. -/
  | noNumber (value : String) (flag : Flag) (fault : NumberFault)
  /-- A value for a flag that takes none. -/
  | extraValue (value : String) (flag : Flag)
  deriving DecidableEq, Repr

def helpText (calledAs : String) : String :=
  "Collect star systems from galaxy nodes into one snapshot\n\nUsage: " ++ calledAs ++
  " [OPTIONS] --nodes <NODES>\n\nOptions:\n" ++
  "      --nodes <NODES>                  Comma-separated node addresses (host:port)\n" ++
  "  -o, --output <OUTPUT>                Snapshot file [default: galaxy.json]\n" ++
  "      --timeout-secs <TIMEOUT_SECS>    Per-node request deadline in seconds\n" ++
  "      --max-in-flight <MAX_IN_FLIGHT>  Maximum number of nodes fetched at once\n" ++
  "      --config <CONFIG>                TOML config file\n" ++
  "      --log-level <LOG_LEVEL>          [default: info]\n" ++
  "  -h, --help                           Print help\n" ++
  "  -V, --version                        Print version\n"

def versionText : String := programName ++ " " ++ StarSurvey.version ++ "\n"

/-- What is wrong, without the word that opens the line. -/
def Stop.complaint : Stop → String
  | .help _ | .version => ""
  | .missingNodes => "the following required arguments were not provided:"
  | .unknown token => "unexpected argument '" ++ token ++ "' found"
  | .noValue flag => "a value is required for '" ++ flag.title ++ "' but none was supplied"
  | .repeated flag => "the argument '" ++ flag.title ++ "' cannot be used multiple times"
  | .noNumber value flag fault =>
    "invalid value '" ++ value ++ "' for '" ++ flag.title ++ "': " ++ fault.message
  | .extraValue value flag =>
    "unexpected value '" ++ value ++ "' for '" ++ flag.title ++ "' found; no more were expected"

/-- Drops what a terminal would not print: controls other than blanks, and the sequences behind an
escape character that would move or colour. -/
def printable : List Char → (escape : Option Bool) → List Char
  | [], _ => []
  | c :: cs, none =>
    if c = '\x1b' then printable cs (some false)
    else if c = '\t' ∨ c = '\n' ∨ c = '\x0c' ∨ c = '\r' then c :: printable cs none
    else if c.toNat < 0x20 ∨ c.toNat = 0x7F then printable cs none
    else c :: printable cs none
  | c :: cs, some false => if c = '[' then printable cs (some true) else printable cs none
  | c :: cs, some true =>
    if 0x40 ≤ c.toNat ∧ c.toNat ≤ 0x7E then printable cs none else printable cs (some true)

def firstLine (cs : List Char) : List Char :=
  let line := cs.takeWhile (· ≠ '\n')
  if line.length < cs.length ∧ line.getLast? = some '\r' then line.dropLast else line

/-- The whole text of help and version, else the line that says what is wrong. -/
def Stop.message : Stop → String
  | .help calledAs => helpText calledAs
  | .version => versionText
  | stop => String.ofList (firstLine (printable ("error: " ++ stop.complaint).toList none))

/-- Help and version were asked for; all else is a wrong use. -/
def Stop.exitCode : Stop → Nat
  | .help _ | .version => 0
  | _ => 2

end StarSurvey.CommandLine
