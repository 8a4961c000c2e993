import StarSurvey.FileTree.Basic
import StarSurvey.Text.Blank
import StarSurvey.Toml.Reader

/-!
# Settings of a survey

Where the snapshot goes, how long a fetch may take, how many run at once and under what name. They
come from a TOML file over the defaults; the command line comes over both.
-/

namespace StarSurvey

/-- The settings of a survey. -/
structure Settings where
  /-- Where the snapshot goes. -/
  output : String
  /-- The deadline of a fetch in seconds, if there is one. -/
  timeoutSecs : Option Nat
  /-- How many fetches may run at once, if there is a bound. -/
  maxInFlight : Option Nat
  /-- What the nodes are told about who asks. -/
  userAgent : String
  deriving DecidableEq, Repr

def version : String := "1.0.0"

def programName : String := "galaxy-collector"

/-- The settings when nobody sets anything. -/
def Settings.default : Settings := ⟨"galaxy.json", none, none, programName ++ "/" ++ version⟩

namespace Settings

/-- Why a text holds no settings. -/
inductive Unreadable where
  /-- It is not TOML. -/
  | malformed
  /-- One of the settings has a value that does not fit. -/
  | misfit (m : Misfit)
  deriving DecidableEq

/-- Why settings would stall a survey. -/
inductive Invalid where
  | zeroTimeout
  | zeroInFlight
  | emptyOutput
  deriving DecidableEq, Repr

def Invalid.message : Invalid → String
  | .zeroTimeout => "invalid setting: timeout_secs must be greater than 0"
  | .zeroInFlight => "invalid setting: max_in_flight must be greater than 0"
  | .emptyOutput => "invalid setting: output path is empty"

/-- A value that has to be a text. -/
def textOf (expected : String) : Toml.Value → Except Misfit String
  | .string s => .ok s
  | v => .error (.wrongType v.found expected)

/-- A value that has to be a natural number. -/
def countOf (expected : String) : Toml.Value → Except Misfit Nat
  | .integer n => if 0 ≤ n then .ok n.toNat else .error (.wrongValue (.integer n) expected)
  | v => .error (.wrongType v.found expected)

/-- Sets what a key of the file stands for; other keys stand for nothing. -/
def setKey (s : Settings) (key : String) (v : Toml.Value) : Except Misfit Settings :=
  if key = "output" then do return { s with output := ← textOf "path string" v }
  else if key = "timeout_secs" then do return { s with timeoutSecs := some (← countOf "u64" v) }
  else if key = "max_in_flight" then do return { s with maxInFlight := some (← countOf "usize" v) }
  else if key = "user_agent" then do return { s with userAgent := ← textOf "a string" v }
  else .ok s

/-- The defaults with what the entries of a table set. -/
def ofEntries (es : Toml.Entries) : Except Misfit Settings :=
  es.foldlM (fun s e => s.setKey e.1 e.2) .default

/-- The settings in a TOML text. Blanks alone are no document, and set nothing. -/
def ofToml (content : String) : Except Unreadable Settings :=
  if Text.isAllBlank content then .ok .default
  else match Toml.Entries.ofText? content with
    | none => .error .malformed
    | some es => (ofEntries es).mapError .misfit

/-- The first reason why the settings would stall a survey. -/
def invalid? (s : Settings) : Option Invalid :=
  if s.timeoutSecs = some 0 then some .zeroTimeout
  else if s.maxInFlight = some 0 then some .zeroInFlight
  else if s.output.isEmpty then some .emptyOutput
  else none

/-- The deadline of a fetch in milliseconds. -/
def timeoutMillis (s : Settings) : Option Nat := s.timeoutSecs.map (· * 1000)

/-- The file that is consulted if none is named. -/
def defaultFile : String := "galaxy-collector.toml"

/-- The variable that names a file. -/
def fileVariable : String := "GALAXY_COLLECTOR_CONFIG"

/-- The file that is consulted, and whether it has to be there. -/
def source (explicit named : Option String) : String × Bool :=
  match explicit, named with
  | some path, _ => (path, true)
  | none, some path => if Text.isAllBlank path then (defaultFile, false) else (path, true)
  | none, none => (defaultFile, false)

/-- Why no settings are loaded. -/
inductive LoadFault where
  | unreadable (path : String) (fault : FileFault)
  | malformed (path : String) (fault : Unreadable)
  | invalid (i : Invalid)
  deriving DecidableEq

/-- The wording of a fault. Of a text that is not TOML nothing more is said. -/
def LoadFault.message : LoadFault → String
  | .unreadable path fault => "cannot read config " ++ path ++ ": " ++ fault.message
  | .malformed path .malformed => "invalid config " ++ path
  | .malformed path (.misfit m) => "invalid config " ++ path ++ ": " ++ m.message Toml.wording
  | .invalid i => i.message

/-- Loads the settings from the file that is consulted. -/
def load (t : FileTree) (explicit named : Option String) : Except LoadFault Settings :=
  let (path, required) := source explicit named
  if !required && !t.exists? path then .ok .default
  else match t.readText path with
    | .error fault => .error (.unreadable path fault)
    | .ok content =>
      match ofToml content with
      | .error fault => .error (.malformed path fault)
      | .ok s =>
        match s.invalid? with
        | some i => .error (.invalid i)
        | none => .ok s

end Settings

end StarSurvey
