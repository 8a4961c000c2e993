import StarSurvey.CommandLine.Usage
import StarSurvey.FileTree.Replace

/-!
# Reading the command line

Tokens are taken from left to right. A flag without its value in the same token waits for the next
one; what waits is settled, and checked, when the next flag is met or the tokens are used up. A
token that is no flag and that nothing waits for ends the reading at once.
-/

namespace StarSurvey.CommandLine

/-- What the command line says. -/
structure Arguments where
  /-- All values of the flag, split at commas. -/
  nodes : List String
  output : Option String
  timeoutSecs : Option Nat
  maxInFlight : Option Nat
  config : Option String
  logLevel : Option String
  deriving DecidableEq, Repr

namespace Arguments

def defaultLogLevel : String := "info"

/-- Nothing is said yet. -/
def none : Arguments := ⟨[], .none, .none, .none, .none, .none⟩

/-- The addresses to ask: blanks around them are dropped, and so are empty ones. -/
def addresses (a : Arguments) : List String :=
  (a.nodes.map Text.trim).filter fun n => !n.isEmpty

/-- The settings with those of the command line over them. -/
def applyTo (a : Arguments) (s : Settings) : Settings :=
  { s with
    output := a.output.getD s.output
    timeoutSecs := a.timeoutSecs <|> s.timeoutSecs
    maxInFlight := a.maxInFlight <|> s.maxInFlight }

/-- Whether a flag that may be given once has been given. -/
def has (a : Arguments) : Flag → Bool
  | .output => a.output.isSome
  | .timeoutSecs => a.timeoutSecs.isSome
  | .maxInFlight => a.maxInFlight.isSome
  | .config => a.config.isSome
  | .logLevel => a.logLevel.isSome
  | .nodes | .help | .version => false

end Arguments

/-- The number below `2^64` that digits make, behind one that is already read. -/
def readDigits (n : Nat) : List Char → Except NumberFault Nat
  | [] => .ok n
  | c :: cs =>
    if !c.isDigit then .error .badDigit
    else
      let more := 10 * n + (c.toNat - 48)
      if more < UInt64.size then readDigits more cs else .error .tooLarge

/-- A natural number below `2^64`; a plus sign may stand in front. -/
def readCount (s : String) : Except NumberFault Nat :=
  match s.toList with
  | [] => .error .empty
  | ['+'] => .error .badDigit
  | '+' :: cs => readDigits 0 cs
  | cs => readDigits 0 cs

/-- Takes the value of a flag. -/
def setFlag (a : Arguments) (flag : Flag) (value : String) : Except Stop Arguments :=
  let path : Except Stop String := if value.isEmpty then .error (.noValue flag) else .ok value
  let count : Except Stop Nat := (readCount value).mapError fun f => .noNumber value flag f
  if a.has flag then .error (.repeated flag)
  else match flag with
    | .nodes => .ok { a with nodes := a.nodes ++ Text.split ',' value }
    | .output => path.map fun p => { a with output := some p }
    | .timeoutSecs => count.map fun n => { a with timeoutSecs := some n }
    | .maxInFlight => count.map fun n => { a with maxInFlight := some n }
    | .config => path.map fun p => { a with config := some p }
    | .logLevel => .ok { a with logLevel := some value }
    | .help | .version => .ok a

/-- A flag that has been met, with its value if that is there already. -/
structure Waiting where
  flag : Flag
  value : Option String
  deriving DecidableEq, Repr

/-- How far the reading has got. -/
structure State where
  arguments : Arguments
  waiting : Option Waiting
  /-- After `--` no token is a flag. -/
  flagsOver : Bool
  deriving DecidableEq, Repr

/-- Settles what waits. -/
def State.settle (s : State) : Except Stop Arguments :=
  match s.waiting with
  | none => .ok s.arguments
  | some ⟨flag, none⟩ => .error (.noValue flag)
  | some ⟨flag, some value⟩ => setFlag s.arguments flag value

/-- Takes a flag, with the value that stands in the same token. -/
def State.takeFlag (calledAs : String) (s : State) (flag : Flag) (attached : Option String) :
    Except Stop State :=
  match flag.takesValue, attached with
  | false, some value => .error (.extraValue value flag)
  | false, none => do
    discard s.settle
    if flag = .help then throw (.help calledAs) else throw .version
  | true, some value => do
    return ⟨← setFlag (← s.settle) flag value, none, s.flagsOver⟩
  | true, none => do
    return ⟨← s.settle, some ⟨flag, none⟩, s.flagsOver⟩

/-- Takes a token that is no flag. -/
def State.takeValue (s : State) (token : String) : Except Stop State :=
  match s.waiting with
  | some ⟨flag, none⟩ => .ok { s with waiting := some ⟨flag, some token⟩ }
  | _ => .error (.unknown token)

def State.take (calledAs : String) (s : State) (token : String) : Except Stop State :=
  if s.flagsOver then .error (.unknown token)
  else match token.toList with
    | ['-', '-'] => .ok { s with flagsOver := true }
    | '-' :: '-' :: body =>
      let name := body.takeWhile (· ≠ '=')
      let attached := if name.length < body.length then some (body.drop (name.length + 1)) else none
      match Flag.ofLong? (String.ofList name) with
      | some flag => s.takeFlag calledAs flag (attached.map String.ofList)
      | none => .error (.unknown ("--" ++ String.ofList name))
    | '-' :: letter :: body =>
      match Flag.ofShort? letter with
      | some flag =>
        if flag.takesValue then
          let attached := match body with
            | [] => none
            | '=' :: value => some value
            | value => some value
          s.takeFlag calledAs flag (attached.map String.ofList)
        else s.takeFlag calledAs flag none
      | none => .error (.unknown (String.ofList ['-', letter]))
    | _ => s.takeValue token

/-- Reads the tokens behind the name of the program. -/
def readTokens (calledAs : String) (tokens : List String) : Except Stop Arguments := do
  let s ← tokens.foldlM (State.take calledAs) ⟨.none, none, false⟩
  let a ← s.settle
  if a.nodes.isEmpty then throw .missingNodes else return a

/-- Reads a command line, which begins with the name under which the program is called. -/
def read (line : List String) : Except Stop Arguments :=
  match normalize line with
  | [] => readTokens programName []
  | name :: tokens => readTokens ((FileTree.fileName? name).getD programName) tokens

end StarSurvey.CommandLine
