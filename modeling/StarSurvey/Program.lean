import StarSurvey.Console
import StarSurvey.Startup
import StarSurvey.Survey

/-!
# The program

From the start to the exit status. A run looks at nothing but its `Machine`: arguments, environment,
files, nodes, and how much its standard output takes.
-/

namespace StarSurvey.Program

/-- All that a run can see. -/
structure Machine where
  /-- The arguments behind the name of the program. -/
  arguments : List String
  environment : Environment
  tree : FileTree
  network : Network
  /-- How many bytes the standard output takes, if there is an end. -/
  room : Option Nat := none

/-- Why a run ended early. -/
inductive Fault where
  /-- The run broke off before it looked at its arguments. -/
  | unstarted (f : Startup.Fault)
  | unusable (stop : CommandLine.Stop)
  | unloaded (f : Settings.LoadFault)
  | invalid (i : Settings.Invalid)
  | survey (f : SurveyFault)
  /-- The summary did not get through. -/
  | unprinted
  deriving DecidableEq

/-- How a run left things. -/
structure Ending where
  result : Except Fault Unit
  console : Console
  tree : FileTree
  requests : List Request

/-- The variables that a run goes by. -/
def environment (m : Machine) : Except Startup.Fault Environment :=
  Startup.environment m.environment m.tree

/-- The settings of a run: those of the file that is consulted, then what the flags say. -/
def settings (m : Machine) (vars : Environment) (a : CommandLine.Arguments) :
    Except Fault Settings := do
  let named := vars.lookup Settings.fileVariable
  let s := a.applyTo (← (Settings.load m.tree a.config named).mapError .unloaded)
  match s.invalid? with
  | some i => throw (.invalid i)
  | none => return s

/-- Runs the program, the outcomes of its fetches arriving in some way. -/
def runFrom (arrival : Arrival) (m : Machine) : Ending :=
  let console : Console := { room := m.room }
  let stopped (f : Fault) : Ending := ⟨.error f, console, m.tree, []⟩
  match environment m with
  | .error f => stopped (.unstarted f)
  | .ok vars =>
    match CommandLine.read (programName :: m.arguments) with
    | .error stop => stopped (.unusable stop)
    | .ok a =>
      match settings m vars a with
      | .error f => stopped f
      | .ok s =>
        let cs := Network.contacts m.network.nodes a.addresses
        let r := Survey.runFrom arrival m.network.link cs s m.tree Console.report console
        match r.result with
        | .error f => ⟨.error (.survey f), r.observed, r.tree, r.requests⟩
        | .ok found =>
          let (console, whole) := r.observed.summary found.stats
          ⟨if whole then .ok () else .error .unprinted, console, r.tree, r.requests⟩

def run (m : Machine) : Ending := runFrom m.network.arrivalOrder m

/-! ## What the caller sees -/

/-- The exit status of a program that breaks off. -/
def breakdownCode : Nat := 101

def Fault.exitCode : Fault → Nat
  | .unusable stop => stop.exitCode
  | .unstarted _ | .survey (.uncollected .uncountable) => breakdownCode
  | _ => 1

def Ending.exitCode (e : Ending) : Nat :=
  match e.result with
  | .ok () => 0
  | .error f => f.exitCode

/-- What the wording of a fault takes from where the program runs and how it was built. -/
structure Surroundings where
  workingDirectory : String
  /-- The part of the name of a temporary file that changes from run to run. -/
  tag : String
  /-- The number of the thread that the program begins in. -/
  thread : Nat
  /-- Where in the sources it is noticed that a program cannot begin. -/
  startupPlace : Startup.Fault → String
  /-- Where in the sources it is noticed that a bound cannot be counted. -/
  countPlace : String
  /-- The calls that lead to such a place, if the environment asks for them. -/
  calls : Option (List String) := none

/-- The wording of a fault and of its causes, the deepest last. -/
def Fault.chain (here : Surroundings) : Fault → List String
  | .unstarted f => [f.message]
  | .unusable stop => [stop.message]
  | .unloaded (.unreadable path fault) =>
    ["Failed to load configuration", (Settings.LoadFault.unreadable path fault).message,
      fault.message]
  | .unloaded f => ["Failed to load configuration", f.message]
  | .invalid i => ["Invalid configuration", i.message]
  | .survey f => f.chain here.workingDirectory here.tag
  | .unprinted => ["Failed to print summary", Console.closedMessage]

/-- A text whose lines behind the first are indented. -/
def indented (margin text : String) : List String :=
  match Text.split '\n' text with
  | [] => []
  | line :: lines => line :: lines.map (margin ++ ·)

/-- The causes of an error: one is only indented, several are numbered. -/
def causeLines : List String → List String
  | [] => []
  | [cause] => (indented "    " cause).modifyHead ("    " ++ ·)
  | causes =>
    causes.zipIdx.flatMap fun (cause, i) =>
      let number := toString i
      let pad := String.ofList (List.replicate (5 - number.length) ' ')
      (indented "       " cause).modifyHead (pad ++ number ++ ": " ++ ·)

/-- The lines about an error and its causes. -/
def errorLines : List String → List String
  | [] => []
  | context :: causes =>
    Text.split '\n' ("Error: " ++ context) ++
      (if causes.isEmpty then [] else ["", "Caused by:"] ++ causeLines causes)

/-- The lines about a breakdown: where it is noticed, what it is, and how it came to it. -/
def breakdownLines (here : Surroundings) (place message : String) : List String :=
  ["", "thread 'main' (" ++ toString here.thread ++ ") panicked at " ++ place ++ ":"] ++
    Text.split '\n' message ++
    here.calls.getD
      ["note: run with \x60RUST_BACKTRACE=1\x60 environment variable to display a backtrace"]

/-- What goes to standard error. -/
def Ending.errors (here : Surroundings) (e : Ending) : List String :=
  match e.result with
  | .ok () => []
  | .error (.unstarted f) => breakdownLines here (here.startupPlace f) f.message
  | .error (.unusable stop) => if stop.exitCode = 0 then [] else [stop.message]
  | .error (.survey (.uncollected .uncountable)) =>
    breakdownLines here here.countPlace CollectFault.uncountable.message
  | .error f => errorLines (f.chain here)

/-- What goes to standard output. -/
def Ending.output (e : Ending) : List UInt8 :=
  match e.result with
  | .error (.unusable stop) => if stop.exitCode = 0 then Text.bytes stop.message else []
  | _ => e.console.written

end StarSurvey.Program
