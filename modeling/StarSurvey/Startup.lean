import StarSurvey.CommandLine.Arguments
import StarSurvey.Environment
import StarSurvey.FileTree.Replace

/-!
# Before a program begins

Two things come before anything that a program does itself. The variables of the process may say how
many threads share the work, and a file of the working directory, or of the nearest directory above
that has one, may add variables. What is wrong with either breaks the program off.
-/

namespace StarSurvey

/-- The content of the file of some name in a directory or else in the nearest one above it. -/
def FileTree.nearestContent? (t : FileTree) (name : String) (l : Location) : Option (List UInt8) :=
  (List.range (l.length + 1)).reverse.findSome? fun n =>
    match t.get? (l.take n ++ [name]) with
    | some (.file _ content) => some content
    | _ => none

namespace Startup

/-- The variable that says how many threads share the work. -/
def threadsVariable : String := "TOKIO_WORKER_THREADS"

/-- The file that adds to the variables. -/
def environmentFile : String := ".env"

/-- Why a program does not begin. -/
inductive Fault where
  | noThreads
  | noThreadCount (value : String) (fault : CommandLine.NumberFault)
  /-- A value with a zero byte, which no variable can have. -/
  | unsettable (name value : String)
  deriving DecidableEq

def Fault.message : Fault → String
  | .noThreads => Text.quoted threadsVariable ++ " cannot be set to 0"
  | .noThreadCount value fault =>
    Text.quoted threadsVariable ++ " must be usize, error: " ++ fault.message ++ ", value: " ++ value
  | .unsettable name value =>
    "failed to set environment variable \x60" ++ Text.quotedThroughout name ++ "\x60 to \x60" ++
      Text.quotedThroughout value ++ "\x60: " ++ FileFault.zeroByte.message

/-- The variables may leave the number of threads open, and must not ask for none. -/
def checkThreads (e : Environment) : Except Fault Unit :=
  match e.lookup threadsVariable with
  | none => .ok ()
  | some value =>
    match CommandLine.readCount value with
    | .error fault => .error (.noThreadCount value fault)
    | .ok n => if n = 0 then .error .noThreads else .ok ()

/-- The content of the file that adds to the variables. It is looked for by its whole path, so in no
directory whose path is too long, and then not above that either. -/
def fileContent? (t : FileTree) : Option (List UInt8) :=
  let path := FileTree.joined (FileTree.pathText t.workingDirectory) environmentFile
  if FileTree.maxPath < path.utf8ByteSize then none
  else t.nearestContent? environmentFile t.workingDirectory

/-- The variables that a program goes by. -/
def environment (e : Environment) (t : FileTree) : Except Fault Environment := do
  checkThreads e
  match fileContent? t with
  | none => return e
  | some content => (e.addFile content).mapError fun (name, value) => .unsettable name value

end Startup

end StarSurvey
