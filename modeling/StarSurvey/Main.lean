import StarSurvey.Program

/-!
# The command

Carries out a run of the program in a real process: the arguments, the variables of the process and
the files that a run asks for become a `Machine`, and what the run leaves behind is printed. There is
no transport here, so the link is down and every node counts as out of reach.
-/

namespace StarSurvey

/-- The parts of some bytes between the zero bytes. -/
def zeroEnded (bytes : List UInt8) : List (List UInt8) :=
  bytes.foldr (fun b parts => if b = 0 then [] :: parts else parts.modifyHead (b :: ·)) [[]]

/-- The variables of the process that are text. -/
def processVariables : IO Environment := do
  let content ← try IO.FS.readBinFile "/proc/self/environ" catch _ => pure .empty
  return (zeroEnded content.toList).filterMap fun entry => do
    let cs := (← Text.ofBytes? entry).toList
    if cs.contains '=' then
      some (String.ofList (cs.takeWhile (· ≠ '=')), String.ofList ((cs.dropWhile (· ≠ '=')).drop 1))
    else none

/-- A tree with a real file, if that is there. -/
def FileTree.addReal (t : FileTree) (path : String) : IO FileTree := do
  try
    let content ← IO.FS.readBinFile path
    return (t.makeWay path).putFile path content.toList
  catch _ => return t

/-- The machine that this process runs on, with the files that a run asks for. -/
def Program.realMachine (arguments : List String) : IO Program.Machine := do
  let here := FileTree.parts (← IO.currentDir).toString
  let above := (List.range (here.length + 1)).map fun n =>
    FileTree.joined (FileTree.pathText (here.take n)) Startup.environmentFile
  let bare : Program.Machine :=
    { arguments
      environment := ← processVariables
      tree := ← above.foldlM FileTree.addReal (.emptyAt here)
      network := ⟨.down, [], []⟩ }
  match Program.environment bare, CommandLine.read (programName :: arguments) with
  | .ok vars, .ok a =>
    let named := vars.lookup Settings.fileVariable
    return { bare with tree := ← bare.tree.addReal (Settings.source a.config named).1 }
  | _, _ => return bare

end StarSurvey

open StarSurvey in
/-- Runs the program and prints what it leaves behind. -/
def main (arguments : List String) : IO UInt32 := do
  let e := Program.run (← Program.realMachine arguments)
  let output ← IO.getStdout
  output.write ⟨e.output.toArray⟩
  output.flush
  let unknown := "(unknown)"
  let here : Program.Surroundings :=
    { workingDirectory := (← IO.currentDir).toString
      tag := "*"
      thread := 1
      startupPlace := fun _ => unknown
      countPlace := unknown }
  for line in e.errors here do
    IO.eprintln line
  return e.exitCode.toUInt32
