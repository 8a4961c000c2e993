import StarSurvey.FileTree.Basic
import StarSurvey.Text.Quoted

/-!
# Replacing a file in one step

The content is first written to a temporary file with a name of its own in the directory of the
target, which then takes the target's place by a rename. If a step fails the temporary file is
removed, so the tree is as it was.
-/

namespace StarSurvey

namespace FileTree

/-- A path behind another: from the root it stands for itself. -/
def joined (front back : String) : String :=
  if back.startsWith "/" then back
  else if front.endsWith "/" then front ++ back
  else front ++ "/" ++ back

def temporaryName (tag : String) : String := ".galaxy-" ++ tag ++ ".tmp"

def temporaryPath (workingDirectory directory tag : String) : String :=
  joined (joined workingDirectory directory) (temporaryName tag)

end FileTree

/-- Why a file is not replaced. -/
inductive ReplaceFault where
  /-- The path names a directory by `.`, `..` or nothing at all. -/
  | noFileName
  /-- No temporary file can be made in the directory of the target. -/
  | temporary (fault : FileFault) (directory : String)
  /-- The temporary file cannot take the target's place. -/
  | rename (fault : FileFault)
  deriving DecidableEq, Repr

/-- The wording of a fault. The working directory and the tag, which changes from run to run, are
given. -/
def ReplaceFault.message (workingDirectory tag : String) : ReplaceFault → String
  | .noFileName => "output path has no file name"
  | .temporary fault directory =>
    fault.message ++ " at path " ++
      Text.quoted (FileTree.temporaryPath workingDirectory directory tag)
  | .rename fault => fault.message

namespace FileTree

/-- The name of a file that a path asks for. A dot as a part means nothing, except alone. -/
def fileName? (path : String) : Option String :=
  match ((parts path).filter fun p => p != ".").getLast? with
  | some name => if name = ".." then none else some name
  | none => none

/-- A path, reversed, without the slashes and the dots between slashes at its end. -/
def trimEnd : List Char → List Char
  | '/' :: cs => if cs = [] then ['/'] else trimEnd cs
  | '.' :: '/' :: cs => trimEnd ('/' :: cs)
  | cs => cs

/-- The text of the directory that holds the file of a path. -/
def directoryText (path : String) : String :=
  let reversed := trimEnd path.toList.reverse
  let above := trimEnd (reversed.dropWhile (· ≠ '/'))
  if above.isEmpty then "." else String.ofList above.reverse

/-- The directory of the file of a path. -/
def parent (t : FileTree) (path : String) : Except FileFault Location := do
  t.walk (parts (directoryText path)) (← t.start (directoryText path))

/-- How many bytes a tag has. -/
def tagSize : Nat := 6

/-- The whole path of the temporary file for a path is not too long. -/
def temporaryFits (t : FileTree) (path : String) : Bool :=
  (temporaryPath (pathText t.workingDirectory) (directoryText path) "").utf8ByteSize + tagSize ≤
    maxPath

/-- The directory in which the temporary file for a path is made. -/
def temporaryDirectory (t : FileTree) (path : String) : Except FileFault Location := do
  let origin ← t.start (directoryText path)
  if !t.temporaryFits path then throw .nameTooLong
  t.walk (parts (directoryText path)) origin

/-- A location in a directory that nothing is at, under a name of its own: the first of the numbered
names that is free and none of those to avoid. -/
def freshLocation (t : FileTree) (avoided : List String) (directory : Location) : Location :=
  let number := ((List.range (t.entries.length + avoided.length + 1)).find? fun n =>
    (t.get? (directory ++ [temporaryName (toString n)])).isNone &&
      !avoided.contains (temporaryName (toString n))).getD 0
  directory ++ [temporaryName (toString number)]

/-- The location that a rename of a file to a path puts it at. -/
def renameTarget (t : FileTree) (path : String) : Except FileFault Location := do
  let origin ← t.start path
  match (parts path).getLast? with
  | none => throw .busy
  | some last =>
    let directory ← t.walk (parts path).dropLast origin
    if last = "." ∨ last = ".." then throw .busy
    else if maxName < last.utf8ByteSize then throw .nameTooLong
    else if path.endsWith "/" then throw .notDirectory
    else match t.get? (directory ++ [last]) with
      | some .directory => throw .isDirectory
      | _ => return directory ++ [last]

/-- Moves the file at a location to another, in place of what is there. -/
def move (t : FileTree) (source target : Location) : FileTree :=
  match t.get? source with
  | some n => (t.erase source).set target n
  | none => t

/-- A file that only its owner may read and write. -/
def privateMode : Nat := 0o600

/-- A file that its owner may write and everybody may read. -/
def readableMode : Nat := 0o644

/-- Replaces the file at a path, or makes it. -/
def replace (t : FileTree) (path : String) (content : List UInt8) :
    FileTree × Except ReplaceFault Unit :=
  if (fileName? path).isNone then (t, .error .noFileName)
  else
    match t.temporaryDirectory path with
    | .error fault => (t, .error (.temporary fault (directoryText path)))
    | .ok directory =>
      let temporary := t.freshLocation (parts path) directory
      let created := t.set temporary (.file privateMode [])
      let written := created.set temporary (.file privateMode content)
      let readable := written.set temporary (.file readableMode content)
      match readable.renameTarget path with
      | .error fault => (readable.erase temporary, .error (.rename fault))
      | .ok target => (readable.move temporary target, .ok ())

end FileTree

end StarSurvey
