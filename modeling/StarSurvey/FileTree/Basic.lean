import StarSurvey.Text.Split
import StarSurvey.Text.Utf8

/-!
# Files and directories

A `FileTree` holds the files and directories of a machine, each under its location: the names from
the root down. A path is followed name by name, from the root if it begins with a slash and else from
the working directory. Above the root is the root.
-/

namespace StarSurvey

/-- Names from the root down. -/
abbrev Location := List String

/-- What can be at a location. -/
inductive Node where
  | directory
  | file (mode : Nat) (content : List UInt8)
  deriving DecidableEq

/-- The files and directories of a machine, as a program meets them that runs in one of them. -/
structure FileTree where
  workingDirectory : Location
  entries : List (Location × Node)
  deriving DecidableEq

/-- Why a file cannot be reached, read or made. -/
inductive FileFault where
  | missing
  | busy
  | notDirectory
  | isDirectory
  | nameTooLong
  | zeroByte
  | notText
  deriving DecidableEq, Repr

/-- The wording of a fault, with the number of those that have one. -/
def FileFault.message : FileFault → String
  | .missing => "No such file or directory (os error 2)"
  | .busy => "Device or resource busy (os error 16)"
  | .notDirectory => "Not a directory (os error 20)"
  | .isDirectory => "Is a directory (os error 21)"
  | .nameTooLong => "File name too long (os error 36)"
  | .zeroByte => "file name contained an unexpected NUL byte"
  | .notText => "stream did not contain valid UTF-8"

namespace FileTree

/-- Nothing but a working directory. -/
def emptyAt (l : Location) : FileTree :=
  ⟨l, (List.range l.length).map fun n => (l.take (n + 1), .directory)⟩

def empty : FileTree := emptyAt []

/-- What is at a location; the root is at no name. -/
def get? (t : FileTree) (l : Location) : Option Node :=
  if l = [] then some .directory else t.entries.lookup l

def erase (t : FileTree) (l : Location) : FileTree :=
  { t with entries := t.entries.filter fun e => e.1 != l }

def set (t : FileTree) (l : Location) (n : Node) : FileTree :=
  { t with entries := (t.erase l).entries ++ [(l, n)] }

def isEmptyDirectory (t : FileTree) (l : Location) : Bool :=
  t.get? l = some .directory && !t.entries.any fun e => l.isPrefixOf e.1 && e.1 != l

/-- The parts of a path between its slashes; empty parts mean nothing. -/
def parts (path : String) : List String := (Text.split '/' path).filter fun p => !p.isEmpty

/-- No name is longer, in bytes. -/
def maxName : Nat := 255

/-- No path is longer, in bytes. -/
def maxPath : Nat := 4095

/-- One step of a way from a directory. -/
def stepInto (t : FileTree) (l : Location) (name : String) : Except FileFault Location :=
  if name = "." then .ok l
  else if name = ".." then .ok l.dropLast
  else if maxName < name.utf8ByteSize then .error .nameTooLong
  else match t.get? (l ++ [name]) with
    | none => .error .missing
    | some (.file ..) => .error .notDirectory
    | some .directory => .ok (l ++ [name])

def walk (t : FileTree) (way : List String) (origin : Location) : Except FileFault Location :=
  way.foldlM t.stepInto origin

/-- Where a path begins. -/
def start (t : FileTree) (path : String) : Except FileFault Location :=
  if path.toList.contains '\x00' then .error .zeroByte
  else if maxPath < path.utf8ByteSize then .error .nameTooLong
  else if path.isEmpty then .error .missing
  else .ok (if path.startsWith "/" then [] else t.workingDirectory)

/-- Where a path leads: the directory it ends in, and the name in it that it asks for, if it does
not end in that directory itself. -/
def locate (t : FileTree) (path : String) : Except FileFault (Location × Option String) := do
  let origin ← t.start path
  match (parts path).getLast? with
  | none => return (origin, none)
  | some last =>
    let directory ← t.walk (parts path).dropLast origin
    if last = "." ∨ last = ".." then return (← t.stepInto directory last, none)
    else return (directory, some last)

def find (t : FileTree) (path : String) : Except FileFault Node := do
  match ← t.locate path with
  | (_, none) => return .directory
  | (directory, some name) =>
    if maxName < name.utf8ByteSize then throw .nameTooLong
    match t.get? (directory ++ [name]) with
    | none => throw .missing
    | some .directory => return .directory
    | some (.file mode content) =>
      if path.endsWith "/" then throw .notDirectory else return .file mode content

def exists? (t : FileTree) (path : String) : Bool := (t.find path).isOk

def readBytes (t : FileTree) (path : String) : Except FileFault (List UInt8) := do
  match ← t.find path with
  | .directory => throw .isDirectory
  | .file _ content => return content

def readText (t : FileTree) (path : String) : Except FileFault String := do
  match Text.ofBytes? (← t.readBytes path) with
  | some s => return s
  | none => throw .notText

/-- Makes a directory; whether it worked. -/
def makeDirectory (t : FileTree) (path : String) : FileTree × Bool :=
  match t.locate path with
  | .ok (directory, some name) =>
    let l := directory ++ [name]
    if (t.get? l).isSome ∨ maxName < name.utf8ByteSize then (t, false)
    else (t.set l .directory, true)
  | _ => (t, false)

/-- Takes a file out; whether it worked. -/
def removeFile (t : FileTree) (path : String) : FileTree × Bool :=
  match t.locate path with
  | .ok (directory, some name) =>
    let l := directory ++ [name]
    match t.get? l with
    | some (.file ..) => if path.endsWith "/" then (t, false) else (t.erase l, true)
    | _ => (t, false)
  | _ => (t, false)

/-- Takes an empty directory out; whether it worked. -/
def removeDirectory (t : FileTree) (path : String) : FileTree × Bool :=
  match t.locate path with
  | .ok (directory, some name) =>
    let l := directory ++ [name]
    if t.isEmptyDirectory l then (t.erase l, true) else (t, false)
  | _ => (t, false)

/-- Puts a file at a path: a file that is there keeps its mode, a new one can be read and written by
its owner only. -/
def putFile (t : FileTree) (path : String) (content : List UInt8) : FileTree :=
  match t.locate path with
  | .ok (directory, some name) =>
    let l := directory ++ [name]
    match t.get? l with
    | some .directory => t
    | some (.file mode _) => t.set l (.file mode content)
    | none => t.set l (.file 0o600 content)
  | _ => t

/-- Makes the directories that are missing on the way to a path. -/
def makeWay (t : FileTree) (path : String) : FileTree :=
  let root := if path.startsWith "/" then "/" else ""
  let way := parts path
  (List.range way.length).foldl (fun t n => (t.makeDirectory (root ++ "/".intercalate (way.take n))).1)
    t

def pathText (l : Location) : String := "/" ++ "/".intercalate l

/-- Everything below the working directory under its path from there, sorted by path. -/
def listing (t : FileTree) : List (String × Node) :=
  let below := t.entries.filterMap fun (l, n) =>
    if t.workingDirectory.isPrefixOf l ∧ l ≠ t.workingDirectory then
      some ("/".intercalate (l.drop t.workingDirectory.length), n)
    else none
  below.mergeSort fun a b => decide (a.1 ≤ b.1)

end FileTree

end StarSurvey
