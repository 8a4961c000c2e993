import StarSurvey.FileTree.Replace

/-!
# Writers that replace the same file at once

Any number of writers replace the file at one path, each by a content of its own. A writer makes a
temporary file in the directory of the target under a name that nobody else has, appends its content
piece by piece, waits until that is on the disk, lets everybody read the file, and renames it over
the target. Any of these steps may fail; then it takes its temporary file away.

`Step` is one step of one writer, so a run of all of them in any interleaving is a chain of steps,
and `Reachable` is where such runs lead.
-/

namespace StarSurvey

namespace FileTree

/-- The location of the file of a path, whether there is one or not. -/
def target? (t : FileTree) (path : String) : Option Location :=
  match fileName? path, t.parent path with
  | some name, .ok directory => some (directory ++ [name])
  | _, _ => none

/-- Changes the file at a location, if there is one. -/
def adjust (t : FileTree) (l : Location) (f : Nat → List UInt8 → Node) : FileTree :=
  match t.get? l with
  | some (.file mode content) => t.set l (f mode content)
  | _ => t

def append (t : FileTree) (l : Location) (piece : List UInt8) : FileTree :=
  t.adjust l fun mode content => .file mode (content ++ piece)

def setMode (t : FileTree) (l : Location) (mode : Nat) : FileTree :=
  t.adjust l fun _ content => .file mode content

end FileTree

namespace Writers

/-- Where a writer stands. -/
inductive Stage where
  /-- It has made nothing. -/
  | starting
  /-- Its temporary file is there, and these bytes are still to be appended. -/
  | appending (temporary : Location) (left : List UInt8)
  /-- Its temporary file is whole and on the disk. -/
  | synced (temporary : Location)
  /-- Everybody may read its temporary file. -/
  | readable (temporary : Location)
  /-- A step has failed, and its temporary file is still there. -/
  | failing (temporary : Location)
  /-- It has ended, and has replaced the file or not. -/
  | ended (replaced : Bool)
  deriving DecidableEq, Repr

/-- The temporary file of a writer, while there is one. -/
def Stage.temporary? : Stage → Option Location
  | .appending l _ | .synced l | .readable l | .failing l => some l
  | .starting | .ended _ => none

end Writers

/-- A moment of a run of some writers. -/
structure Writers where
  tree : FileTree
  /-- Where each writer stands. -/
  stages : List Writers.Stage
  /-- The writers whose rename has come through, the first first. -/
  renamed : List Nat
  deriving DecidableEq

namespace Writers

/-- Before any of `count` writers has done anything. -/
def start (t : FileTree) (count : Nat) : Writers := ⟨t, List.replicate count .starting, []⟩

/-- The temporary file of one of the writers, while there is one. -/
def temporaryOf (s : Writers) (i : Nat) : Option Location := s.stages[i]?.bind Stage.temporary?

/-- The temporary files that are there. -/
def temporaries (s : Writers) : List Location := s.stages.filterMap Stage.temporary?

def Finished (s : Writers) : Prop := ∀ stage ∈ s.stages, ∃ replaced, stage = .ended replaced

/-- One step of a writer with a content for the file at a path. -/
inductive Step (path : String) (contents : List (List UInt8)) : Writers → Writers → Prop where
  /-- It makes its temporary file, which only its owner may read yet, under a name of its own: nothing
  has this name, nor is it the one that the path asks for. -/
  | create {s : Writers} (i : Nat) {content : List UInt8} {directory temporary target : Location}
      {tag : String} (hi : s.stages[i]? = some .starting) (hc : contents[i]? = some content)
      (ht : s.tree.target? path = some target) (hd : s.tree.parent path = .ok directory)
      (htag : temporary = directory ++ [FileTree.temporaryName tag]) (hown : temporary ≠ target)
      (hfree : s.tree.get? temporary = none) :
    Step path contents s { s with
      tree := s.tree.set temporary (.file FileTree.privateMode [])
      stages := s.stages.set i (.appending temporary content) }
  /-- It cannot make its temporary file. -/
  | refuse {s : Writers} (i : Nat) (hi : s.stages[i]? = some .starting) :
    Step path contents s { s with stages := s.stages.set i (.ended false) }
  /-- It appends a piece of its content. -/
  | append {s : Writers} (i : Nat) {l : Location} {piece rest : List UInt8}
      (hi : s.stages[i]? = some (.appending l (piece ++ rest))) :
    Step path contents s { s with
      tree := s.tree.append l piece
      stages := s.stages.set i (.appending l rest) }
  /-- It waits until all of it is on the disk. -/
  | sync {s : Writers} (i : Nat) {l : Location} (hi : s.stages[i]? = some (.appending l [])) :
    Step path contents s { s with stages := s.stages.set i (.synced l) }
  /-- It lets everybody read its temporary file. -/
  | publish {s : Writers} (i : Nat) {l : Location} (hi : s.stages[i]? = some (.synced l)) :
    Step path contents s { s with
      tree := s.tree.setMode l FileTree.readableMode
      stages := s.stages.set i (.readable l) }
  /-- It renames its temporary file over the target. -/
  | rename {s : Writers} (i : Nat) {l target : Location}
      (hi : s.stages[i]? = some (.readable l)) (hr : s.tree.renameTarget path = .ok target) :
    Step path contents s {
      tree := s.tree.move l target
      stages := s.stages.set i (.ended true)
      renamed := s.renamed ++ [i] }
  /-- A step fails that it makes with its temporary file. -/
  | fail {s : Writers} (i : Nat) {stage : Stage} {l : Location} (hi : s.stages[i]? = some stage)
      (hl : stage.temporary? = some l) :
    Step path contents s { s with stages := s.stages.set i (.failing l) }
  /-- It takes its temporary file away. -/
  | cleanUp {s : Writers} (i : Nat) {l : Location} (hi : s.stages[i]? = some (.failing l)) :
    Step path contents s { s with
      tree := s.tree.erase l
      stages := s.stages.set i (.ended false) }

/-- A moment to which a run of writers with these contents can lead. -/
inductive Reachable (path : String) (contents : List (List UInt8)) (t : FileTree) :
    Writers → Prop where
  | start : Reachable path contents t (start t contents.length)
  | step {s s' : Writers} :
    Reachable path contents t s → Step path contents s s' → Reachable path contents t s'

end Writers

end StarSurvey
