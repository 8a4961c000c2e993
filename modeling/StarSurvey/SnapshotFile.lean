import StarSurvey.FileTree.Replace
import StarSurvey.Snapshot

/-!
# The snapshot file

A snapshot is encoded in full before anything is written, and takes the place of its file in one
step: the file holds an old snapshot or the new one, never a part.
-/

namespace StarSurvey.Snapshot

def fileBytes (s : Snapshot) : List UInt8 := Text.bytes s.fileText

def save (s : Snapshot) (t : FileTree) (path : String) : FileTree × Except ReplaceFault Unit :=
  t.replace path s.fileBytes

/-- What is said when a snapshot is not saved. -/
def saveMessage (workingDirectory tag path : String) (fault : ReplaceFault) : String :=
  "failed to write " ++ path ++ ": " ++ fault.message workingDirectory tag

end StarSurvey.Snapshot
