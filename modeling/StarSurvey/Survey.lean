import StarSurvey.Collection
import StarSurvey.SnapshotFile
import StarSurvey.Stats

/-!
# A survey

Collect, count, save. Nothing is saved unless at least one node gave a record, and the observer of
the outcomes has no say in what is found.
-/

namespace StarSurvey

/-- What a survey found. -/
structure Survey where
  snapshot : Snapshot
  stats : Stats
  failedNodes : Nat
  deriving DecidableEq

/-- Why a survey ended early. -/
inductive SurveyFault where
  /-- There is no collection. -/
  | uncollected (f : CollectFault)
  /-- The snapshot could not be saved at a path. -/
  | unsaved (path : String) (f : ReplaceFault)
  deriving DecidableEq

/-- The wording of a fault and of its causes, the deepest last. -/
def SurveyFault.chain (workingDirectory tag : String) : SurveyFault → List String
  | .uncollected .noClient => "Failed to create collector" :: CollectFault.noClient.chain
  | .uncollected f => "Collection failed" :: f.chain
  | .unsaved path f =>
    ["Failed to save snapshot to " ++ path, Snapshot.saveMessage workingDirectory tag path f,
      f.message workingDirectory tag]

namespace Survey

/-- What is found in a collection. -/
def ofCollection? (c : Collection) : Option Survey := do
  return ⟨← Snapshot.ofRecords? c.records, Stats.ofRecords c.records, c.failures.length⟩

/-- How a survey left things. -/
structure Run (σ : Type) where
  /-- What the observer made of the outcomes. -/
  observed : σ
  result : Except SurveyFault Survey
  tree : FileTree
  /-- The requests that reached the nodes. -/
  requests : List Request

/-- Surveys the nodes behind some contacts. -/
def runFrom {σ : Type} (arrival : Arrival) (link : Link) (cs : List Contact) (s : Settings)
    (tree : FileTree) (observe : σ → Outcome → σ) (start : σ) : Run σ :=
  if !isUserAgent s.userAgent then ⟨start, .error (.uncollected .noClient), tree, []⟩
  else
    match Collection.collectFrom arrival link cs s.maxInFlight observe start with
    | (observed, .error .uncountable) =>
      ⟨observed, .error (.uncollected .uncountable), tree, []⟩
    | (observed, collected) =>
      let sent := StarSurvey.requests link s.userAgent cs
      match collected.mapError SurveyFault.uncollected with
      | .error f => ⟨observed, .error f, tree, sent⟩
      | .ok c =>
        match ofCollection? c with
        | none => ⟨observed, .error (.uncollected (.noRecords c.requested c.failures.length)), tree,
            sent⟩
        | some found =>
          match found.snapshot.save tree s.output with
          | (tree, .error f) => ⟨observed, .error (.unsaved s.output f), tree, sent⟩
          | (tree, .ok ()) => ⟨observed, .ok found, tree, sent⟩

def run {σ : Type} (s : Settings) (n : Network) (addresses : List String) (tree : FileTree)
    (observe : σ → Outcome → σ) (start : σ) : Run σ :=
  runFrom n.arrivalOrder n.link (Network.contacts n.nodes addresses) s tree observe start

end Survey

end StarSurvey
