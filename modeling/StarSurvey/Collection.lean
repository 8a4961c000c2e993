import StarSurvey.Fetch

/-!
# Collecting from many nodes

Every entry of a list of addresses is fetched on its own, all at once or up to a bound. Outcomes are
taken in as they arrive and shown to an observer; the collection is complete when each entry has had
its outcome. Records and failures keep the order of their arrival.
-/

namespace StarSurvey

/-- How the fetch of one entry ended. -/
structure Outcome where
  address : String
  result : Except FetchError Record

/-- The outcome of turning to a node. -/
def Contact.outcome (link : Link) (c : Contact) : Outcome := ⟨c.address, c.fetch link⟩

/-- What was gathered in one run. -/
structure Collection where
  /-- How many entries the list had. -/
  requested : Nat
  /-- The records in the order of their arrival. -/
  records : List Record
  /-- The failures in the order of their arrival. -/
  failures : List FetchError
  deriving DecidableEq

/-- Why there is no collection. -/
inductive CollectFault where
  /-- Not one entry gave a record. -/
  | noRecords (requested failed : Nat)
  /-- The user agent does not fit into a request. -/
  | noClient
  /-- The bound is beyond what can be counted; the program breaks off without an error of its own. -/
  | uncountable
  deriving DecidableEq, Repr

/-- The greatest bound that can be counted. -/
def maxPermits : Nat := 0x1FFFFFFFFFFFFFFF

/-- The wording of a fault and of its causes, the deepest last. -/
def CollectFault.chain : CollectFault → List String
  | .noRecords requested failed =>
    ["no star systems collected (" ++ toString failed ++ " of " ++ toString requested ++
      " nodes failed)"]
  | .noClient =>
    ("failed to build HTTP client: " ++ userAgentFaults.headD "") :: userAgentFaults
  | .uncountable =>
    ["a semaphore may not have more than MAX_PERMITS permits (" ++ toString maxPermits ++ ")"]

def CollectFault.message (f : CollectFault) : String := f.chain.headD ""

namespace Collection

/-- The collection of a list of entries before anything arrived. -/
def empty (requested : Nat) : Collection := ⟨requested, [], []⟩

def add (c : Collection) (o : Outcome) : Collection :=
  match o.result with
  | .ok r => { c with records := c.records ++ [r] }
  | .error e => { c with failures := c.failures ++ [e] }

/-- Takes in outcomes one after the other, each shown to the observer as it arrives. -/
def gather {σ : Type} (observe : σ → Outcome → σ) (s : σ) (c : Collection)
    (outcomes : List Outcome) : σ × Collection :=
  outcomes.foldl (fun (s, c) o => (observe s o, c.add o)) (s, c)

/-- The outcomes of some contacts in the order in which they arrive. -/
def arrivals (link : Link) (cs : List Contact) (order : List Nat) : List Outcome :=
  order.filterMap fun i => cs[i]?.map (Contact.outcome link)

/-- A bound on fetches at once; a bound of none is no bound. -/
def bound (limit : Option Nat) : Option Nat := limit.filter (0 < ·)

/-- What comes in from some contacts, in the order in which it does. -/
def outcomes (arrival : Arrival) (link : Link) (cs : List Contact) (limit : Option Nat) :
    List Outcome :=
  arrivals link cs (arrival (bound limit) cs)

/-- Turns to all contacts at once, up to a bound, and waits for every outcome. -/
def collectFrom {σ : Type} (arrival : Arrival) (link : Link) (cs : List Contact)
    (limit : Option Nat) (observe : σ → Outcome → σ) (s : σ) :
    σ × Except CollectFault Collection :=
  if cs.isEmpty then (s, .error (.noRecords 0 0))
  else if maxPermits < (bound limit).getD 0 then (s, .error .uncountable)
  else
    let (s, c) := gather observe s (empty cs.length) (outcomes arrival link cs limit)
    if c.records.isEmpty then (s, .error (.noRecords c.requested c.failures.length)) else (s, .ok c)

/-- Fetches from all addresses and waits for every outcome. -/
def collect {σ : Type} (n : Network) (limit : Option Nat) (addresses : List String)
    (observe : σ → Outcome → σ) (s : σ) : σ × Except CollectFault Collection :=
  collectFrom n.arrivalOrder n.link (Network.contacts n.nodes addresses) limit observe s

end Collection

end StarSurvey
