import StarSurvey.Collection

/-!
# The fan-out of a collection

What runs at once while a collection is made: a launcher that starts one task for each entry, the
tasks, a limiter that lends out permits, a channel with room for one outcome of each entry, and a
receiver that takes the outcomes in as they come. `Step` is one step of any of these, so a run of
them in any interleaving is a chain of steps, and `Reachable` is where such runs lead. A `History`
also says who was asked on the way.

A task holds a sender of the channel from its launch to its end, and so does the launcher until the
last task is launched. The receiver stops when the channel is empty and nobody holds a sender.
-/

namespace StarSurvey

/-- Where a task stands. -/
inductive Phase where
  /-- It waits for a permit if there is a limiter. -/
  | waiting
  /-- It has turned to its node. -/
  | fetching
  /-- It has the outcome of its fetch, and has put it into the channel or not. -/
  | sending (delivered : Bool)
  /-- It has given back its permit and its sender. -/
  | done
  deriving DecidableEq, Repr

namespace Phase

/-- A task holds a permit while it fetches and sends. -/
def holdsPermit : Phase → Bool
  | .fetching | .sending _ => true
  | .waiting | .done => false

/-- A task holds a sender until it is done. -/
def holdsSender (p : Phase) : Bool := p != .done

/-- The task has turned to its node. -/
def hasTurned (p : Phase) : Bool := p != .waiting

/-- The outcome of the task has been put into the channel. -/
def hasDelivered : Phase → Bool
  | .sending delivered => delivered
  | .done => true
  | .waiting | .fetching => false

end Phase

/-- A moment of the fan-out. Outcomes are named by the places of their entries in the list. -/
structure FanOut where
  /-- How many entries the list has; the channel has room for as many outcomes. -/
  requested : Nat
  /-- The tasks that are launched, in the order of the list. -/
  tasks : List Phase
  /-- The launcher still holds a sender. -/
  launching : Bool
  /-- The permits that the limiter can still lend out; without a limiter none are needed. -/
  permits : Option Nat
  /-- The senders that are held. -/
  senders : Nat
  /-- The outcomes in the channel, the oldest first. -/
  queue : List Nat
  /-- The outcomes that were taken in, the first first. -/
  received : List Nat
  /-- The receiver has stopped. -/
  stopped : Bool
  deriving DecidableEq, Repr

namespace FanOut

/-- Before any task is launched. -/
def start (requested : Nat) (limit : Option Nat) : FanOut where
  requested
  tasks := []
  launching := true
  permits := Collection.bound limit
  senders := 1
  queue := []
  received := []
  stopped := false

/-- How many tasks hold a permit. -/
def holders (s : FanOut) : Nat := s.tasks.countP Phase.holdsPermit

/-- How many tasks hold a sender. -/
def alive (s : FanOut) : Nat := s.tasks.countP Phase.holdsSender

/-- One step of the launcher, of a task or of the receiver. -/
inductive Step : FanOut → FanOut → Prop where
  /-- The launcher starts the task of the next entry, with a sender of its own. -/
  | launch {s : FanOut} (hl : s.launching = true) (hn : s.tasks.length < s.requested) :
    Step s { s with tasks := s.tasks ++ [.waiting], senders := s.senders + 1 }
  /-- The launcher gives back its sender behind the last entry. -/
  | close {s : FanOut} (hl : s.launching = true) (hn : s.tasks.length = s.requested) :
    Step s { s with launching := false, senders := s.senders - 1 }
  /-- A task takes a permit if there is a limiter, and turns to its node. -/
  | fetch {s : FanOut} (i : Nat) (hi : s.tasks[i]? = some .waiting) (hp : s.permits ≠ some 0) :
    Step s { s with tasks := s.tasks.set i .fetching, permits := s.permits.map (· - 1) }
  /-- The fetch of a task ends, in whatever way. -/
  | answer {s : FanOut} (i : Nat) (hi : s.tasks[i]? = some .fetching) :
    Step s { s with tasks := s.tasks.set i (.sending false) }
  /-- A task puts its outcome into the channel, where there is room. -/
  | deliver {s : FanOut} (i : Nat) (hi : s.tasks[i]? = some (.sending false))
      (hq : s.queue.length < s.requested) :
    Step s { s with tasks := s.tasks.set i (.sending true), queue := s.queue ++ [i] }
  /-- A task ends and gives back its permit and its sender. -/
  | finish {s : FanOut} (i : Nat) (hi : s.tasks[i]? = some (.sending true)) :
    Step s { s with
      tasks := s.tasks.set i .done, permits := s.permits.map (· + 1), senders := s.senders - 1 }
  /-- The receiver takes in the oldest outcome. -/
  | receive {s : FanOut} (i : Nat) (rest : List Nat) (hl : s.launching = false)
      (hs : s.stopped = false) (hq : s.queue = i :: rest) :
    Step s { s with queue := rest, received := s.received ++ [i] }
  /-- The receiver stops: nothing is in the channel, and nobody can put anything there. -/
  | stop {s : FanOut} (hl : s.launching = false) (hs : s.stopped = false) (hq : s.queue = [])
      (hn : s.senders = 0) :
    Step s { s with stopped := true }

/-- A moment to which a run over a list of entries under a limit can lead. -/
inductive Reachable (requested : Nat) (limit : Option Nat) : FanOut → Prop where
  | start : Reachable requested limit (start requested limit)
  | step {s t : FanOut} : Reachable requested limit s → Step s t → Reachable requested limit t

/-! ## Who is asked -/

/-- The entries whose tasks turn to their nodes in a step, by their places: they fetch behind it,
and did not in front of it. -/
def turning (s t : FanOut) : List Nat :=
  (List.range t.tasks.length).filter fun i =>
    t.tasks[i]? = some .fetching ∧ s.tasks[i]? ≠ some .fetching

/-- A run, by the moment to which it leads and the entries whose tasks turned to their nodes on the
way, the first first. A task that turned to its node twice would be there twice. -/
inductive History (requested : Nat) (limit : Option Nat) : FanOut → List Nat → Prop where
  | start : History requested limit (start requested limit) []
  | step {s t : FanOut} {turned : List Nat} :
      History requested limit s turned → Step s t → History requested limit t (turned ++ turning s t)

/-- The requests that go out as the tasks of some entries turn to their nodes. -/
def sent (userAgent : String) (cs : List Contact) (turned : List Nat) : List Request :=
  turned.filterMap fun i => cs[i]?.bind (Contact.request? userAgent)

end FanOut

end StarSurvey
