import StarSurvey.FanOut

/-!
# Setting up a collection

A collector is what the settings leave of themselves: a client and a bound on fetches at once. For a
list of addresses it opens a channel with room for one outcome of each and, if there is a bound, a
limiter with as many permits. Neither can be had in every size. Asking for one that cannot be had is
no fault that a collection could end with: it breaks the program off.
-/

namespace StarSurvey

/-- What breaks the program off. -/
inductive Breakdown where
  /-- A channel without any room, or with more than can be counted. -/
  | channel (room : Nat)
  /-- A limiter with more permits than can be counted. -/
  | limiter (permits : Nat)
  deriving DecidableEq, Repr

namespace FanOut

/-- Opens the channel of a list of entries, then the limiter. -/
def setUp (requested : Nat) (limit : Option Nat) : Except Breakdown FanOut :=
  if requested = 0 ∨ maxPermits < requested then .error (.channel requested)
  else match Collection.bound limit with
    | none => .ok (start requested limit)
    | some n => if maxPermits < n then .error (.limiter n) else .ok (start requested limit)

end FanOut

/-- A client and a bound on fetches at once. -/
structure Collector where
  userAgent : String
  limit : Option Nat
  deriving DecidableEq, Repr

namespace Collector

variable {σ : Type}

/-- The collector of some settings. A bound of none is no bound. -/
def ofSettings (s : Settings) : Except CollectFault Collector :=
  if isUserAgent s.userAgent then .ok ⟨s.userAgent, Collection.bound s.maxInFlight⟩
  else .error .noClient

/-- Collects from some contacts. Without any nothing is set up. -/
def collect (k : Collector) (arrival : Arrival) (link : Link) (cs : List Contact)
    (observe : σ → Outcome → σ) (s : σ) : Except Breakdown (σ × Except CollectFault Collection) :=
  if cs.isEmpty then .ok (s, .error (.noRecords 0 0))
  else do
    let opened ← FanOut.setUp cs.length k.limit
    let (s, c) := Collection.gather observe s (.empty opened.requested)
      (Collection.outcomes arrival link cs k.limit)
    return if c.records.isEmpty then (s, .error (.noRecords c.requested c.failures.length))
      else (s, .ok c)

/-- Makes a collector of some settings and collects with it. -/
def attempt (s : Settings) (arrival : Arrival) (link : Link) (cs : List Contact)
    (observe : σ → Outcome → σ) (start : σ) :
    Except Breakdown (σ × Except CollectFault Collection) :=
  match ofSettings s with
  | .error f => .ok (start, .error f)
  | .ok k => k.collect arrival link cs observe start

end Collector

end StarSurvey
