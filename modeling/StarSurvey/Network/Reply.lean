import StarSurvey.Network.Url

/-!
# Nodes and their replies

What can come back from a node, and what a machine meets when it turns to some nodes at once: each
address takes its own next reply, and the outcomes arrive in some order.
-/

namespace StarSurvey

/-- What an address answers to one request. -/
inductive Reply where
  /-- The connection ends before a response begins. -/
  | dropped
  /-- A response begins, and ends before its body is complete. -/
  | truncated (status : Nat) (body : List UInt8)
  /-- A complete response. -/
  | complete (status : Nat) (body : List UInt8)
  deriving DecidableEq

/-- A response with this status settles a request. Below 200 there are only announcements of another
response, but for the one that changes the protocol, and above 999 there is none. -/
def isFinal (status : Nat) : Bool := status == 101 || (200 ≤ status && status ≤ 999)

/-- A response with this status has a body; one with another ends with its head. -/
def carriesBody (status : Nat) : Bool := status != 101 && status != 204 && status != 304

/-- The response that arrives: its status, and its body if that arrives in full. Behind a mere
announcement nothing more comes, so there is none. -/
def Reply.response? : Reply → Option (Nat × Option (List UInt8))
  | .dropped => none
  | .truncated status _ =>
    if isFinal status then some (status, if carriesBody status then none else some []) else none
  | .complete status body =>
    if isFinal status then some (status, some (if carriesBody status then body else [])) else none

/-- The connection of a machine to all others. -/
inductive Link where
  | up
  | down
  deriving DecidableEq, Repr

/-- A node behind its address, with what it answers to the next request. -/
structure Contact where
  address : String
  reply : Reply
  deriving DecidableEq

/-- Nothing is sent to this address: it makes no URL that a request can carry. -/
def Contact.isUnusable (c : Contact) : Bool :=
  match Network.Url.ofAddress? c.address with
  | none => true
  | some url => !url.isSendable

/-- How outcomes arrive: from the bound on fetches at once and the contacts, the places of the
contacts in the order in which their outcomes come in. -/
abbrev Arrival := Option Nat → List Contact → List Nat

/-- Of each contact one outcome comes in. -/
def Arrival.Complete (a : Arrival) : Prop :=
  ∀ limit cs, (a limit cs).Perm (List.range cs.length)

/-- What a machine meets when it turns to its nodes. -/
structure Network where
  link : Link
  nodes : List Contact
  /-- The order in which the nodes answer, by their places in the list. -/
  order : List Nat

namespace Network

/-- The contacts of a list of addresses. Each takes the next reply of its address; where there is
none, nobody listens. -/
def contacts (nodes : List Contact) : List String → List Contact
  | [] => []
  | a :: rest =>
    match nodes.find? (·.address = a) with
    | some c => c :: contacts (nodes.eraseP (·.address = a)) rest
    | none => ⟨a, .dropped⟩ :: contacts nodes rest

/-- The order in which the outcomes of some contacts arrive. On a link that is down all fail at
once; on one that is up the addresses that cannot be used do, unless fetches wait for each other. -/
def arrivalOrder (n : Network) : Arrival := fun limit cs =>
  let all := List.range cs.length
  let isUnusable (i : Nat) : Bool := (cs[i]?.map Contact.isUnusable).getD false
  match n.link with
  | .down => all
  | .up =>
    if limit = some 1 then n.order
    else all.filter isUnusable ++ n.order.filter fun i => !isUnusable i

end Network

end StarSurvey
