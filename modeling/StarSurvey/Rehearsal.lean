import StarSurvey.Json.Value
import StarSurvey.Network.Reply
import StarSurvey.Network.Response
import StarSurvey.Network.SocketAddress

/-!
# Rehearsals

A galaxy of nodes that answer by a script, each at an address of its own, to try a survey on. Every
node counts how often its system is asked for.
-/

namespace StarSurvey

/-- How a scripted node answers when its system is asked for. -/
inductive Script where
  | respond (body : Json.Value)
  | raw (body : String)
  | status (code : Nat) (body : String)
  | delay (milliseconds : Nat) (body : Json.Value)
  | hang

namespace Script

/-- A code that a response can have; any other is sent as an error of the server. -/
def statusOf (code : Nat) : Nat := if 100 ≤ code ∧ code ≤ 999 then code else 500

/-- What comes, and after how many milliseconds; never, if nothing does. -/
def response? : Script → Option (Network.Response × Nat)
  | .respond body => some (.page Network.Response.jsonType body.compact, 0)
  | .raw body => some (.page Network.Response.jsonType body, 0)
  | .status code body =>
    some ({ status := statusOf code, contentType := some Network.Response.textType, body }, 0)
  | .delay ms body => some (.page Network.Response.jsonType body.compact, ms)
  | .hang => none

end Script

/-- A scripted node and how often it was asked. -/
structure ScriptedNode where
  script : Script
  hits : Nat := 0

/-- The scripted nodes of a rehearsal. -/
structure Rehearsal where
  nodes : List ScriptedNode

namespace Rehearsal

def ofScripts (scripts : List Script) : Rehearsal := ⟨scripts.map fun s => { script := s }⟩

/-- The address of this machine with a port. -/
def loopback (port : Nat) : Network.SocketAddress := .v4 ⟨127, 0, 0, 1⟩ port.toUInt16

def firstPort : Nat := 49152

/-- The addresses of the nodes, each with a port of its own. -/
def addresses (r : Rehearsal) : List Network.SocketAddress :=
  (List.range r.nodes.length).map fun i => loopback (firstPort + i)

def unreachableAddress (r : Rehearsal) : Network.SocketAddress :=
  loopback (firstPort + r.nodes.length)

/-- How often all systems were asked for. -/
def totalHits (r : Rehearsal) : Nat := r.nodes.foldl (fun n node => n + node.hits) 0

/-- What comes of a request to a node. -/
inductive Answer where
  /-- The node cannot be reached. -/
  | failed
  /-- Nothing comes in time. -/
  | nothing
  | response (r : Network.Response)
  deriving DecidableEq

/-- A response that comes in time. -/
def inTime (patience : Nat) : Option (Network.Response × Nat) → Answer
  | some (r, ms) => if ms < patience then .response r else .nothing
  | none => .nothing

/-- Sends a request to one node and waits for some milliseconds. -/
def ScriptedNode.request (n : ScriptedNode) (patience : Nat) (method target : String) :
    ScriptedNode × Answer :=
  let path := Network.pathOf target
  if path = "/system" ∧ (method = "GET" ∨ method = "HEAD") then
    let answer := match inTime patience n.script.response? with
      | .response r => .response (if method = "HEAD" then r.head else r)
      | a => a
    ({ n with hits := n.hits + 1 }, answer)
  else
    let page? (path : String) : Option Network.Response :=
      if path = "/health" then some (.page Network.Response.textType "ok")
      else if path = "/system" then some (.page Network.Response.jsonType "")
      else none
    (n, .response (Network.serve page? method target))

/-- Sends a request to the node at an index, if there is one. -/
def request (r : Rehearsal) (link : Link) (patience index : Nat) (method target : String) :
    Rehearsal × Option (ScriptedNode × Answer) :=
  match r.nodes[index]?, link with
  | none, _ => (r, none)
  | some n, .down => (r, some (n, .failed))
  | some n, .up =>
    let (n, answer) := ScriptedNode.request n patience method target
    (⟨r.nodes.set index n⟩, some (n, answer))

end Rehearsal

end StarSurvey
