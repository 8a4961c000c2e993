import StarSurvey.Network.Response
import StarSurvey.Network.SocketAddress
import StarSurvey.Peer.Description
import StarSurvey.Startup

/-!
# A node at work

How a node comes by its description and its address, what it needs to start, and what it serves.
-/

namespace StarSurvey.Peer

/-! ## What it serves -/

/-- The pages of a node, which saw its system last at a given time. -/
def page? (d : Description) (lastSeen : String) (path : String) : Option Network.Response :=
  if path = "/health" then some (.page Network.Response.textType "ok")
  else if path = "/system" then
    some (.page Network.Response.jsonType (d.toValue lastSeen).compact)
  else none

def respond (d : Description) (lastSeen method target : String) : Network.Response :=
  Network.serve (page? d lastSeen) method target

/-! ## What it starts from -/

/-- The variable that names the file with the description. -/
def fileVariable : String := "GALAXY_NODE_CONFIG"

/-- The file with the description if none is named. -/
def defaultFile : String := "node.yaml"

/-- The variable that holds the address to listen at. -/
def addressVariable : String := "GALAXY_NODE_ADDR"

/-- The address to listen at if none is given. -/
def defaultAddress : String := "0.0.0.0:8080"

/-- Why a node does not start. -/
inductive Fault where
  /-- The node broke off before it looked for its description. -/
  | unstarted (f : Startup.Fault)
  | unreadable (path : String) (f : FileFault)
  | undescribed (path : String) (f : Description.Unreadable)
  | noAddress (text : String)
  /-- Another program listens there. -/
  | inUse (address : Network.SocketAddress)
  /-- The machine does not have this address. -/
  | notHere (address : Network.SocketAddress)
  deriving DecidableEq

/-- The wording of a fault and of its causes, the deepest last. -/
def Fault.chain : Fault → List String
  | .unstarted f => [f.message]
  | .unreadable path f => ["cannot read " ++ path, f.message]
  | .undescribed path f => ("in " ++ path) :: f.chain
  | .noAddress text =>
    ["invalid " ++ addressVariable ++ ": " ++ text, Network.SocketAddress.malformedMessage]
  | .inUse address => ["cannot bind " ++ address.text, "Address already in use (os error 98)"]
  | .notHere address =>
    ["cannot bind " ++ address.text, "Cannot assign requested address (os error 99)"]

/-- The fault lies in the description. -/
def Fault.isOfDescription : Fault → Bool
  | .unreadable .. | .undescribed .. => true
  | _ => false

/-- The description in a file; without the file, that of a node that is given none. -/
def load (t : FileTree) (named : Option String) : Except Fault Description :=
  let path := named.getD defaultFile
  if !t.exists? path then .ok .default
  else match t.readText path with
    | .error f => .error (.unreadable path f)
    | .ok text => (Description.ofText text).mapError (.undescribed path)

def listenAddress (given : Option String) : Except Fault Network.SocketAddress :=
  let text := given.getD defaultAddress
  match Network.SocketAddress.ofText? text with
  | some a => .ok a
  | none => .error (.noAddress text)

/-- Starts a node: its description and the address it listens at. -/
def start (environment : Environment) (t : FileTree) (inUse : Network.SocketAddress → Bool) :
    Except Fault (Description × Network.SocketAddress) := do
  let environment ← (Startup.environment environment t).mapError .unstarted
  let d ← load t (environment.lookup fileVariable)
  let a ← listenAddress (environment.lookup addressVariable)
  if inUse a then throw (.inUse a)
  else if !(a.isAny || a.isLoopback) then throw (.notHere a)
  else return (d, a)

/-- The wording of why a node does not start. -/
def Fault.startChain (f : Fault) : List String :=
  if f.isOfDescription then "failed to load node config" :: f.chain else f.chain

end StarSurvey.Peer
