import StarSurvey.Network.Reply
import StarSurvey.Record
import StarSurvey.Settings

/-!
# Fetching a system

One request to one node, and a record or the stage that broke first: no response, a response that
does not arrive in full, or a body that is no record. Nothing is tried twice.
-/

namespace StarSurvey

/-- The stages of a fetch. -/
inductive Stage where
  | connect
  | body
  | decode
  deriving DecidableEq, Repr

def Stage.text : Stage → String
  | .connect => "connect"
  | .body => "body read"
  | .decode => "decode"

/-- What broke a fetch. -/
inductive FetchFault where
  /-- The address makes no URL. -/
  | invalidUrl
  /-- The address makes a URL that no request can carry. -/
  | unsendable (url : String)
  /-- No response came. -/
  | noResponse (url : String)
  /-- The body did not arrive in full. -/
  | incomplete
  /-- The body is no record. -/
  | undecodable (status : Nat) (e : Json.Error)
  deriving DecidableEq

def FetchFault.stage : FetchFault → Stage
  | .invalidUrl | .unsendable _ | .noResponse _ => .connect
  | .incomplete => .body
  | .undecodable .. => .decode

/-- A fetch that failed. -/
structure FetchError where
  /-- The address as it was given. -/
  address : String
  fault : FetchFault
  deriving DecidableEq

namespace FetchError

def stage (e : FetchError) : Stage := e.fault.stage

def message (e : FetchError) : String :=
  match e.fault with
  | .invalidUrl => "could not reach " ++ e.address ++ ": builder error"
  | .unsendable url => "could not reach " ++ e.address ++ ": builder error for url (" ++ url ++ ")"
  | .noResponse url =>
    "could not reach " ++ e.address ++ ": error sending request for url (" ++ url ++ ")"
  | .incomplete =>
    "could not read response from " ++ e.address ++ ": error decoding response body"
  | .undecodable status fault =>
    "invalid system data from " ++ e.address ++ " (HTTP " ++ toString status ++ "): " ++
      fault.message

end FetchError

/-- Turns to a node and decodes what it answers. -/
def Contact.fetch (link : Link) (c : Contact) : Except FetchError Record :=
  match Network.Url.ofAddress? c.address with
  | none => .error ⟨c.address, .invalidUrl⟩
  | some url =>
    if !url.isSendable then .error ⟨c.address, .unsendable url.text⟩
    else match link, c.reply.response? with
      | .down, _ | .up, none => .error ⟨c.address, .noResponse url.text⟩
      | .up, some (_, none) => .error ⟨c.address, .incomplete⟩
      | .up, some (status, some body) =>
        (Record.ofBytes body).mapError fun e => ⟨c.address, .undecodable status e⟩

/-! ## Requests -/

/-- A request for the system of a node. -/
structure Request where
  url : String
  userAgent : String
  deriving DecidableEq

/-- What a request carries in place of a file. -/
def Request.method : String := "GET"

/-- A user agent that fits into a request: no control characters but tabs. -/
def isUserAgent (s : String) : Bool :=
  (Text.bytes s).all fun b => b = 9 || (32 ≤ b && b ≠ 127)

/-- What is said of a user agent that does not fit, the cause last. -/
def userAgentFaults : List String := ["builder error", "failed to parse header value"]

/-- The request that a fetch sends, if it gets as far as that. -/
def Contact.request? (userAgent : String) (c : Contact) : Option Request := do
  let url ← Network.Url.ofAddress? c.address
  if url.isSendable then some ⟨url.requestText, userAgent⟩ else none

/-- The requests that reach the nodes. -/
def requests (link : Link) (userAgent : String) (cs : List Contact) : List Request :=
  match link with
  | .down => []
  | .up => cs.filterMap (Contact.request? userAgent)

end StarSurvey
