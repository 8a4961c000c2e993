/-!
# Serving requests

A server has a few pages, each under one path. A page can be read, or only its head; other methods
are refused, and so are other paths. What follows a question mark plays no part.
-/

namespace StarSurvey.Network

/-- What a server answers. -/
structure Response where
  status : Nat
  contentType : Option String := none
  /-- The methods that a page allows, where another was used. -/
  allow : Option String := none
  body : String := ""
  deriving DecidableEq, Repr

namespace Response

def page (contentType body : String) : Response :=
  { status := 200, contentType := some contentType, body }

def textType : String := "text/plain; charset=utf-8"

def jsonType : String := "application/json"

/-- There is no such page. -/
def notFound : Response := { status := 404 }

/-- The method is not one of those for reading. -/
def notAllowed : Response := { status := 405, allow := some "GET,HEAD" }

def head (r : Response) : Response := { r with body := "" }

end Response

/-- The path of a request: what it asks for, without the name of a server and without what follows a
question mark. -/
def pathOf (target : String) : String :=
  let ends (c : Char) : Bool := c = '/' || c = '?' || c = '#'
  let whole := target.toList
  let scheme := whole.takeWhile Char.isAlpha
  let behind := whole.drop scheme.length
  let asked :=
    if !scheme.isEmpty ∧ "://".toList.isPrefixOf behind then
      (behind.drop 3).dropWhile fun c => !ends c
    else whole
  let path := asked.takeWhile fun c => c ≠ '?' && c ≠ '#'
  if path.isEmpty then "/" else String.ofList path

/-- What comes of a request to a server with some pages. -/
def serve (page? : String → Option Response) (method target : String) : Response :=
  match page? (pathOf target) with
  | none => .notFound
  | some r =>
    if method = "GET" then r
    else if method = "HEAD" then r.head
    else .notAllowed

end StarSurvey.Network
