/-!
# Routes

Three paths are the operator's; every other path of two segments is a method path. The segment
of the method is not empty; the segment of the service may be.
-/

namespace Gatehouse.Http

/-- What a path leads to. -/
inductive Route where
  /-- Whether the gateway runs. -/
  | health
  /-- Whether the gateway takes calls. -/
  | ready
  /-- The metrics. -/
  | metrics
  /-- A method. -/
  | method
  /-- Nothing. -/
  | nowhere
  deriving DecidableEq, Repr

/-- Whether the characters are two segments, each behind a slash, and the second not empty. -/
def isMethodRoute : List Char → Bool
  | '/' :: rest =>
    match rest.dropWhile (· != '/') with
    | '/' :: method => method != [] && !method.contains '/'
    | _ => false
  | _ => false

/-- The route of a path. -/
def Route.ofPath (path : String) : Route :=
  if path = "/healthz" then .health
  else if path = "/readyz" then .ready
  else if path = "/metrics" then .metrics
  else if isMethodRoute path.toList then .method
  else .nowhere

/-- What a request wants from a route. -/
inductive Verb where
  | get
  /-- Like `get`, but without the body of the answer. -/
  | head
  | post
  /-- What no route offers. -/
  | other
  deriving DecidableEq, Repr

/-- The verb of a request's method. -/
def Verb.ofMethod (method : String) : Verb :=
  if method = "GET" then .get
  else if method = "HEAD" then .head
  else if method = "POST" then .post
  else .other

end Gatehouse.Http
