import Gatehouse.Config.Load
import Gatehouse.Gateway

/-!
# Serving sessions

A session loads a configuration and its access list, answers the requests of one client one
after another, and stops. An auditor subscribes before the first request and sees every event.
-/

namespace Gatehouse

/-- Whether a client can reach the address that the server listens on. -/
inductive Link where
  /-- The client comes from this address. -/
  | up (client : Address)
  /-- The client cannot connect, for this reason. -/
  | down (reason : String)

/-- What came of a session. -/
structure Session where
  responses : List Http.Response
  /-- The events that the auditor saw. -/
  audit : List Event
  drainingBefore : Bool
  drainingAfter : Bool

/-- Why there was no session. -/
inductive SessionError where
  /-- The server did not start. -/
  | fault (f : Fault)
  /-- The client could not connect. -/
  | unreachable (reason : String)

namespace Server

/-- Answers requests one after another. -/
def answerAll (g : Gateway) : List Http.Request → List Http.Response × Gateway
  | [] => ([], g)
  | req :: rest =>
    let a := g.handle req 0
    let (g, _) := a.gateway.settle
    let (responses, g) := answerAll g rest
    (a.response :: responses, g)

/-- The requests of a client as they arrive, which takes a link. -/
def arrive (link : Link) (requests : List Http.Request) : Except String (List Http.Request) :=
  match link with
  | .up client =>
    .ok (requests.map fun r =>
      { r with headers := Http.trimHeaders r.headers, peer := some client })
  | .down reason => if requests.isEmpty then .ok [] else .error reason

/-- Loads, serves and stops. The address to listen on is read from its text once more. -/
def serve (read : String → Yaml.Document) (files : Files) (path : String) (link : Link)
    (requests : List Http.Request) : Except SessionError Session :=
  match Config.load read files path with
  | .error f => .error (.fault f)
  | .ok config =>
    match Config.loadAcl files config with
    | .error f => .error (.fault f)
    | .ok acl =>
      match Config.addressOf config.listenText with
      | .error e => .error (.fault e.fault)
      | .ok _ =>
        match arrive link requests with
        | .error reason => .error (.unreachable reason)
        | .ok requests =>
          let g := Gateway.ofConfig config acl
          let (hub, auditor) := g.station.hub.subscribeLogging
          let g := { g with station := { g.station with hub } }
          let (responses, g) := answerAll g requests
          let stopped := g.beginDrain.settle.1
          let audit := ((g.station.hub.receiver? auditor).map (·.queue.toList)).getD []
          .ok ⟨responses, audit, g.isDraining, stopped.isDraining⟩

end Server

end Gatehouse
