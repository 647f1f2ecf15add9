import Gatehouse.Admin
import Gatehouse.Business
import Gatehouse.Config
import Gatehouse.Http.Query
import Gatehouse.Http.Request
import Gatehouse.Http.Response
import Gatehouse.Http.Route
import Gatehouse.Metrics.Exposition

/-!
# The gateway

A gateway answers requests one after another. A post to a method path is a unary call, and a get
with an upgrade to a web socket opens a stream; both go through the gate before anything else.
The operator's paths do not.
-/

namespace Gatehouse

/-- A running gateway. -/
structure Gateway where
  acl : Acl
  /-- The longest period of a statistics stream in seconds. -/
  maxInterval : Nat
  dispatcher : Dispatcher
  station : Station

/-- A gateway after it answered a request. -/
structure Answered where
  response : Http.Response
  gateway : Gateway
  /-- The stream that was granted with the answer. -/
  grant : Option Grant
  notes : List Note

namespace Gateway

/-- The services of a gateway. -/
def builtIn : Dispatcher := Dispatcher.empty.register Business.service

/-- A gateway that was just started. -/
def ofConfig (config : Config) (acl : Acl) : Gateway :=
  ⟨acl, config.maxInterval, builtIn, .ofDepth config.subscriberQueue⟩

/-- The method paths that a gateway serves. -/
def served (g : Gateway) : List String := g.dispatcher.registeredMethods ++ adminMethods

/-- The rules of a consumer that name one method and nothing serves it. -/
def unservedRules (served : List String) (patterns : List Pattern) : List String :=
  patterns.filterMap fun p =>
    match p with
    | .exact m => if m ∈ served then none else some m
    | .beginning _ => none

/-- The notes about rules that name a method which nothing serves. -/
def warnings (g : Gateway) : List Note :=
  g.acl.rules.entries.flatMap fun e =>
    (unservedRules g.served e.2).map (Note.unservedRule e.1)

/-- Whether the gateway is draining. -/
def isDraining (g : Gateway) : Bool := g.station.metrics.draining

/-- Begins to drain: readiness ends, and so will every stream. -/
def beginDrain (g : Gateway) : Gateway :=
  let s := { g.station with metrics := g.station.metrics.setDraining }
  { g with station := s.drain }

/-- The gauges that are not kept in the metrics. -/
def extraGauges (g : Gateway) : List (String × Nat) :=
  [("aclgate_logging_subscribers", g.station.hub.loggingSubscribers),
    ("aclgate_stats_subscribers", g.station.hub.statisticsSubscribers),
    ("aclgate_acl_consumers", g.acl.consumers)]

/-- The call that a request makes. -/
def callOf (kind : CallKind) (req : Http.Request) : Call :=
  ⟨kind, req.target.path, .ofHeaders req.headers, req.peer⟩

/-- The gateway with the hub and the metrics that a call left. -/
def afterCall (g : Gateway) (hub : Hub) (metrics : Metrics) : Gateway :=
  { g with station := { g.station with hub, metrics } }

/-- The largest body of a unary call in bytes. -/
def bodyLimit : Nat := 2097152

/-- The answer to a body that is too large. -/
def tooLarge : Http.Response :=
  .ofText 413 Http.Response.plainText "Failed to buffer the request body: length limit exceeded"

/-- Hands a unary call to its service. -/
def unaryHandler (d : Dispatcher) (body : ByteArray) (caller : Caller) (hub : Hub) :
    Handled ByteArray :=
  let reply := d.dispatch caller body
  ⟨reply.result, hub, reply.notes⟩

/-- Answers a unary call. A body that is too large is refused before the gate. -/
def unary (g : Gateway) (req : Http.Request) (micros : Nat) : Answered :=
  if bodyLimit < req.body.size then ⟨tooLarge, g, none, []⟩
  else
    let i := Gate.intercept g.acl (callOf .unary req) (unaryHandler g.dispatcher req.body) micros
      g.station.hub g.station.metrics
    let response := match i.result with
      | .ok bytes => Http.Response.ofReply bytes
      | .error f => .ofFault f
    ⟨response, g.afterCall i.hub i.metrics, none, i.notes⟩

/-- Opens the stream that a path names. -/
def openStream (maxInterval : Nat) (query : Option String) (path : String) (hub : Hub) :
    Except Fault (Grant × Hub) :=
  if path = StreamKind.logging.method then .ok (Admin.openLogging hub)
  else if path = StreamKind.statistics.method then
    match Http.intervalOf query with
    | .error e => .error e.fault
    | .ok seconds => Admin.openStatistics maxInterval seconds hub
  else .error (.unknownMethod path)

/-- The fault of a stream that is asked for without a web socket. -/
def upgradeRequired : Fault := .badRequest "websocket upgrade required"

/-- Grants a stream, or takes its subscription back when there is no web socket for it. -/
def streamHandler (maxInterval : Nat) (query : Option String) (upgrade : Bool) (caller : Caller)
    (hub : Hub) : Handled Grant :=
  match openStream maxInterval query caller.method.text hub with
  | .error f => ⟨.error f, hub, []⟩
  | .ok (grant, hub) =>
    let opened := Note.registered grant.kind grant.subscription
    if upgrade then
      ⟨.ok grant, hub, [opened, .streamGranted grant.kind caller.consumer caller.peer.text]⟩
    else
      let (hub, removed) := hub.drop grant.kind grant.subscription
      ⟨.error upgradeRequired, hub, opened :: dropNotes grant.kind grant.subscription removed⟩

/-- Answers a call for a stream. A granted stream starts behind the answer. -/
def stream (g : Gateway) (req : Http.Request) : Answered :=
  let i := Gate.intercept g.acl (callOf .stream req)
    (streamHandler g.maxInterval req.target.query req.upgrade) 0 g.station.hub g.station.metrics
  let g := g.afterCall i.hub i.metrics
  match i.result with
  | .error f => ⟨.ofFault f, g, none, i.notes⟩
  | .ok grant =>
    let relay := grant.relay (.socket req.socket) true g.station.channel
    ⟨.bare 101, { g with station := g.station.spawn relay }, some grant, i.notes⟩

/-- The answer of an operator's path. -/
def operator (g : Gateway) : Http.Route → Http.Response
  | .health => .ofText 200 Http.Response.plainText "ok"
  | .ready =>
    if g.isDraining then .ofText 503 Http.Response.plainText "draining"
    else .ofText 200 Http.Response.plainText "ready"
  | .metrics =>
    .ofText 200 "text/plain; version=0.0.4; charset=utf-8"
      (g.station.metrics.text g.extraGauges)
  | _ => .bare 404

/-- The answer to a verb that a route does not offer. -/
def notAllowed (verbs : String) : Http.Response := { Http.Response.bare 405 with allow := verbs }

/-- Answers a get. -/
def get (g : Gateway) (req : Http.Request) : Answered :=
  match Http.Route.ofPath req.target.path with
  | .method => g.stream req
  | route => ⟨g.operator route, g, none, []⟩

/-- Answers a request. `micros` is how long a unary call takes. Only a get can be an upgrade. -/
def handle (g : Gateway) (req : Http.Request) (micros : Nat) : Answered :=
  let route := Http.Route.ofPath req.target.path
  match route, Http.Verb.ofMethod req.method with
  | .nowhere, _ => ⟨.bare 404, g, none, []⟩
  | _, .get => g.get req
  | _, .head =>
    let a := g.get { req with upgrade := false }
    { a with response := a.response.withoutBody }
  | .method, .post => g.unary req micros
  | .method, .other => ⟨notAllowed "GET,HEAD,POST", g, none, []⟩
  | _, _ => ⟨notAllowed "GET,HEAD", g, none, []⟩

/-- Lets the streams go on until none of them can. -/
def settle (g : Gateway) : Gateway × List Note :=
  let (s, notes) := g.station.settle
  ({ g with station := s }, notes)

end Gateway

end Gatehouse
