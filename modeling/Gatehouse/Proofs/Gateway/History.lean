import Gatehouse.Proofs.Gateway.Requests
import Gatehouse.Proofs.Station.History

/-!
# Histories of a gateway

A history of a gateway is a list of what happens there: it answers requests, its station goes on,
and it begins to drain. To the hub a request is at most one record, and behind it a subscription
that is registered, and taken back when there is no web socket for it.
-/

namespace Gatehouse

/-- Whether the request switches to a web socket. -/
def Http.Request.upgrades (req : Http.Request) : Bool := req.upgrade && req.method == "GET"

namespace Gateway

/-- The stream that a target asks for, if it asks for one as it should. -/
def asked? (maxInterval : Nat) (target : Http.Target) : Option StreamKind :=
  if target.path = StreamKind.logging.method then some .logging
  else if target.path = StreamKind.statistics.method then
    match Http.intervalOf target.query with
    | .error _ => none
    | .ok seconds => if 0 < seconds ∧ seconds ≤ maxInterval then some .statistics else none
  else none

section

variable {maxInterval : Nat} {target : Http.Target} {kind : StreamKind}

private theorem statistics_ne_logging :
    StreamKind.statistics.method ≠ StreamKind.logging.method := by
  decide

theorem asked?_eq_some_iff :
    asked? maxInterval target = some kind ↔
      target.path = kind.method ∧
        (kind = .statistics → ∃ seconds, Http.intervalOf target.query = .ok seconds ∧
          0 < seconds ∧ seconds ≤ maxInterval) := by
  unfold asked?
  by_cases logging : target.path = StreamKind.logging.method
  · rw [if_pos logging]
    cases kind with
    | logging => simp [logging]
    | statistics => simp [logging, statistics_ne_logging.symm]
  · rw [if_neg logging]
    by_cases statistics : target.path = StreamKind.statistics.method
    · rw [if_pos statistics]
      cases Http.intervalOf target.query with
      | error bad =>
        cases kind with
        | logging => simp [logging]
        | statistics => simp
      | ok seconds =>
        cases kind with
        | logging => simp [logging]
        | statistics =>
          constructor
          · intro h
            by_cases allowed : 0 < seconds ∧ seconds ≤ maxInterval
            · exact ⟨statistics, fun _ ↦ ⟨seconds, rfl, allowed⟩⟩
            · simp only [if_neg allowed] at h
              cases h
          · rintro ⟨_, h⟩
            obtain ⟨_, read, allowed⟩ := h rfl
            cases read
            exact if_pos allowed
    · rw [if_neg statistics]
      cases kind with
      | logging => simp [logging]
      | statistics => simp [statistics]

/-- A target that asks as it should gets the next number, whatever the hub holds. -/
theorem openStream_of_asked (h : asked? maxInterval target = some kind) (hub : Hub) :
    ∃ grant, openStream maxInterval target.query target.path hub =
        .ok (grant, (hub.subscribe kind).1) ∧
      grant.subscription = hub.nextId ∧ grant.kind = kind := by
  obtain ⟨path, interval⟩ := asked?_eq_some_iff.mp h
  cases kind with
  | logging =>
    rw [openStream, if_pos path]
    exact ⟨_, rfl, rfl, rfl⟩
  | statistics =>
    obtain ⟨seconds, read, allowed⟩ := interval rfl
    rw [openStream, if_neg (path ▸ statistics_ne_logging), if_pos path, read]
    simp only [Admin.openStatistics, Period.ofSeconds, dif_pos allowed]
    exact ⟨_, rfl, rfl, rfl⟩

/-- Any other target gets a fault that does not depend on the hub. -/
theorem openStream_of_not_asked (h : asked? maxInterval target = none) :
    ∃ fault, ∀ hub, openStream maxInterval target.query target.path hub = .error fault := by
  have never (kind : StreamKind) : asked? maxInterval target ≠ some kind :=
    Option.eq_none_iff_forall_ne_some.mp h kind
  have logging : target.path ≠ StreamKind.logging.method :=
    fun path ↦ never .logging (asked?_eq_some_iff.mpr ⟨path, nofun⟩)
  simp only [openStream, if_neg logging]
  by_cases statistics : target.path = StreamKind.statistics.method
  · simp only [if_pos statistics]
    cases read : Http.intervalOf target.query with
    | error bad => exact ⟨bad.fault, fun _ ↦ rfl⟩
    | ok seconds =>
      have forbidden : ¬(0 < seconds ∧ seconds ≤ maxInterval) := fun allowed ↦
        never .statistics (asked?_eq_some_iff.mpr ⟨statistics, fun _ ↦ ⟨seconds, read, allowed⟩⟩)
      simp only [Admin.openStatistics, Period.ofSeconds, dif_neg forbidden]
      exact ⟨_, fun _ ↦ rfl⟩
  · simp only [if_neg statistics]
    exact ⟨_, fun _ ↦ rfl⟩

end

/-- What the handler of a stream does to the hub. -/
def streamOps (hub : Hub) (upgrade : Bool) : Option StreamKind → List HubOp
  | none => []
  | some kind => .subscribe kind :: if upgrade then [] else [.drop kind hub.nextId]

theorem streamOps_congr {hub hub' : Hub} (h : hub'.nextId = hub.nextId) (upgrade : Bool)
    (kind? : Option StreamKind) : streamOps hub' upgrade kind? = streamOps hub upgrade kind? := by
  cases kind? with
  | none => rfl
  | some kind => rw [streamOps, streamOps, h]

section

variable {maxInterval : Nat} {target : Http.Target} {caller : Caller}

theorem streamHandler_of_not_asked (hm : caller.method.text = target.path)
    (h : asked? maxInterval target = none) :
    ∃ fault, ∀ upgrade hub, streamHandler maxInterval target.query upgrade caller hub =
      ⟨.error fault, hub, []⟩ := by
  obtain ⟨fault, hf⟩ := openStream_of_not_asked h
  refine ⟨fault, fun upgrade hub ↦ ?_⟩
  rw [streamHandler, hm, hf]

theorem streamHandler_of_upgrade {kind : StreamKind} (hm : caller.method.text = target.path)
    (h : asked? maxInterval target = some kind) (hub : Hub) :
    let handled := streamHandler maxInterval target.query true caller hub
    (∃ grant, handled.result = .ok grant ∧ grant.subscription = hub.nextId ∧ grant.kind = kind) ∧
      handled.hub = (hub.subscribe kind).1 := by
  obtain ⟨grant, ho, hs, hk⟩ := openStream_of_asked h hub
  rw [streamHandler, hm, ho]
  exact ⟨⟨grant, rfl, hs, hk⟩, rfl⟩

/-- Without a web socket the subscription is taken back. -/
theorem streamHandler_of_no_upgrade {kind : StreamKind} (hm : caller.method.text = target.path)
    (h : asked? maxInterval target = some kind) (hub : Hub) :
    let handled := streamHandler maxInterval target.query false caller hub
    handled.result = .error upgradeRequired ∧
      handled.hub = ((hub.subscribe kind).1.drop kind hub.nextId).1 := by
  obtain ⟨grant, ho, hs, hk⟩ := openStream_of_asked h hub
  rw [streamHandler, hm, ho]
  simp [hs, hk]

theorem hub_streamHandler (hm : caller.method.text = target.path) (upgrade : Bool) (hub : Hub) :
    (streamHandler maxInterval target.query upgrade caller hub).hub =
      hub.after (streamOps hub upgrade (asked? maxInterval target)) := by
  cases h : asked? maxInterval target with
  | none =>
    obtain ⟨fault, hf⟩ := streamHandler_of_not_asked hm h
    rw [hf]
    rfl
  | some kind =>
    cases upgrade with
    | true => exact (streamHandler_of_upgrade hm h hub).2
    | false => exact (streamHandler_of_no_upgrade hm h hub).2

end

/-- How a request is answered: as the call that it makes, or without touching anything. -/
inductive Answers (g : Gateway) (req : Http.Request) (micros : Nat) : Answered → Prop where
  | outside (response : Http.Response) (h : req.call? = none) :
    Answers g req micros ⟨response, g, none, []⟩
  | unary (h : req.call? = some (callOf .unary req)) (small : req.body.size ≤ bodyLimit) :
    Answers g req micros (g.unary req micros)
  | get (h : req.call? = some (callOf .stream req)) (hm : req.method = "GET") :
    Answers g req micros (g.stream req)
  | head (h : req.call? = some (callOf .stream req)) (hm : req.method = "HEAD")
    (a : Answered) (ha : a = g.stream { req with upgrade := false }) :
    Answers g req micros { a with response := a.response.withoutBody }

theorem answers_handle (g : Gateway) (req : Http.Request) (micros : Nat) :
    g.Answers req micros (g.handle req micros) := by
  have elsewhere (h : Http.Route.ofPath req.target.path ≠ .method) : req.call? = none :=
    Option.eq_none_iff_forall_ne_some.mpr fun _ hc ↦ h (Http.Request.call?_eq_some_iff.mp hc).1
  unfold handle
  cases hr : Http.Route.ofPath req.target.path with
  | nowhere => exact .outside _ (elsewhere (by simp [hr]))
  | method =>
    cases hv : Http.Verb.ofMethod req.method with
    | get =>
      simp only [get, hr]
      exact .get (by simp [Http.Request.call?, hr, hv]) (Http.Verb.ofMethod_eq_get_iff.mp hv)
    | head =>
      simp only [get, hr]
      exact .head (by simp [Http.Request.call?, hr, hv]) (Http.Verb.ofMethod_eq_head_iff.mp hv)
        _ rfl
    | post =>
      by_cases small : req.body.size ≤ bodyLimit
      · exact .unary (by simp [Http.Request.call?, hr, hv, small]) small
      · -- The body is refused before there is a call.
        simp only [unary, if_pos (Nat.lt_of_not_le small)]
        exact .outside _ (by simp [Http.Request.call?, hr, hv, small])
    | other => exact .outside _ (by simp [Http.Request.call?, hr, hv])
  | _ =>
    cases hv : Http.Verb.ofMethod req.method with
    | get =>
      simp only [get, hr]
      exact .outside _ (elsewhere (by simp [hr]))
    | head =>
      simp only [get, hr]
      exact .outside _ (elsewhere (by simp [hr]))
    | _ => exact .outside _ (elsewhere (by simp [hr]))

/-- The stream that a request gets a subscription for, be it for a moment. -/
def opens? (g : Gateway) (req : Http.Request) : Option StreamKind :=
  match req.call? with
  | none => none
  | some call =>
    match call.kind, Gate.verdict g.acl call with
    | .stream, .ok _ => asked? g.maxInterval req.target
    | _, _ => none

/-- What the answer to a request does to the hub. -/
def requestOps (g : Gateway) (req : Http.Request) : List HubOp :=
  recordOf req.event? ++ streamOps g.station.hub req.upgrades (g.opens? req)

section

variable (g : Gateway) (req : Http.Request) (micros : Nat)

/-- What the gate makes of a request as a call for a stream. -/
def intercepted : Intercepted Grant :=
  Gate.intercept g.acl (callOf .stream req)
    (streamHandler g.maxInterval req.target.query req.upgrade) 0 g.station.hub g.station.metrics

theorem stream_of_grant {grant : Grant} (h : (g.intercepted req).result = .ok grant) :
    (g.stream req).response = .bare 101 ∧ (g.stream req).grant = some grant ∧
      (g.stream req).gateway.station.hub = (g.intercepted req).hub := by
  rw [intercepted] at h
  simp only [stream, h, true_and]
  rfl

theorem stream_of_fault {fault : Fault} (h : (g.intercepted req).result = .error fault) :
    (g.stream req).response = .ofFault fault ∧ (g.stream req).grant = none ∧
      (g.stream req).gateway.station.hub = (g.intercepted req).hub := by
  rw [intercepted] at h
  simp only [stream, h, true_and]
  rfl

theorem unary_of_small (small : req.body.size ≤ bodyLimit) :
    let i := Gate.intercept g.acl (callOf .unary req) (unaryHandler g.dispatcher req.body) micros
      g.station.hub g.station.metrics
    (g.unary req micros).response = (match i.result with
      | .ok bytes => Http.Response.ofReply bytes
      | .error f => .ofFault f) ∧
    (g.unary req micros).grant = none ∧ (g.unary req micros).gateway.station.hub = i.hub := by
  rw [unary, if_neg (Nat.not_lt_of_le small)]
  exact ⟨rfl, rfl, rfl⟩

variable {g req}

theorem hub_unary (h : req.call? = some (callOf .unary req)) (small : req.body.size ≤ bodyLimit) :
    (g.unary req micros).gateway.station.hub = g.station.hub.after (g.requestOps req) := by
  have quiet : g.opens? req = none := by simp [opens?, h, callOf]
  have records : g.requestOps req = recordOf (callOf .unary req).event? := by
    rw [requestOps, Http.Request.event?, h, quiet]
    exact List.append_nil _
  rw [(unary_of_small g req micros small).2.2, records]
  cases hv : Gate.verdict g.acl (callOf .unary req) with
  | error why => exact (Gate.intercept_of_refused _ _ _ _ hv).2
  | ok caller => exact (Gate.intercept_of_admitted _ _ _ _ hv).2

/-- What a refused request for a stream is answered. -/
theorem stream_of_refused {why : Refusal}
    (hv : Gate.verdict g.acl (callOf .stream req) = .error why) :
    (g.stream req).response = .ofFault why.fault ∧ (g.stream req).grant = none ∧
      (g.stream req).gateway.station.hub =
        g.station.hub.after (recordOf (callOf .stream req).event?) := by
  obtain ⟨hr, hh⟩ := Gate.intercept_of_refused g.station.hub g.station.metrics
    (streamHandler g.maxInterval req.target.query req.upgrade) 0 hv
  obtain ⟨response, grant, hub⟩ := stream_of_fault g req hr
  exact ⟨response, grant, hub.trans hh⟩

/-- The handler of an admitted request finds the hub as the record left it. -/
theorem intercepted_of_admitted {caller : Caller}
    (hv : Gate.verdict g.acl (callOf .stream req) = .ok caller) :
    let handled := streamHandler g.maxInterval req.target.query req.upgrade caller
      (g.station.hub.after (recordOf (callOf .stream req).event?))
    caller.method.text = req.target.path ∧ (g.intercepted req).result = handled.result ∧
      (g.intercepted req).hub = handled.hub :=
  ⟨((Gate.verdict_eq_ok_iff _ _).mp hv).2.1, Gate.intercept_of_admitted _ _ _ _ hv⟩

theorem hub_stream_eq_intercepted :
    (g.stream req).gateway.station.hub = (g.intercepted req).hub := by
  cases hr : (g.intercepted req).result with
  | ok grant => exact (stream_of_grant g req hr).2.2
  | error fault => exact (stream_of_fault g req hr).2.2

theorem opens?_of_refused {why : Refusal} (h : req.call? = some (callOf .stream req))
    (hv : Gate.verdict g.acl (callOf .stream req) = .error why) : g.opens? req = none := by
  simp only [opens?, h, hv]
  rfl

theorem opens?_of_admitted {caller : Caller} (h : req.call? = some (callOf .stream req))
    (hv : Gate.verdict g.acl (callOf .stream req) = .ok caller) :
    g.opens? req = asked? g.maxInterval req.target := by
  simp only [opens?, h, hv]
  rfl

/-- A stream is opened for an admitted call that asks for it. -/
theorem exists_of_opens {kind : StreamKind} (h : g.opens? req = some kind) :
    req.call? = some (callOf .stream req) ∧
      (∃ caller, Gate.verdict g.acl (callOf .stream req) = .ok caller) ∧
      asked? g.maxInterval req.target = some kind := by
  unfold opens? at h
  split at h
  · cases h
  · next call hcall =>
    split at h
    · next caller stream hv =>
      rcases (Http.Request.call?_eq_some_iff.mp hcall).2 with ⟨_, rfl⟩ | ⟨_, _, rfl⟩
      · exact ⟨hcall, ⟨caller, hv⟩, h⟩
      · cases stream
    · cases h

theorem hub_stream (h : req.call? = some (callOf .stream req)) :
    (g.stream req).gateway.station.hub =
      g.station.hub.after
        (recordOf req.event? ++ streamOps g.station.hub req.upgrade (g.opens? req)) := by
  have records : req.event? = (callOf .stream req).event? := by
    rw [Http.Request.event?, h, Option.bind_some]
  cases hv : Gate.verdict g.acl (callOf .stream req) with
  | error why =>
    rw [(stream_of_refused hv).2.2, opens?_of_refused h hv, records]
    exact congrArg _ (List.append_nil _).symm
  | ok caller =>
    obtain ⟨hm, _, hh⟩ := intercepted_of_admitted hv
    -- A record uses no number, so the subscription gets the number that was next before it.
    have next : (g.station.hub.after (recordOf req.event?)).nextId = g.station.hub.nextId := by
      cases req.event? <;> rfl
    rw [hub_stream_eq_intercepted, hh, hub_streamHandler hm, opens?_of_admitted h hv,
      Hub.after_append, ← records, streamOps_congr next]

/-- What a request does to the hub: its record, and behind it a subscription. -/
theorem hub_handle (g : Gateway) (req : Http.Request) (micros : Nat) :
    (g.handle req micros).gateway.station.hub = g.station.hub.after (g.requestOps req) := by
  have answers := answers_handle g req micros
  generalize g.handle req micros = a at answers ⊢
  cases answers with
  | outside response h => simp [requestOps, recordOf, Http.Request.event?, opens?, h, streamOps]
  | unary h small => exact hub_unary micros h small
  | get h hm =>
    have upgrades : req.upgrades = req.upgrade := by simp [Http.Request.upgrades, hm]
    rw [hub_stream h, requestOps, upgrades]
  | head h hm a ha =>
    have upgrades : req.upgrades = false := by simp [Http.Request.upgrades, hm]
    -- Neither the call nor what it asks for depends on whether there is a web socket.
    have same : ({ req with upgrade := false } : Http.Request).call? = req.call? := rfl
    have opened : g.opens? { req with upgrade := false } = g.opens? req := rfl
    change a.gateway.station.hub = _
    rw [ha, hub_stream (same.trans h), requestOps, upgrades, opened]
    rfl

end

end Gateway

/-- One thing that happens at a gateway. -/
inductive GatewayOp where
  /-- It answers a request. -/
  | request (req : Http.Request) (micros : Nat)
  /-- Something happens at its station. -/
  | station (op : StationOp)
  /-- It begins to drain. -/
  | beginDrain

/-- The event that is recorded. -/
def GatewayOp.event? : GatewayOp → Option Event
  | .request req _ => req.event?
  | .station op => op.event?
  | .beginDrain => none

namespace Gateway

/-- What happens next. -/
def step (g : Gateway) : GatewayOp → Gateway
  | .request req micros => (g.handle req micros).gateway
  | .station op => { g with station := g.station.step op }
  | .beginDrain => g.beginDrain

/-- What the next thing that happens does to the hub. -/
def hubOps (g : Gateway) : GatewayOp → List HubOp
  | .request req _ => g.requestOps req
  | .station op => g.station.hubOps op
  | .beginDrain => []

/-- The gateway after a history. -/
def after (g : Gateway) (ops : List GatewayOp) : Gateway := ops.foldl step g

/-- What a history does to the hub. -/
def history (g : Gateway) : List GatewayOp → List HubOp
  | [] => []
  | op :: ops => g.hubOps op ++ (g.step op).history ops

theorem after_cons (g : Gateway) (op : GatewayOp) (ops : List GatewayOp) :
    g.after (op :: ops) = (g.step op).after ops := rfl

/-- Answering a unary call leaves all of a gateway but its station as it is. -/
theorem exists_station_unary (g : Gateway) (req : Http.Request) (micros : Nat) :
    ∃ s, (g.unary req micros).gateway = { g with station := s } := by
  unfold unary
  split
  · exact ⟨g.station, rfl⟩
  · exact ⟨_, rfl⟩

theorem exists_station_stream (g : Gateway) (req : Http.Request) :
    ∃ s, (g.stream req).gateway = { g with station := s } := by
  unfold stream
  simp only
  split <;> exact ⟨_, rfl⟩

theorem exists_station_step (g : Gateway) (op : GatewayOp) :
    ∃ s, g.step op = { g with station := s } := by
  cases op with
  | request req micros =>
    have answers := answers_handle g req micros
    rw [step]
    generalize g.handle req micros = a at answers ⊢
    cases answers with
    | outside => exact ⟨g.station, rfl⟩
    | unary => exact exists_station_unary g req micros
    | get => exact exists_station_stream g req
    | head _ _ a ha =>
      rw [ha]
      exact exists_station_stream g _
  | station op => exact ⟨_, rfl⟩
  | beginDrain => exact ⟨_, rfl⟩

/-- The access list, the longest period and the services of a gateway are the same all the time. -/
theorem exists_station_after (g : Gateway) (ops : List GatewayOp) :
    ∃ s, g.after ops = { g with station := s } := by
  induction ops generalizing g with
  | nil => exact ⟨g.station, rfl⟩
  | cons op ops ih =>
    obtain ⟨s, step⟩ := exists_station_step g op
    obtain ⟨t, rest⟩ := ih (g.step op)
    refine ⟨t, ?_⟩
    rw [after_cons, rest, step]

/-- Whatever happens does to the hub what its operations do. -/
theorem hub_step (g : Gateway) (op : GatewayOp) :
    (g.step op).station.hub = g.station.hub.after (g.hubOps op) := by
  cases op with
  | request req micros => exact hub_handle g req micros
  | station op => exact Station.hub_step g.station op
  | beginDrain => rfl

theorem hub_after (g : Gateway) (ops : List GatewayOp) :
    (g.after ops).station.hub = g.station.hub.after (g.history ops) := by
  induction ops generalizing g with
  | nil => rfl
  | cons op ops ih => rw [after_cons, ih, hub_step, history, Hub.after_append]

theorem recorded_requestOps (g : Gateway) (req : Http.Request) :
    recorded (g.requestOps req) = req.event?.toList := by
  have none : recorded (streamOps g.station.hub req.upgrades (g.opens? req)) = [] := by
    cases g.opens? req with
    | none => rfl
    | some kind => cases req.upgrades <;> rfl
  rw [requestOps, recorded_append, none]
  cases req.event? <;> rfl

/-- What is recorded at a gateway are the events of what happens there, in order. -/
theorem recorded_history (g : Gateway) (ops : List GatewayOp) :
    recorded (g.history ops) = ops.filterMap GatewayOp.event? := by
  induction ops generalizing g with
  | nil => rfl
  | cons op ops ih =>
    have first : recorded (g.hubOps op) = op.event?.toList := by
      cases op with
      | request req micros => exact recorded_requestOps g req
      | station op => exact Station.recorded_hubOps g.station op
      | beginDrain => rfl
    rw [history, recorded_append, first, ih]
    cases he : op.event? with
    | none => rw [List.filterMap_cons_none he]; rfl
    | some e => rw [List.filterMap_cons_some he]; rfl

/-- A gateway to which nothing has happened, such as one that a configuration just started. -/
def fresh (acl : Acl) (maxInterval : Nat) (dispatcher : Dispatcher) (depth : Nat) : Gateway :=
  ⟨acl, maxInterval, dispatcher, .ofDepth depth⟩

theorem coherent_after_fresh (acl : Acl) (maxInterval : Nat) (dispatcher : Dispatcher)
    (depth : Nat) (ops : List GatewayOp) :
    ((fresh acl maxInterval dispatcher depth).after ops).station.hub.Coherent := by
  rw [hub_after]
  exact Hub.coherent_after (Hub.coherent_ofDepth depth) _

end Gateway

end Gatehouse
