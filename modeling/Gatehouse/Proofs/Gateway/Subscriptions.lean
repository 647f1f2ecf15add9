import Gatehouse.Proofs.Gateway.History
import Gatehouse.Proofs.Hub.Delivery
import Gatehouse.Proofs.Hub.Registry
import Gatehouse.Proofs.Hub.Windows

/-!
# Who gets a subscription

A request leaves a subscription behind exactly if it is granted a stream: it is a get with a web
socket from a peer, and names a consumer whom the list allows the stream that its target asks for.
Every other request leaves the registered subscriptions as its record leaves them, also where a
subscription was registered and taken back on the way.
-/

namespace Gatehouse.Gateway

open Snapshot (Reports)

/-- The request is granted a stream of the kind. -/
structure Grants (g : Gateway) (req : Http.Request) (kind : StreamKind) : Prop where
  method : req.method = "GET"
  upgrade : req.upgrade = true
  path : req.target.path = kind.method
  peer : ∃ peer, req.peer = some peer
  consumer : ∃ consumer, req.consumer? = some consumer ∧
    g.acl.judge consumer kind.method = .allow
  interval : kind = .statistics → ∃ seconds, Http.intervalOf req.target.query = .ok seconds ∧
    1 ≤ seconds ∧ seconds ≤ g.maxInterval

variable {g : Gateway} {req : Http.Request} {kind : StreamKind}

/-- The gate admits the requests that are granted a stream, and they ask for it as they should. -/
theorem grants_iff : g.Grants req kind ↔ g.opens? req = some kind ∧ req.upgrades = true := by
  constructor
  · intro w
    have read : ∃ path : MethodPath, path.WellFormed ∧ path.text = kind.method := by
      cases kind with
      | logging => exact ⟨⟨"Admin", "Logging"⟩, MethodPath.read_eq_ok_iff.mp rfl⟩
      | statistics => exact ⟨⟨"Admin", "Statistics"⟩, MethodPath.read_eq_ok_iff.mp rfl⟩
    obtain ⟨path, wellFormed, text⟩ := read
    obtain ⟨peer, hpeer⟩ := w.peer
    obtain ⟨consumer, hconsumer, hallow⟩ := w.consumer
    have route : Http.Route.ofPath req.target.path = .method :=
      Http.Route.ofPath_of_isPath ⟨path, wellFormed, text.trans w.path.symm⟩
    have call : req.call? = some (callOf .stream req) :=
      Http.Request.call?_eq_some_iff.mpr ⟨route, .inl ⟨.inl w.method, rfl⟩⟩
    have admitted : Gate.verdict g.acl (callOf .stream req) = .ok ⟨consumer, peer, path⟩ := by
      refine (Gate.verdict_eq_ok_iff _ _).mpr ⟨wellFormed, text.trans w.path.symm, hpeer, ?_, ?_⟩
      · exact (Http.Request.get?_consumerKey req).trans hconsumer
      · change g.acl.judge consumer req.target.path = .allow
        rwa [w.path]
    refine ⟨?_, by simp [Http.Request.upgrades, w.method, w.upgrade]⟩
    rw [opens?_of_admitted call admitted, asked?_eq_some_iff]
    exact ⟨w.path, w.interval⟩
  · rintro ⟨ho, hu⟩
    obtain ⟨upgrade, method⟩ : req.upgrade = true ∧ req.method = "GET" := by
      simpa [Http.Request.upgrades] using hu
    obtain ⟨-, ⟨caller, admitted⟩, asked⟩ := exists_of_opens ho
    obtain ⟨path, interval⟩ := asked?_eq_some_iff.mp asked
    obtain ⟨-, -, peer, consumer, allow⟩ := (Gate.verdict_eq_ok_iff _ _).mp admitted
    refine ⟨method, upgrade, path, ⟨_, peer⟩, ⟨caller.consumer, ?_, ?_⟩, interval⟩
    · rwa [← Http.Request.get?_consumerKey]
    · rwa [← path]

theorem grants_or_not (g : Gateway) (req : Http.Request) :
    (∃ kind, g.Grants req kind) ∨ g.opens? req = none ∨ req.upgrades = false := by
  cases ho : g.opens? req with
  | none => exact .inr (.inl rfl)
  | some kind =>
    cases hu : req.upgrades with
    | false => exact .inr (.inr rfl)
    | true => exact .inl ⟨kind, grants_iff.mpr ⟨ho, hu⟩⟩

/-- A request that opens a stream over a web socket is granted it, under the next number. -/
theorem grant_of_opens (ho : g.opens? req = some kind) (hu : req.upgrades = true) (micros : Nat) :
    (g.handle req micros).response = .bare 101 ∧
      ∃ grant, (g.handle req micros).grant = some grant ∧ grant.kind = kind ∧
        grant.subscription = g.station.hub.nextId := by
  obtain ⟨call, ⟨caller, admitted⟩, asked⟩ := exists_of_opens ho
  obtain ⟨upgrade, method⟩ : req.upgrade = true ∧ req.method = "GET" := by
    simpa [Http.Request.upgrades] using hu
  have answers := answers_handle g req micros
  generalize g.handle req micros = a at answers ⊢
  cases answers with
  | outside response h => rw [h] at call; cases call
  | unary h small => rw [h] at call; cases call
  | head h hm a ha => exact absurd (hm.symm.trans method) (by decide)
  | get h hm =>
    obtain ⟨text, result, -⟩ := intercepted_of_admitted admitted
    rw [upgrade] at result
    obtain ⟨⟨grant, hg, number, hk⟩, -⟩ := streamHandler_of_upgrade text asked
      (g.station.hub.after (recordOf (callOf .stream req).event?))
    obtain ⟨response, granted, -⟩ := stream_of_grant g req (result.trans hg)
    refine ⟨response, grant, granted, hk, number.trans ?_⟩
    cases (callOf .stream req).event? <;> rfl

theorem stream_of_not_granted (h : req.call? = some (callOf .stream req))
    (hn : g.opens? req = none ∨ req.upgrade = false) : (g.stream req).grant = none := by
  cases admitted : Gate.verdict g.acl (callOf .stream req) with
  | error why => exact (stream_of_refused admitted).2.1
  | ok caller =>
    obtain ⟨text, result, -⟩ := intercepted_of_admitted admitted
    cases asked : asked? g.maxInterval req.target with
    | none =>
      obtain ⟨fault, hf⟩ := streamHandler_of_not_asked text asked
      rw [hf] at result
      exact (stream_of_fault g req result).2.1
    | some kind =>
      have upgrade : req.upgrade = false := by
        rcases hn with closed | upgrade
        · rw [opens?_of_admitted h admitted, asked] at closed
          cases closed
        · exact upgrade
      rw [upgrade, (streamHandler_of_no_upgrade text asked _).1] at result
      exact (stream_of_fault g req result).2.1

theorem grant_of_not_opens (hn : g.opens? req = none ∨ req.upgrades = false) (micros : Nat) :
    (g.handle req micros).grant = none := by
  have answers := answers_handle g req micros
  generalize g.handle req micros = a at answers ⊢
  cases answers with
  | outside response h => rfl
  | unary h small => exact (unary_of_small g req micros small).2.1
  | get h hm =>
    have upgrades : req.upgrades = req.upgrade := by simp [Http.Request.upgrades, hm]
    rw [upgrades] at hn
    exact stream_of_not_granted h hn
  | head h hm a ha =>
    rw [ha]
    exact stream_of_not_granted h (.inr rfl)

/-- The hub that a request's record leaves. -/
def recordedHub (g : Gateway) (req : Http.Request) : Hub :=
  g.station.hub.after (recordOf req.event?)

/-- The subscriptions that a request's record cuts off. -/
def evictedBy (g : Gateway) (req : Http.Request) : List Nat :=
  req.event?.elim [] fun e ↦ (g.station.hub.record e).2.evicted

/-- A record registers nothing. -/
theorem recordedHub_spec (w : g.station.hub.Coherent) (req : Http.Request) :
    (g.recordedHub req).Coherent ∧ (g.recordedHub req).nextId = g.station.hub.nextId ∧
      (g.recordedHub req).loggers = g.station.hub.loggers.filter (· ∉ g.evictedBy req) ∧
      (g.recordedHub req).idsOf .statistics = g.station.hub.idsOf .statistics := by
  rw [recordedHub, evictedBy]
  cases req.event? with
  | none => exact ⟨w, rfl, by simp [recordOf], rfl⟩
  | some e =>
    exact ⟨Hub.coherent_step w (.record e), rfl, Hub.loggers_record w e, Hub.idsOf_record _ e _⟩

theorem hub_of_opens (ho : g.opens? req = some kind) (hu : req.upgrades = true) (micros : Nat) :
    (g.handle req micros).gateway.station.hub = ((g.recordedHub req).subscribe kind).1 := by
  rw [hub_handle, requestOps, ho, hu, Hub.after_append]
  rfl

/-- A request that is granted no stream leaves its record and at most a used number. -/
theorem hub_of_not_opens (w : g.station.hub.Coherent)
    (hn : g.opens? req = none ∨ req.upgrades = false) (micros : Nat) :
    (g.handle req micros).gateway.station.hub = g.recordedHub req ∨
      (g.handle req micros).gateway.station.hub =
        { g.recordedHub req with nextId := g.station.hub.nextId + 1 } := by
  rw [hub_handle, requestOps, Hub.after_append]
  cases ho : g.opens? req with
  | none => exact .inl rfl
  | some kind =>
    have upgrades : req.upgrades = false := by simpa [ho] using hn
    obtain ⟨coherent, next, -, -⟩ := recordedHub_spec w req
    rw [upgrades]
    right
    have dropped := Hub.drop_subscribe coherent kind
    rw [next] at dropped
    exact dropped

end Gatehouse.Gateway
