import Gatehouse.Proofs.Gate.Counters
import Gatehouse.Proofs.Gateway.Subscriptions
import Gatehouse.Proofs.Station.Gauges
import Gatehouse.Proofs.Station.Settling

/-!
# Gauges and subscribers in step

At a gateway subscriptions are registered by requests, and a granted one gets a relay with its
answer. From then on the gauge of a kind follows the relays of that kind, and the hub lists the
subscriptions of those that have not ended and were not cut off. Once each granted stream has begun,
the two tell the same streams.
-/

namespace Gatehouse

/-- Whether the operation leaves it to requests to register subscriptions and to start relays. -/
def GatewayOp.isRouted : GatewayOp → Bool
  | .station (.hub (.subscribe _)) => false
  | .station (.start _ _ _) => false
  | _ => true

namespace Gateway

/-- The relay that starts behind an answer, if a stream was granted. -/
def grantedRelays (g : Gateway) (req : Http.Request) (a : Answered) : List Relay :=
  (a.grant.map fun grant ↦ grant.relay (.socket req.socket) true g.station.channel).toList

theorem station_unary (g : Gateway) (req : Http.Request) (micros : Nat) :
    (g.unary req micros).gateway.station.relays =
        g.station.relays ++ g.grantedRelays req (g.unary req micros) ∧
      (g.unary req micros).gateway.station.metrics.adminStreams =
        g.station.metrics.adminStreams := by
  unfold unary
  split
  · exact ⟨(List.append_nil _).symm, rfl⟩
  · exact ⟨(List.append_nil _).symm, Gate.adminStreams_intercept _ _ _ _ _ _⟩

theorem station_stream (g : Gateway) (req : Http.Request) :
    (g.stream req).gateway.station.relays = g.station.relays ++ g.grantedRelays req (g.stream req) ∧
      (g.stream req).gateway.station.metrics.adminStreams = g.station.metrics.adminStreams := by
  have quiet := Gate.adminStreams_intercept g.acl (callOf .stream req) g.station.hub
    g.station.metrics (streamHandler g.maxInterval req.target.query req.upgrade) 0
  unfold stream
  simp only
  split
  · exact ⟨(List.append_nil _).symm, quiet⟩
  · exact ⟨rfl, quiet⟩

/-- A request adds a relay to the station if it is granted a stream, and counts none. -/
theorem station_handle (g : Gateway) (req : Http.Request) (micros : Nat) :
    (g.handle req micros).gateway.station.relays =
        g.station.relays ++ g.grantedRelays req (g.handle req micros) ∧
      (g.handle req micros).gateway.station.metrics.adminStreams =
        g.station.metrics.adminStreams := by
  have answers := answers_handle g req micros
  generalize g.handle req micros = a at answers ⊢
  cases answers with
  | outside response h => exact ⟨(List.append_nil _).symm, rfl⟩
  | unary h small => exact station_unary g req micros
  | get h hm => exact station_stream g req
  | head h hm a ha =>
    rw [ha]
    exact station_stream g _

/-- A request names no subscription of a relay. -/
theorem subject_requestOps {g : Gateway} (w : g.station.Sound) (req : Http.Request) :
    ∀ op ∈ g.requestOps req, op.subject?.all g.station.isFree = true := by
  have unknown := w.isFree_nextId
  intro op hop
  rcases List.mem_append.mp hop with hop | hop
  · obtain ⟨e, -, rfl⟩ := List.mem_map.mp hop
    rfl
  · cases ho : g.opens? req with
    | none => simp [ho, streamOps] at hop
    | some kind =>
      rw [ho] at hop
      rcases List.mem_cons.mp hop with rfl | hop
      · rfl
      · split at hop
        · cases hop
        · rw [List.mem_singleton.mp hop]
          simpa [HubOp.subject?] using unknown

theorem idsOf_recordedHub (g : Gateway) (req : Http.Request) (kind : StreamKind) :
    (g.recordedHub req).idsOf kind = g.station.hub.idsOf kind := by
  rw [recordedHub]
  cases req.event? with
  | none => rfl
  | some e => exact Hub.idsOf_record _ e kind

/-- A stream that is granted is counted from its start, so the answer leaves the gauges right. -/
theorem counted_of_grants {g : Gateway} (w : g.station.Counted) {req : Http.Request}
    {kind : StreamKind} (granted : g.Grants req kind) (micros : Nat) :
    (g.handle req micros).gateway.station.Counted := by
  obtain ⟨opened, upgrades⟩ := grants_iff.mp granted
  obtain ⟨-, grant, given, rfl, number⟩ := grant_of_opens opened upgrades micros
  obtain ⟨relays, gauge⟩ := station_handle g req micros
  have hub := hub_handle g req micros
  have unknown := w.sound.isFree_nextId
  have ids (k : StreamKind) : (g.handle req micros).gateway.station.hub.idsOf k =
      if grant.kind = k then g.station.hub.idsOf k ++ [grant.subscription]
      else g.station.hub.idsOf k := by
    rw [hub_of_opens opened upgrades, Hub.idsOf_subscribe, idsOf_recordedHub, number,
      (recordedHub_spec w.sound.coherent req).2.1]
  rw [grantedRelays, given] at relays
  refine w.grow ?_ relays ?_ ?_ ?_ gauge
  · have base := w.sound.hubAfter (subject_requestOps w.sound req)
    rw [← hub] at base
    let added := grant.relay (.socket req.socket) true g.station.channel
    refine (base.spawn (r := added) ?_ ?_ rfl).congr rfl relays
    · change g.station.isFree grant.subscription = true
      rwa [number]
    · change grant.subscription ∈ Hub.idsOf _ grant.kind
      rw [ids, if_pos rfl]
      exact List.mem_append_right _ (List.mem_singleton_self _)
  · intro r hr
    rw [List.mem_singleton.mp hr]
    rfl
  · intro r hr
    rw [List.mem_singleton.mp hr]
    rfl
  · intro k id hid
    rw [ids] at hid
    split at hid
    · rcases List.mem_append.mp hid with old | new
      · exact .inl old
      · exact .inr ⟨_, List.mem_singleton_self _, (List.mem_singleton.mp new).symm⟩
    · exact .inl hid

/-- A request that is granted no stream adds neither a subscription nor a relay. -/
theorem counted_of_not_opens {g : Gateway} (w : g.station.Counted) {req : Http.Request}
    (refused : g.opens? req = none ∨ req.upgrades = false) (micros : Nat) :
    (g.handle req micros).gateway.station.Counted := by
  obtain ⟨relays, gauge⟩ := station_handle g req micros
  have hub := hub_handle g req micros
  rw [grantedRelays, grant_of_not_opens refused] at relays
  refine w.grow ?_ relays (List.forall_mem_nil _) (List.forall_mem_nil _) ?_ gauge
  · have base := w.sound.hubAfter (subject_requestOps w.sound req)
    exact base.congr hub (relays.trans (List.append_nil _))
  · intro kind id hid
    left
    rw [← idsOf_recordedHub]
    rcases hub_of_not_opens w.sound.coherent refused micros with same | used
    · rwa [← same]
    · rw [used] at hid
      cases kind <;> exact hid

/-- A request leaves the gauges right. -/
theorem counted_handle {g : Gateway} (w : g.station.Counted) (req : Http.Request) (micros : Nat) :
    (g.handle req micros).gateway.station.Counted := by
  rcases grants_or_not g req with ⟨kind, granted⟩ | refused
  · exact counted_of_grants w granted micros
  · exact counted_of_not_opens w refused micros

theorem counted_step {g : Gateway} (w : g.station.Counted) {op : GatewayOp}
    (routed : op.isRouted = true) : (g.step op).station.Counted := by
  cases op with
  | request req micros => exact counted_handle w req micros
  | station op =>
    refine Station.counted_step w ?_ ?_
    · rintro kind rfl
      cases routed
    · rintro grant t watches rfl
      cases routed
  | beginDrain =>
    obtain ⟨⟨coherent, nodup, known, held⟩, shown, served, gauge⟩ := w
    exact ⟨⟨coherent, nodup, known, held⟩, shown, served, gauge⟩

theorem counted_after {g : Gateway} (w : g.station.Counted) {ops : List GatewayOp}
    (routed : ∀ op ∈ ops, op.isRouted = true) : (g.after ops).station.Counted := by
  induction ops generalizing g with
  | nil => exact w
  | cons op ops ih =>
    exact ih (counted_step w (routed op List.mem_cons_self))
      fun o ho ↦ routed o (List.mem_cons_of_mem _ ho)

/-- The gauges of a gateway whose streams are all opened by requests. At any time the gauge of a
kind is the number of its streams that have begun and not ended, however those ended, and it is
zero when none runs. While no granted stream is still about to begin, there are as many statistics
subscribers as statistics streams run, and the logging subscribers are short of the logging streams
by just those that run on after they were cut off. -/
theorem gauges_follow_streams (acl : Acl) (maxInterval : Nat) (dispatcher : Dispatcher)
    (depth : Nat) (ops : List GatewayOp) (routed : ∀ op ∈ ops, op.isRouted = true) :
    let start := fresh acl maxInterval dispatcher depth
    let s := (start.after ops).station
    let cut := evicted (start.station.hub.trace (start.history ops))
    (∀ kind, s.metrics.streams kind = Int64.ofNat (s.running kind) ∧
      (s.running kind < 2 ^ 63 → (s.metrics.streams kind).toInt = s.running kind)) ∧
    (∀ kind, (∀ r ∈ s.relays, r.runs kind = false) → s.metrics.streams kind = 0) ∧
    ((∀ r ∈ s.relays, r.hasStarted = true) →
      s.hub.statisticsSubscribers = s.running .statistics ∧
      s.hub.loggingSubscribers + s.runningCut cut = s.running .logging ∧
      s.hub.loggingSubscribers ≤ s.running .logging) := by
  intro start s cut
  have w : s.Counted := counted_after (g := start) (Station.counted_ofDepth depth) routed
  refine ⟨fun kind ↦ ⟨w.gauge kind, fun few ↦ ?_⟩, fun kind none ↦ ?_, fun begun ↦ ?_⟩
  · rw [w.gauge kind, Int64.toInt_ofNat_of_lt few]
  · have zero : s.running kind = 0 := List.countP_eq_zero.mpr fun r hr ↦ by simp [none r hr]
    rw [w.gauge kind, zero]
    rfl
  · have listed : s.hub.Listed cut := by
      have hub : s.hub = (Hub.ofDepth depth).after (start.history ops) := hub_after start ops
      rw [hub]
      exact (Hub.listed_ofDepth depth).after (start.history ops)
    have account := w.loggingSubscribers_add begun listed
    exact ⟨w.statisticsSubscribers_eq w.sound begun, account, by omega⟩

/-- The socket of a logging stream takes one item at a time, and its client reads late: the stream
holds the second event and is cut off by the fourth. It still runs and is counted, and is registered
no more. When the client has read on, the stream finds the end of its mailbox, and its gauge is
zero. -/
theorem gauges_follow_streams_of_evicted :
    let acl : Acl := ⟨TextMap.empty.insert "c1" [.beginning "/Admin/"]⟩
    let peer : Address := .v4 ⟨10, 1, 2, 3⟩ 4567
    let narrow : Socket := ⟨List.isEmpty, "broken pipe"⟩
    let get (path : String) (query : Option String) : GatewayOp :=
      .request ⟨"GET", ⟨path, query⟩, [⟨"Consumer", [0x63, 0x31]⟩], some peer, .empty, true,
        narrow⟩ 0
    let receive : GatewayOp := .station (.move 1 (.branch .receive))
    let ops : List GatewayOp := [get "/Admin/Logging" none, .station (.move 1 (.branch .start)),
      get "/Admin/Statistics" (some "interval_seconds=1"), .station (.move 2 (.branch .start)),
      receive, get "/Biz/Add" none, receive, get "/Biz/Add" none, get "/Biz/Add" none]
    let readOn : List GatewayOp :=
      [.station (.read 1), .station (.move 1 (.branch .push)), receive]
    let start := fresh acl 60 builtIn 1
    let s := (start.after ops).station
    let t := (start.after (ops ++ readOn ++ readOn)).station
    (∀ op ∈ ops ++ readOn ++ readOn, op.isRouted = true) ∧ s.Idle ∧
      s.metrics.streams .logging = 1 ∧ s.metrics.streams .statistics = 1 ∧
      s.hub.statisticsSubscribers = 1 ∧ s.hub.loggingSubscribers = 0 ∧ s.runningCut [1] = 1 ∧
      t.metrics.streams .logging = 0 := by
  intro acl peer narrow get receive ops readOn start s t
  have routed : ∀ op ∈ ops ++ readOn ++ readOn, op.isRouted = true := by
    simp [ops, readOn, receive, get, GatewayOp.isRouted]
  have early : ∀ op ∈ ops, op.isRouted = true := fun op hop ↦
    routed op (List.mem_append_left _ (List.mem_append_left _ hop))
  obtain ⟨gauge, -, step⟩ := gauges_follow_streams acl 60 builtIn 1 ops early
  obtain ⟨-, quiet, -⟩ :=
    gauges_follow_streams acl 60 builtIn 1 (ops ++ readOn ++ readOn) routed
  have evaluated : (∀ r ∈ s.relays, r.hasStarted = true) ∧ s.fireFirst = none ∧
      s.running .logging = 1 ∧ s.running .statistics = 1 ∧ s.hub.loggingSubscribers = 0 ∧
      s.runningCut [1] = 1 ∧ ∀ r ∈ t.relays, r.runs .logging = false := by
    decide +kernel
  obtain ⟨begun, idle, logging, statistics, unlisted, cut, ended⟩ := evaluated
  exact ⟨routed, Station.fireFirst_eq_none_iff.mp idle,
    (gauge .logging).1.trans (congrArg Int64.ofNat logging),
    (gauge .statistics).1.trans (congrArg Int64.ofNat statistics),
    (step begun).1.trans statistics, unlisted, cut, quiet .logging ended⟩

end Gateway

end Gatehouse
