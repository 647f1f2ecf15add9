import Gatehouse.Proofs.Acl
import Gatehouse.Proofs.Config.Checking
import Gatehouse.Proofs.Gateway.Gauges
import Gatehouse.Proofs.Station.Periods
import Gatehouse.Server
import Gatehouse.Yaml.Document

/-!
# Limits of a running gateway

What is checked when a configuration is read is relied on much later: by the hub, by the streams and
by the server. A gateway that a valid configuration started keeps within the limits of this
configuration, whatever happens there, and what is checked once more on the way never fails.
-/

namespace Gatehouse

/-- Streams that are started without a request are ones that the gateway grants as well. -/
def GatewayOp.Opens (maxInterval : Nat) : GatewayOp → Prop
  | .station (.start grant _ _) => grant.Opened maxInterval
  | _ => True

namespace Gateway

section

variable {g : Gateway} {req : Http.Request} {grant : Grant}

theorem opened_of_openStream {maxInterval : Nat} {query : Option String} {path : String}
    {hub hub' : Hub} (h : openStream maxInterval query path hub = .ok (grant, hub')) :
    grant.Opened maxInterval := by
  unfold openStream at h
  split at h
  · cases h
    exact .logging hub
  · split at h
    · split at h
      · cases h
      · exact .statistics h
    · cases h

theorem opened_of_streamHandler {maxInterval : Nat} {query : Option String} {upgrade : Bool}
    {caller : Caller} {hub : Hub}
    (h : (streamHandler maxInterval query upgrade caller hub).result = .ok grant) :
    grant.Opened maxInterval := by
  unfold streamHandler at h
  split at h
  · cases h
  · next opened =>
    dsimp only at h
    split at h
    · cases h
      exact opened_of_openStream opened
    · cases h

theorem opened_of_stream (h : (g.stream req).grant = some grant) :
    grant.Opened g.maxInterval := by
  cases verdict : Gate.verdict g.acl (callOf .stream req) with
  | error why => cases (stream_of_refused verdict).2.1.symm.trans h
  | ok caller =>
    obtain ⟨-, result, -⟩ := intercepted_of_admitted verdict
    cases handled : (g.intercepted req).result with
    | error fault => cases (stream_of_fault g req handled).2.1.symm.trans h
    | ok given =>
      cases (stream_of_grant g req handled).2.1.symm.trans h
      exact opened_of_streamHandler (result.symm.trans handled)

/-- Every stream that a request is granted has a period that is allowed. -/
theorem opened_of_handle {micros : Nat} (h : (g.handle req micros).grant = some grant) :
    grant.Opened g.maxInterval := by
  have answers := answers_handle g req micros
  generalize g.handle req micros = a at answers h
  cases answers with
  | outside response _ => cases h
  | unary _ small => cases (unary_of_small g req micros small).2.1.symm.trans h
  | get => exact opened_of_stream h
  | head _ _ a same =>
    subst same
    exact opened_of_stream h

/-- An answer takes no time at the station. -/
theorem clock_handle (g : Gateway) (req : Http.Request) (micros : Nat) :
    (g.handle req micros).gateway.station.clock = g.station.clock := by
  have stream (req : Http.Request) :
      (g.stream req).gateway.station.clock = g.station.clock := by
    unfold stream
    dsimp only
    split <;> rfl
  have answers := answers_handle g req micros
  generalize g.handle req micros = a at answers ⊢
  cases answers with
  | outside => rfl
  | unary =>
    unfold unary
    split <;> rfl
  | get => exact stream req
  | head _ _ a same =>
    subst same
    exact stream _

end

section

variable {g : Gateway} {maxInterval : Nat}

/-- What happens at a gateway leaves the relays their periods, and their next ticks near. -/
theorem near_step (same : g.maxInterval = maxInterval) (w : g.station.Near maxInterval)
    {op : GatewayOp} (opens : op.Opens maxInterval) : (g.step op).station.Near maxInterval := by
  cases op with
  | request req micros =>
    intro r hr
    rw [step, clock_handle]
    rw [step, (station_handle g req micros).1] at hr
    rcases List.mem_append.mp hr with old | new
    · exact w r old
    · obtain ⟨grant, given, rfl⟩ := Option.map_eq_some_iff.mp (Option.mem_toList.mp new)
      have opened := opened_of_handle given
      rw [same] at opened
      exact opened.near _
  | station op =>
    refine Station.near_step w ?_
    rintro grant transport watches rfl
    exact opens
  | beginDrain => exact w

theorem near_after (same : g.maxInterval = maxInterval) (w : g.station.Near maxInterval)
    {ops : List GatewayOp} (opens : ∀ op ∈ ops, op.Opens maxInterval) :
    (g.after ops).station.Near maxInterval := by
  induction ops generalizing g with
  | nil => exact w
  | cons op ops ih =>
    obtain ⟨first, rest⟩ := List.forall_mem_cons.mp opens
    obtain ⟨s, step⟩ := exists_station_step g op
    have kept : (g.step op).maxInterval = maxInterval := by rw [step, ← same]
    exact ih kept (near_step same w first) rest

end

/-- The gateway is within the limits of the configuration: its queues are as deep as configured, it
opens statistics streams with the periods that are allowed and no others, and each of its statistics
relays has such a period and ticks within a day. -/
structure Within (g : Gateway) (config : Config) : Prop where
  depth : g.station.hub.depth = config.subscriberQueue
  depth_pos : 1 ≤ g.station.hub.depth
  depth_le : g.station.hub.depth ≤ 65536
  opens : ∀ seconds,
    (∃ opened, Admin.openStatistics g.maxInterval seconds g.station.hub = .ok opened) ↔
      1 ≤ seconds ∧ seconds ≤ config.maxInterval
  period : ∀ seconds grant hub,
    Admin.openStatistics g.maxInterval seconds g.station.hub = .ok (grant, hub) →
      ∃ period : Period, grant.feed = .counts period 0 ∧ period.seconds = seconds ∧
        1 ≤ seconds ∧ seconds ≤ 86400
  relays : ∀ r ∈ g.station.relays, ∀ period due, r.feed = .counts period due →
    1 ≤ period.seconds ∧ period.seconds ≤ 86400 ∧ due ≤ g.station.clock + 86400 * 1000

/-- A gateway stays within the limits of the configuration that started it. -/
theorem within_after (config : Config) (acl : Acl) {ops : List GatewayOp}
    (opens : ∀ op ∈ ops, op.Opens config.maxInterval) :
    ((ofConfig config acl).after ops).Within config := by
  have depth : ((ofConfig config acl).after ops).station.hub.depth = config.subscriberQueue := by
    rw [hub_after, Hub.depth_after]
    exact Nat.max_eq_left config.queue_pos
  have longest : ((ofConfig config acl).after ops).maxInterval = config.maxInterval := by
    obtain ⟨s, after⟩ := exists_station_after (ofConfig config acl) ops
    rw [after]
    rfl
  have near : ((ofConfig config acl).after ops).station.Near config.maxInterval :=
    near_after rfl (fun _ none ↦ absurd none List.not_mem_nil) opens
  refine ⟨depth, depth ▸ config.queue_pos, depth ▸ config.queue_le, fun seconds ↦ ?_, ?_, ?_⟩
  · rw [longest]
    constructor
    · rintro ⟨⟨grant, hub⟩, opened⟩
      obtain ⟨le, ⟨period, rfl, -⟩, -⟩ := Admin.openStatistics_eq_ok_iff.mp opened
      exact ⟨period.pos, le⟩
    · rintro ⟨pos, le⟩
      exact ⟨(_, _), Admin.openStatistics_eq_ok_iff.mpr ⟨le, ⟨⟨seconds, pos⟩, rfl, rfl⟩, rfl⟩⟩
  · intro seconds grant hub opened
    rw [longest] at opened
    obtain ⟨le, ⟨period, rfl, rfl⟩, -⟩ := Admin.openStatistics_eq_ok_iff.mp opened
    exact ⟨period, rfl, rfl, period.pos, le.trans config.interval_le⟩
  · intro r hr period due counts
    have ticks := near r hr
    rw [counts] at ticks
    have day := ticks.1.trans config.interval_le
    refine ⟨period.pos, day, ticks.2.trans (Nat.add_le_add_left ?_ _)⟩
    rw [Period.milliseconds, Nat.mul_comm]
    exact Nat.mul_le_mul_right 1000 day

end Gateway

/-- No access list is loaded past the checks of its source. -/
theorem Config.loadAcl_ne_noSingleSource (files : Files) (config : Config) :
    loadAcl files config ≠ .error noSingleSource := by
  have compiled (raw : RawRules) : Acl.compile raw ≠ .error noSingleSource :=
    Acl.compile_ne (by decide)
  cases source : config.source with
  | inline rules =>
    rw [loadAcl_of_inline source]
    exact compiled rules
  | file path =>
    rw [loadAcl_of_file source]
    cases files.readText path with
    | error e =>
      intro h
      have first := congrArg (·.toList[0]?) (Fault.config.inj (Except.error.inj h))
      simp at first
    | ok s =>
      rw [aclOfRead, Acl.ofJson]
      split
      · simp [Acl.unreadable, noSingleSource]
      · exact compiled _

/-- Once a configuration and its access list are loaded, the server starts. -/
theorem Server.serve_ne_fault {read : String → Yaml.Document} {files : Files} {path : String}
    {config : Config} {acl : Acl} (loaded : Config.load read files path = .ok config)
    (list : Config.loadAcl files config = .ok acl) (link : Link) (requests : List Http.Request)
    (fault : Fault) : serve read files path link requests ≠ .error (.fault fault) := by
  have listen : Config.addressOf config.listenText = .ok config.listen := by
    rw [Config.load] at loaded
    cases text : files.readText path with
    | error e =>
      rw [text] at loaded
      cases loaded
    | ok s =>
      rw [text] at loaded
      exact Config.addressOf_listenText loaded
  simp only [serve, loaded, list, listen]
  cases arrive link requests <;> simp

namespace Gateway

/-- Whatever reads the text of a configuration, it is accepted just if it holds a draft each part of
which is as it has to be. Another version is a fault of its own, whatever else is wrong, and
everything else is one of the configuration. Of a draft that is not valid the first part that is not
as it has to be decides the fault, and an accepted configuration says what its draft says. Its
access list is loaded from the one source that there is, its address is read again without a fault,
and so the server starts once the list is loaded. Whatever happens then, the gateway stays within
the limits of the configuration. -/
theorem accepted_configs_set_limits (read : String → Yaml.Document) (s : String) :
    let held := Config.Draft.ofDocument (read s)
    ((∃ config, Config.ofText read s = .ok config) ↔ ∃ draft, held = .ok draft ∧ draft.Valid) ∧
    (Config.ofText read s = .error .unsupportedVersion ↔
      ∃ draft, held = .ok draft ∧ draft.version ≠ 1) ∧
    (∀ fault, Config.ofText read s = .error fault →
      fault = .unsupportedVersion ∨ ∃ text, fault = .config text) ∧
    (∀ draft, held = .ok draft → ∃ result, draft.Checks result ∧
      Config.ofText read s = result.mapError Config.Invalid.fault) ∧
    ∀ config, Config.ofText read s = .ok config →
      config.aclSource = .ok config.source ∧
      (∀ files, config.loadAcl files ≠ .error Config.noSingleSource) ∧
      Config.addressOf config.listenText = .ok config.listen ∧
      (∀ files path acl, Config.load read files path = .ok config →
        config.loadAcl files = .ok acl →
        ∀ link requests fault,
          Server.serve read files path link requests ≠ .error (.fault fault)) ∧
      ∀ acl ops, (∀ op ∈ ops, op.Opens config.maxInterval) →
        ((ofConfig config acl).after ops).Within config := by
  intro held
  refine ⟨?_, Config.ofText_eq_unsupportedVersion_iff, fun _ ↦ Config.config_of_ofText,
    fun _ ↦ Config.exists_checks_of_ofDocument, fun config accepted ↦ ⟨config.aclSource_eq,
      fun files ↦ Config.loadAcl_ne_noSingleSource files config,
      Config.addressOf_listenText accepted,
      fun _ _ _ loaded list ↦ Server.serve_ne_fault loaded list,
      fun acl _ ↦ within_after config acl⟩⟩
  constructor
  · rintro ⟨config, accepted⟩
    obtain ⟨draft, is, checked⟩ := Config.ofText_eq_ok_iff.mp accepted
    exact ⟨draft, is, Config.Draft.valid_iff.mpr ⟨config, checked⟩⟩
  · rintro ⟨draft, is, valid⟩
    obtain ⟨config, checked⟩ := Config.Draft.valid_iff.mp valid
    exact ⟨config, Config.ofText_eq_ok_iff.mpr ⟨draft, is, checked⟩⟩

/-- A text that leaves all numbers to their defaults starts a gateway on which the longest period is
asked for, and a tick comes late; and a text of another version which has no source of rules. -/
theorem accepted_configs_set_limits_of_defaults :
    let read := Yaml.Document.read
    let text := "version: 1\nacl: \x7brules: \x7bc1: [/Admin/*]\x7d\x7d"
    let rules : RawRules := .ofList [("c1", ["/Admin/*"])]
    let config : Config := ⟨Config.defaultListen, .v4 ⟨127, 0, 0, 1⟩ 8082,
      256, by decide, by decide, 3600, by decide, by decide, .inline rules⟩
    let acl : Acl := ⟨.ofList [("c1", [.beginning "/Admin/"])]⟩
    let get : Http.Request := ⟨"GET", ⟨"/Admin/Statistics", some "interval_seconds=3600"⟩,
      [⟨"consumer", [0x63, 0x31]⟩], some (.v4 ⟨10, 1, 2, 3⟩ 4567), .empty, true, .free⟩
    let ops : List GatewayOp := [.request get 0, .station (.move 1 (.branch .start)),
      .station (.advance 9000000), .station (.move 1 (.branch .tick))]
    let g := (ofConfig config acl).after ops
    let other := "version: 2\nacl: \x7b\x7d"
    Config.ofText read text = .ok config ∧ config.loadAcl ⟨[]⟩ = .ok acl ∧ g.Within config ∧
      g.station.hub.depth = 256 ∧ g.station.clock = 9000000 ∧
      g.station.relays.map (·.nextDue?) = [some 12600000] ∧
      Config.ofText read other = .error .unsupportedVersion := by
  intro read text rules config acl get ops g other
  have accepted : Config.ofText read text = .ok config := by decide +kernel
  have opens : ∀ op ∈ ops, op.Opens config.maxInterval := by simp [ops, GatewayOp.Opens]
  obtain ⟨-, -, -, -, kept⟩ := accepted_configs_set_limits read text
  obtain ⟨-, unsupported, -⟩ := accepted_configs_set_limits read other
  obtain ⟨-, -, -, -, limits⟩ := kept config accepted
  have within : g.Within config := limits acl ops opens
  have held : Config.Draft.ofDocument (read other) =
      .ok ⟨2, Config.defaultListen, 256, 3600, none, none⟩ := by
    decide +kernel
  have evaluated : g.station.clock = 9000000 ∧
      g.station.relays.map (·.nextDue?) = [some 12600000] := by
    decide +kernel
  exact ⟨accepted, rfl, within, within.depth, evaluated.1, evaluated.2,
    unsupported.mpr ⟨_, held, by decide⟩⟩

end Gateway

end Gatehouse
