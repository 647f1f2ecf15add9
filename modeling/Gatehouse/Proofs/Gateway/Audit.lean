import Gatehouse.Proofs.Gateway.History
import Gatehouse.Proofs.Hub.Delivery
import Gatehouse.Proofs.Snapshot

/-!
# The audit of requests

Each audited request is recorded once, before anything else is done about it, whatever it is
answered. Requests that are not audited touch no subscription. A post whose body is too large is
one of them: its body is refused before the gate.
-/

namespace Gatehouse.Gateway

/-- Only recorded requests open streams. -/
theorem event?_of_opens {g : Gateway} {req : Http.Request} {kind : StreamKind}
    (h : g.opens? req = some kind) : ∃ e, req.event? = some e := by
  obtain ⟨call, ⟨caller, admitted⟩, -⟩ := exists_of_opens h
  obtain ⟨wellFormed, text, peer, -, -⟩ := (Gate.verdict_eq_ok_iff _ _).mp admitted
  refine ⟨Gate.audit (callOf .stream req) caller.peer, ?_⟩
  rw [Http.Request.event?, call, Option.bind_some]
  exact Gate.event?_eq_some_iff.mpr ⟨⟨_, wellFormed, text⟩, _, peer, rfl⟩

/-- A request that is not recorded does nothing to the hub. -/
theorem requestOps_of_quiet (g : Gateway) {req : Http.Request} (h : req.event? = none) :
    g.requestOps req = [] := by
  have closed : g.opens? req = none := by
    rw [Option.eq_none_iff_forall_ne_some]
    intro kind hk
    obtain ⟨e, he⟩ := event?_of_opens hk
    rw [h] at he
    cases he
  rw [requestOps, h, closed]
  rfl

section

variable {g : Gateway} {req : Http.Request} {e : Event} {id : Nat}

theorem hub_handle_of_quiet (h : req.event? = none) (micros : Nat) :
    (g.handle req micros).gateway.station.hub = g.station.hub := by
  rw [hub_handle, requestOps_of_quiet g h]
  rfl

/-- Of the subscriptions that are there, a request drops none. -/
theorem drop_not_mem_requestOps (hid : id < g.station.hub.nextId) (kind : StreamKind) :
    .drop kind id ∉ g.requestOps req := by
  have hne : id ≠ g.station.hub.nextId := Nat.ne_of_lt hid
  rw [requestOps, recordOf]
  cases g.opens? req with
  | none => simp [streamOps]
  | some kind => cases req.upgrades <;> simp [streamOps, hne]

/-- A recorded request is offered to each mailbox. -/
theorem mailbox?_handle (w : g.station.hub.Coherent) (h : req.event? = some e) {m : Mailbox}
    (hm : g.station.hub.mailbox? id = some m) (micros : Nat) :
    (g.handle req micros).gateway.station.hub.mailbox? id =
      some (m.offer g.station.hub.depth e) := by
  have hid := w.lt_nextId .logging (Hub.mem_idsOf_of_mailbox? hm)
  rw [hub_handle, Hub.mailbox?_after w hm (drop_not_mem_requestOps hid _), requestOps, h]
  cases g.opens? req with
  | none => rfl
  | some kind => cases req.upgrades <;> rfl

/-- A recorded request is counted in each tally. -/
theorem tally?_handle (w : g.station.hub.Coherent) (h : req.event? = some e) {t : Tally}
    (ht : g.station.hub.tally? id = some t) (micros : Nat) :
    (g.handle req micros).gateway.station.hub.tally? id =
      some { t with counts := t.counts.count e } := by
  have hid := w.lt_nextId .statistics (Hub.mem_idsOf_of_tally? ht)
  rw [hub_handle, Hub.tally?_after w ht (drop_not_mem_requestOps hid _), requestOps, h]
  cases g.opens? req with
  | none => rfl
  | some kind => cases req.upgrades <;> rfl

end

/-- The audit of a gateway. An audited request is recorded under its own word about its consumer,
its path and its peer, whatever the headers, the query and the answer are. The event is queued last
in each mailbox that is registered and has room, and cuts off each that has none. In each tally the
count of the path and that of the consumer go up by one. Any other request leaves the hub as it is.
Over a history, the events of the audited requests are recorded one after another in the order in
which the requests are handled, together with what programs record, and each subscription that is
not dropped reacts to the whole history in its order. -/
theorem audited_requests_are_recorded (acl : Acl) (maxInterval : Nat) (dispatcher : Dispatcher)
    (depth : Nat) (before ops : List GatewayOp) :
    let g := (fresh acl maxInterval dispatcher depth).after before
    let hub := g.station.hub
    (∀ req micros,
      let next := (g.handle req micros).gateway.station.hub
      (∀ peer, req.Audited peer →
        let e : Event := ⟨req.consumer?.getD "", req.target.path, peer.text⟩
        req.event? = some e ∧
        (∀ id m, hub.mailbox? id = some m → ∃ m', next.mailbox? id = some m' ∧
          m' = m.offer hub.depth e ∧ m.Took hub.depth e m') ∧
        (∀ id t, hub.tally? id = some t → ∃ counts, next.tally? id = some { t with counts } ∧
          counts = t.counts.count e ∧ t.counts.OneMore e counts)) ∧
      ((∀ peer, ¬req.Audited peer) → req.event? = none ∧ next = hub) ∧
      (Http.Route.ofPath req.target.path ≠ .method → next = hub)) ∧
    recorded (g.history ops) = ops.filterMap GatewayOp.event? ∧
    (∀ id m, hub.mailbox? id = some m → .drop .logging id ∉ g.history ops →
      (g.after ops).station.hub.mailbox? id =
        some ((g.history ops).foldl (Mailbox.react hub.depth) m)) ∧
    (∀ id t, hub.tally? id = some t → .drop .statistics id ∉ g.history ops →
      (g.after ops).station.hub.tally? id = some ((g.history ops).foldl Tally.react t)) := by
  intro g hub
  have coherent : hub.Coherent := coherent_after_fresh acl maxInterval dispatcher depth before
  refine ⟨fun req micros ↦ ⟨?_, ?_, ?_⟩, recorded_history g ops, ?_, ?_⟩
  · intro peer audited e
    have he : req.event? = some e := Http.Request.event?_eq_some_iff.mpr ⟨peer, audited, rfl⟩
    refine ⟨he, fun id m hm ↦ ?_, fun id t ht ↦ ?_⟩
    · exact ⟨_, mailbox?_handle coherent he hm micros, rfl, Mailbox.took_offer hub.depth m e⟩
    · exact ⟨_, tally?_handle coherent he ht micros, rfl, Snapshot.oneMore_count t.counts e⟩
  · intro unaudited
    have quiet := Http.Request.event?_eq_none_of_not_audited unaudited
    exact ⟨quiet, hub_handle_of_quiet quiet micros⟩
  · intro route
    have unaudited (peer : Address) : ¬req.Audited peer :=
      fun w ↦ route (Http.Route.ofPath_of_isPath w.path)
    exact hub_handle_of_quiet (Http.Request.event?_eq_none_of_not_audited unaudited) micros
  · intro id m hm live
    rw [hub_after]
    exact Hub.mailbox?_after coherent hm live
  · intro id t ht live
    rw [hub_after]
    exact Hub.tally?_after coherent ht live

/-- A head without a consumer is recorded each time, and also by a gateway that drains. -/
theorem audited_requests_are_recorded_of_anonymous :
    let peer : Address := .v4 ⟨10, 1, 2, 3⟩ 4567
    let req : Http.Request := ⟨"HEAD", ⟨"/Admin/Logging", none⟩, [], some peer, .empty, true, .free⟩
    let before := [.station (.hub (.subscribe .logging)), .station (.hub (.subscribe .statistics))]
    let g := (fresh ⟨.empty⟩ 60 builtIn 8).after before
    let next := (g.handle req 0).gateway.station.hub
    let e : Event := ⟨"", "/Admin/Logging", "10.1.2.3:4567"⟩
    req.Audited peer ∧
      (∃ m, next.mailbox? 1 = some m ∧ m.registered = true ∧ m.queue.toList = [e]) ∧
      (∃ t, next.tally? 2 = some t ∧ t.counts.byMethod.countAt "/Admin/Logging" = 1 ∧
        t.counts.byConsumer.countAt "" = 1 ∧ t.counts.byConsumer.countAt "c1" = 0) ∧
      recorded (g.history [.request req 0, .beginDrain, .request req 0]) = [e, e] := by
  intro peer req before g next e
  have read : MethodPath.read "/Admin/Logging" = .ok ⟨"Admin", "Logging"⟩ := rfl
  have path : MethodPath.IsPath req.target.path := ⟨_, MethodPath.read_eq_ok_iff.mp read⟩
  have audited : req.Audited peer := ⟨path, rfl, by decide, by decide⟩
  have mailbox : g.station.hub.mailbox? 1 = some ⟨1, .empty, true⟩ := rfl
  have tally : g.station.hub.tally? 2 = some ⟨2, .empty⟩ := rfl
  have all := audited_requests_are_recorded ⟨.empty⟩ 60 builtIn 8 before
    [.request req 0, .beginDrain, .request req 0]
  obtain ⟨event, mailboxes, tallies⟩ := (all.1 req 0).1 peer audited
  obtain ⟨m, found, -, took⟩ := mailboxes 1 _ mailbox
  obtain ⟨counts, found', -, more⟩ := tallies 2 _ tally
  have registered : m.registered = true := took.registered.mpr ⟨rfl, by decide⟩
  refine ⟨audited, ⟨m, found, registered, ?_⟩, ⟨_, found', ?_, ?_, ?_⟩, ?_⟩
  · rw [took.queued, if_pos registered]
    rfl
  · exact more.byMethod _
  · exact more.byConsumer _
  · exact more.byConsumer _
  · rw [all.2.1]
    simp only [GatewayOp.event?, event, List.filterMap_cons]
    rfl

/-- A body that is one byte too large keeps a well-formed post from a peer out of the audit. -/
theorem oversized_post_is_not_recorded :
    let req : Http.Request := ⟨"POST", ⟨"/Biz/Add", none⟩, [], some (.v4 ⟨10, 1, 2, 3⟩ 4567),
      ⟨Array.replicate (bodyLimit + 1) 0⟩, false, .free⟩
    let g := (fresh ⟨.empty⟩ 60 builtIn 8).after [.station (.hub (.subscribe .logging))]
    MethodPath.IsPath req.target.path ∧
      (g.handle req 0).gateway.station.hub.mailbox? 1 = some ⟨1, .empty, true⟩ := by
  intro req g
  have read : MethodPath.read "/Biz/Add" = .ok ⟨"Biz", "Add"⟩ := rfl
  have path : MethodPath.IsPath req.target.path := ⟨_, MethodPath.read_eq_ok_iff.mp read⟩
  have size : req.body.size = bodyLimit + 1 := Array.size_replicate
  have unaudited (peer : Address) : ¬req.Audited peer := by
    intro w
    have small := w.body rfl
    omega
  refine ⟨path, ?_⟩
  rw [hub_handle_of_quiet (Http.Request.event?_eq_none_of_not_audited unaudited)]
  rfl

end Gatehouse.Gateway
