import Mathlib.Algebra.GroupWithZero.Nat
import Gatehouse.Proofs.Hub.Registry

/-!
# Members of a hub

Who is open at a hub is told by its history: a registration opens a subscription, and a drop closes
it. The registries of the hub hold exactly the open subscriptions, less the logging subscriptions
that a record has cut off. So a record never meets a receiver that is gone, and accounts for all
whom it finds registered.
-/

namespace Gatehouse

/-- The numbers that registrations gave out, in order. -/
def subscribed (trace : List (HubOp × HubAnswer)) : List Nat :=
  trace.filterMap fun
    | (_, .subscribed id) => some id
    | _ => none

/-- The subscriptions that records cut off, in order. -/
def evicted (trace : List (HubOp × HubAnswer)) : List Nat :=
  trace.flatMap fun
    | (_, .recorded report) => report.evicted
    | _ => []

/-- The open subscriptions of a kind after one more operation. -/
def openAfter (kind : StreamKind) (ids : List Nat) : HubOp × HubAnswer → List Nat
  | (.subscribe k, .subscribed id) => if k = kind then ids ++ [id] else ids
  | (.drop k id, _) => if k = kind then ids.filter (· != id) else ids
  | _ => ids

/-- The subscriptions of a kind that were registered and not dropped since, in the order of their
registration. -/
def live (kind : StreamKind) (trace : List (HubOp × HubAnswer)) : List Nat :=
  trace.foldl (openAfter kind) []

theorem evicted_append (xs ys : List (HubOp × HubAnswer)) :
    evicted (xs ++ ys) = evicted xs ++ evicted ys := List.flatMap_append

namespace Hub

/-- The subscriptions of a kind are those that an operation leaves open. -/
theorem idsOf_step (h : Hub) (op : HubOp) (kind : StreamKind) :
    (h.step op).1.idsOf kind = openAfter kind (h.idsOf kind) (op, (h.step op).2) := by
  cases op with
  | subscribe k =>
    refine (idsOf_subscribe h k kind).trans ?_
    cases k <;> rfl
  | record e => exact idsOf_record h e kind
  | poll i => exact idsOf_poll h i kind
  | flush i => exact idsOf_flush h i kind
  | drop k i => exact idsOf_drop h k i kind

theorem idsOf_after (h : Hub) (ops : List HubOp) (kind : StreamKind) :
    (h.after ops).idsOf kind = (h.trace ops).foldl (openAfter kind) (h.idsOf kind) := by
  induction ops generalizing h with
  | nil => rfl
  | cons op ops ih => rw [after_cons, ih, idsOf_step, trace, List.foldl_cons]

/-- Registrations give out one number after the other. -/
theorem subscribed_trace (h : Hub) (ops : List HubOp) :
    subscribed (h.trace ops) = List.range' h.nextId (subscribed (h.trace ops)).length := by
  induction ops generalizing h with
  | nil => rfl
  | cons op ops ih =>
    have rest := ih (h.step op).1
    cases op with
    | subscribe kind =>
      have answer : (h.step (.subscribe kind)).2 = .subscribed h.nextId := by cases kind <;> rfl
      rw [show (h.step (.subscribe kind)).1.nextId = _ from nextId_subscribe h kind] at rest
      rw [trace, answer]
      change h.nextId :: subscribed _ = List.range' h.nextId (subscribed _).length.succ
      rw [List.range'_succ, ← rest]
    | _ =>
      rw [nextId_step_of_ne] at rest
      · exact rest
      · intro kind h
        cases h

/-- The hub delivers to the subscriptions that were neither dropped nor cut off, and has cut off
each of these once. -/
structure Listed (h : Hub) (cut : List Nat) : Prop where
  coherent : h.Coherent
  loggers : h.loggers = (h.idsOf .logging).filter (· ∉ cut)
  known : ∀ id ∈ cut, id < h.nextId
  nodup : cut.Nodup

theorem listed_ofDepth (depth : Nat) : (ofDepth depth).Listed [] :=
  ⟨coherent_ofDepth depth, rfl, fun _ h ↦ absurd h List.not_mem_nil, .nil⟩

/-- Only listed subscriptions are cut off. -/
theorem evicted_sublist_loggers (h : Hub) (e : Event) :
    List.Sublist (h.record e).2.evicted h.loggers := List.filter_sublist

/-- Registrations of logging subscriptions are listed behind the others. -/
theorem Listed.subscribeLogging {h : Hub} {cut : List Nat} (w : h.Listed cut) :
    (h.subscribe .logging).1.Listed cut where
  coherent := coherent_step w.coherent (.subscribe .logging)
  loggers := by
    have new : h.nextId ∉ cut := fun hm ↦ Nat.lt_irrefl _ (w.known _ hm)
    rw [loggers_subscribe, idsOf_subscribe, if_pos rfl, if_pos rfl, w.loggers, List.filter_append]
    simp [new]
  known id hid := Nat.lt_succ_of_lt (w.known id hid)
  nodup := w.nodup

/-- A record cuts off listed subscriptions, and none of them was cut off before. -/
theorem Listed.record {h : Hub} {cut : List Nat} (w : h.Listed cut) (e : Event) :
    (h.record e).1.Listed (cut ++ (h.record e).2.evicted) where
  coherent := coherent_step w.coherent (.record e)
  loggers := by
    rw [loggers_record w.coherent, idsOf_record, w.loggers, List.filter_filter]
    simp [Bool.and_comm]
  known := by
    intro id hid
    rcases List.mem_append.mp hid with old | new
    · exact w.known id old
    · have listed := (evicted_sublist_loggers h e).subset new
      exact w.coherent.registered_lt .logging listed
  nodup := by
    have sub := evicted_sublist_loggers h e
    refine List.nodup_append.mpr ⟨w.nodup, ?_, ?_⟩
    · have ids := (List.nodup_append.mp w.coherent.nodup).1
      exact ids.sublist (sub.trans w.coherent.loggers)
    · rintro id old _ new rfl
      have listed := sub.subset new
      rw [w.loggers] at listed
      simp [old] at listed

theorem Listed.dropLogging {h : Hub} {cut : List Nat} (w : h.Listed cut) (id : Nat) :
    (h.drop .logging id).1.Listed cut where
  coherent := coherent_step w.coherent (.drop .logging id)
  loggers := by
    rw [show (h.drop .logging id).1.loggers = h.loggers.filter (· != id) from rfl, idsOf_drop,
      if_pos rfl, w.loggers, List.filter_filter, List.filter_filter]
    simp [Bool.and_comm]
  known := w.known
  nodup := w.nodup

/-- An operation that changes neither the list nor the logging subscriptions cuts nobody off. -/
theorem Listed.congr {h k : Hub} {cut : List Nat} (w : h.Listed cut) (coherent : k.Coherent)
    (loggers : k.loggers = h.loggers) (ids : k.idsOf .logging = h.idsOf .logging)
    (next : h.nextId ≤ k.nextId) : k.Listed cut where
  coherent := coherent
  loggers := by rw [loggers, ids, w.loggers]
  known id hid := Nat.lt_of_lt_of_le (w.known id hid) next
  nodup := w.nodup

/-- Each operation leaves a hub that delivers to whom it should. -/
theorem Listed.step {h : Hub} {cut : List Nat} (w : h.Listed cut) (op : HubOp) :
    (h.step op).1.Listed (cut ++ evicted [(op, (h.step op).2)]) := by
  have coherent := coherent_step w.coherent op
  have next := nextId_step h op
  cases op with
  | subscribe kind =>
    refine (List.append_nil cut).symm ▸ ?_
    cases kind with
    | logging => exact w.subscribeLogging
    | statistics => exact w.congr coherent rfl rfl next
  | record e =>
    rw [show evicted [(.record e, (h.step (.record e)).2)] = _ from List.flatMap_singleton _ _]
    exact w.record e
  | poll i =>
    refine (List.append_nil cut).symm ▸ ?_
    exact w.congr coherent (registry_poll h i .logging) (idsOf_poll h i _) next
  | flush i =>
    refine (List.append_nil cut).symm ▸ ?_
    exact w.congr coherent (registry_flush h i .logging) (idsOf_flush h i _) next
  | drop kind i =>
    refine (List.append_nil cut).symm ▸ ?_
    cases kind with
    | logging => exact w.dropLogging i
    | statistics => exact w.congr coherent rfl rfl next

theorem Listed.after {h : Hub} {cut : List Nat} (w : h.Listed cut) (ops : List HubOp) :
    (h.after ops).Listed (cut ++ evicted (h.trace ops)) := by
  induction ops generalizing h cut with
  | nil => exact (List.append_nil cut).symm ▸ w
  | cons op ops ih =>
    have rest := ih (w.step op)
    rw [List.append_assoc, ← evicted_append] at rest
    exact rest

/-- The registries of a hub. Its subscriptions of both kinds have different numbers, also in 64 bits
as long as these hold their count, and what is held for them is there until they are dropped.
Registered are the logging subscriptions that were neither dropped nor cut off and the statistics
subscriptions that were not dropped, in the order of registration. So the receiver of whoever is
registered is still there, also between the two halves of a drop, and a record finds no receiver
gone. Each registered logging subscription takes an event or is cut off by it, and those that take
it are registered afterwards. A drop takes out the subscription that it names and no other, and
tells whether it was registered, which one that was cut off is not. Nobody is registered when all
subscriptions were dropped. -/
theorem registries_list_open_subscriptions (q : Nat) (ops : List HubOp) :
    let hub := (ofDepth q).after ops
    let trace := (ofDepth q).trace ops
    (subscribed trace).Nodup ∧
    ((subscribed trace).length < 2 ^ 64 → ((subscribed trace).map UInt64.ofNat).Nodup) ∧
    (∀ kind, hub.idsOf kind = live kind trace) ∧
    hub.registry .logging = (live .logging trace).filter (· ∉ evicted trace) ∧
    hub.registry .statistics = live .statistics trace ∧
    (∀ id ∈ hub.registry .logging, id ∈ live .logging trace ∧ hub.trySend id ≠ .closed) ∧
    (∀ kind id, ∀ other ∈ (hub.unregister kind id).1.registry .logging,
      (hub.unregister kind id).1.trySend other ≠ .closed) ∧
    (∀ e,
      let report := (hub.record e).2
      report.delivered + report.evicted.length = hub.loggingSubscribers ∧
      report.delivered = (hub.record e).1.loggingSubscribers) ∧
    (∀ kind id,
      (∀ other, (hub.drop kind id).1.registry other =
        if kind = other then (hub.registry other).filter (· != id) else hub.registry other) ∧
      ((hub.drop kind id).2 = true ↔ id ∈ hub.registry kind)) ∧
    ((∀ kind, live kind trace = []) → ∀ kind, hub.registry kind = []) := by
  intro hub trace
  have coherent : hub.Coherent := coherent_after (coherent_ofDepth q) ops
  have numbers : subscribed trace = List.range' 1 (subscribed trace).length :=
    subscribed_trace (ofDepth q) ops
  have held (kind : StreamKind) : hub.idsOf kind = live kind trace := by
    refine (idsOf_after (ofDepth q) ops kind).trans ?_
    cases kind <;> rfl
  have loggers : hub.registry .logging = (live .logging trace).filter (· ∉ evicted trace) := by
    rw [← held]
    exact ((listed_ofDepth q).after ops).loggers
  have statistics : hub.registry .statistics = live .statistics trace :=
    coherent.statistics.trans (held .statistics)
  refine ⟨?_, ?_, held, loggers, statistics, ?_, coherent.reaches_unregister, ?_, ?_, ?_⟩
  · rw [numbers]
    exact List.nodup_range'
  · intro few
    rw [numbers]
    refine List.Nodup.map_on ?_ List.nodup_range'
    intro i hi j hj he
    rw [List.mem_range'_1] at hi hj
    have hn := congrArg UInt64.toNat he
    rw [UInt64.toNat_ofNat', UInt64.toNat_ofNat'] at hn
    omega
  · intro id hid
    exact ⟨held .logging ▸ coherent.loggers.subset hid, coherent.reaches id hid⟩
  · exact fun e ↦ ⟨coherent.reaches.delivered_add_evicted e, delivered_eq hub e⟩
  · exact fun kind id ↦ ⟨fun other ↦ registry_drop hub kind other id, drop_snd_eq_true_iff⟩
  · intro closed kind
    cases kind with
    | logging => rw [loggers, closed, List.filter_nil]
    | statistics => rw [statistics, closed]

/-- On a depth of one, the second record cuts off the first subscription. When that one is dropped,
it is not registered any more, and the drop takes out nobody. -/
theorem registries_list_open_subscriptions_of_evicted :
    let e : Event := ⟨"c1", "/Biz/Add", "127.0.0.1:40000"⟩
    let ops := [.subscribe .logging, .subscribe .statistics, .record e, .subscribe .logging,
      .record e]
    let hub := (ofDepth 1).after ops
    let closing := ops ++ [.drop .logging 1, .drop .logging 3, .drop .statistics 2]
    ((subscribed ((ofDepth 1).trace ops)).map UInt64.ofNat).Nodup ∧
      hub.registry .logging = [3] ∧ live .logging ((ofDepth 1).trace ops) = [1, 3] ∧
      evicted ((ofDepth 1).trace ops) = [1] ∧ hub.trySend 3 ≠ .closed ∧
      (hub.drop .logging 1).1.registry .logging = [3] ∧ (hub.drop .logging 1).2 = false ∧
      ∀ kind, ((ofDepth 1).after closing).registry kind = [] := by
  intro e ops hub closing
  have closed (kind : StreamKind) : live kind ((ofDepth 1).trace closing) = [] := by
    cases kind <;> rfl
  obtain ⟨-, numbers, -, -, -, there, -, -, drops, -⟩ := registries_list_open_subscriptions 1 ops
  obtain ⟨-, -, -, -, -, -, -, -, -, nobody⟩ := registries_list_open_subscriptions 1 closing
  exact ⟨numbers (by decide), rfl, rfl, rfl, (there 3 (by decide)).2, (drops .logging 1).1 .logging,
    rfl, nobody closed⟩

end Hub

end Gatehouse
