import Mathlib.Data.List.Nodup
import Gatehouse.Hub

/-!
# Histories of a hub

A history is a list of operations, in the order in which the hub's lock lets them pass. Its trace
pairs each operation with its answer. What an operation does to one subscription is said here once
for each operation, and depends on nothing but the operation and that subscription.

The registries of a hub and what its subscriptions hold are changed in different places. That they
fit together is kept by every operation: whoever is registered is there to receive.
-/

namespace Gatehouse

/-- One operation on a hub or on one of its subscriptions. -/
inductive HubOp where
  | subscribe (kind : StreamKind)
  | record (e : Event)
  | poll (id : Nat)
  | flush (id : Nat)
  | drop (kind : StreamKind) (id : Nat)
  deriving DecidableEq

/-- What an operation answers. -/
inductive HubAnswer where
  | subscribed (id : Nat)
  | recorded (report : FanOut)
  | polled (found : Poll)
  | flushed (counts : Snapshot)
  | dropped (removed : Bool)
  deriving DecidableEq

/-- The event that an operation records. -/
def HubOp.event? : HubOp → Option Event
  | .record e => some e
  | _ => none

/-- The subscription that an operation takes something from, or drops. -/
def HubOp.subject? : HubOp → Option Nat
  | .poll id => some id
  | .flush id => some id
  | .drop _ id => some id
  | _ => none

/-- The event that was found. -/
def Poll.event? : Poll → Option Event
  | .event e => some e
  | _ => none

/-- The events that operations record, in order. -/
def recorded (ops : List HubOp) : List Event := ops.filterMap HubOp.event?

/-- The record of an event, if there is one. -/
def recordOf (e? : Option Event) : List HubOp := e?.toList.map .record

/-- What the polls of one subscription found, in order. -/
def polls (id : Nat) (trace : List (HubOp × HubAnswer)) : List Poll :=
  trace.filterMap fun
    | (.poll i, .polled found) => if i = id then some found else none
    | _ => none

/-- The events that one subscription received, in order. -/
def received (id : Nat) (trace : List (HubOp × HubAnswer)) : List Event :=
  (polls id trace).filterMap Poll.event?

/-- What the flushes of one subscription took, in order. -/
def flushes (id : Nat) (trace : List (HubOp × HubAnswer)) : List Snapshot :=
  trace.filterMap fun
    | (.flush i, .flushed counts) => if i = id then some counts else none
    | _ => none

/-- A logging subscription as the hub sees it: what it has not read, and whether the hub sends to
it. -/
structure Mailbox where
  id : Nat
  queue : Queue Event
  registered : Bool

namespace Mailbox

/-- Whether an event can be delivered. -/
def hasRoom (depth : Nat) (m : Mailbox) : Bool := m.registered && decide (m.queue.size < depth)

/-- Whether an event finds the mailbox full. -/
def isFull (depth : Nat) (m : Mailbox) : Bool := m.registered && !decide (m.queue.size < depth)

/-- The mailbox after an event: with it, or cut off when there was no room. -/
def offer (depth : Nat) (e : Event) (m : Mailbox) : Mailbox :=
  if m.registered then
    if m.queue.size < depth then { m with queue := m.queue.push e }
    else { m with registered := false }
  else m

/-- Takes the next event. -/
def poll (m : Mailbox) : Mailbox × Poll :=
  match m.queue.pop? with
  | some (e, queue) => ({ m with queue }, .event e)
  | none => (m, if m.registered then .pending else .ended)

/-- What an operation does to a mailbox: events arrive, and its own polls take them out. -/
def react (depth : Nat) (m : Mailbox) : HubOp → Mailbox
  | .record e => m.offer depth e
  | .poll id => if id = m.id then m.poll.1 else m
  | _ => m

/-- What is found in a mailbox does not change whether the hub sends to it. -/
theorem registered_poll (m : Mailbox) : m.poll.1.registered = m.registered := by
  unfold poll
  split <;> rfl

theorem registered_offer (depth : Nat) (e : Event) (m : Mailbox) :
    (m.offer depth e).registered = (m.registered && !m.isFull depth) := by
  rw [offer, isFull]
  by_cases hr : m.registered = true
  · by_cases hroom : m.queue.size < depth <;> simp [hr, hroom]
  · simp [hr]

end Mailbox

/-- What an operation does to a tally: events are counted, and its own flushes empty it. -/
def Tally.react (t : Tally) : HubOp → Tally
  | .record e => { t with counts := t.counts.count e }
  | .flush id => if id = t.id then { t with counts := .empty } else t
  | _ => t

@[simp] theorem Receiver.id_take (depth : Nat) (e : Event) (r : Receiver) :
    (r.take depth e).id = r.id := by
  unfold take
  split <;> rfl

theorem recorded_append (xs ys : List HubOp) :
    recorded (xs ++ ys) = recorded xs ++ recorded ys := List.filterMap_append

namespace Hub

/-- One operation and its answer. -/
def step (h : Hub) : HubOp → Hub × HubAnswer
  | .subscribe kind => ((h.subscribe kind).1, .subscribed (h.subscribe kind).2)
  | .record e => ((h.record e).1, .recorded (h.record e).2)
  | .poll id => ((h.poll id).1, .polled (h.poll id).2)
  | .flush id => ((h.flush id).1, .flushed (h.flush id).2)
  | .drop kind id => ((h.drop kind id).1, .dropped (h.drop kind id).2)

/-- The hub after operations. -/
def after (h : Hub) (ops : List HubOp) : Hub := ops.foldl (fun h op ↦ (h.step op).1) h

/-- The operations with their answers. -/
def trace (h : Hub) : List HubOp → List (HubOp × HubAnswer)
  | [] => []
  | op :: ops => (op, (h.step op).2) :: (h.step op).1.trace ops

/-- The mailbox of a logging subscription that holds a receiver. -/
def mailbox (h : Hub) (r : Receiver) : Mailbox := ⟨r.id, r.queue, h.loggers.contains r.id⟩

/-- The mailbox of a logging subscription. -/
def mailbox? (h : Hub) (id : Nat) : Option Mailbox := (h.receiver? id).map h.mailbox

/-- The numbers of the subscriptions of a kind that were not dropped. -/
def idsOf (h : Hub) : StreamKind → List Nat
  | .logging => h.receivers.map (·.id)
  | .statistics => h.tallies.map (·.id)

/-- The numbers of all subscriptions that were not dropped. -/
def ids (h : Hub) : List Nat := h.idsOf .logging ++ h.idsOf .statistics

/-! ### Histories in pieces -/

@[simp] theorem after_nil (h : Hub) : h.after [] = h := rfl

theorem after_cons (h : Hub) (op : HubOp) (ops : List HubOp) :
    h.after (op :: ops) = (h.step op).1.after ops := rfl

theorem after_append (h : Hub) (xs ys : List HubOp) :
    h.after (xs ++ ys) = (h.after xs).after ys := List.foldl_append

theorem trace_append (h : Hub) (xs ys : List HubOp) :
    h.trace (xs ++ ys) = h.trace xs ++ (h.after xs).trace ys := by
  induction xs generalizing h with
  | nil => rfl
  | cons op xs ih => rw [List.cons_append, trace, trace, ih, List.cons_append, after_cons]

/-- The last operation of a history is answered by the hub that the others left. -/
theorem trace_snoc (h : Hub) (ops : List HubOp) (op : HubOp) :
    h.trace (ops ++ [op]) = h.trace ops ++ [(op, ((h.after ops).step op).2)] :=
  trace_append h ops [op]

theorem after_snoc (h : Hub) (ops : List HubOp) (op : HubOp) :
    h.after (ops ++ [op]) = ((h.after ops).step op).1 := after_append h ops [op]

/-! ### Numbers of subscriptions -/

private theorem map_set_key {α : Type} (key : α → Nat) (a : α) (xs : List α) :
    (xs.map fun o ↦ if key o = key a then a else o).map key = xs.map key := by
  rw [List.map_map]
  apply List.map_congr_left
  intro o _
  simp only [Function.comp_apply]
  split
  · next ho => exact ho.symm
  · rfl

/-- A poll changes what is queued, and nothing else. -/
theorem poll_fst (h : Hub) (i : Nat) :
    ∃ receivers, receivers.map Receiver.id = h.receivers.map Receiver.id ∧
      (h.poll i).1 = { h with receivers } := by
  unfold poll
  split
  · split
    · exact ⟨_, map_set_key Receiver.id _ h.receivers, rfl⟩
    · exact ⟨h.receivers, rfl, rfl⟩
  · exact ⟨h.receivers, rfl, rfl⟩

/-- A flush changes what is counted, and nothing else. -/
theorem flush_fst (h : Hub) (i : Nat) :
    ∃ tallies, tallies.map Tally.id = h.tallies.map Tally.id ∧
      (h.flush i).1 = { h with tallies } := by
  unfold flush
  split
  · exact ⟨_, map_set_key Tally.id _ h.tallies, rfl⟩
  · exact ⟨h.tallies, rfl, rfl⟩

/-- Only registrations use numbers. -/
theorem nextId_step_of_ne {h : Hub} {op : HubOp} (hop : ∀ kind, op ≠ .subscribe kind) :
    (h.step op).1.nextId = h.nextId := by
  cases op with
  | subscribe kind => exact absurd rfl (hop kind)
  | record e => rfl
  | poll i =>
    change (h.poll i).1.nextId = _
    obtain ⟨receivers, -, same⟩ := poll_fst h i
    rw [same]
  | flush i =>
    change (h.flush i).1.nextId = _
    obtain ⟨tallies, -, same⟩ := flush_fst h i
    rw [same]
  | drop kind i => cases kind <;> rfl

theorem nextId_subscribe (h : Hub) (kind : StreamKind) :
    (h.subscribe kind).1.nextId = h.nextId + 1 := by
  cases kind <;> rfl

/-- Numbers are given out in ascending order. -/
theorem nextId_step (h : Hub) (op : HubOp) : h.nextId ≤ (h.step op).1.nextId := by
  by_cases new : ∃ kind, op = .subscribe kind
  · obtain ⟨kind, rfl⟩ := new
    exact (nextId_subscribe h kind).symm ▸ Nat.le_succ _
  · exact Nat.le_of_eq (nextId_step_of_ne fun kind hk ↦ new ⟨kind, hk⟩).symm

/-- No operation changes how many events a queue holds. -/
theorem depth_step (h : Hub) (op : HubOp) : (h.step op).1.depth = h.depth := by
  cases op with
  | subscribe kind => cases kind <;> rfl
  | record e => rfl
  | poll i =>
    change (h.poll i).1.depth = h.depth
    obtain ⟨receivers, -, same⟩ := poll_fst h i
    rw [same]
  | flush i =>
    change (h.flush i).1.depth = h.depth
    obtain ⟨tallies, -, same⟩ := flush_fst h i
    rw [same]
  | drop kind i => cases kind <;> rfl

theorem nextId_after (h : Hub) (ops : List HubOp) : h.nextId ≤ (h.after ops).nextId := by
  induction ops generalizing h with
  | nil => exact Nat.le_refl _
  | cons op ops ih => exact Nat.le_trans (nextId_step h op) (ih _)

theorem depth_after (h : Hub) (ops : List HubOp) : (h.after ops).depth = h.depth := by
  induction ops generalizing h with
  | nil => rfl
  | cons op ops ih => rw [after_cons, ih, depth_step]

theorem idsOf_subscribe (h : Hub) (k kind : StreamKind) :
    (h.subscribe k).1.idsOf kind =
      if k = kind then h.idsOf kind ++ [h.nextId] else h.idsOf kind := by
  cases k <;> cases kind <;>
    simp [subscribe, subscribeLogging, subscribeStatistics, idsOf]

theorem idsOf_record (h : Hub) (e : Event) (kind : StreamKind) :
    (h.record e).1.idsOf kind = h.idsOf kind := by
  cases kind with
  | logging =>
    refine (List.map_map).trans (List.map_congr_left fun r _ ↦ ?_)
    simp only [Function.comp_apply]
    split
    · exact Receiver.id_take h.depth e r
    · rfl
  | statistics =>
    refine (List.map_map).trans (List.map_congr_left fun t _ ↦ ?_)
    simp only [Function.comp_apply]
    split <;> rfl

theorem idsOf_poll (h : Hub) (i : Nat) (kind : StreamKind) :
    (h.poll i).1.idsOf kind = h.idsOf kind := by
  obtain ⟨receivers, ids, same⟩ := poll_fst h i
  rw [same]
  cases kind with
  | logging => exact ids
  | statistics => rfl

theorem idsOf_flush (h : Hub) (i : Nat) (kind : StreamKind) :
    (h.flush i).1.idsOf kind = h.idsOf kind := by
  obtain ⟨tallies, ids, same⟩ := flush_fst h i
  rw [same]
  cases kind with
  | logging => rfl
  | statistics => exact ids

theorem idsOf_release (h : Hub) (k : StreamKind) (i : Nat) (kind : StreamKind) :
    (h.release k i).idsOf kind =
      if k = kind then (h.idsOf kind).filter (· != i) else h.idsOf kind := by
  cases k <;> cases kind <;> simp [release, idsOf, List.filter_map, Function.comp_def]

/-- To leave the registry is not yet to be gone. -/
theorem idsOf_unregister (h : Hub) (k : StreamKind) (i : Nat) (kind : StreamKind) :
    (h.unregister k i).1.idsOf kind = h.idsOf kind := by
  cases k <;> cases kind <;> rfl

theorem idsOf_drop (h : Hub) (k : StreamKind) (i : Nat) (kind : StreamKind) :
    (h.drop k i).1.idsOf kind =
      if k = kind then (h.idsOf kind).filter (· != i) else h.idsOf kind := by
  rw [drop, idsOf_release, idsOf_unregister]

theorem mem_ids_iff {h : Hub} {id : Nat} : id ∈ h.ids ↔ ∃ kind, id ∈ h.idsOf kind := by
  rw [ids, List.mem_append]
  constructor
  · rintro (hid | hid)
    · exact ⟨.logging, hid⟩
    · exact ⟨.statistics, hid⟩
  · rintro ⟨kind, hid⟩
    cases kind with
    | logging => exact .inl hid
    | statistics => exact .inr hid

/-! ### The registries and what the subscriptions hold -/

/-- The subscriptions of a kind that are registered. -/
def registry (h : Hub) : StreamKind → List Nat
  | .logging => h.loggers
  | .statistics => h.statistics

/-- A poll takes nobody out of a registry. -/
theorem registry_poll (h : Hub) (i : Nat) (kind : StreamKind) :
    (h.poll i).1.registry kind = h.registry kind := by
  obtain ⟨receivers, -, same⟩ := poll_fst h i
  rw [same]
  cases kind <;> rfl

/-- A flush takes nobody out of a registry. -/
theorem registry_flush (h : Hub) (i : Nat) (kind : StreamKind) :
    (h.flush i).1.registry kind = h.registry kind := by
  obtain ⟨tallies, -, same⟩ := flush_fst h i
  rw [same]
  cases kind <;> rfl

/-- Subscriptions have different numbers, and all of these were given out. The registries hold
subscriptions that were not dropped, in the order in which they came: some of the logging
subscriptions, and all statistics subscriptions. -/
structure Coherent (h : Hub) : Prop where
  lt_next : ∀ id ∈ h.ids, id < h.nextId
  nodup : h.ids.Nodup
  loggers : List.Sublist h.loggers (h.idsOf .logging)
  statistics : h.statistics = h.idsOf .statistics

theorem coherent_ofDepth (depth : Nat) : (ofDepth depth).Coherent :=
  ⟨fun _ h ↦ absurd h List.not_mem_nil, .nil, .slnil, rfl⟩

/-- What leaves the numbers and one registry alone, and at most shortens the other, keeps a hub
coherent. -/
private theorem Coherent.of_shorter {h k : Hub} (w : h.Coherent)
    (ids : ∀ kind, k.idsOf kind = h.idsOf kind) (next : k.nextId = h.nextId)
    (loggers : List.Sublist k.loggers h.loggers) (statistics : k.statistics = h.statistics) :
    k.Coherent := by
  have same : k.ids = h.ids := by rw [Hub.ids, Hub.ids, ids, ids]
  exact ⟨by rw [same, next]; exact w.lt_next, same ▸ w.nodup,
    (ids .logging).symm ▸ loggers.trans w.loggers,
    (ids .statistics).symm ▸ statistics.trans w.statistics⟩

private theorem Coherent.subscribe {h : Hub} (w : h.Coherent) (kind : StreamKind) :
    (h.subscribe kind).1.Coherent := by
  have perm : List.Perm (h.subscribe kind).1.ids (h.nextId :: h.ids) := by
    rw [ids, idsOf_subscribe, idsOf_subscribe]
    cases kind with
    | logging =>
      rw [if_pos rfl, if_neg nofun, List.append_assoc]
      exact List.perm_middle
    | statistics =>
      rw [if_pos rfl, if_neg nofun, ← List.append_assoc]
      exact List.perm_append_singleton _ _
  have next : (h.subscribe kind).1.nextId = h.nextId + 1 := by cases kind <;> rfl
  refine ⟨?_, ?_, ?_, ?_⟩
  · intro id hid
    rw [next]
    rcases List.mem_cons.mp (perm.mem_iff.mp hid) with rfl | hid
    · exact Nat.lt_succ_self _
    · exact Nat.lt_succ_of_lt (w.lt_next id hid)
  · apply perm.nodup_iff.mpr
    exact List.nodup_cons.mpr ⟨fun hm ↦ Nat.lt_irrefl _ (w.lt_next _ hm), w.nodup⟩
  · rw [idsOf_subscribe]
    cases kind with
    | logging => exact w.loggers.append_right [h.nextId]
    | statistics => exact w.loggers
  · rw [idsOf_subscribe]
    cases kind with
    | logging => exact w.statistics
    | statistics => exact congrArg (· ++ [h.nextId]) w.statistics

private theorem Coherent.drop {h : Hub} (w : h.Coherent) (kind : StreamKind) (i : Nat) :
    (h.drop kind i).1.Coherent := by
  have part (k : StreamKind) : List.Sublist ((h.drop kind i).1.idsOf k) (h.idsOf k) := by
    rw [idsOf_drop]
    split
    · exact List.filter_sublist
    · exact .refl _
  have sub : List.Sublist (h.drop kind i).1.ids h.ids := (part .logging).append (part .statistics)
  have next : (h.drop kind i).1.nextId = h.nextId := by cases kind <;> rfl
  refine ⟨fun id hid ↦ next ▸ w.lt_next id (sub.subset hid), w.nodup.sublist sub, ?_, ?_⟩
  · rw [idsOf_drop]
    cases kind with
    | logging => exact w.loggers.filter _
    | statistics => exact w.loggers
  · rw [idsOf_drop]
    cases kind with
    | logging => exact w.statistics
    | statistics => exact congrArg (List.filter (· != i)) w.statistics

/-- Each operation keeps the registries and what the subscriptions hold together. -/
theorem coherent_step {h : Hub} (w : h.Coherent) (op : HubOp) : (h.step op).1.Coherent := by
  cases op with
  | subscribe kind => exact w.subscribe kind
  | record e => exact w.of_shorter (idsOf_record h e) rfl List.filter_sublist rfl
  | poll i =>
    have loggers : (h.poll i).1.loggers = h.loggers := registry_poll h i .logging
    exact w.of_shorter (idsOf_poll h i) (nextId_step_of_ne nofun) (loggers ▸ .refl _)
      (registry_poll h i .statistics)
  | flush i =>
    have loggers : (h.flush i).1.loggers = h.loggers := registry_flush h i .logging
    exact w.of_shorter (idsOf_flush h i) (nextId_step_of_ne nofun) (loggers ▸ .refl _)
      (registry_flush h i .statistics)
  | drop kind i => exact w.drop kind i

theorem coherent_after {h : Hub} (w : h.Coherent) (ops : List HubOp) : (h.after ops).Coherent := by
  induction ops generalizing h with
  | nil => exact w
  | cons op ops ih => exact ih (coherent_step w op)

/-- A number belongs to one kind. -/
theorem Coherent.kind_unique {h : Hub} (w : h.Coherent) {k k' : StreamKind} {id : Nat}
    (hk : id ∈ h.idsOf k) (hk' : id ∈ h.idsOf k') : k = k' := by
  have hdisjoint := (List.nodup_append.mp w.nodup).2.2
  cases k <;> cases k'
  · rfl
  · exact absurd rfl (hdisjoint id hk id hk')
  · exact absurd rfl (hdisjoint id hk' id hk)
  · rfl

theorem Coherent.lt_nextId {h : Hub} (w : h.Coherent) (kind : StreamKind) {id : Nat}
    (hid : id ∈ h.idsOf kind) : id < h.nextId :=
  w.lt_next id (mem_ids_iff.mpr ⟨kind, hid⟩)

/-- The numbers of a kind change by registrations and drops of that kind, and by nothing else. -/
theorem mem_idsOf_step {h : Hub} {op : HubOp} {kind : StreamKind} {id : Nat} :
    id ∈ (h.step op).1.idsOf kind ↔
      (id ∈ h.idsOf kind ∧ op ≠ .drop kind id) ∨ (op = .subscribe kind ∧ id = h.nextId) := by
  cases op with
  | subscribe k =>
    rw [show (h.step (.subscribe k)).1 = (h.subscribe k).1 from rfl, idsOf_subscribe]
    by_cases hk : k = kind <;> simp [hk]
  | record e =>
    rw [show (h.step (.record e)).1 = (h.record e).1 from rfl, idsOf_record]
    simp
  | poll i =>
    rw [show (h.step (.poll i)).1 = (h.poll i).1 from rfl, idsOf_poll]
    simp
  | flush i =>
    rw [show (h.step (.flush i)).1 = (h.flush i).1 from rfl, idsOf_flush]
    simp
  | drop k i =>
    rw [show (h.step (.drop k i)).1 = (h.drop k i).1 from rfl, idsOf_drop]
    by_cases hk : k = kind
    · simp [hk, eq_comm (a := i)]
    · simp [hk]

/-- Without registrations, the numbers of a kind are those that are not dropped. -/
theorem mem_idsOf_after {h : Hub} {ops : List HubOp} (hs : ∀ k, .subscribe k ∉ ops)
    {kind : StreamKind} {id : Nat} :
    id ∈ (h.after ops).idsOf kind ↔ id ∈ h.idsOf kind ∧ .drop kind id ∉ ops := by
  induction ops generalizing h with
  | nil => simp
  | cons op ops ih =>
    have hop : op ≠ .subscribe kind := fun he ↦ hs kind (he ▸ List.mem_cons_self)
    rw [after_cons, ih fun k hk ↦ hs k (List.mem_cons_of_mem _ hk), mem_idsOf_step,
      List.mem_cons, not_or]
    simp only [hop, false_and, or_false, ne_eq, eq_comm (a := op), and_assoc]

/-! ### One subscription among others -/

private theorem find?_map_key {α : Type} (key : α → Nat) {f : α → α}
    (hf : ∀ a, key (f a) = key a) (xs : List α) (i : Nat) :
    (xs.map f).find? (fun a ↦ key a == i) = (xs.find? fun a ↦ key a == i).map f := by
  rw [List.find?_map]
  congr 1
  simp only [Function.comp_def, hf]

private theorem find?_filter_key {α : Type} {key : α → Nat} (xs : List α) (i j : Nat) :
    (xs.filter fun a ↦ key a != j).find? (fun a ↦ key a == i) =
      if i = j then none else xs.find? fun a ↦ key a == i := by
  rw [List.find?_filter]
  split
  · next h =>
    rw [List.find?_eq_none]
    intro a _ ha
    simp [h] at ha
  · next h =>
    congr 1
    funext a
    by_cases ha : key a = i
    · simp [ha, h]
    · simp [ha]

private theorem find?_append_of_some {α : Type} {p : α → Bool} {xs : List α} {a : α}
    (h : xs.find? p = some a) (ys : List α) : (xs ++ ys).find? p = some a := by
  rw [List.find?_append, h, Option.some_or]

/-- Putting a changed value in place of the one under a key is seen under that key only. -/
private theorem find?_set_key {α : Type} {key : α → Nat} {f : α → α}
    (hf : ∀ a, key (f a) = key a) {xs : List α} {i : Nat} {a : α}
    (ha : xs.find? (fun o ↦ key o == i) = some a) (id : Nat) :
    (xs.map fun o ↦ if key o = key (f a) then f a else o).find? (fun o ↦ key o == id) =
      (xs.find? fun o ↦ key o == id).map fun o ↦ if i = key o then f o else o := by
  have hi : key a = i := by simpa using List.find?_some ha
  rw [hf, hi]
  refine (find?_map_key key ?_ xs id).trans ?_
  · intro o
    split
    · next h => rw [hf, hi, h]
    · rfl
  · cases ho : xs.find? fun o ↦ key o == id with
    | none => rfl
    | some o =>
      have hid : key o = id := by simpa using List.find?_some ho
      rw [Option.map_some, Option.map_some]
      by_cases h : key o = i
      · rw [hid] at h
        subst h
        rw [ha] at ho
        cases ho
        rw [if_pos hi, if_pos hi.symm]
      · rw [if_neg h, if_neg (Ne.symm h)]

/-- Without a value under a key there is nothing to change. -/
private theorem map_find?_of_none {α : Type} {key : α → Nat} {f : α → α} {xs : List α} {i : Nat}
    (hi : xs.find? (fun o ↦ key o == i) = none) (id : Nat) :
    (xs.find? fun o ↦ key o == id) =
      (xs.find? fun o ↦ key o == id).map fun o ↦ if i = key o then f o else o := by
  cases ho : xs.find? fun o ↦ key o == id with
  | none => rfl
  | some o =>
    have hno := List.find?_eq_none.mp hi o (List.mem_of_find?_eq_some ho)
    rw [beq_iff_eq] at hno
    rw [Option.map_some, if_neg (Ne.symm hno)]

private theorem find?_key_of_mem {α : Type} {key : α → Nat} {xs : List α} {i : Nat}
    (h : i ∈ xs.map key) : ∃ a, xs.find? (fun o ↦ key o == i) = some a := by
  obtain ⟨a, ha, rfl⟩ := List.mem_map.mp h
  exact Option.isSome_iff_exists.mp (List.find?_isSome.mpr ⟨a, ha, beq_self_eq_true _⟩)

theorem id_of_receiver? {h : Hub} {id : Nat} {r : Receiver} (hr : h.receiver? id = some r) :
    r.id = id := by
  simpa using List.find?_some hr

theorem id_of_tally? {h : Hub} {id : Nat} {t : Tally} (ht : h.tally? id = some t) : t.id = id := by
  simpa using List.find?_some ht

theorem mailbox?_eq_some_iff {h : Hub} {id : Nat} {m : Mailbox} :
    h.mailbox? id = some m ↔ ∃ r, h.receiver? id = some r ∧ h.mailbox r = m :=
  Option.map_eq_some_iff

theorem mailbox?_eq_none_iff {h : Hub} {id : Nat} :
    h.mailbox? id = none ↔ h.receiver? id = none := Option.map_eq_none_iff

theorem id_of_mailbox? {h : Hub} {id : Nat} {m : Mailbox} (hm : h.mailbox? id = some m) :
    m.id = id := by
  obtain ⟨r, hr, rfl⟩ := mailbox?_eq_some_iff.mp hm
  exact id_of_receiver? hr

/-- The mailbox of a subscription depends on its receiver, and on whether it is registered. -/
theorem mailbox?_congr {h k : Hub} {id : Nat} (found : k.receiver? id = h.receiver? id)
    (listed : id ∈ k.loggers ↔ id ∈ h.loggers) : k.mailbox? id = h.mailbox? id := by
  rw [mailbox?, mailbox?, found]
  refine Option.map_congr fun r hr ↦ ?_
  have same : k.loggers.contains r.id = h.loggers.contains r.id := by
    rw [id_of_receiver? hr, Bool.eq_iff_iff, List.contains_iff_mem, List.contains_iff_mem, listed]
  rw [mailbox, mailbox, same]

theorem mem_idsOf_of_mailbox? {h : Hub} {id : Nat} {m : Mailbox} (hm : h.mailbox? id = some m) :
    id ∈ h.idsOf .logging := by
  obtain ⟨r, hr, rfl⟩ := mailbox?_eq_some_iff.mp hm
  exact List.mem_map.mpr ⟨r, List.mem_of_find?_eq_some hr, id_of_receiver? hr⟩

theorem mem_idsOf_of_tally? {h : Hub} {id : Nat} {t : Tally} (ht : h.tally? id = some t) :
    id ∈ h.idsOf .statistics :=
  List.mem_map.mpr ⟨t, List.mem_of_find?_eq_some ht, id_of_tally? ht⟩

/-- A logging subscription that was not dropped has a mailbox. -/
theorem exists_mailbox {h : Hub} {id : Nat} (held : id ∈ h.idsOf .logging) :
    ∃ m, h.mailbox? id = some m := by
  obtain ⟨r, hr⟩ := find?_key_of_mem held
  exact ⟨h.mailbox r, mailbox?_eq_some_iff.mpr ⟨r, hr, rfl⟩⟩

/-- The hub sends to a subscription whose mailbox is registered. -/
theorem mem_loggers_iff {h : Hub} {m : Mailbox} {id : Nat} (hm : h.mailbox? id = some m) :
    id ∈ h.loggers ↔ m.registered = true := by
  obtain ⟨r, hr, rfl⟩ := mailbox?_eq_some_iff.mp hm
  rw [mailbox, id_of_receiver? hr, List.contains_iff_mem]

/-- What is sent to a subscription is taken as long as its mailbox has room. -/
theorem trySend_eq {h : Hub} {m : Mailbox} {id : Nat} (hm : h.mailbox? id = some m) :
    h.trySend id = if m.queue.size < h.depth then .taken else .full := by
  obtain ⟨r, hr, rfl⟩ := mailbox?_eq_some_iff.mp hm
  simp [trySend, hr, Receiver.hasRoom, mailbox]

/-- A record cuts off a subscription whose mailbox it finds full. -/
theorem mem_evicted_iff {h : Hub} (e : Event) {m : Mailbox} {id : Nat}
    (hm : h.mailbox? id = some m) : id ∈ (h.record e).2.evicted ↔ m.isFull h.depth = true := by
  change id ∈ h.loggers.filter _ ↔ _
  rw [List.mem_filter, mem_loggers_iff hm, trySend_eq hm, Mailbox.isFull]
  by_cases room : m.queue.size < h.depth <;> simp [room]

/-- A record offers its event to every mailbox. -/
theorem mailbox?_record (h : Hub) (e : Event) (id : Nat) :
    (h.record e).1.mailbox? id = (h.mailbox? id).map (·.offer h.depth e) := by
  have found : (h.record e).1.receiver? id =
      (h.receiver? id).map fun r ↦ if h.loggers.contains r.id then r.take h.depth e else r := by
    refine find?_map_key Receiver.id (fun r ↦ ?_) h.receivers id
    split
    · exact Receiver.id_take h.depth e r
    · rfl
  cases hr : h.receiver? id with
  | none => rw [mailbox?, mailbox?, found, hr]; rfl
  | some r =>
    have hid := id_of_receiver? hr
    have sent : h.trySend id = if r.queue.size < h.depth then .taken else .full :=
      trySend_eq (mailbox?_eq_some_iff.mpr ⟨r, hr, rfl⟩)
    rw [mailbox?, mailbox?, found, hr, Option.map_some, Option.map_some, Option.map_some]
    refine congrArg some ?_
    by_cases listed : id ∈ h.loggers <;> by_cases room : r.queue.size < h.depth <;>
      simp [mailbox, record, Mailbox.offer, Receiver.take, Receiver.hasRoom, Sent.keeps, listed,
        room, sent, hid]

/-- A record is counted in every tally. -/
theorem tally?_record {h : Hub} (w : h.Coherent) (e : Event) (id : Nat) :
    (h.record e).1.tally? id =
      (h.tally? id).map fun t ↦ { t with counts := t.counts.count e } := by
  have found : (h.record e).1.tally? id = (h.tally? id).map fun t ↦
      if h.statistics.contains t.id then { t with counts := t.counts.count e } else t := by
    refine find?_map_key Tally.id (fun t ↦ ?_) h.tallies id
    split <;> rfl
  cases ht : h.tally? id with
  | none => rw [found, ht]; rfl
  | some t =>
    have listed : h.statistics.contains t.id = true := by
      rw [List.contains_iff_mem, w.statistics, id_of_tally? ht]
      exact mem_idsOf_of_tally? ht
    rw [found, ht, Option.map_some, Option.map_some, if_pos listed]

/-- A poll of a subscription that was dropped finds the end. -/
theorem poll_of_gone {h : Hub} {i : Nat} (hr : h.receiver? i = none) : h.poll i = (h, .ended) := by
  rw [poll, hr]

/-- A poll of an empty queue finds nothing, and the end where the hub has cut the queue off. -/
theorem poll_of_empty {h : Hub} {i : Nat} {r : Receiver} (hr : h.receiver? i = some r)
    (hq : r.queue.pop? = none) :
    h.poll i = (h, if h.loggers.contains i then .pending else .ended) := by
  simp only [poll, hr, hq]

/-- A poll takes the event that is next in the queue. -/
theorem poll_of_queued {h : Hub} {i : Nat} {r : Receiver} (hr : h.receiver? i = some r) {e : Event}
    {queue : Queue Event} (hq : r.queue.pop? = some (e, queue)) :
    h.poll i = (h.setReceiver { r with queue }, .event e) := by
  simp only [poll, hr, hq]

/-- A mailbox with the number of a receiver is the one of that receiver. -/
private theorem eq_mailbox_of_id {h : Hub} {i id : Nat} {m : Mailbox} (hm : h.mailbox? id = some m)
    (hi : i = m.id) : ∃ r, h.receiver? i = some r ∧ h.mailbox r = m := by
  rw [id_of_mailbox? hm] at hi
  exact mailbox?_eq_some_iff.mp (hi ▸ hm)

/-- Where nothing is queued, a mailbox is left as it is. -/
private theorem map_poll_of_empty {h : Hub} {i : Nat}
    (nothing : ∀ r, h.receiver? i = some r → r.queue.pop? = none) (id : Nat) :
    ((h.mailbox? id).map fun m ↦ if i = m.id then m.poll.1 else m) = h.mailbox? id := by
  cases hm : h.mailbox? id with
  | none => rfl
  | some m =>
    rw [Option.map_some]
    split
    · next hi =>
      obtain ⟨r, hr, rfl⟩ := eq_mailbox_of_id hm hi
      rw [Mailbox.poll, show (h.mailbox r).queue = r.queue from rfl, nothing r hr]
    · rfl

/-- Another queue of a receiver is seen in its mailbox only. -/
theorem mailbox?_setReceiver {h : Hub} {i : Nat} {r : Receiver} (hr : h.receiver? i = some r)
    (queue : Queue Event) (id : Nat) :
    (h.setReceiver { r with queue }).mailbox? id =
      (h.mailbox? id).map fun m ↦ if i = m.id then { m with queue } else m := by
  have found : (h.setReceiver { r with queue }).receiver? id =
      (h.receiver? id).map fun o ↦ if i = o.id then { o with queue } else o :=
    find?_set_key (f := fun o : Receiver ↦ { o with queue }) (fun _ ↦ rfl) hr id
  change ((h.setReceiver { r with queue }).receiver? id).map h.mailbox = _
  rw [found, mailbox?, Option.map_map, Option.map_map]
  refine Option.map_congr fun o _ ↦ ?_
  simp only [Function.comp_apply, show (h.mailbox o).id = o.id from rfl]
  split <;> rfl

/-- A poll takes an event out of the mailbox that it names and leaves all others alone. -/
theorem mailbox?_poll (h : Hub) (i id : Nat) :
    (h.poll i).1.mailbox? id = (h.mailbox? id).map fun m ↦ if i = m.id then m.poll.1 else m := by
  cases hr : h.receiver? i with
  | none =>
    rw [poll_of_gone hr]
    exact (map_poll_of_empty (fun r h ↦ by rw [hr] at h; cases h) id).symm
  | some r =>
    cases hq : r.queue.pop? with
    | none =>
      rw [poll_of_empty hr hq]
      refine (map_poll_of_empty (fun o ho ↦ ?_) id).symm
      rw [hr] at ho
      exact Option.some.inj ho ▸ hq
    | some taken =>
      obtain ⟨e, queue⟩ := taken
      rw [poll_of_queued hr hq, mailbox?_setReceiver hr]
      refine Option.map_congr fun m hm ↦ ?_
      split
      · next hi =>
        obtain ⟨r', hr', rfl⟩ := eq_mailbox_of_id hm hi
        rw [hr] at hr'
        cases hr'
        rw [Mailbox.poll, show (h.mailbox r).queue = r.queue from rfl, hq]
      · rfl

/-- What a poll finds depends on the mailbox that it names only. -/
theorem poll_eq {h : Hub} {id : Nat} {m : Mailbox} (hm : h.mailbox? id = some m) :
    (h.poll id).2 = m.poll.2 := by
  obtain ⟨r, hr, rfl⟩ := mailbox?_eq_some_iff.mp hm
  have same : (h.mailbox r).queue = r.queue := rfl
  cases hq : r.queue.pop? with
  | none =>
    rw [poll_of_empty hr hq, Mailbox.poll, same, hq, mailbox, id_of_receiver? hr]
  | some taken => rw [poll_of_queued hr hq, Mailbox.poll, same, hq]

/-- A flush empties the tally that it names and leaves all others alone. -/
theorem tally?_flush (h : Hub) (i id : Nat) :
    (h.flush i).1.tally? id =
      (h.tally? id).map fun t ↦ if i = t.id then { t with counts := .empty } else t := by
  unfold flush
  split
  · next t ht =>
    exact find?_set_key (f := fun t : Tally ↦ { t with counts := .empty }) (fun _ ↦ rfl) ht id
  · next ht => exact map_find?_of_none ht id

/-- A flush leaves mailboxes alone. -/
theorem mailbox?_flush (h : Hub) (i id : Nat) : (h.flush i).1.mailbox? id = h.mailbox? id := by
  obtain ⟨tallies, -, same⟩ := flush_fst h i
  rw [same]
  rfl

/-- A poll leaves tallies alone. -/
theorem tally?_poll (h : Hub) (i id : Nat) : (h.poll i).1.tally? id = h.tally? id := by
  obtain ⟨receivers, -, same⟩ := poll_fst h i
  rw [same]
  rfl

/-- A drop takes out the mailbox that it names and leaves all others alone. -/
theorem mailbox?_dropLogging (h : Hub) (i id : Nat) :
    (h.drop .logging i).1.mailbox? id = if id = i then none else h.mailbox? id := by
  have found : (h.drop .logging i).1.receiver? id = if id = i then none else h.receiver? id :=
    find?_filter_key h.receivers id i
  by_cases named : id = i
  · rw [if_pos named] at found ⊢
    exact mailbox?_eq_none_iff.mpr found
  · rw [if_neg named] at found ⊢
    exact mailbox?_congr found (by simp [drop, unregister, release, named])

/-- A drop takes out the tally that it names and leaves all others alone. -/
theorem tally?_dropStatistics (h : Hub) (i id : Nat) :
    (h.drop .statistics i).1.tally? id = if id = i then none else h.tally? id :=
  find?_filter_key h.tallies id i

/-- A registration of a logging subscription leaves the mailboxes of the others alone. -/
theorem mailbox?_subscribeLogging_of_ne (h : Hub) {id : Nat} (hne : id ≠ h.nextId) :
    h.subscribeLogging.1.mailbox? id = h.mailbox? id := by
  have found : h.subscribeLogging.1.receiver? id = h.receiver? id := by
    refine (List.find?_append).trans ?_
    rw [List.find?_singleton, if_neg (by simpa using Ne.symm hne), Option.or_none]
    rfl
  exact mailbox?_congr found (by simp [subscribeLogging, hne])

/-- What an operation leaves of a mailbox that it does not drop. -/
theorem mailbox?_step {h : Hub} (w : h.Coherent) {id : Nat} {m : Mailbox}
    (hm : h.mailbox? id = some m) {op : HubOp} (hop : op ≠ .drop .logging id) :
    (h.step op).1.mailbox? id = some (m.react h.depth op) := by
  cases op with
  | subscribe kind =>
    cases kind with
    | logging =>
      have old := w.lt_nextId .logging (mem_idsOf_of_mailbox? hm)
      exact (mailbox?_subscribeLogging_of_ne h (Nat.ne_of_lt old)).trans hm
    | statistics => exact hm
  | record e =>
    refine (mailbox?_record h e id).trans ?_
    rw [hm]
    rfl
  | poll i =>
    refine (mailbox?_poll h i id).trans ?_
    rw [hm]
    rfl
  | flush i => exact (mailbox?_flush h i id).trans hm
  | drop kind i =>
    cases kind with
    | logging =>
      have hne : id ≠ i := by
        rintro rfl
        exact hop rfl
      refine (mailbox?_dropLogging h i id).trans ?_
      rw [if_neg hne, hm]
      rfl
    | statistics => exact hm

/-- What an operation leaves of a tally that it does not drop. -/
theorem tally?_step {h : Hub} (w : h.Coherent) {id : Nat} {t : Tally} (ht : h.tally? id = some t)
    {op : HubOp} (hop : op ≠ .drop .statistics id) :
    (h.step op).1.tally? id = some (t.react op) := by
  cases op with
  | subscribe kind =>
    cases kind with
    | logging => exact ht
    | statistics => exact find?_append_of_some ht _
  | record e =>
    refine (tally?_record w e id).trans ?_
    rw [ht]
    rfl
  | poll i => exact (tally?_poll h i id).trans ht
  | flush i =>
    refine (tally?_flush h i id).trans ?_
    rw [ht]
    rfl
  | drop kind i =>
    cases kind with
    | logging => exact ht
    | statistics =>
      have hne : id ≠ i := by
        rintro rfl
        exact hop rfl
      refine (tally?_dropStatistics h i id).trans ?_
      rw [if_neg hne, ht]
      rfl

/-- A number that was given out and has no mailbox never gets one again. -/
theorem mailbox?_step_none {h : Hub} {id : Nat} (hm : h.mailbox? id = none) (hid : id < h.nextId)
    (op : HubOp) : (h.step op).1.mailbox? id = none := by
  cases op with
  | subscribe kind =>
    cases kind with
    | logging => exact (mailbox?_subscribeLogging_of_ne h (Nat.ne_of_lt hid)).trans hm
    | statistics => exact hm
  | record e =>
    refine (mailbox?_record h e id).trans ?_
    rw [hm]
    rfl
  | poll i =>
    refine (mailbox?_poll h i id).trans ?_
    rw [hm]
    rfl
  | flush i => exact (mailbox?_flush h i id).trans hm
  | drop kind i =>
    cases kind with
    | logging =>
      refine (mailbox?_dropLogging h i id).trans ?_
      rw [hm, ite_self]
    | statistics => exact hm

/-- A mailbox that is not dropped reacts to each operation in turn. -/
theorem mailbox?_after {h : Hub} (w : h.Coherent) {id : Nat} {m : Mailbox}
    (hm : h.mailbox? id = some m) {ops : List HubOp} (live : .drop .logging id ∉ ops) :
    (h.after ops).mailbox? id = some (ops.foldl (Mailbox.react h.depth) m) := by
  induction ops generalizing h m with
  | nil => exact hm
  | cons op ops ih =>
    have hop : op ≠ .drop .logging id := (List.ne_of_not_mem_cons live).symm
    rw [after_cons, ih (coherent_step w op) (mailbox?_step w hm hop)
      (List.not_mem_of_not_mem_cons live), depth_step]
    rfl

/-- A tally that is not dropped reacts to each operation in turn. -/
theorem tally?_after {h : Hub} (w : h.Coherent) {id : Nat} {t : Tally} (ht : h.tally? id = some t)
    {ops : List HubOp} (live : .drop .statistics id ∉ ops) :
    (h.after ops).tally? id = some (ops.foldl Tally.react t) := by
  induction ops generalizing h t with
  | nil => exact ht
  | cons op ops ih =>
    have hop : op ≠ .drop .statistics id := (List.ne_of_not_mem_cons live).symm
    rw [after_cons, ih (coherent_step w op) (tally?_step w ht hop)
      (List.not_mem_of_not_mem_cons live)]
    rfl

private theorem find?_append_new {α : Type} (key : α → Nat) {xs : List α} (a : α)
    (h : ∀ o ∈ xs, key o < key a) :
    (xs ++ [a]).find? (fun o ↦ key o == key a) = some a := by
  have hnone : xs.find? (fun o ↦ key o == key a) = none := by
    rw [List.find?_eq_none]
    intro o ho he
    have hlt := h o ho
    rw [beq_iff_eq] at he
    omega
  rw [List.find?_append, hnone]
  simp

/-- A new logging subscription has an empty mailbox under its own number. -/
theorem mailbox?_subscribeLogging {h : Hub} (w : h.Coherent) :
    h.subscribeLogging.1.mailbox? h.nextId = some ⟨h.nextId, .empty, true⟩ := by
  have found : h.subscribeLogging.1.receiver? h.nextId = some ⟨h.nextId, .empty⟩ :=
    find?_append_new Receiver.id ⟨h.nextId, .empty⟩ fun r hr ↦
      w.lt_nextId .logging (List.mem_map_of_mem hr)
  rw [mailbox?, found]
  simp [mailbox, subscribeLogging]

/-- A new statistics subscription has an empty tally under its own number. -/
theorem tally?_subscribeStatistics {h : Hub} (w : h.Coherent) :
    h.subscribeStatistics.1.tally? h.nextId = some ⟨h.nextId, .empty⟩ :=
  find?_append_new Tally.id ⟨h.nextId, .empty⟩ fun _ ht ↦
    w.lt_nextId .statistics (List.mem_map_of_mem ht)

end Hub

end Gatehouse
