import Gatehouse.Note
import Gatehouse.Queue

/-!
# The monitoring hub

The hub hands each access event to all subscribers. It keeps a registry of the subscriptions of
each kind. A logging subscription holds a receiver, whose queue has a bounded depth, and an event
that finds the queue full cuts the subscription off: nothing later reaches it, but what was queued
stays readable. A statistics subscription holds a tally, which counts every event until it is
taken. All subscribers see events in the one order in which they are recorded.

A subscription that is dropped leaves its registry first, and then what it holds goes away.
-/

namespace Gatehouse

/-- The receiving end of a logging subscription. -/
structure Receiver where
  id : Nat
  queue : Queue Event

/-- The running counts of one statistics subscription. -/
structure Tally where
  id : Nat
  counts : Snapshot

/-- The hub, with what its subscriptions hold. -/
structure Hub where
  /-- How many events a queue holds. -/
  depth : Nat
  depth_pos : 0 < depth
  /-- The number that the next subscription gets. -/
  nextId : Nat
  /-- The registry of logging subscriptions, in the order of their registration. -/
  loggers : List Nat
  /-- The registry of statistics subscriptions, in the order of their registration. -/
  statistics : List Nat
  /-- What the logging subscriptions hold that were not dropped. -/
  receivers : List Receiver
  /-- What the statistics subscriptions hold that were not dropped. -/
  tallies : List Tally

/-- What becomes of an event that is sent to a logging subscription. -/
inductive Sent where
  /-- It is queued. -/
  | taken
  /-- The queue has no room. -/
  | full
  /-- The receiver is gone. -/
  | closed
  deriving DecidableEq, Repr

/-- Whether the registry keeps a subscription after what was sent to it. One whose receiver is gone
leaves nothing for its drop to take out. -/
def Sent.keeps : Sent → Bool
  | .taken => true
  | .full => false
  | .closed => false

/-- What became of one recorded event. -/
structure FanOut where
  /-- How many subscriptions took the event. -/
  delivered : Nat
  /-- The logging subscribers that were cut off. -/
  evicted : List Nat
  deriving DecidableEq, Repr

/-- What a logging subscriber finds in its queue. -/
inductive Poll where
  /-- The next event. -/
  | event (e : Event)
  /-- Nothing yet. -/
  | pending
  /-- Nothing, and nothing will come. -/
  | ended
  deriving DecidableEq, Repr

namespace Receiver

/-- Whether one more event fits. -/
def hasRoom (depth : Nat) (r : Receiver) : Bool := decide (r.queue.size < depth)

/-- The receiver after an event, which is lost when there is no room. -/
def take (depth : Nat) (e : Event) (r : Receiver) : Receiver :=
  if r.hasRoom depth then { r with queue := r.queue.push e } else r

end Receiver

namespace Hub

/-- A hub without subscriptions. A depth of zero counts as one. -/
def ofDepth (depth : Nat) : Hub := ⟨max depth 1, by omega, 1, [], [], [], []⟩

/-- Registers a logging subscription and gives its number. -/
def subscribeLogging (h : Hub) : Hub × Nat :=
  ({ h with
      nextId := h.nextId + 1
      loggers := h.loggers ++ [h.nextId]
      receivers := h.receivers ++ [⟨h.nextId, .empty⟩] }, h.nextId)

/-- Registers a statistics subscription and gives its number. -/
def subscribeStatistics (h : Hub) : Hub × Nat :=
  ({ h with
      nextId := h.nextId + 1
      statistics := h.statistics ++ [h.nextId]
      tallies := h.tallies ++ [⟨h.nextId, .empty⟩] }, h.nextId)

/-- Registers a subscription of the kind. -/
def subscribe (h : Hub) : StreamKind → Hub × Nat
  | .logging => h.subscribeLogging
  | .statistics => h.subscribeStatistics

/-- The receiver of a logging subscription. -/
def receiver? (h : Hub) (id : Nat) : Option Receiver := h.receivers.find? (·.id == id)

/-- The tally of a statistics subscription. -/
def tally? (h : Hub) (id : Nat) : Option Tally := h.tallies.find? (·.id == id)

/-- What becomes of an event that is sent to a logging subscription now. -/
def trySend (h : Hub) (id : Nat) : Sent :=
  match h.receiver? id with
  | some r => if r.hasRoom h.depth then .taken else .full
  | none => .closed

/-- Sends an event to each registered logging subscription and counts it for each registered
statistics subscription. Each logging subscription has a queue of its own, so what is sent to one
does not matter to the next. -/
def record (h : Hub) (e : Event) : Hub × FanOut :=
  ({ h with
      loggers := h.loggers.filter fun id ↦ (h.trySend id).keeps
      receivers := h.receivers.map fun r ↦
        if h.loggers.contains r.id then r.take h.depth e else r
      tallies := h.tallies.map fun t ↦
        if h.statistics.contains t.id then { t with counts := t.counts.count e } else t },
    { delivered := h.loggers.countP (h.trySend · == .taken)
      evicted := h.loggers.filter (h.trySend · == .full) })

/-- The hub with another receiver in place of the one with the same number. -/
def setReceiver (h : Hub) (r : Receiver) : Hub :=
  { h with receivers := h.receivers.map fun o ↦ if o.id = r.id then r else o }

/-- The hub with another tally in place of the one with the same number. -/
def setTally (h : Hub) (t : Tally) : Hub :=
  { h with tallies := h.tallies.map fun o ↦ if o.id = t.id then t else o }

/-- Takes the next event of a logging subscription. More can come while the hub sends to it. A
dropped subscription gets nothing. -/
def poll (h : Hub) (id : Nat) : Hub × Poll :=
  match h.receiver? id with
  | some r =>
    match r.queue.pop? with
    | some (e, queue) => (h.setReceiver { r with queue }, .event e)
    | none => (h, if h.loggers.contains id then .pending else .ended)
  | none => (h, .ended)

/-- Takes the counts of a statistics subscription, which start again from nothing. -/
def flush (h : Hub) (id : Nat) : Hub × Snapshot :=
  match h.tally? id with
  | some t => (h.setTally { t with counts := .empty }, t.counts)
  | none => (h, .empty)

/-- Takes a subscription out of the registry of its kind, and tells whether it was there. -/
def unregister (h : Hub) : StreamKind → Nat → Hub × Bool
  | .logging, id => ({ h with loggers := h.loggers.filter (· != id) }, h.loggers.contains id)
  | .statistics, id =>
    ({ h with statistics := h.statistics.filter (· != id) }, h.statistics.contains id)

/-- Gives up what a subscription holds. -/
def release (h : Hub) : StreamKind → Nat → Hub
  | .logging, id => { h with receivers := h.receivers.filter (·.id != id) }
  | .statistics, id => { h with tallies := h.tallies.filter (·.id != id) }

/-- Drops a subscription of the kind, and tells whether it was still registered. -/
def drop (h : Hub) (kind : StreamKind) (id : Nat) : Hub × Bool :=
  ((h.unregister kind id).1.release kind id, (h.unregister kind id).2)

/-- How many logging subscriptions are registered. -/
def loggingSubscribers (h : Hub) : Nat := h.loggers.length

/-- How many statistics subscriptions are registered. -/
def statisticsSubscribers (h : Hub) : Nat := h.statistics.length

end Hub

/-- The notes about a recorded event. -/
def FanOut.notes (r : FanOut) : List Note := r.evicted.map .queueFull

/-- The notes about a dropped subscription. -/
def dropNotes (kind : StreamKind) (id : Nat) (removed : Bool) : List Note :=
  if removed then [.removed kind id] else []

end Gatehouse
