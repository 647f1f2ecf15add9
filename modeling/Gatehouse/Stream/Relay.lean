import Gatehouse.Drain
import Gatehouse.Hub
import Gatehouse.Stream.Outbox
import Gatehouse.Stream.Period

/-!
# Relays

A relay moves items from a subscription to a client. It waits for an item, for the client to
go and for draining at once, and any of those that is ready may be next; while an item has no
room in the outbox it waits for room and nothing else. However a relay ends, its subscription
is dropped.
-/

namespace Gatehouse

/-- Where a relay's items come from. -/
inductive Feed where
  /-- The events of a logging subscription. -/
  | events
  /-- The counts of a statistics subscription, taken in each period and next when `due`. -/
  | counts (period : Period) (due : Nat)

/-- What a relay is doing. -/
inductive Phase where
  /-- It has not begun. -/
  | created
  /-- It waits for the next thing to happen. -/
  | waiting
  /-- It holds an item for which there is no room. -/
  | pushing (item : Item)
  /-- It has ended. -/
  | ended (outcome : Except Fault StreamEnd)

/-- A relay from a subscription to a client. -/
structure Relay where
  /-- The number of its subscription. -/
  subscription : Nat
  feed : Feed
  outbox : Outbox
  /-- Whether it notices that the client goes while it waits. -/
  watchesClient : Bool
  signal : Drain.Signal
  phase : Phase

/-- What a relay may do next. -/
inductive Branch where
  /-- Begin. -/
  | start
  /-- Take an event. -/
  | receive
  /-- Take the counts of a period. -/
  | tick
  /-- See that the client is gone. -/
  | gone
  /-- See that the gateway is draining. -/
  | drain
  /-- Hand over the item it holds. -/
  | push
  deriving DecidableEq, Repr

/-- What surrounds a relay. -/
structure Surroundings where
  hub : Hub
  /-- The time in milliseconds. -/
  clock : Nat
  channel : Drain.Channel

/-- A relay after it did something, with the hub and what there is to note. -/
structure Fired where
  relay : Relay
  hub : Hub
  notes : List Note

namespace Relay

/-- The kind of stream that a relay serves. -/
def kind (r : Relay) : StreamKind :=
  match r.feed with
  | .events => .logging
  | .counts _ _ => .statistics

/-- Whether the relay has ended. -/
def hasEnded (r : Relay) : Bool :=
  match r.phase with
  | .ended _ => true
  | _ => false

/-- Whether the relay has begun. -/
def hasStarted (r : Relay) : Bool :=
  match r.phase with
  | .created => false
  | _ => true

/-- The fault of a relay whose subscription was cut off. -/
def evictedFault : Fault := .delivery "subscriber evicted: queue overflow"

/-- Ends the relay and drops its subscription. -/
def finish (r : Relay) (outcome : Except Fault StreamEnd) (hub : Hub) : Fired :=
  let (hub, removed) := hub.drop r.kind r.subscription
  ⟨{ r with phase := .ended outcome }, hub, dropNotes r.kind r.subscription removed⟩

/-- Hands an item to the outbox, or holds it until there is room. -/
def hand (r : Relay) (item : Item) (hub : Hub) : Fired :=
  match r.outbox.offer item with
  | .taken outbox => ⟨{ r with outbox, phase := .waiting }, hub, []⟩
  | .full => ⟨{ r with phase := .pushing item }, hub, []⟩
  | .failed fault => r.finish (.error fault) hub

/-- The relay when it begins: its first tick is due after one period. -/
def started (r : Relay) (clock : Nat) : Relay :=
  let feed := match r.feed with
    | .events => .events
    | .counts period _ => .counts period (clock + period.milliseconds)
  { r with feed, phase := .waiting }

/-- Takes an event, or finds that none will come. -/
def receive (r : Relay) (s : Surroundings) : Option Fired :=
  match r.feed with
  | .counts _ _ => none
  | .events =>
    match s.hub.poll r.subscription with
    | (hub, .event e) => some (r.hand (.event e) hub)
    | (hub, .ended) => some (r.finish (.error evictedFault) hub)
    | (_, .pending) => none

/-- Takes the counts of a period that is over. -/
def tick (r : Relay) (s : Surroundings) : Option Fired :=
  match r.feed with
  | .events => none
  | .counts period due =>
    if due ≤ s.clock then
      let (hub, counts) := s.hub.flush r.subscription
      some ({ r with feed := .counts period (period.next due s.clock) }.hand (.snapshot counts) hub)
    else none

/-- What the relay does on a branch; none when the branch is not ready. -/
def fire (r : Relay) (b : Branch) (s : Surroundings) : Option Fired :=
  match r.phase, b with
  | .created, .start => some ⟨r.started s.clock, s.hub, []⟩
  | .waiting, .receive => r.receive s
  | .waiting, .tick => r.tick s
  | .waiting, .gone =>
    if r.watchesClient && !r.outbox.clientHere then some (r.finish (.ok .clientGone) s.hub)
    else none
  | .waiting, .drain =>
    if r.signal.resolves s.channel then some (r.finish (.ok .draining) s.hub) else none
  | .pushing item, .push =>
    match r.outbox.offer item with
    | .full => none
    | _ => some (r.hand item s.hub)
  | _, _ => none

/-- All branches, in the order in which they are tried. -/
def branches : List Branch := [.start, .receive, .tick, .gone, .drain, .push]

/-- What the relay does on the first branch that is ready. -/
def fireFirst (r : Relay) (s : Surroundings) : Option Fired := branches.findSome? (r.fire · s)

/-- When the next tick of a waiting relay is due. -/
def nextDue? (r : Relay) : Option Nat :=
  match r.phase, r.feed with
  | .waiting, .counts _ due => some due
  | _, _ => none

/-- An upper bound of what a relay can do without anything from outside: each event takes a
step to receive and perhaps one to push, and so does a tick that is due. -/
def work (r : Relay) (s : Surroundings) : Nat :=
  let feed := match r.feed with
    | .events => 2 * ((s.hub.receiver? r.subscription).map (·.queue.size)).getD 0
    | .counts _ due => if due ≤ s.clock then 2 else 0
  match r.phase with
  | .created => feed + 3
  | .waiting => feed + 1
  | .pushing _ => feed + 2
  | .ended _ => 0

end Relay

end Gatehouse
