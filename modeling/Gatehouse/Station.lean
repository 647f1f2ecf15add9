import Gatehouse.Metrics
import Gatehouse.Stream.Relay

/-!
# The station of running streams

The station holds the hub and all relays, which run side by side until none of them can go on
without a new event, a reading client, or the passing of time. A relay to a web socket is
counted in the metrics and noted in the log from its start to its end.
-/

namespace Gatehouse

/-- The hub, the relays on it, and what they share. -/
structure Station where
  hub : Hub
  metrics : Metrics
  /-- The time in milliseconds. -/
  clock : Nat
  channel : Drain.Channel
  relays : List Relay

namespace Station

/-- A station without relays. -/
def ofDepth (depth : Nat) : Station := ⟨.ofDepth depth, .empty, 0, .new, []⟩

/-- What surrounds each relay. -/
def surroundings (s : Station) : Surroundings := ⟨s.hub, s.clock, s.channel⟩

/-- The relay of a subscription. -/
def relay? (s : Station) (id : Nat) : Option Relay := s.relays.find? (·.subscription == id)

/-- The station with another relay in place of the one of its subscription. -/
def setRelay (s : Station) (r : Relay) : Station :=
  { s with relays := s.relays.map fun o => if o.subscription = r.subscription then r else o }

/-- Whether a relay is counted and noted. -/
def isPublic (r : Relay) : Bool := r.outbox.transport.isSocket

/-- Counts the start and the end of a relay. -/
def countRelay (old new : Relay) (m : Metrics) : Metrics :=
  if isPublic old then
    let m := if !old.hasStarted && new.hasStarted then m.streamBegan old.kind else m
    if !old.hasEnded && new.hasEnded then m.streamEnded old.kind else m
  else m

/-- Notes the start and the end of a relay. -/
def relayNotes (old new : Relay) : List Note :=
  if isPublic old then
    let opened := if !old.hasStarted && new.hasStarted then [Note.streamOpened] else []
    match old.hasEnded, new.phase with
    | false, .ended outcome => opened ++ [.streamClosed outcome]
    | _, _ => opened
  else []

/-- The station after a relay did something. -/
def apply (s : Station) (old : Relay) (f : Fired) : Station × List Note :=
  ({ s with hub := f.hub, metrics := countRelay old f.relay s.metrics }.setRelay f.relay,
    f.notes ++ relayNotes old f.relay)

/-- Lets the relay of a subscription do what it does on a branch, if that is ready. -/
def fire (s : Station) (id : Nat) (b : Branch) : Option (Station × List Note) :=
  (s.relay? id).bind fun r => (r.fire b s.surroundings).map (s.apply r)

/-- Lets the first relay that can do something do it. -/
def fireFirst (s : Station) : Option (Station × List Note) :=
  s.relays.findSome? fun r => (r.fireFirst s.surroundings).map (s.apply r)

/-- An upper bound of the steps that the relays can take by themselves. -/
def work (s : Station) : Nat := s.relays.foldr (fun r n => r.work s.surroundings + n) 0

/-- Lets relays do something up to so many times. -/
def run : Nat → Station → Station × List Note
  | 0, s => (s, [])
  | fuel + 1, s =>
    match s.fireFirst with
    | none => (s, [])
    | some (s, notes) =>
      let (s, more) := run fuel s
      (s, notes ++ more)

/-- Lets relays go on until none of them can. -/
def settle (s : Station) : Station × List Note := run s.work s

/-- Adds a relay. -/
def spawn (s : Station) (r : Relay) : Station := { s with relays := s.relays ++ [r] }

/-- Lets the client of a relay read an item. -/
def read (s : Station) (id : Nat) : Station × Option Item :=
  match s.relay? id with
  | none => (s, none)
  | some r =>
    let (outbox, item) := r.outbox.read
    (s.setRelay { r with outbox }, item)

/-- Lets the client of a relay go away. -/
def leave (s : Station) (id : Nat) : Station :=
  match s.relay? id with
  | none => s
  | some r => s.setRelay { r with outbox := r.outbox.leave }

/-- Records an event. -/
def record (s : Station) (e : Event) : Station × FanOut :=
  let (hub, report) := s.hub.record e
  ({ s with hub }, report)

/-- Pulls the drain trigger. -/
def drain (s : Station) : Station := { s with channel := s.channel.drain }

/-- Moves the clock at once; what became due meanwhile is late. -/
def advance (s : Station) (ms : Nat) : Station := { s with clock := s.clock + ms }

/-- The earliest tick that is due up to a time. -/
def nextDue? (s : Station) (limit : Nat) : Option Nat :=
  ((s.relays.filterMap (·.nextDue?)).filter (· ≤ limit)).min?

/-- Moves the clock from tick to tick up to a time, and lets relays go on at each. -/
def sleepUntil (target : Nat) : Nat → Station → Station × List Note
  | 0, s => { s with clock := max s.clock target }.settle
  | fuel + 1, s =>
    match s.nextDue? target with
    | none => { s with clock := max s.clock target }.settle
    | some due =>
      let (s, notes) := { s with clock := max s.clock due }.settle
      let (s, more) := sleepUntil target fuel s
      (s, notes ++ more)

/-- Lets time pass. The clock moves on at each tick, so one more step than there are
milliseconds is enough. -/
def sleep (s : Station) (ms : Nat) : Station × List Note :=
  s.sleepUntil (s.clock + ms) (ms + 1)

end Station

end Gatehouse
