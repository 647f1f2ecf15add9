/-!
# Draining

One trigger tells any number of signals that the gateway is draining. A signal remembers up to
which change of the channel it has looked. Waiting on a signal is asked about step by step: a
wait that found nothing is parked until the channel changes, and a wait that outlives the
trigger without a change never ends.
-/

namespace Gatehouse.Drain

/-- The shared end. -/
structure Channel where
  draining : Bool
  /-- How often the trigger was pulled. -/
  version : Nat
  /-- Whether the trigger still exists. -/
  triggerHeld : Bool
  deriving DecidableEq, Repr

/-- The progress of a wait. -/
inductive Wait where
  /-- Not asked about yet. -/
  | fresh
  /-- Waiting for the channel to change. -/
  | parked
  /-- The trigger is gone; nothing can change any more. -/
  | hopeless
  deriving DecidableEq, Repr

/-- The end of one observer. -/
structure Signal where
  /-- The last change that was looked at. -/
  seen : Nat
  deriving DecidableEq, Repr

namespace Channel

/-- A channel that is not draining. -/
def new : Channel := ⟨false, 0, true⟩

/-- Pulls the trigger, which may be done any number of times. -/
def drain (c : Channel) : Channel := { c with draining := true, version := c.version + 1 }

/-- Gives up the trigger. -/
def dropTrigger (c : Channel) : Channel := { c with triggerHeld := false }

/-- A signal that has seen everything so far. -/
def signal (c : Channel) : Signal := ⟨c.version⟩

end Channel

namespace Signal

/-- Whether the gateway is draining, which a signal tells from what its channel shows now. -/
def isDraining (_ : Signal) (c : Channel) : Bool := c.draining

/-- Looks at the channel: the wait is over when it is draining, and parked or hopeless
otherwise. -/
def look (c : Channel) : Signal × Wait × Bool :=
  (⟨c.version⟩, if c.triggerHeld then .parked else .hopeless, c.draining)

/-- Asks about a wait: the signal and the wait afterwards, and whether the wait is over. -/
def poll (s : Signal) (w : Wait) (c : Channel) : Signal × Wait × Bool :=
  match w with
  | .fresh => look c
  | .parked =>
    if s.seen = c.version then (s, if c.triggerHeld then .parked else .hopeless, false)
    else look c
  | .hopeless => (s, .hopeless, false)

/-- Whether a new wait is over at once. -/
def resolves (s : Signal) (c : Channel) : Bool := (s.poll .fresh c).2.2

end Signal

end Gatehouse.Drain
