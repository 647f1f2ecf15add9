import Gatehouse.Frame

/-!
# Admin streams: kinds, items and ends

An admin stream pushes items to one client: each access event as it happens, or a snapshot of
the call counts once in each period.
-/

namespace Gatehouse

/-- What an admin stream reports. -/
inductive StreamKind where
  /-- Access events. -/
  | logging
  /-- Call counts. -/
  | statistics
  deriving DecidableEq, Repr

namespace StreamKind

/-- The name of a kind of stream in metrics and logs. -/
def label : StreamKind → String
  | .logging => "logging"
  | .statistics => "statistics"

/-- The method path that opens a stream of the kind. -/
def method : StreamKind → String
  | .logging => "/Admin/Logging"
  | .statistics => "/Admin/Statistics"

end StreamKind

/-- The method paths that open admin streams. -/
def adminMethods : List String := [StreamKind.logging.method, StreamKind.statistics.method]

/-- One item of an admin stream. -/
inductive Item where
  | event (e : Event)
  | snapshot (s : Snapshot)
  deriving DecidableEq

/-- The text in which an item is sent. -/
def Item.frame : Item → String
  | .event e => e.frame
  | .snapshot s => s.frame

/-- Why a stream ended without a fault. -/
inductive StreamEnd where
  /-- The client went away. -/
  | clientGone
  /-- The gateway is draining. -/
  | draining
  deriving DecidableEq, Repr

end Gatehouse
