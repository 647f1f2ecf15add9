import Gatehouse.Gate
import Gatehouse.Station

/-!
# Opening admin streams

A stream is granted to a caller whom the gate let through: a subscription of the right kind is
registered before the client is told, so nothing that is recorded afterwards is missed.
-/

namespace Gatehouse

/-- A subscription for a stream. -/
structure Grant where
  /-- The number of the subscription. -/
  subscription : Nat
  feed : Feed

namespace Admin

/-- Opens a logging stream. -/
def openLogging (hub : Hub) : Grant × Hub :=
  let (hub, id) := hub.subscribeLogging
  (⟨id, .events⟩, hub)

/-- Opens a statistics stream, when its period is allowed. -/
def openStatistics (maxInterval seconds : Nat) (hub : Hub) : Except Fault (Grant × Hub) :=
  match Period.ofSeconds maxInterval seconds with
  | .error f => .error f
  | .ok period =>
    let (hub, id) := hub.subscribeStatistics
    .ok (⟨id, .counts period 0⟩, hub)

end Admin

/-- The kind of a granted stream. -/
def Grant.kind (g : Grant) : StreamKind :=
  match g.feed with
  | .events => .logging
  | .counts _ _ => .statistics

/-- The relay that serves a granted stream. -/
def Grant.relay (g : Grant) (transport : Transport) (watchesClient : Bool)
    (channel : Drain.Channel) : Relay :=
  ⟨g.subscription, g.feed, .ofTransport transport, watchesClient, channel.signal, .created⟩

end Gatehouse
