import Gatehouse.Fault
import Gatehouse.Queue
import Gatehouse.Stream.Basic

/-!
# Outboxes

An outbox carries the items of one stream to its client. A channel holds a bounded number of
items that the client has not read. How much a socket holds is up to its connection. Neither takes
anything for a client that is gone.
-/

namespace Gatehouse

/-- What a web socket is like for the stream that sends over it. -/
structure Socket where
  /-- Whether it takes one more item while its client has not read these. -/
  hasRoom : List Item → Bool
  /-- What it reports of a push for a client that is gone. -/
  error : String

/-- A socket that takes whatever is sent. -/
def Socket.free : Socket := ⟨fun _ ↦ true, "connection closed"⟩

/-- How items travel. -/
inductive Transport where
  /-- A channel that holds so many items. -/
  | channel (capacity : Nat)
  /-- A web socket. -/
  | socket (ws : Socket)

/-- The items on their way to a client. -/
structure Outbox where
  transport : Transport
  /-- The items that the client has not read. -/
  queue : Queue Item
  /-- Whether the client is still there. -/
  clientHere : Bool

/-- What became of an item. -/
inductive Offer where
  /-- It is on its way. -/
  | taken (outbox : Outbox)
  /-- There is no room for it yet. -/
  | full
  /-- It can never be delivered. -/
  | failed (fault : Fault)

/-- The fault of a push for a client that is gone. -/
def Transport.goneFault : Transport → Fault
  | .channel _ => .delivery "receiver closed"
  | .socket ws => .delivery ("websocket send failed: " ++ ws.error)

/-- Whether items travel over a web socket. -/
def Transport.isSocket : Transport → Bool
  | .channel _ => false
  | .socket _ => true

namespace Outbox

/-- An outbox without items. -/
def ofTransport (t : Transport) : Outbox := ⟨t, .empty, true⟩

/-- Whether another item has room. -/
def hasRoom (o : Outbox) : Bool :=
  match o.transport with
  | .channel capacity => o.queue.size < capacity
  | .socket ws => ws.hasRoom o.queue.toList

/-- Puts an item on its way, if that is possible. -/
def offer (o : Outbox) (item : Item) : Offer :=
  if o.clientHere then
    if o.hasRoom then .taken { o with queue := o.queue.push item } else .full
  else .failed o.transport.goneFault

/-- The client reads an item. -/
def read (o : Outbox) : Outbox × Option Item :=
  match o.queue.pop? with
  | some (item, queue) => ({ o with queue }, some item)
  | none => (o, none)

/-- The client goes away. -/
def leave (o : Outbox) : Outbox := { o with clientHere := false }

end Outbox

end Gatehouse
