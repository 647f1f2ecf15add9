import Gatehouse.Caller
import Gatehouse.Metrics.Histogram
import Gatehouse.Stream.Basic

/-!
# The gateway's metrics

Counters of calls, denials and cut-off subscribers, a gauge of running admin streams, the
durations of dispatched calls, and whether the gateway is draining. All label values are fixed
words of the gateway or methods that it serves.
-/

namespace Gatehouse

/-- How a call ended at the gate. -/
inductive CallOutcome where
  | allowed
  | denied
  | error
  deriving DecidableEq, Repr

/-- The name of an outcome in metrics. -/
def CallOutcome.label : CallOutcome → String
  | .allowed => "allowed"
  | .denied => "denied"
  | .error => "error"

/-- The outcome of a refused call. -/
def Refusal.outcome (r : Refusal) : CallOutcome := if r.isDenial then .denied else .error

/-- The metrics of one gateway. -/
structure Metrics where
  /-- Calls by kind and outcome. -/
  calls : Counters
  /-- Denied calls by reason. -/
  denials : Counters
  /-- Running admin streams by kind. -/
  adminStreams : Gauges
  /-- Subscribers that were cut off. -/
  evictions : Counters
  /-- Durations of dispatched calls by method. -/
  dispatchDuration : Histograms
  /-- Whether the gateway is draining. -/
  draining : Bool
  deriving DecidableEq

namespace Metrics

/-- Nothing counted, not draining. -/
def empty : Metrics := ⟨.empty, .empty, .empty, .empty, .empty, false⟩

/-- The labels of calls. -/
def callLabels (kind : CallKind) (outcome : CallOutcome) : Labels :=
  .ofList [("kind", kind.label), ("outcome", outcome.label)]

/-- The labels of denials. -/
def denialLabels (reason : String) : Labels := .ofList [("reason", reason)]

/-- The labels of running streams. -/
def streamLabels (kind : StreamKind) : Labels := .ofList [("stream", kind.label)]

/-- The labels of durations. -/
def methodLabels (method : String) : Labels := .ofList [("method", method)]

/-- Counts an admitted call. -/
def countAllowed (m : Metrics) (kind : CallKind) : Metrics :=
  { m with calls := m.calls.inc (callLabels kind .allowed) }

/-- Counts a refused call, and its reason when it was denied. -/
def countRefused (m : Metrics) (kind : CallKind) (why : Refusal) : Metrics :=
  let m := { m with calls := m.calls.inc (callLabels kind why.outcome) }
  match why.outcome with
  | .denied => { m with denials := m.denials.inc (denialLabels why.label) }
  | _ => m

/-- Counts subscribers that were cut off. -/
def countEvicted (m : Metrics) (n : Nat) : Metrics :=
  if n = 0 then m else { m with evictions := m.evictions.add .none n.toUInt64 }

/-- Counts a stream that began. -/
def streamBegan (m : Metrics) (kind : StreamKind) : Metrics :=
  { m with adminStreams := m.adminStreams.inc (streamLabels kind) }

/-- Counts a stream that ended. -/
def streamEnded (m : Metrics) (kind : StreamKind) : Metrics :=
  { m with adminStreams := m.adminStreams.dec (streamLabels kind) }

/-- Counts the duration of a dispatched call. -/
def observeDispatch (m : Metrics) (method : String) (micros : Nat) : Metrics :=
  { m with dispatchDuration := m.dispatchDuration.observe (methodLabels method) micros }

/-- Marks the gateway as draining. -/
def setDraining (m : Metrics) : Metrics := { m with draining := true }

end Metrics

end Gatehouse
