import Gatehouse.Hub
import Gatehouse.Metrics

/-!
# The access gate

Every call passes the gate: its identity is read, the attempt is recorded, and then it is
decided whether the call may go on. An attempt is recorded before the decision, so refused
calls are audited and counted too; only a call without a readable method or peer is not.
-/

namespace Gatehouse

/-- What the gate made of a call. -/
structure Admission where
  outcome : Except Refusal Caller
  hub : Hub
  metrics : Metrics
  notes : List Note

/-- What a handler made of an admitted call. -/
structure Handled (α : Type) where
  result : Except Fault α
  hub : Hub
  notes : List Note

/-- What became of a call that went through the gate to a handler. -/
structure Intercepted (α : Type) where
  result : Except Fault α
  /-- Whether the handler ran. -/
  ran : Bool
  hub : Hub
  metrics : Metrics
  notes : List Note

namespace Gate

/-- Decides about a caller who is known. -/
def authorize (acl : Acl) (identity : Identity) : Except Refusal Caller :=
  match identity.authenticate with
  | .error why => .error why
  | .ok caller =>
    match acl.judge caller.consumer caller.method.text with
    | .allow => .ok caller
    | .deny why => .error (.denied why caller.consumer caller.method.text)

/-- Reads, records and decides a call. -/
def enter (acl : Acl) (call : Call) (hub : Hub) (metrics : Metrics) : Admission :=
  match Identity.extract call.method call.metadata call.peer with
  | .error why =>
    ⟨.error why, hub, metrics.countRefused call.kind why, [.refused call.kind why]⟩
  | .ok identity =>
    let (hub, report) := hub.record identity.event
    let metrics := metrics.countEvicted report.evicted.length
    match authorize acl identity with
    | .ok caller => ⟨.ok caller, hub, metrics.countAllowed call.kind, report.notes⟩
    | .error why =>
      ⟨.error why, hub, metrics.countRefused call.kind why,
        report.notes ++ [.refused call.kind why]⟩

/-- Whether a handler's result says that nothing serves the method. -/
def isUnknown {α : Type} : Except Fault α → Bool
  | .error (.unknownMethod _) => true
  | _ => false

/-- Counts the duration of a finished handler. Streams and unknown methods are not counted, so
no caller can choose a label. -/
def observe {α : Type} (kind : CallKind) (method : String) (result : Except Fault α)
    (micros : Nat) (metrics : Metrics) : Metrics :=
  if kind = .unary ∧ isUnknown result = false then metrics.observeDispatch method micros
  else metrics

/-- Admits a call and hands it to the handler, whose result is passed on unchanged. -/
def intercept {α : Type} (acl : Acl) (call : Call) (handler : Caller → Hub → Handled α)
    (micros : Nat) (hub : Hub) (metrics : Metrics) : Intercepted α :=
  let admission := enter acl call hub metrics
  match admission.outcome with
  | .error why => ⟨.error why.fault, false, admission.hub, admission.metrics, admission.notes⟩
  | .ok caller =>
    let handled := handler caller admission.hub
    ⟨handled.result, true, handled.hub,
      observe call.kind caller.method.text handled.result micros admission.metrics,
      admission.notes ++ handled.notes⟩

end Gate

end Gatehouse
