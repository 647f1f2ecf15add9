import Gatehouse.Proofs.Gateway.Requests
import Gatehouse.Proofs.Hub.Membership

/-!
# Histories of a gate

Calls pass a gate one after the other, and in between programs use its hub. The hub sees a history
of its own: the records of the gate among what handlers and programs do.
-/

namespace Gatehouse

/-- A handler: what it does with the hub, what it replies, and what there is to note. -/
structure Handler (α : Type) where
  uses : Caller → Hub → List HubOp
  reply : Caller → Hub → Except Fault α
  notes : Caller → Hub → List Note

/-- Runs a handler for a caller. -/
def Handler.run {α : Type} (h : Handler α) (caller : Caller) (hub : Hub) : Handled α :=
  ⟨h.reply caller hub, hub.after (h.uses caller hub), h.notes caller hub⟩

/-- What happens at a gate. -/
inductive GateOp : Type 1 where
  /-- A call is admitted or refused. -/
  | enter (call : Call)
  /-- A call is admitted and handled, or refused. -/
  | intercept {α : Type} (call : Call) (handler : Handler α) (micros : Nat)
  /-- A program uses the hub. -/
  | hub (op : HubOp)

/-- The call that passes the gate. -/
def GateOp.call? : GateOp → Option Call
  | .enter call => some call
  | .intercept call _ _ => some call
  | .hub _ => none

/-- The calls that pass the gate, in order. -/
def calls (ops : List GateOp) : List Call := ops.filterMap GateOp.call?

theorem calls_cons (op : GateOp) (ops : List GateOp) :
    calls (op :: ops) = op.call?.toList ++ calls ops := by
  cases h : op.call? <;> simp [calls, h]

/-- One use of the hub of a gate. -/
inductive Use where
  /-- The gate records a call. -/
  | audit (e : Event)
  /-- A handler or a program does something. -/
  | other (op : HubOp)

/-- What is done to the hub. -/
def Use.op : Use → HubOp
  | .audit e => .record e
  | .other op => op

/-- The event that the gate records. -/
def Use.event? : Use → Option Event
  | .audit e => some e
  | .other _ => none

/-- The subscriptions that the records of the gate cut off, in order. -/
def cutOff (h : Hub) : List Use → List Nat
  | [] => []
  | .audit e :: uses => (h.record e).2.evicted ++ cutOff (h.record e).1 uses
  | .other op :: uses => cutOff (h.step op).1 uses

theorem cutOff_append (h : Hub) (xs ys : List Use) :
    cutOff h (xs ++ ys) = cutOff h xs ++ cutOff (h.after (xs.map Use.op)) ys := by
  induction xs generalizing h with
  | nil => rfl
  | cons x xs ih =>
    cases x with
    | audit e =>
      rw [List.cons_append, cutOff, cutOff, ih, List.append_assoc]
      rfl
    | other op =>
      rw [List.cons_append, cutOff, cutOff, ih]
      rfl

/-- What others record is no doing of the gate. -/
theorem cutOff_other (h : Hub) (ops : List HubOp) : cutOff h (ops.map .other) = [] := by
  induction ops generalizing h with
  | nil => rfl
  | cons op ops ih => exact ih _

/-- The gate cuts off nobody whom no record cuts off. -/
theorem cutOff_sublist_evicted (h : Hub) (us : List Use) :
    List.Sublist (cutOff h us) (evicted (h.trace (us.map Use.op))) := by
  induction us generalizing h with
  | nil => exact .slnil
  | cons u us ih =>
    rw [List.map_cons, Hub.trace, show ∀ x xs, evicted (x :: xs) = evicted [x] ++ evicted xs from
      fun x xs ↦ evicted_append [x] xs]
    cases u with
    | audit e =>
      have own : evicted [((Use.audit e).op, (h.step (Use.audit e).op).2)] =
          (h.record e).2.evicted := List.flatMap_singleton _ _
      rw [own]
      exact (List.Sublist.refl _).append (ih (h.record e).1)
    | other op => exact (ih (h.step op).1).trans (List.sublist_append_right _ _)

namespace Gate

/-- A gate's hub and metrics. -/
structure State where
  hub : Hub
  metrics : Metrics

namespace State

/-- Nothing has happened yet. -/
def ofDepth (depth : Nat) : State := ⟨.ofDepth depth, .empty⟩

/-- What happens next. -/
def step (acl : Acl) (s : State) : GateOp → State
  | .enter call =>
    let admission := enter acl call s.hub s.metrics
    ⟨admission.hub, admission.metrics⟩
  | .intercept call handler micros =>
    let ending := intercept acl call handler.run micros s.hub s.metrics
    ⟨ending.hub, ending.metrics⟩
  | .hub op => ⟨(s.hub.step op).1, s.metrics⟩

/-- The state after a history. -/
def after (acl : Acl) (s : State) (ops : List GateOp) : State := ops.foldl (step acl) s

/-- What is done to the hub next. -/
def uses (acl : Acl) (s : State) : GateOp → List Use
  | .enter call => call.event?.toList.map .audit
  | .intercept call handler _ =>
    call.event?.toList.map .audit ++
      match verdict acl call with
      | .ok caller => (handler.uses caller (s.hub.after (recordOf call.event?))).map .other
      | .error _ => []
  | .hub op => [.other op]

/-- What a history does to the hub. -/
def history (acl : Acl) (s : State) : List GateOp → List Use
  | [] => []
  | op :: ops => s.uses acl op ++ (s.step acl op).history acl ops

/-- The method of a unary call that is handled next by a handler that serves it. -/
def serves (acl : Acl) (s : State) : GateOp → List String
  | .intercept call handler _ =>
    match verdict acl call with
    | .ok caller =>
      let result := handler.reply caller (s.hub.after (recordOf call.event?))
      if call.kind = .unary ∧ isUnknown result = false then [call.method] else []
    | .error _ => []
  | _ => []

/-- The methods of the unary calls that were handled by a handler that serves them, in order. -/
def served (acl : Acl) (s : State) : List GateOp → List String
  | [] => []
  | op :: ops => s.serves acl op ++ (s.step acl op).served acl ops

variable {acl : Acl}

theorem after_cons (s : State) (op : GateOp) (ops : List GateOp) :
    s.after acl (op :: ops) = (s.step acl op).after acl ops := rfl

/-- What is done to the hub next is what the gate, a handler or a program does there. -/
theorem hub_step (s : State) (op : GateOp) :
    (s.step acl op).hub = s.hub.after ((s.uses acl op).map Use.op) := by
  have record (call : Call) :
      recordOf call.event? = (call.event?.toList.map .audit).map Use.op := by
    cases call.event? <;> rfl
  cases op with
  | enter call => exact (hub_enter acl call s.hub s.metrics).trans (congrArg _ (record call))
  | intercept call handler micros =>
    change (intercept acl call handler.run micros s.hub s.metrics).hub = _
    rw [uses, List.map_append, Hub.after_append, ← record]
    cases decided : verdict acl call with
    | ok caller =>
      rw [(intercept_of_admitted s.hub s.metrics handler.run micros decided).2, List.map_map,
        show Use.op ∘ Use.other = id from rfl, List.map_id]
      rfl
    | error why => exact (intercept_of_refused s.hub s.metrics handler.run micros decided).2
  | hub op => rfl

theorem hub_after (s : State) (ops : List GateOp) :
    (s.after acl ops).hub = s.hub.after ((s.history acl ops).map Use.op) := by
  induction ops generalizing s with
  | nil => rfl
  | cons op ops ih =>
    rw [after_cons, ih, hub_step, history, List.map_append, Hub.after_append]

/-- The gate records the calls that have an identity. -/
theorem audits_history (s : State) (ops : List GateOp) :
    (s.history acl ops).filterMap Use.event? = (calls ops).filterMap Call.event? := by
  have others (hs : List HubOp) : (hs.map Use.other).filterMap Use.event? = [] := by
    rw [List.filterMap_map]
    simp [Function.comp_def, Use.event?]
  induction ops generalizing s with
  | nil => rfl
  | cons op ops ih =>
    rw [history, List.filterMap_append, ih, calls_cons, List.filterMap_append]
    congr 1
    cases op with
    | enter call => cases h : call.event? <;> simp [uses, GateOp.call?, h, Use.event?]
    | intercept call handler micros =>
      rw [uses, List.filterMap_append]
      cases verdict acl call with
      | ok caller =>
        rw [others]
        cases h : call.event? <;> simp [GateOp.call?, h, Use.event?]
      | error why => cases h : call.event? <;> simp [GateOp.call?, h, Use.event?]
    | hub op => rfl

/-- No handler serves more often than there are calls. -/
theorem length_served_le (s : State) (ops : List GateOp) :
    (s.served acl ops).length ≤ (calls ops).length := by
  induction ops generalizing s with
  | nil => exact Nat.le_refl _
  | cons op ops ih =>
    have rest := ih (s.step acl op)
    have first : (s.serves acl op).length ≤ op.call?.toList.length := by
      cases op with
      | intercept call handler micros =>
        rw [serves]
        cases verdict acl call with
        | ok caller =>
          simp only
          split
          · exact Nat.le_refl _
          · exact Nat.zero_le _
        | error why => exact Nat.zero_le _
      | _ => exact Nat.zero_le _
    rw [served, calls_cons, List.length_append, List.length_append]
    omega

end State

end Gate

end Gatehouse
