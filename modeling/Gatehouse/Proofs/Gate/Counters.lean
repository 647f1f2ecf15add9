import Gatehouse.Proofs.Gate.History
import Gatehouse.Proofs.Metrics

/-!
# What the gate counts

Each call is counted once by its kind and outcome, and a denied one once by its reason. What the
families hold after a history is therefore told by lists of the history: of its calls, of the
subscriptions that their records cut off, and of the methods whose handlers had something to serve.
-/

namespace Gatehouse

/-- How many calls are of some sort. -/
def number (ops : List GateOp) (p : Call → Prop) [DecidablePred p] : Nat :=
  (calls ops).countP fun call ↦ decide (p call)

section Number

variable {ops : List GateOp} {p q : Call → Prop} [DecidablePred p] [DecidablePred q]

theorem number_congr (h : ∀ call, p call ↔ q call) : number ops p = number ops q := by
  refine List.countP_congr fun call _ ↦ ?_
  rw [decide_eq_true_iff, decide_eq_true_iff, h]

/-- Calls of two sorts that have nothing in common are counted apart. -/
theorem number_or (apart : ∀ call, p call → ¬q call) :
    number ops (fun call ↦ p call ∨ q call) = number ops p + number ops q := by
  unfold number
  induction calls ops with
  | nil => rfl
  | cons call rest ih =>
    rw [List.countP_cons, List.countP_cons, List.countP_cons, ih]
    by_cases hp : p call
    · simp [hp, apart call hp]
      omega
    · by_cases hq : q call <;> simp [hp, hq]
      omega

theorem number_le : number ops p ≤ (calls ops).length := List.countP_le_length

/-- Each call is of one of two kinds. -/
theorem number_kinds :
    number ops (fun call ↦ call.kind = .unary ∧ p call) +
      number ops (fun call ↦ call.kind = .stream ∧ p call) = number ops p := by
  rw [← number_or]
  · refine number_congr fun call ↦ ?_
    cases call.kind <;> simp
  · rintro call ⟨unary, _⟩ ⟨stream, _⟩
    rw [unary] at stream
    cases stream

end Number

namespace Call

/-- The call has a method path and comes from nowhere. -/
def LacksPeer (call : Call) : Prop := MethodPath.IsPath call.method ∧ call.peer = none

/-- The call has a method path and a peer and does not say who calls. -/
def LacksConsumer (call : Call) : Prop :=
  MethodPath.IsPath call.method ∧ call.peer ≠ none ∧ call.consumer? = none

/-- The call has a method path and a peer and names a consumer whom the list refuses the method for
this reason. -/
def RefusedFor (acl : Acl) (why : Denial) (call : Call) : Prop :=
  MethodPath.IsPath call.method ∧ call.peer ≠ none ∧
    ∃ consumer ∈ call.consumer?, acl.judge consumer call.method = .deny why

instance : DecidablePred LacksPeer := fun call ↦
  inferInstanceAs (Decidable (MethodPath.IsPath call.method ∧ call.peer = none))

instance : DecidablePred LacksConsumer := fun call ↦
  inferInstanceAs (Decidable (MethodPath.IsPath call.method ∧ call.peer ≠ none ∧
    call.consumer? = none))

instance (acl : Acl) (why : Denial) : DecidablePred (RefusedFor acl why) := fun call ↦
  inferInstanceAs (Decidable (MethodPath.IsPath call.method ∧ call.peer ≠ none ∧
    ∃ consumer ∈ call.consumer?, acl.judge consumer call.method = .deny why))

end Call

namespace Gate

/-! ### What one call adds -/

/-- How a call ends at the gate. -/
def ending (acl : Acl) (call : Call) : CallOutcome :=
  match verdict acl call with
  | .ok _ => .allowed
  | .error why => why.outcome

/-- The series in which a call is counted. -/
def callSeries (acl : Acl) (call : Call) : Labels :=
  Metrics.callLabels call.kind (ending acl call)

/-- The series in which a denied call is counted. -/
def denialSeries? (acl : Acl) (call : Call) : Option Labels :=
  match verdict acl call with
  | .ok _ => none
  | .error why => if why.outcome = .denied then some (Metrics.denialLabels why.label) else none

/-- A call is recorded if it has an identity. -/
theorem event?_eq (call : Call) :
    call.event? =
      (Identity.extract call.method call.metadata call.peer).toOption.map Identity.event := by
  rw [Call.event?, Identity.extract]
  cases hr : MethodPath.read call.method with
  | error cause => rfl
  | ok path =>
    cases call.peer with
    | none => rfl
    | some peer =>
      simp [audit, Identity.event, Except.toOption, (MethodPath.read_eq_ok_iff.mp hr).2]

/-- A call ends as an error exactly when it has no method path. -/
theorem ending_eq_error_iff {acl : Acl} {call : Call} :
    ending acl call = .error ↔ ¬MethodPath.IsPath call.method := by
  have decided := decides_verdict acl call
  rw [ending]
  generalize verdict acl call = v at decided ⊢
  cases decided with
  | malformed garbled => exact iff_of_true rfl garbled
  | noPeer readable => exact iff_of_false nofun (not_not_intro readable)
  | anonymous readable => exact iff_of_false nofun (not_not_intro readable)
  | denied readable => exact iff_of_false nofun (not_not_intro readable)
  | admitted wf text => exact iff_of_false nofun (not_not_intro ⟨_, wf, text⟩)

/-- A call is denied for one of four reasons. -/
theorem ending_eq_denied_iff {acl : Acl} {call : Call} :
    ending acl call = .denied ↔
      call.LacksPeer ∨ call.LacksConsumer ∨ call.RefusedFor acl .unknownConsumer ∨
        call.RefusedFor acl .methodNotPermitted := by
  have decided := decides_verdict acl call
  rw [ending]
  generalize verdict acl call = v at decided ⊢
  cases decided with
  | malformed garbled =>
    refine iff_of_false nofun ?_
    rintro (h | h | h | h) <;> exact garbled h.1
  | noPeer readable lost => exact iff_of_true rfl (.inl ⟨readable, lost⟩)
  | anonymous readable placed silent =>
    exact iff_of_true rfl (.inr (.inl ⟨readable, by simp [placed], silent⟩))
  | @denied peer consumer why readable placed named judged =>
    have refused : call.RefusedFor acl why := ⟨readable, by simp [placed], consumer, named, judged⟩
    cases why with
    | unknownConsumer => exact iff_of_true rfl (.inr (.inr (.inl refused)))
    | methodNotPermitted => exact iff_of_true rfl (.inr (.inr (.inr refused)))
  | admitted wf text placed named judged =>
    refine iff_of_false nofun ?_
    simp [Call.LacksPeer, Call.LacksConsumer, Call.RefusedFor, placed, named, judged]

theorem isSome_denialSeries? {acl : Acl} {call : Call} :
    (denialSeries? acl call).isSome = true ↔ ending acl call = .denied := by
  rw [denialSeries?, ending]
  cases verdict acl call with
  | ok caller => simp
  | error why =>
    simp only
    split
    · next h => simp [h]
    · next h => simp [h]

/-- Each reason to deny a call has its own series. -/
theorem denialSeries?_spec (acl : Acl) (call : Call) :
    (denialSeries? acl call = some (Metrics.denialLabels "missing_peer") ↔ call.LacksPeer) ∧
    (denialSeries? acl call = some (Metrics.denialLabels "missing_consumer") ↔
      call.LacksConsumer) ∧
    (denialSeries? acl call = some (Metrics.denialLabels "unknown_consumer") ↔
      call.RefusedFor acl .unknownConsumer) ∧
    (denialSeries? acl call = some (Metrics.denialLabels "method_not_permitted") ↔
      call.RefusedFor acl .methodNotPermitted) := by
  have decided := decides_verdict acl call
  rw [denialSeries?]
  generalize verdict acl call = v at decided ⊢
  cases decided with
  | malformed garbled =>
    have error (cause) : (Refusal.malformedMethod call.method cause).outcome = .error := rfl
    simp [error, Call.LacksPeer, Call.LacksConsumer, Call.RefusedFor, garbled]
  | noPeer readable lost =>
    have denied : Refusal.missingPeer.outcome = .denied := rfl
    simp [denied, Refusal.label, Metrics.denialLabels_inj, Call.LacksPeer, Call.LacksConsumer,
      Call.RefusedFor, readable, lost]
  | anonymous readable placed silent =>
    have denied : Refusal.missingConsumer.outcome = .denied := rfl
    simp [denied, Refusal.label, Metrics.denialLabels_inj, Call.LacksPeer, Call.LacksConsumer,
      Call.RefusedFor, readable, placed, silent]
  | @denied peer consumer why readable placed named judged =>
    have denied : (Refusal.denied why consumer call.method).outcome = .denied := rfl
    cases why <;>
      simp [denied, Refusal.label, Metrics.denialLabels_inj, Call.LacksPeer, Call.LacksConsumer,
        Call.RefusedFor, readable, placed, named, judged, Denial.label]
  | admitted wf text placed named judged =>
    simp [Call.LacksPeer, Call.LacksConsumer, Call.RefusedFor, placed, named, judged]

variable (acl : Acl) (call : Call) (hub : Hub) (metrics : Metrics)

/-- A call is counted as it ends, after those that its record cut off. -/
theorem metrics_enter :
    (enter acl call hub metrics).metrics =
      let counted := metrics.countEvicted (cutOff hub (call.event?.toList.map .audit)).length
      match verdict acl call with
      | .ok _ => counted.countAllowed call.kind
      | .error why => counted.countRefused call.kind why := by
  rw [enter, verdict, event?_eq]
  cases Identity.extract call.method call.metadata call.peer with
  | error why => rfl
  | ok identity =>
    simp only
    cases authorize acl identity <;> simp [Except.toOption, cutOff]

theorem calls_enter :
    (enter acl call hub metrics).metrics.calls = metrics.calls.inc (callSeries acl call) := by
  rw [metrics_enter, callSeries, ending]
  cases verdict acl call with
  | ok caller => simp [Metrics.countAllowed]
  | error why => simp [Metrics.calls_countRefused]

theorem denials_enter :
    (enter acl call hub metrics).metrics.denials =
      metrics.denials.incAll (denialSeries? acl call).toList := by
  rw [metrics_enter, denialSeries?]
  cases verdict acl call with
  | ok caller => simp [Metrics.countAllowed, Counters.incAll]
  | error why =>
    simp only [Metrics.denials_countRefused, Metrics.denials_countEvicted]
    split <;> rfl

theorem evictions_enter :
    (enter acl call hub metrics).metrics.evictions.get .none =
      metrics.evictions.get .none +
        UInt64.ofNat (cutOff hub (call.event?.toList.map .audit)).length := by
  rw [metrics_enter, ← Metrics.evictions_countEvicted]
  cases verdict acl call with
  | ok caller => rfl
  | error why => simp only [Metrics.evictions_countRefused]

theorem dispatchDuration_enter :
    (enter acl call hub metrics).metrics.dispatchDuration = metrics.dispatchDuration := by
  rw [metrics_enter]
  cases verdict acl call with
  | ok caller => simp [Metrics.countAllowed]
  | error why => simp

/-- Streams are not counted at the gate. -/
theorem adminStreams_enter :
    (enter acl call hub metrics).metrics.adminStreams = metrics.adminStreams := by
  rw [metrics_enter]
  cases verdict acl call with
  | ok caller => simp [Metrics.countAllowed]
  | error why => simp

/-- No call changes whether the gateway is draining. -/
theorem draining_enter : (enter acl call hub metrics).metrics.draining = metrics.draining := by
  rw [metrics_enter]
  cases verdict acl call with
  | ok caller => simp [Metrics.countAllowed]
  | error why => simp

variable {α : Type} (handler : Caller → Hub → Handled α) (micros : Nat)

/-- The gate counts the duration of an admitted call and nothing else after the handler. -/
theorem metrics_intercept :
    (intercept acl call handler micros hub metrics).metrics =
      match verdict acl call with
      | .ok caller =>
        observe call.kind caller.method.text
          (handler caller (hub.after (recordOf call.event?))).result micros
          (enter acl call hub metrics).metrics
      | .error _ => (enter acl call hub metrics).metrics := by
  rw [← outcome_enter acl call hub metrics, ← hub_enter acl call hub metrics, intercept]
  cases (enter acl call hub metrics).outcome <;> rfl

@[simp] theorem calls_observe (kind : CallKind) (method : String) (result : Except Fault α) :
    (observe kind method result micros metrics).calls = metrics.calls := by
  unfold observe
  split <;> rfl

@[simp] theorem denials_observe (kind : CallKind) (method : String) (result : Except Fault α) :
    (observe kind method result micros metrics).denials = metrics.denials := by
  unfold observe
  split <;> rfl

@[simp] theorem evictions_observe (kind : CallKind) (method : String) (result : Except Fault α) :
    (observe kind method result micros metrics).evictions = metrics.evictions := by
  unfold observe
  split <;> rfl

@[simp] theorem adminStreams_observe (kind : CallKind) (method : String)
    (result : Except Fault α) :
    (observe kind method result micros metrics).adminStreams = metrics.adminStreams := by
  unfold observe
  split <;> rfl

theorem adminStreams_intercept :
    (intercept acl call handler micros hub metrics).metrics.adminStreams =
      metrics.adminStreams := by
  rw [metrics_intercept]
  cases verdict acl call with
  | ok caller =>
    exact (adminStreams_observe _ _ _ _ _).trans (adminStreams_enter acl call hub metrics)
  | error why => exact adminStreams_enter acl call hub metrics

@[simp] theorem draining_observe (kind : CallKind) (method : String) (result : Except Fault α) :
    (observe kind method result micros metrics).draining = metrics.draining := by
  unfold observe
  split <;> rfl

theorem draining_intercept :
    (intercept acl call handler micros hub metrics).metrics.draining = metrics.draining := by
  rw [metrics_intercept]
  cases verdict acl call with
  | ok caller => exact (draining_observe _ _ _ _ _).trans (draining_enter acl call hub metrics)
  | error why => exact draining_enter acl call hub metrics

theorem count_observe (kind : CallKind) (method : String) (result : Except Fault α) (l : Labels) :
    (observe kind method result micros metrics).dispatchDuration.count l =
      metrics.dispatchDuration.count l + UInt64.ofNat (List.count l
        (if kind = .unary ∧ isUnknown result = false then
          [Metrics.methodLabels method] else [])) := by
  unfold observe
  split
  · rw [Metrics.observeDispatch, Histograms.count_observe, List.count_singleton]
    by_cases h : l = Metrics.methodLabels method
    · simp [h]
    · have other : (Metrics.methodLabels method == l) = false := by simpa using Ne.symm h
      simp [h, other]
  · simp

namespace State

variable {acl}

theorem calls_step (s : State) (op : GateOp) :
    (s.step acl op).metrics.calls =
      s.metrics.calls.incAll (op.call?.toList.map (callSeries acl)) := by
  cases op with
  | enter call => exact calls_enter acl call s.hub s.metrics
  | intercept call handler micros =>
    change (intercept acl call handler.run micros s.hub s.metrics).metrics.calls = _
    rw [metrics_intercept]
    cases verdict acl call with
    | ok caller => exact (calls_observe _ _ _ _ _).trans (calls_enter acl call s.hub s.metrics)
    | error why => exact calls_enter acl call s.hub s.metrics
  | hub op => rfl

theorem denials_step (s : State) (op : GateOp) :
    (s.step acl op).metrics.denials =
      s.metrics.denials.incAll (op.call?.toList.filterMap (denialSeries? acl)) := by
  have entered (call : Call) : (enter acl call s.hub s.metrics).metrics.denials =
      s.metrics.denials.incAll ([call].filterMap (denialSeries? acl)) := by
    rw [denials_enter]
    cases h : denialSeries? acl call <;> simp [h]
  cases op with
  | enter call => exact entered call
  | intercept call handler micros =>
    change (intercept acl call handler.run micros s.hub s.metrics).metrics.denials = _
    rw [metrics_intercept]
    cases verdict acl call with
    | ok caller => exact (denials_observe _ _ _ _ _).trans (entered call)
    | error why => exact entered call
  | hub op => rfl

theorem evictions_step (s : State) (op : GateOp) :
    (s.step acl op).metrics.evictions.get .none =
      s.metrics.evictions.get .none + UInt64.ofNat (cutOff s.hub (s.uses acl op)).length := by
  cases op with
  | enter call => exact evictions_enter acl call s.hub s.metrics
  | intercept call handler micros =>
    change (intercept acl call handler.run micros s.hub s.metrics).metrics.evictions.get _ = _
    rw [metrics_intercept, uses]
    cases verdict acl call with
    | ok caller =>
      simp only [evictions_observe, evictions_enter, cutOff_append, cutOff_other, List.append_nil]
    | error why => simp only [evictions_enter, List.append_nil]
  | hub op => simp [step, uses, cutOff]

theorem served_step (s : State) (op : GateOp) (l : Labels) :
    (s.step acl op).metrics.dispatchDuration.count l =
      s.metrics.dispatchDuration.count l +
        UInt64.ofNat (((s.serves acl op).map Metrics.methodLabels).count l) := by
  cases op with
  | enter call =>
    change (enter acl call s.hub s.metrics).metrics.dispatchDuration.count l = _
    simp [dispatchDuration_enter, serves]
  | intercept call handler micros =>
    change (intercept acl call handler.run micros s.hub
      s.metrics).metrics.dispatchDuration.count l = _
    rw [metrics_intercept, serves]
    have decided := decides_verdict acl call
    generalize verdict acl call = v at decided ⊢
    cases v with
    | ok caller =>
      have text : caller.method.text = call.method := by
        cases decided with
        | admitted wf text placed named judged => exact text
      simp only [count_observe, dispatchDuration_enter, text, Handler.run]
      split <;> rfl
    | error why => simp [dispatchDuration_enter]
  | hub op => simp [step, serves]

/-! ### What a history adds -/

theorem calls_after (s : State) (ops : List GateOp) :
    (s.after acl ops).metrics.calls =
      s.metrics.calls.incAll ((calls ops).map (callSeries acl)) := by
  induction ops generalizing s with
  | nil => rfl
  | cons op ops ih =>
    rw [after_cons, ih, calls_step, calls_cons, List.map_append, Counters.incAll_append]

theorem denials_after (s : State) (ops : List GateOp) :
    (s.after acl ops).metrics.denials =
      s.metrics.denials.incAll ((calls ops).filterMap (denialSeries? acl)) := by
  induction ops generalizing s with
  | nil => rfl
  | cons op ops ih =>
    rw [after_cons, ih, denials_step, calls_cons, List.filterMap_append, Counters.incAll_append]

theorem evictions_after (s : State) (ops : List GateOp) :
    (s.after acl ops).metrics.evictions.get .none =
      s.metrics.evictions.get .none + UInt64.ofNat (cutOff s.hub (s.history acl ops)).length := by
  induction ops generalizing s with
  | nil => exact (UInt64.add_zero _).symm
  | cons op ops ih =>
    rw [after_cons, ih, evictions_step, hub_step, history, cutOff_append, List.length_append,
      UInt64.ofNat_add, UInt64.add_assoc]

theorem served_after (s : State) (ops : List GateOp) (l : Labels) :
    (s.after acl ops).metrics.dispatchDuration.count l =
      s.metrics.dispatchDuration.count l +
        UInt64.ofNat (((s.served acl ops).map Metrics.methodLabels).count l) := by
  induction ops generalizing s with
  | nil => exact (UInt64.add_zero _).symm
  | cons op ops ih =>
    rw [after_cons, ih, served_step, served, List.map_append, List.count_append, UInt64.ofNat_add,
      UInt64.add_assoc]

end State

/-! ### Counts of calls -/

/-- Each call of a kind ends in one way. -/
theorem number_endings (acl : Acl) (kind : CallKind) (ops : List GateOp) :
    number ops (fun c ↦ c.kind = kind ∧ ending acl c = .allowed) +
        number ops (fun c ↦ c.kind = kind ∧ ending acl c = .denied) +
        number ops (fun c ↦ c.kind = kind ∧ ending acl c = .error) =
      number ops fun c ↦ c.kind = kind := by
  rw [← number_or, ← number_or]
  · refine number_congr fun c ↦ ?_
    cases ending acl c <;> simp
  · rintro c (⟨_, ended⟩ | ⟨_, ended⟩) ⟨_, error⟩ <;> rw [ended] at error <;> cases error
  · rintro c ⟨_, allowed⟩ ⟨_, denied⟩
    rw [allowed] at denied
    cases denied

/-- Each denied call is denied for one reason. -/
theorem number_denied (acl : Acl) (ops : List GateOp) :
    number ops (fun c ↦ ending acl c = .denied) =
      number ops (·.LacksPeer) + number ops (·.LacksConsumer) +
        number ops (·.RefusedFor acl .unknownConsumer) +
        number ops (·.RefusedFor acl .methodNotPermitted) := by
  rw [number_congr fun _ ↦ ending_eq_denied_iff, number_or, number_or, number_or, ← Nat.add_assoc,
    ← Nat.add_assoc]
  · rintro c ⟨_, _, consumer, named, judged⟩ ⟨_, _, consumer', named', judged'⟩
    rw [Option.mem_def] at named named'
    rw [named] at named'
    cases named'
    rw [judged] at judged'
    cases judged'
  · rintro c ⟨_, _, silent⟩ (⟨_, _, consumer, named, _⟩ | ⟨_, _, consumer, named, _⟩) <;>
      simp [silent] at named
  · rintro c ⟨_, lost⟩ (⟨_, placed, _⟩ | ⟨_, placed, _⟩ | ⟨_, placed, _⟩) <;> exact placed lost

/-- A call is recorded unless it lacks a method path or a peer. -/
theorem length_audits (ops : List GateOp) :
    ((calls ops).filterMap Call.event?).length +
        number ops (fun c ↦ ¬MethodPath.IsPath c.method) + number ops (·.LacksPeer) =
      (calls ops).length := by
  have recorded : ((calls ops).filterMap Call.event?).length =
      number ops fun c ↦ MethodPath.IsPath c.method ∧ c.peer ≠ none := by
    rw [List.length_filterMap_eq_countP]
    refine List.countP_congr fun c _ ↦ ?_
    rw [decide_eq_true_iff, Option.isSome_iff_exists]
    constructor
    · rintro ⟨e, he⟩
      obtain ⟨readable, peer, placed, _⟩ := event?_eq_some_iff.mp he
      exact ⟨readable, by simp [placed]⟩
    · rintro ⟨readable, placed⟩
      obtain ⟨peer, hp⟩ := Option.ne_none_iff_exists'.mp placed
      exact ⟨_, event?_eq_some_iff.mpr ⟨readable, peer, hp, rfl⟩⟩
  have all : (calls ops).length = number ops fun _ ↦ True := by
    simp [number]
  rw [recorded, all, ← number_or, ← number_or]
  · refine number_congr fun c ↦ ?_
    by_cases readable : MethodPath.IsPath c.method <;> by_cases lost : c.peer = none <;>
      simp [Call.LacksPeer, readable, lost]
  · rintro c (⟨_, placed⟩ | garbled) ⟨readable, lost⟩
    · exact placed lost
    · exact garbled readable
  · exact fun c recorded garbled ↦ garbled recorded.1

/-! ### Families after a history -/

section Families

variable {acl : Acl} {q : Nat} {ops : List GateOp} (few : (calls ops).length < 2 ^ 64)

private theorem toNat_add_count {n k : Nat} (le : n ≤ k) (few : k < 2 ^ 64) :
    ((0 : UInt64) + UInt64.ofNat n).toNat = n := by
  rw [UInt64.zero_add]
  exact UInt64.toNat_ofNat_of_lt' (Nat.lt_of_le_of_lt le few)

include few

theorem toNat_calls (kind : CallKind) (outcome : CallOutcome) :
    (((State.ofDepth q).after acl ops).metrics.calls.get
      (Metrics.callLabels kind outcome)).toNat =
      number ops fun c ↦ c.kind = kind ∧ ending acl c = outcome := by
  have counts : ((calls ops).map (callSeries acl)).count (Metrics.callLabels kind outcome) =
      number ops fun c ↦ c.kind = kind ∧ ending acl c = outcome := by
    rw [List.count_eq_countP, List.countP_map]
    refine List.countP_congr fun c _ ↦ ?_
    simp [callSeries, Metrics.callLabels_inj]
  rw [State.calls_after, Counters.get_incAll, counts]
  exact toNat_add_count number_le few

theorem toNat_denials (reason : String) :
    (((State.ofDepth q).after acl ops).metrics.denials.get (Metrics.denialLabels reason)).toNat =
      number ops fun c ↦ denialSeries? acl c = some (Metrics.denialLabels reason) := by
  have counts : ((calls ops).filterMap (denialSeries? acl)).count (Metrics.denialLabels reason) =
      number ops fun c ↦ denialSeries? acl c = some (Metrics.denialLabels reason) := by
    rw [List.count_filterMap]
    exact List.countP_congr fun c _ ↦ by simp
  rw [State.denials_after, Counters.get_incAll, counts]
  exact toNat_add_count number_le few

theorem total_denials :
    ((State.ofDepth q).after acl ops).metrics.denials.total =
      number ops fun c ↦ ending acl c = .denied := by
  have denied : ((calls ops).filterMap (denialSeries? acl)).length =
      number ops fun c ↦ ending acl c = .denied := by
    rw [List.length_filterMap_eq_countP]
    exact List.countP_congr fun c _ ↦ by simpa using isSome_denialSeries?
  rw [State.denials_after, Counters.total_incAll, denied]
  · exact Nat.zero_add _
  · rw [denied, show (State.ofDepth q).metrics.denials.total = 0 from rfl, Nat.zero_add]
    exact Nat.lt_of_le_of_lt number_le few

theorem toNat_served (method : String) :
    (((State.ofDepth q).after acl ops).metrics.dispatchDuration.count
      (Metrics.methodLabels method)).toNat =
      ((State.ofDepth q).served acl ops).count method := by
  have counts : (((State.ofDepth q).served acl ops).map Metrics.methodLabels).count
      (Metrics.methodLabels method) = ((State.ofDepth q).served acl ops).count method := by
    rw [List.count_eq_countP, List.countP_map, List.count_eq_countP]
    exact List.countP_congr fun c _ ↦ by simp [Metrics.methodLabels_inj]
  rw [State.served_after, counts]
  exact toNat_add_count (Nat.le_trans List.count_le_length (State.length_served_le _ ops)) few

end Families

/-- What the metrics of a gate say about the calls that passed it, from the start and with whatever
else happened to its hub. Of each kind, the calls that are counted as allowed, as denied and as
errors are all calls; the errors are those without a method path. All series of denials together are
the denied calls of both kinds, and there is one series for each of four reasons. The gate recorded
all calls but the errors and those without a peer. The evictions that are counted are those that the
records of the gate caused, each of another subscription. A method has as many durations as unary
calls of it were handled by a handler that serves it. -/
theorem metrics_account_for_calls (acl : Acl) (q : Nat) (ops : List GateOp) :
    let start := State.ofDepth q
    let uses := start.history acl ops
    let m := (start.after acl ops).metrics
    let counted := fun kind outcome ↦ (m.calls.get (Metrics.callLabels kind outcome)).toNat
    let denied := fun reason ↦ (m.denials.get (Metrics.denialLabels reason)).toNat
    (calls ops).length < 2 ^ 64 → (cutOff start.hub uses).length < 2 ^ 64 →
    (∀ kind,
      counted kind .allowed + counted kind .denied + counted kind .error =
          number ops (fun c ↦ c.kind = kind) ∧
        counted kind .error = number ops fun c ↦ c.kind = kind ∧ ¬MethodPath.IsPath c.method) ∧
    m.denials.total = counted .unary .denied + counted .stream .denied ∧
    m.denials.total = denied "missing_peer" + denied "missing_consumer" +
      denied "unknown_consumer" + denied "method_not_permitted" ∧
    denied "missing_peer" = number ops (·.LacksPeer) ∧
    denied "missing_consumer" = number ops (·.LacksConsumer) ∧
    denied "unknown_consumer" = number ops (·.RefusedFor acl .unknownConsumer) ∧
    denied "method_not_permitted" = number ops (·.RefusedFor acl .methodNotPermitted) ∧
    (start.after acl ops).hub = start.hub.after (uses.map Use.op) ∧
    (uses.filterMap Use.event?).length + (counted .unary .error + counted .stream .error) +
      denied "missing_peer" = (calls ops).length ∧
    (m.evictions.get .none).toNat = (cutOff start.hub uses).length ∧
    (cutOff start.hub uses).Nodup ∧
    ∀ method, (m.dispatchDuration.count (Metrics.methodLabels method)).toNat =
      (start.served acl ops).count method := by
  intro start uses m counted denied few few'
  have reasons : denied "missing_peer" = number ops (·.LacksPeer) ∧
      denied "missing_consumer" = number ops (·.LacksConsumer) ∧
      denied "unknown_consumer" = number ops (·.RefusedFor acl .unknownConsumer) ∧
      denied "method_not_permitted" = number ops (·.RefusedFor acl .methodNotPermitted) :=
    ⟨(toNat_denials few _).trans (number_congr fun c ↦ (denialSeries?_spec acl c).1),
      (toNat_denials few _).trans (number_congr fun c ↦ (denialSeries?_spec acl c).2.1),
      (toNat_denials few _).trans (number_congr fun c ↦ (denialSeries?_spec acl c).2.2.1),
      (toNat_denials few _).trans (number_congr fun c ↦ (denialSeries?_spec acl c).2.2.2)⟩
  have total : m.denials.total = number ops fun c ↦ ending acl c = .denied := total_denials few
  have errors (kind : CallKind) : counted kind .error =
      number ops fun c ↦ c.kind = kind ∧ ¬MethodPath.IsPath c.method :=
    (toNat_calls few kind .error).trans
      (number_congr fun c ↦ and_congr_right fun _ ↦ ending_eq_error_iff)
  refine ⟨fun kind ↦ ⟨?_, errors kind⟩, ?_, ?_, reasons.1, reasons.2.1, reasons.2.2.1,
    reasons.2.2.2,
    State.hub_after start ops, ?_, ?_, ?_, toNat_served few⟩
  · rw [← number_endings acl kind ops]
    simp only [counted, m, start, toNat_calls few]
  · rw [total, ← number_kinds]
    simp only [counted, m, start, toNat_calls few]
  · rw [total, number_denied, reasons.1, reasons.2.1, reasons.2.2.1, reasons.2.2.2]
  · rw [errors, errors, number_kinds, reasons.1, ← length_audits ops]
    simp only [uses, State.audits_history]
  · simp only [m, State.evictions_after]
    exact toNat_add_count (Nat.le_refl _) few'
  · have listed := (Hub.listed_ofDepth q).after (uses.map Use.op)
    exact (List.nil_append _ ▸ listed.nodup).sublist (cutOff_sublist_evicted start.hub uses)

/-- One consumer may call everything of one service. -/
def keeper : Acl := ⟨TextMap.empty.insert "c1" [.beginning "/Biz/"]⟩

/-- A call is served, one is denied, one has no peer and one no path. The second record finds the
mailbox of a subscriber full. -/
def traffic : List GateOp :=
  let peer : Address := .v4 ⟨127, 0, 0, 1⟩ 40000
  let naming (consumer : String) := Metadata.empty.append "consumer" consumer
  [.hub (.subscribe .logging),
    .intercept ⟨.unary, "/Biz/Add", naming "c1", some peer⟩
      ⟨fun _ _ ↦ [.flush 7], fun caller _ ↦ .ok caller.consumer, fun _ _ ↦ []⟩ 10,
    .enter ⟨.stream, "/Biz/Add", naming "c2", some peer⟩,
    .enter ⟨.unary, "/Biz/Add", naming "c1", none⟩,
    .enter ⟨.unary, "/Biz//Add", naming "c1", some peer⟩]

theorem metrics_account_for_calls_of_traffic :
    let start := State.ofDepth 1
    let m := (start.after keeper traffic).metrics
    (calls traffic).length < 2 ^ 64 ∧
      (cutOff start.hub (start.history keeper traffic)).length < 2 ^ 64 ∧
      (m.evictions.get .none).toNat = 1 ∧
      (m.denials.get (Metrics.denialLabels "missing_peer")).toNat = 1 ∧
      (m.calls.get (Metrics.callLabels .unary .error)).toNat = 1 ∧
      (m.dispatchDuration.count (Metrics.methodLabels "/Biz/Add")).toNat = 1 := by
  have few : (calls traffic).length < 2 ^ 64 := by decide
  have cut : (cutOff (State.ofDepth 1).hub ((State.ofDepth 1).history keeper traffic)).length = 1 :=
    rfl
  have account := metrics_account_for_calls keeper 1 traffic few (by rw [cut]; decide)
  obtain ⟨kinds, _, _, lost, _, _, _, _, _, evictions, _, durations⟩ := account
  refine ⟨few, by rw [cut]; decide, evictions.trans cut, lost.trans (by decide),
    (kinds .unary).2.trans (by decide), (durations _).trans (by decide)⟩

end Gate

end Gatehouse
