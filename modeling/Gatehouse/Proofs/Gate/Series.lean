import Gatehouse.Proofs.Dispatcher
import Gatehouse.Proofs.Gate.Counters

/-!
# Which series there are

A call brings texts of its caller's choice: a method, a consumer, whatever its metadata hold. None
of them becomes a label. The labels of calls, denials and evictions are words of the gateway, and a
duration is kept only of a call that its dispatcher found a service for, so its method is one of the
registered ones. The number of series therefore has a bound that no traffic moves.
-/

namespace Gatehouse

namespace Family

variable {α : Type}

/-- The labels of the series, in the order of their first use. -/
def labels (m : Family α) : List Labels := m.series.map (·.1)

private theorem map_adjustSeries (l : Labels) (f : Option α → α) (ss : List (Labels × α)) :
    (adjustSeries l f ss).map (·.1) =
      if l ∈ ss.map (·.1) then ss.map (·.1) else ss.map (·.1) ++ [l] := by
  induction ss with
  | nil => rfl
  | cons s rest ih =>
    rw [adjustSeries, List.map_cons]
    by_cases h : s.1 = l
    · simp [h]
    · rw [if_neg h, List.map_cons, ih]
      by_cases old : l ∈ rest.map (·.1)
      · rw [if_pos old, if_pos (List.mem_cons_of_mem _ old)]
      · have new : l ∉ s.1 :: rest.map (·.1) := by simpa [Ne.symm h] using old
        rw [if_neg old, if_neg new, List.cons_append]

/-- A change adds a series when there is none with its labels. -/
theorem labels_adjust (m : Family α) (l : Labels) (f : Option α → α) :
    (m.adjust l f).labels = if l ∈ m.labels then m.labels else m.labels ++ [l] :=
  map_adjustSeries l f m.series

/-- Each series has labels of its own, and they are among the given ones. -/
structure Within (m : Family α) (allowed : List Labels) : Prop where
  nodup : m.labels.Nodup
  subset : m.labels ⊆ allowed

variable {m : Family α} {allowed : List Labels} {l : Labels}

theorem within_empty (allowed : List Labels) : (empty : Family α).Within allowed :=
  ⟨.nil, List.nil_subset _⟩

theorem Within.adjust (w : m.Within allowed) (h : l ∈ allowed) (f : Option α → α) :
    (m.adjust l f).Within allowed := by
  by_cases old : l ∈ m.labels
  · have same : (m.adjust l f).labels = m.labels := by rw [labels_adjust, if_pos old]
    exact ⟨same ▸ w.nodup, same ▸ w.subset⟩
  · have more : (m.adjust l f).labels = m.labels ++ [l] := by rw [labels_adjust, if_neg old]
    constructor
    · rw [more]
      exact w.nodup.append (List.nodup_singleton l) (by simpa using old)
    · rw [more]
      exact List.append_subset.mpr ⟨w.subset, by simpa using h⟩

/-- There are no more series than labels for them. -/
theorem Within.length_le (w : m.Within allowed) : m.series.length ≤ allowed.length := by
  have le := (List.subperm_of_subset w.nodup w.subset).length_le
  rwa [labels, List.length_map] at le

end Family

theorem Labels.mem_pairs_ofList {pairs : List (String × String)} {p : String × String} :
    p ∈ (Labels.ofList pairs).pairs ↔ p ∈ pairs := List.mem_mergeSort

namespace Metrics

/-- The labels of calls: of each kind and each outcome. -/
def knownCalls : List Labels :=
  [CallKind.unary, .stream].flatMap fun kind ↦
    [CallOutcome.allowed, .denied, .error].map (callLabels kind)

/-- The reasons to deny a call. -/
def reasons : List String :=
  ["missing_peer", "missing_consumer", "unknown_consumer", "method_not_permitted"]

/-- The words of the gateway that calls can make label values. -/
def words : List String := ["unary", "stream", "allowed", "denied", "error"] ++ reasons

/-- The labels of all series. -/
def labels (m : Metrics) : List Labels :=
  m.calls.labels ++ m.denials.labels ++ m.adminStreams.labels ++ m.evictions.labels ++
    m.dispatchDuration.labels

/-- All that was counted is counted under words of the gateway and the given methods. -/
structure Closed (methods : List String) (m : Metrics) : Prop where
  calls : m.calls.Within knownCalls
  denials : m.denials.Within (reasons.map denialLabels)
  streams : m.adminStreams = .empty
  evictions : m.evictions.Within [.none]
  durations : m.dispatchDuration.Within (methods.map methodLabels)

theorem callLabels_mem (kind : CallKind) (outcome : CallOutcome) :
    callLabels kind outcome ∈ knownCalls := by
  cases kind <;> cases outcome <;> simp [knownCalls]

/-- A refusal that is a denial has one of the reasons; a malformed method is none. -/
theorem label_mem_reasons {why : Refusal} (h : why.outcome = .denied) : why.label ∈ reasons := by
  cases why with
  | malformedMethod raw cause => cases h
  | missingPeer => simp [Refusal.label, reasons]
  | missingConsumer => simp [Refusal.label, reasons]
  | denied why consumer method => cases why <;> simp [Refusal.label, Denial.label, reasons]

variable {methods : List String} {m : Metrics}

theorem closed_empty (methods : List String) : empty.Closed methods :=
  ⟨Family.within_empty _, Family.within_empty _, rfl, Family.within_empty _,
    Family.within_empty _⟩

theorem Closed.countAllowed (w : m.Closed methods) (kind : CallKind) :
    (m.countAllowed kind).Closed methods :=
  { w with calls := w.calls.adjust (callLabels_mem kind .allowed) _ }

theorem Closed.countRefused (w : m.Closed methods) (kind : CallKind) (why : Refusal) :
    (m.countRefused kind why).Closed methods := by
  have calls := w.calls.adjust (callLabels_mem kind why.outcome) fun n ↦ n.getD 0 + 1
  unfold Metrics.countRefused
  cases outcome : why.outcome with
  | denied =>
    have reason := List.mem_map_of_mem (f := denialLabels) (label_mem_reasons outcome)
    rw [outcome] at calls
    exact { w with calls, denials := w.denials.adjust reason _ }
  | _ =>
    rw [outcome] at calls
    exact { w with calls }

theorem Closed.countEvicted (w : m.Closed methods) (n : Nat) :
    (m.countEvicted n).Closed methods := by
  unfold Metrics.countEvicted
  split
  · exact w
  · exact { w with evictions := w.evictions.adjust List.mem_cons_self _ }

theorem Closed.observeDispatch (w : m.Closed methods) {method : String} (h : method ∈ methods)
    (micros : Nat) : (m.observeDispatch method micros).Closed methods :=
  { w with durations := w.durations.adjust (List.mem_map_of_mem h) _ }

/-- The values of labels are words of the gateway or the methods. -/
theorem Closed.value_mem (w : m.Closed methods) {l : Labels} (hl : l ∈ m.labels)
    {p : String × String} (hp : p ∈ l.pairs) : p.2 ∈ words ∨ p.2 ∈ methods := by
  simp only [labels, List.mem_append] at hl
  rcases hl with (((calls | denials) | streams) | evictions) | durations
  · obtain ⟨kind, -, h⟩ := List.mem_flatMap.mp (w.calls.subset calls)
    obtain ⟨outcome, -, rfl⟩ := List.mem_map.mp h
    left
    rcases List.mem_pair.mp (Labels.mem_pairs_ofList.mp hp) with rfl | rfl
    · cases kind <;> simp [CallKind.label, words]
    · cases outcome <;> simp [CallOutcome.label, words]
  · obtain ⟨reason, known, rfl⟩ := List.mem_map.mp (w.denials.subset denials)
    left
    rw [List.mem_singleton.mp (Labels.mem_pairs_ofList.mp hp)]
    exact List.mem_append_right _ known
  · rw [w.streams] at streams
    cases streams
  · rw [List.mem_singleton.mp (w.evictions.subset evictions)] at hp
    cases hp
  · obtain ⟨method, known, rfl⟩ := List.mem_map.mp (w.durations.subset durations)
    right
    rwa [List.mem_singleton.mp (Labels.mem_pairs_ofList.mp hp)]

end Metrics

/-- Handing a call with a body to the dispatcher, which does not touch the hub. -/
def Dispatcher.handler (d : Dispatcher) (body : ByteArray) : Handler ByteArray where
  uses _ _ := []
  reply caller _ := (d.dispatch caller body).result
  notes caller _ := (d.dispatch caller body).notes

/-- What callers and programs do at a gate: every unary call is dispatched, and a stream is asked
for from whatever opens it. -/
inductive Arrival : Type 1 where
  | unary (method : String) (metadata : Metadata) (peer : Option Address) (body : ByteArray)
    (micros : Nat)
  | stream {α : Type} (method : String) (metadata : Metadata) (peer : Option Address)
    (handler : Handler α) (micros : Nat)
  | admission (method : String) (metadata : Metadata) (peer : Option Address)
  | hub (op : HubOp)

/-- What happens at the gate of a gateway with the dispatcher. -/
def Arrival.op (d : Dispatcher) : Arrival → GateOp
  | .unary method metadata peer body micros =>
    .intercept ⟨.unary, method, metadata, peer⟩ (d.handler body) micros
  | .stream method metadata peer handler micros =>
    .intercept ⟨.stream, method, metadata, peer⟩ handler micros
  | .admission method metadata peer => .enter ⟨.stream, method, metadata, peer⟩
  | .hub op => .hub op

namespace Gate

open Metrics (Closed)

section

variable {methods : List String} {metrics : Metrics} (acl : Acl) (call : Call) (hub : Hub)

theorem closed_enter (w : metrics.Closed methods) :
    (enter acl call hub metrics).metrics.Closed methods := by
  rw [metrics_enter]
  have counted := w.countEvicted (cutOff hub (call.event?.toList.map .audit)).length
  cases verdict acl call with
  | ok caller => exact counted.countAllowed call.kind
  | error why => exact counted.countRefused call.kind why

/-- A handled call adds no series but one for its duration, which the handler has to vouch for. -/
theorem closed_intercept {α : Type} (w : metrics.Closed methods)
    (handler : Caller → Hub → Handled α) (micros : Nat)
    (vouched : ∀ caller hub, verdict acl call = .ok caller → call.kind = .unary →
      isUnknown (handler caller hub).result = false → caller.method.text ∈ methods) :
    (intercept acl call handler micros hub metrics).metrics.Closed methods := by
  have entered := closed_enter acl call hub w
  rw [metrics_intercept]
  cases admitted : verdict acl call with
  | error why => exact entered
  | ok caller =>
    simp only [observe]
    split
    · next h => exact entered.observeDispatch (vouched caller _ admitted h.1 h.2) micros
    · exact entered

end

/-- A dispatched call that is not unknown names a registered method, whatever its service
answers. -/
theorem mem_registeredMethods_of_dispatched {d : Dispatcher} {acl : Acl} {call : Call}
    {caller : Caller} (admitted : verdict acl call = .ok caller) {body : ByteArray}
    (h : isUnknown (d.dispatch caller body).result = false) :
    caller.method.text ∈ d.registeredMethods := by
  by_contra unregistered
  have wf := ((verdict_eq_ok_iff acl call).mp admitted).1
  rw [d.dispatch_of_unregistered wf unregistered] at h
  cases h

theorem closed_step {d : Dispatcher} (acl : Acl) {s : State}
    (w : s.metrics.Closed d.registeredMethods) (arrival : Arrival) :
    (s.step acl (arrival.op d)).metrics.Closed d.registeredMethods := by
  cases arrival with
  | unary method metadata peer body micros =>
    exact closed_intercept acl _ _ w _ micros fun _ _ admitted _ known ↦
      mem_registeredMethods_of_dispatched admitted known
  | stream method metadata peer handler micros =>
    exact closed_intercept acl _ _ w _ micros fun _ _ _ unary _ ↦ nomatch unary
  | admission method metadata peer => exact closed_enter acl _ _ w
  | hub op => exact w

theorem closed_after {d : Dispatcher} (acl : Acl) {s : State}
    (w : s.metrics.Closed d.registeredMethods) (arrivals : List Arrival) :
    (s.after acl (arrivals.map (Arrival.op d))).metrics.Closed d.registeredMethods := by
  induction arrivals generalizing s with
  | nil => exact w
  | cons arrival arrivals ih => exact ih (closed_step acl w arrival)

/-- No caller makes a series. Whatever calls arrive, and whatever services and streams make of them,
calls are counted by kind and outcome, denials under one of four reasons and never as malformed,
evictions in one series, and durations under registered methods. So every label value is a word of
the gateway or a registered method, and the number of series has a bound that only the registered
methods move. -/
theorem callers_make_no_series (d : Dispatcher) (acl : Acl) (depth : Nat)
    (arrivals : List Arrival) :
    let m := ((State.ofDepth depth).after acl (arrivals.map (Arrival.op d))).metrics
    (∀ l ∈ m.dispatchDuration.labels, ∃ method ∈ d.registeredMethods,
      l = Metrics.methodLabels method) ∧
    (∀ l ∈ m.calls.labels, ∃ kind outcome, l = Metrics.callLabels kind outcome) ∧
    (∀ l ∈ m.denials.labels, ∃ reason ∈ ["missing_peer", "missing_consumer", "unknown_consumer",
      "method_not_permitted"], l = Metrics.denialLabels reason) ∧
    Metrics.denialLabels "malformed_method" ∉ m.denials.labels ∧
    (∀ l ∈ m.evictions.labels, l = .none) ∧
    (∀ l ∈ m.labels, ∀ p ∈ l.pairs, p.2 ∈ Metrics.words ∨ p.2 ∈ d.registeredMethods) ∧
    m.calls.series.length ≤ 6 ∧ m.denials.series.length ≤ 4 ∧ m.evictions.series.length ≤ 1 ∧
    m.adminStreams.series.length = 0 ∧
    m.dispatchDuration.series.length ≤ d.registeredMethods.length := by
  intro m
  have w : m.Closed d.registeredMethods := closed_after acl (Metrics.closed_empty _) arrivals
  have denials : ∀ l ∈ m.denials.labels, ∃ reason ∈ Metrics.reasons,
      l = Metrics.denialLabels reason := by
    intro l hl
    obtain ⟨reason, known, rfl⟩ := List.mem_map.mp (w.denials.subset hl)
    exact ⟨reason, known, rfl⟩
  refine ⟨?_, ?_, denials, ?_, ?_, fun l hl p hp ↦ w.value_mem hl hp, w.calls.length_le,
    w.denials.length_le, w.evictions.length_le, by rw [w.streams]; rfl, ?_⟩
  · intro l hl
    obtain ⟨method, known, rfl⟩ := List.mem_map.mp (w.durations.subset hl)
    exact ⟨method, known, rfl⟩
  · intro l hl
    obtain ⟨kind, -, h⟩ := List.mem_flatMap.mp (w.calls.subset hl)
    obtain ⟨outcome, -, rfl⟩ := List.mem_map.mp h
    exact ⟨kind, outcome, rfl⟩
  · intro malformed
    obtain ⟨reason, known, same⟩ := denials _ malformed
    rw [← Metrics.denialLabels_inj.mp same] at known
    exact absurd known (by decide)
  · intro l hl
    exact List.mem_singleton.mp (w.evictions.subset hl)
  · have le := w.durations.length_le
    rwa [List.length_map] at le

/-- A consumer who may call everything calls a method that no service has. The call goes on to the
dispatcher, and there is still no series for it. -/
theorem callers_make_no_series_of_unknown_method :
    let acl : Acl := ⟨TextMap.empty.insert "c1" [.beginning ""]⟩
    let peer : Address := .v4 ⟨127, 0, 0, 1⟩ 40000
    let metadata := Metadata.empty.append "consumer" "c1"
    let arrivals : List Arrival := [.unary "/Biz/Add" metadata (some peer) .empty 10,
      .unary "/Biz/Nope" metadata (some peer) .empty 10]
    let m := ((State.ofDepth 1).after acl (arrivals.map (Arrival.op Gateway.builtIn))).metrics
    verdict acl ⟨.unary, "/Biz/Nope", metadata, some peer⟩ = .ok ⟨"c1", peer, ⟨"Biz", "Nope"⟩⟩ ∧
      Metrics.methodLabels "/Biz/Nope" ∉ m.dispatchDuration.labels ∧
      m.dispatchDuration.series.length ≤ 3 := by
  intro acl peer metadata arrivals m
  have read : MethodPath.WellFormed ⟨"Biz", "Nope"⟩ ∧ _ = "/Biz/Nope" :=
    MethodPath.read_eq_ok_iff.mp rfl
  have bounded := callers_make_no_series Gateway.builtIn acl 1 arrivals
  have registered : Gateway.builtIn.registeredMethods.length = 3 := List.length_mergeSort _
  refine ⟨(verdict_eq_ok_iff _ _).mpr ⟨read.1, rfl, rfl, by decide, by decide⟩, ?_, ?_⟩
  · intro made
    obtain ⟨method, known, same⟩ := bounded.1 _ made
    rw [← Metrics.methodLabels_inj.mp same] at known
    obtain ⟨s, routed⟩ := (Gateway.builtIn.mem_registeredMethods_iff read.1).mp known
    have unrouted : Gateway.builtIn.route? ⟨"Biz", "Nope"⟩ = none := rfl
    cases unrouted.symm.trans routed
  · rw [← registered]
    exact bounded.2.2.2.2.2.2.2.2.2.2

end Gate

end Gatehouse
