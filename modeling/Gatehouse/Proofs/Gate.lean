import Gatehouse.Gate
import Gatehouse.Proofs.MethodPath

/-!
# What the gate records and what it decides

A call without a readable method or without a peer leaves no trace in the hub. Every other call is
recorded once, and the record does not depend on the access list: the decision comes after it.
-/

namespace Gatehouse

/-- What a call is answered before any handler runs: a fault, or the caller who may go on. -/
def Admission.result (a : Admission) : Except Fault Caller := a.outcome.mapError Refusal.fault

namespace Admission

variable {a : Admission}

/-- The caller who may go on is the one the outcome names. -/
theorem result_eq_ok_iff {caller : Caller} : a.result = .ok caller ↔ a.outcome = .ok caller := by
  rw [result]
  cases a.outcome with
  | error why =>
    change Except.error why.fault = Except.ok caller ↔ _
    simp
  | ok c =>
    change Except.ok c = Except.ok caller ↔ _
    rw [Except.ok.injEq, Except.ok.injEq]

/-- A refusal is answered with its fault. -/
theorem result_eq_error_iff {fault : Fault} :
    a.result = .error fault ↔ ∃ why, a.outcome = .error why ∧ why.fault = fault := by
  rw [result]
  cases a.outcome with
  | error why =>
    change Except.error why.fault = Except.error fault ↔ _
    simp
  | ok c =>
    change Except.ok c = Except.error fault ↔ _
    simp

end Admission

namespace Identity

/-- Without a path there is no identity. -/
theorem extract_of_not_isPath {method : String} (metadata : Metadata) (peer : Option Address)
    (h : ¬MethodPath.IsPath method) :
    ∃ cause, extract method metadata peer = .error (.malformedMethod method cause) := by
  obtain ⟨cause, hc⟩ := MethodPath.read_of_not_isPath h
  exact ⟨cause, by rw [extract, hc]⟩

/-- A path without a peer gives no identity. -/
theorem extract_none {method : String} (metadata : Metadata) (h : MethodPath.IsPath method) :
    extract method metadata none = .error .missingPeer := by
  obtain ⟨p, hp⟩ := h
  rw [extract, MethodPath.read_eq_ok_iff.mpr hp]

/-- A path and a peer give an identity, whatever the metadata hold. -/
theorem extract_some {path : MethodPath} (metadata : Metadata) (peer : Address)
    (h : path.WellFormed) :
    extract path.text metadata (some peer) =
      .ok ⟨metadata.get? Metadata.consumerKey, peer, path⟩ := by
  rw [extract, MethodPath.read_eq_ok_iff.mpr ⟨h, rfl⟩]

end Identity

namespace Gate

/-- The record of a call from an address. A call that does not say who calls has the empty
consumer. -/
def audit (call : Call) (peer : Address) : Event :=
  ⟨(call.metadata.get? Metadata.consumerKey).getD "", call.method, peer.text⟩

/-- A caller is let on when he says who calls and the list allows that consumer the method. -/
theorem authorize_eq_ok_iff {acl : Acl} {identity : Identity} {caller : Caller} :
    authorize acl identity = .ok caller ↔
      ∃ consumer, identity.consumer = some consumer ∧
        acl.judge consumer identity.method.text = .allow ∧
        caller = ⟨consumer, identity.peer, identity.method⟩ := by
  rw [authorize, Identity.authenticate]
  cases identity.consumer with
  | none => simp
  | some consumer =>
    cases hj : acl.judge consumer identity.method.text with
    | allow => simp [hj, eq_comm]
    | deny why => simp [hj]

/-- A caller who does not say who calls is refused, whatever the list holds. -/
theorem authorize_anonymous (acl : Acl) {identity : Identity} (h : identity.consumer = none) :
    authorize acl identity = .error .missingConsumer := by
  rw [authorize, Identity.authenticate, h]

/-- A caller whom the list refuses is refused with the list's reason. -/
theorem authorize_of_deny {acl : Acl} {identity : Identity} {consumer : String} {why : Denial}
    (h : identity.consumer = some consumer)
    (hj : acl.judge consumer identity.method.text = .deny why) :
    authorize acl identity = .error (.denied why consumer identity.method.text) := by
  rw [authorize, Identity.authenticate, h]
  simp only [hj]

variable (acl : Acl) (call : Call) (hub : Hub) (metrics : Metrics)

/-- A call without a path is an internal fault and leaves the hub alone. -/
theorem enter_of_not_isPath (h : ¬MethodPath.IsPath call.method) :
    (∃ cause, (enter acl call hub metrics).outcome =
      .error (.malformedMethod call.method cause)) ∧ (enter acl call hub metrics).hub = hub := by
  obtain ⟨cause, hc⟩ := Identity.extract_of_not_isPath call.metadata call.peer h
  rw [enter, hc]
  exact ⟨⟨cause, rfl⟩, rfl⟩

/-- A call with a path and no peer is refused and leaves the hub alone. -/
theorem enter_of_no_peer (h : MethodPath.IsPath call.method) (hp : call.peer = none) :
    (enter acl call hub metrics).outcome = .error .missingPeer ∧
      (enter acl call hub metrics).hub = hub := by
  rw [enter, hp, Identity.extract_none call.metadata h]
  exact ⟨rfl, rfl⟩

/-- A call with a path and a peer is recorded, and then it is decided about. -/
theorem enter_of_peer {path : MethodPath} {peer : Address} (h : path.WellFormed)
    (ht : path.text = call.method) (hp : call.peer = some peer) :
    (enter acl call hub metrics).outcome =
        authorize acl ⟨call.metadata.get? Metadata.consumerKey, peer, path⟩ ∧
      (enter acl call hub metrics).hub = (hub.record (audit call peer)).1 := by
  have he : (⟨call.metadata.get? Metadata.consumerKey, peer, path⟩ : Identity).event =
      audit call peer := by
    rw [Identity.event, audit, ht]
  rw [enter, hp, ← ht, Identity.extract_some call.metadata peer h]
  simp only [he]
  split
  · next hr => exact ⟨hr.symm, rfl⟩
  · next hr => exact ⟨hr.symm, rfl⟩

/-- What the gate does to the hub does not depend on the access list or the metrics. -/
theorem hub_enter_congr (acl' : Acl) (metrics' : Metrics) :
    (enter acl' call hub metrics').hub = (enter acl call hub metrics).hub := by
  by_cases h : MethodPath.IsPath call.method
  · cases hp : call.peer with
    | none =>
      rw [(enter_of_no_peer acl' call hub metrics' h hp).2,
        (enter_of_no_peer acl call hub metrics h hp).2]
    | some peer =>
      obtain ⟨path, hw, ht⟩ := h
      rw [(enter_of_peer acl' call hub metrics' hw ht hp).2,
        (enter_of_peer acl call hub metrics hw ht hp).2]
  · rw [(enter_of_not_isPath acl' call hub metrics' h).2,
      (enter_of_not_isPath acl call hub metrics h).2]

/-- Only admitted calls reach the handler, whose result is passed on with the hub it leaves. -/
theorem intercept_of_ok {α : Type} {caller : Caller} (handler : Caller → Hub → Handled α)
    (micros : Nat) (h : (enter acl call hub metrics).result = .ok caller) :
    let ending := intercept acl call handler micros hub metrics
    let handled := handler caller (enter acl call hub metrics).hub
    ending.ran = true ∧ ending.result = handled.result ∧ ending.hub = handled.hub := by
  have ho := Admission.result_eq_ok_iff.mp h
  simp only [intercept, ho, and_self]

/-- A refused call is answered with its refusal and does not reach the handler. -/
theorem intercept_of_error {α : Type} {fault : Fault} (handler : Caller → Hub → Handled α)
    (micros : Nat) (h : (enter acl call hub metrics).result = .error fault) :
    let ending := intercept acl call handler micros hub metrics
    ending.ran = false ∧ ending.result = .error fault ∧
      ending.hub = (enter acl call hub metrics).hub := by
  obtain ⟨why, ho, rfl⟩ := Admission.result_eq_error_iff.mp h
  simp only [intercept, ho, and_self]

/-- The whole rule of the gate. A call without a path is an internal fault, one without a peer is
not authenticated, and neither touches the hub. Any other call is recorded once under its own
word about its consumer, and the hub that this leaves does not depend on the decision. Such a call
goes on exactly when it names a consumer, be it the empty one, whom the list allows the method;
otherwise the refusal tells a missing consumer from each reason of the list. A handler runs for
admitted calls only, on the hub that the record left. -/
theorem enter_records_then_decides {α : Type} (handler : Caller → Hub → Handled α)
    (micros : Nat) :
    let entry := enter acl call hub metrics
    let ending := intercept acl call handler micros hub metrics
    let consumer? := call.metadata.get? Metadata.consumerKey
    (¬MethodPath.IsPath call.method →
      (∃ text, entry.result = .error (.internal text)) ∧ entry.hub = hub) ∧
    (MethodPath.IsPath call.method → call.peer = none →
      entry.result = .error (.unauthenticated "missing peer info") ∧ entry.hub = hub) ∧
    (∀ path peer, path.WellFormed → path.text = call.method → call.peer = some peer →
      entry.hub = (hub.record ⟨consumer?.getD "", call.method, peer.text⟩).1 ∧
      (∀ caller, entry.result = .ok caller ↔
        ∃ consumer, consumer? = some consumer ∧ acl.judge consumer call.method = .allow ∧
          caller = ⟨consumer, peer, path⟩) ∧
      (consumer? = none →
        entry.result = .error (.unauthenticated "no consumer in metadata")) ∧
      (∀ consumer why, consumer? = some consumer → acl.judge consumer call.method = .deny why →
        entry.result = .error (.notAllowed (why.text ++ " (consumer=" ++ consumer ++
          ", method=" ++ call.method ++ ")")))) ∧
    (∀ acl' metrics', (enter acl' call hub metrics').hub = entry.hub) ∧
    (∀ caller, entry.result = .ok caller →
      ending.ran = true ∧ ending.result = (handler caller entry.hub).result ∧
        ending.hub = (handler caller entry.hub).hub) ∧
    (∀ fault, entry.result = .error fault →
      ending.ran = false ∧ ending.result = .error fault ∧ ending.hub = entry.hub) := by
  intro entry ending consumer?
  refine ⟨?_, ?_, ?_, hub_enter_congr acl call hub metrics,
    fun _ h ↦ intercept_of_ok acl call hub metrics handler micros h,
    fun _ h ↦ intercept_of_error acl call hub metrics handler micros h⟩
  · intro h
    obtain ⟨⟨cause, hc⟩, hh⟩ := enter_of_not_isPath acl call hub metrics h
    exact ⟨⟨_, Admission.result_eq_error_iff.mpr ⟨_, hc, rfl⟩⟩, hh⟩
  · intro h hp
    obtain ⟨ho, hh⟩ := enter_of_no_peer acl call hub metrics h hp
    exact ⟨Admission.result_eq_error_iff.mpr ⟨_, ho, rfl⟩, hh⟩
  · intro path peer hw ht hp
    obtain ⟨ho, hh⟩ := enter_of_peer acl call hub metrics hw ht hp
    refine ⟨hh, ?_, ?_, ?_⟩
    · intro caller
      rw [Admission.result_eq_ok_iff, ho, authorize_eq_ok_iff, ht]
    · intro hc
      exact Admission.result_eq_error_iff.mpr ⟨_, ho.trans (authorize_anonymous acl hc), rfl⟩
    · intro consumer why hc hj
      rw [← ht] at hj ⊢
      exact Admission.result_eq_error_iff.mpr ⟨_, ho.trans (authorize_of_deny hc hj), rfl⟩

/-- An explicit empty consumer may go on where the list has an entry for it, and its handler runs. A
call without a consumer may not, and leaves the same record. Neither a call without a peer nor one
without a path leaves any. -/
theorem enter_records_then_decides_empty_consumer :
    let acl : Acl := ⟨TextMap.empty.insert "" [.beginning "/Biz/"]⟩
    let peer : Address := .v4 ⟨127, 0, 0, 1⟩ 40000
    let named : Call := ⟨.unary, "/Biz/Add", Metadata.empty.append "Consumer" "", some peer⟩
    let silent : Call := ⟨.unary, "/Biz/Add", Metadata.empty, some peer⟩
    let lost : Call := ⟨.unary, "/Biz/Add", Metadata.empty.append "Consumer" "", none⟩
    let garbled : Call := ⟨.unary, "/Biz//Add", Metadata.empty, some peer⟩
    let hub := Hub.ofDepth 1
    let handler : Caller → Hub → Handled String := fun c h ↦ ⟨.ok c.consumer, h, []⟩
    (enter acl named hub .empty).result = .ok ⟨"", peer, ⟨"Biz", "Add"⟩⟩ ∧
      (intercept acl named handler 0 hub .empty).ran = true ∧
      (enter acl silent hub .empty).result =
        .error (.unauthenticated "no consumer in metadata") ∧
      (intercept acl silent handler 0 hub .empty).ran = false ∧
      (enter acl named hub .empty).hub = (hub.record ⟨"", "/Biz/Add", peer.text⟩).1 ∧
      (enter acl silent hub .empty).hub = (hub.record ⟨"", "/Biz/Add", peer.text⟩).1 ∧
      (enter acl lost hub .empty).hub = hub ∧ (enter acl garbled hub .empty).hub = hub := by
  intro acl peer named silent lost garbled hub handler
  have hread : MethodPath.read "/Biz/Add" = .ok ⟨"Biz", "Add"⟩ := rfl
  have hw := MethodPath.read_eq_ok_iff.mp hread
  have hno : ¬MethodPath.IsPath "/Biz//Add" := by
    rintro ⟨p, hp⟩
    cases MethodPath.read_eq_ok_iff.mpr hp
  have hnamed := enter_records_then_decides acl named hub .empty handler 0
  have hsilent := enter_records_then_decides acl silent hub .empty handler 0
  have hlost := enter_records_then_decides acl lost hub .empty handler 0
  have hgarbled := enter_records_then_decides acl garbled hub .empty handler 0
  obtain ⟨hrecord, hok, _⟩ := hnamed.2.2.1 ⟨"Biz", "Add"⟩ peer hw.1 rfl rfl
  obtain ⟨hrecord', _, hmissing, _⟩ := hsilent.2.2.1 ⟨"Biz", "Add"⟩ peer hw.1 rfl rfl
  have hadmitted := (hok _).mpr ⟨"", by decide, by decide, rfl⟩
  have hrefused := hmissing rfl
  exact ⟨hadmitted, (hnamed.2.2.2.2.1 _ hadmitted).1, hrefused,
    (hsilent.2.2.2.2.2 _ hrefused).1, hrecord, hrecord', (hlost.2.1 ⟨_, hw⟩ rfl).2,
    (hgarbled.1 hno).2⟩

end Gate

end Gatehouse
